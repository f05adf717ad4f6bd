import Dispatch.Proofs.Mps.Reading

namespace Dispatch

open Mps

variable {K : Type}

/-! A text that was written is read back record by record, section by section. -/

namespace Mps

variable {read? : String → Option K}

/-- The letters of an indented line with the given fields. -/
def record (indent : Nat) (fields : List String) : List Char :=
  List.replicate (indent + 1) ' ' ++ joined fields

theorem readLine_record {fields : List String} (nonempty : fields ≠ [])
    (solid : ∀ field ∈ fields, IsWord field) (indent : Nat) {place : Section}
    (unfinished : place ≠ .finished) (deck : Deck K) :
    readLine read? (place, deck) (record indent fields) =
      (readRecord read? place fields deck).map fun deck => (place, deck) := by
  have found : words (record indent fields) = fields := words_indented solid _
  rw [readLine, if_neg unfinished, found, if_neg nonempty]
  rfl

theorem readLine_header {header : String} (isWord : IsWord header) {next : Section}
    (named : sectionOf? [header] = some next) {place : Section}
    (unfinished : place ≠ .finished) (deck : Deck K) :
    readLine read? (place, deck) header.toList = some (next, deck) := by
  obtain ⟨letter, rest, letters⟩ := List.exists_cons_of_ne_nil isWord.nonempty
  have solid : letter.isWhitespace = false := isWord.solid letter (by simp [letters])
  rw [readLine, if_neg unfinished, isWord.words_eq, if_neg nofun, letters]
  simp [solid, named]

theorem readLine_name (name : String) (deck : Deck K) :
    readLine read? (.preamble, deck) ("NAME " ++ name).toList = some (.preamble, deck) := by
  have letters : ("NAME " ++ name).toList = "NAME".toList ++ ' ' :: name.toList := by
    simp
  have found : words ("NAME " ++ name).toList = "NAME" :: words name.toList := by
    rw [letters]
    exact IsWord.words_append (by decide) rfl _
  rw [readLine, if_neg nofun, found, if_neg nofun, letters]
  simp [sectionOf?]

theorem foldlM_cons_of_eq {α β : Type} {step : β → α → Option β} {state next : β} {item : α}
    {items : List α} (first : step state item = some next) :
    (item :: items).foldlM step state = items.foldlM step next := by
  rw [List.foldlM_cons, first]
  rfl

theorem foldlM_append_of_eq {α β : Type} {step : β → α → Option β} {state next : β}
    {items others : List α} (first : items.foldlM step state = some next) :
    (items ++ others).foldlM step state = others.foldlM step next := by
  rw [List.foldlM_append, first]
  rfl

theorem readRecord_nil (place : Section) (deck : Deck K) :
    readRecord read? place [] deck = none := by
  cases place <;> rfl

/-- The records of one section add up in the part of the deck that the section is about. -/
theorem readLines_records {α β : Type} {place : Section} (unfinished : place ≠ .finished)
    (put : List β → Deck K) (indent : Nat) (fields : α → List String) (made : α → Option β)
    {items : List α} (solid : ∀ item ∈ items, ∀ field ∈ fields item, IsWord field)
    (reads : ∀ item ∈ items, ∀ earlier, readRecord read? place (fields item) (put earlier) =
      some (put (earlier ++ (made item).toList))) (earlier : List β) :
    (items.map fun item => record indent (fields item)).foldlM (readLine read?)
        (place, put earlier) =
      some (place, put (earlier ++ items.filterMap made)) := by
  induction items generalizing earlier with
  | nil => simp
  | cons item rest induction =>
      have record := reads item List.mem_cons_self earlier
      have nonempty : fields item ≠ [] := by
        intro absent
        rw [absent, readRecord_nil] at record
        cases record
      have first : readLine read? (place, put earlier) (Mps.record indent (fields item)) =
          some (place, put (earlier ++ (made item).toList)) := by
        rw [readLine_record nonempty (solid item List.mem_cons_self) indent unfinished, record]
        rfl
      have others := induction (fun other member => solid other (.tail _ member))
        (fun other member => reads other (.tail _ member)) (earlier ++ (made item).toList)
      rw [List.map_cons, List.foldlM_cons, first]
      refine others.trans ?_
      rw [List.append_assoc, List.filterMap_cons]
      cases made item <;> rfl

theorem readLines_kept {α β : Type} {place : Section} (unfinished : place ≠ .finished)
    (put : List β → Deck K) (indent : Nat) (fields : α → List String) (made : α → β)
    {items : List α} (solid : ∀ item ∈ items, ∀ field ∈ fields item, IsWord field)
    (reads : ∀ item ∈ items, ∀ earlier, readRecord read? place (fields item) (put earlier) =
      some (put (earlier ++ [made item]))) (earlier : List β) :
    (items.map fun item => record indent (fields item)).foldlM (readLine read?)
        (place, put earlier) =
      some (place, put (earlier ++ items.map made)) := by
  have read := readLines_records unfinished put indent fields (some ∘ made) solid reads earlier
  rwa [List.filterMap_eq_map] at read

theorem toList_factorLine (numeral : K → String) (column row : String) (value : K) :
    (MpsDocument.factorLine numeral column row value).toList =
      record 3 [column, row, numeral value] := by
  simp [MpsDocument.factorLine, record, joined, List.intercalate, List.replicate]

theorem toList_boundLine (numeral : K → String) (column : String)
    (bound : BoundKind × Option K) :
    (MpsDocument.boundLine numeral column bound).toList =
      record 0 (bound.1.code :: "BND" :: column :: (bound.2.map numeral).toList) := by
  obtain ⟨kind, _ | value⟩ := bound <;>
    simp [MpsDocument.boundLine, record, joined, List.intercalate, List.replicate]

theorem isWord_objectiveRow : IsWord objectiveRow := by
  decide

theorem isWord_boundCode (kind : BoundKind) : IsWord kind.code := by
  cases kind <;> decide

theorem isWord_senseCode (sense : MpsSense) : IsWord (MpsSense.code sense) := by
  cases sense <;> decide

variable [Scalar K]

/-- A kind of bound comes with a value where it takes one. -/
theorem exists_boundOf? {column : MpsColumn K} {bound : BoundKind × Option K}
    (member : bound ∈ columnBounds column) :
    ∃ read, boundOf? bound.1.code bound.2 = some read := by
  unfold columnBounds at member
  dsimp only at member
  split at member
  · rw [List.mem_singleton.mp member]
    exact ⟨.binary, rfl⟩
  · split at member
    · rw [List.mem_singleton.mp member]
      exact ⟨.fixed _, rfl⟩
    · split at member
      · rw [List.mem_singleton.mp member]
        exact ⟨.free, rfl⟩
      · rcases List.mem_cons.mp member with rfl | member
        · exact ⟨.minusInfinity, rfl⟩
        · rw [List.mem_singleton.mp member]
          exact ⟨.upper _, rfl⟩
      · rcases List.mem_append.mp member with member | member
        · split at member
          · rw [List.mem_singleton.mp member]
            exact ⟨.lower _, rfl⟩
          · cases member
        · split at member
          · rw [List.mem_singleton.mp member]
            exact ⟨.upper _, rfl⟩
          · cases member

end Mps

namespace MpsDocument

variable [Scalar K] (document : MpsDocument K)

/-- The entries of one column. -/
def columnEntries (rowNames : Array String) (column : MpsColumn K) : List (String × K) :=
  column.objective.toList.map (fun value => (objectiveRow, value)) ++
    column.factors.filterMap fun factor =>
      (rowNames[factor.1]?).map fun row => (row, factor.2)

def deckBounds (column : MpsColumn K) : List (Bound K) :=
  (columnBounds column).filterMap fun bound => boundOf? bound.1.code bound.2

/-- What the text says. -/
def deck : Deck K where
  sense := document.sense
  rows := (objectiveRow, none) :: document.rows.map fun row => (row.name, some row.sense)
  entries := (document.columns.mapIdx fun place column =>
    (columnEntries (document.rows.map MpsRow.name).toArray column).map fun entry =>
      (columnName place, entry)).flatten
  rhs :=
    (if document.objectiveConstant != 0 then
      [(objectiveRow, -document.objectiveConstant)]
    else []) ++
      document.rows.filterMap fun row =>
        if row.rhs != 0 then some (row.name, row.rhs) else none
  ranges := document.rows.filterMap fun row =>
    row.range.map fun range => (row.name, range)
  bounds := (document.columns.mapIdx fun place column =>
    (deckBounds column).map fun bound => (columnName place, bound)).flatten

def rowCode : Option MpsSense → String
  | none => "N"
  | some sense => MpsSense.code sense

/-- Every bound that is written, with its column. -/
def writtenBounds : List (String × BoundKind × Option K) :=
  (document.columns.mapIdx fun place column =>
    (columnBounds column).map fun bound => (columnName place, bound)).flatten

theorem bounds_deck : document.deck.bounds = document.writtenBounds.filterMap fun item =>
    (boundOf? item.2.1.code item.2.2).map fun bound => (item.1, bound) := by
  simp only [deck, deckBounds, writtenBounds, List.mapIdx_eq_zipIdx_map,
    List.filterMap_flatten, List.map_map, Function.comp_def, List.filterMap_map,
    List.map_filterMap]

theorem toList_rowLines :
    ((" N " ++ objectiveRow) :: document.rowLines).map String.toList =
      document.deck.rows.map fun row => record 0 [rowCode row.2, row.1] := by
  simp [rowLines, deck, rowCode, record, joined, List.intercalate, Function.comp_def]

theorem toList_columnLines (numeral : K → String) :
    ((document.columns.mapIdx (columnLines numeral
        (document.rows.map MpsRow.name).toArray)).flatten).map String.toList =
      document.deck.entries.map fun entry =>
        record 3 [entry.1, entry.2.1, numeral entry.2.2] := by
  simp only [deck, List.mapIdx_eq_zipIdx_map, List.map_flatten, List.map_map,
    Function.comp_def, columnLines, columnEntries, List.map_append, List.map_filterMap,
    Option.map_map, toList_factorLine]

theorem toList_rhsLines (numeral : K → String) :
    (document.rhsLines numeral).map String.toList =
      document.deck.rhs.map fun pair => record 3 ["RHS", pair.1, numeral pair.2] := by
  have line (name numeral : String) : ("    RHS " ++ name ++ " " ++ numeral).toList =
      record 3 ["RHS", name, numeral] := by
    simp [record, joined, List.intercalate, List.replicate]
  simp only [rhsLines, deck, List.map_append, List.map_filterMap, apply_ite, List.map_cons,
    List.map_nil, Option.map_some, Option.map_none, line]

theorem toList_rangeLines (numeral : K → String) :
    (document.rangeLines numeral).map String.toList =
      document.deck.ranges.map fun pair => record 3 ["RNG", pair.1, numeral pair.2] := by
  have line (name numeral : String) : ("    RNG " ++ name ++ " " ++ numeral).toList =
      record 3 ["RNG", name, numeral] := by
    simp [record, joined, List.intercalate, List.replicate]
  simp only [rangeLines, deck, List.map_filterMap, Option.map_map, Function.comp_def, line]

theorem toList_boundLines (numeral : K → String) :
    ((document.columns.mapIdx fun place column =>
        (columnBounds column).map (boundLine numeral (columnName place))).flatten).map
        String.toList =
      document.writtenBounds.map fun item => record 0
        (item.2.1.code :: "BND" :: item.1 :: (item.2.2.map numeral).toList) := by
  simp only [writtenBounds, List.mapIdx_eq_zipIdx_map, List.map_flatten, List.map_map,
    Function.comp_def, toList_boundLine]

def Worded : Prop := ∀ row ∈ document.rows, IsWord row.name

variable {document}

theorem Worded.isWord_of_mem_rows (worded : document.Worded) {row : String × Option MpsSense}
    (member : row ∈ document.deck.rows) : IsWord row.1 := by
  cases List.mem_cons.mp member with
  | inl objective =>
      rw [objective]
      exact isWord_objectiveRow
  | inr listed =>
      obtain ⟨kept, inside, rfl⟩ := List.mem_map.mp listed
      exact worded kept inside

theorem Worded.isWord_of_mem_entries (worded : document.Worded)
    {entry : String × String × K} (member : entry ∈ document.deck.entries) :
    IsWord entry.1 ∧ IsWord entry.2.1 := by
  obtain ⟨entries, listed, member⟩ := List.mem_flatten.mp member
  obtain ⟨place, _, rfl⟩ := List.mem_mapIdx.mp listed
  obtain ⟨written, inside, rfl⟩ := List.mem_map.mp member
  refine List.mem_append.mp inside |>.elim (fun objective => ?_) fun factor => ?_
  · obtain ⟨value, -, rfl⟩ := List.mem_map.mp objective
    exact ⟨isWord_columnName place, isWord_objectiveRow⟩
  · obtain ⟨factor, -, found⟩ := List.mem_filterMap.mp factor
    obtain ⟨name, row, rfl⟩ := Option.map_eq_some_iff.mp found
    rw [List.getElem?_toArray] at row
    obtain ⟨kept, listed, rfl⟩ := List.mem_map.mp (List.mem_of_getElem? row)
    exact ⟨isWord_columnName place, worded kept listed⟩

theorem Worded.isWord_of_mem_rhs (worded : document.Worded) {pair : String × K}
    (member : pair ∈ document.deck.rhs) : IsWord pair.1 := by
  refine List.mem_append.mp member |>.elim (fun objective => ?_) fun kept => ?_
  · split at objective
    · rw [List.mem_singleton.mp objective]
      exact isWord_objectiveRow
    · cases objective
  · obtain ⟨row, inside, found⟩ := List.mem_filterMap.mp kept
    split at found
    · cases found
      exact worded row inside
    · cases found

theorem Worded.isWord_of_mem_ranges (worded : document.Worded) {pair : String × K}
    (member : pair ∈ document.deck.ranges) : IsWord pair.1 := by
  obtain ⟨row, inside, found⟩ := List.mem_filterMap.mp member
  obtain ⟨range, -, rfl⟩ := Option.map_eq_some_iff.mp found
  exact worded row inside

theorem isWord_of_mem_writtenBounds {item : String × BoundKind × Option K}
    (member : item ∈ document.writtenBounds) :
    IsWord item.1 ∧ ∃ bound, boundOf? item.2.1.code item.2.2 = some bound := by
  obtain ⟨bounds, listed, member⟩ := List.mem_flatten.mp member
  obtain ⟨place, _, rfl⟩ := List.mem_mapIdx.mp listed
  obtain ⟨bound, inside, rfl⟩ := List.mem_map.mp member
  exact ⟨isWord_columnName place, exists_boundOf? inside⟩

/-! Numbers are written as numerals of what they stand for, and read as that. -/

variable {L : Type} {numerals : Numerals L} {meaning : K → L}

omit [Scalar K] in
theorem isWord_through (value : K) : IsWord (numerals.through meaning value) :=
  numerals.isWord _

omit [Scalar K] in
theorem read_through (value : K) :
    numerals.read? (numerals.through meaning value) = some (meaning value) :=
  numerals.read_write _

theorem Worded.solid_rows (worded : document.Worded) :
    ∀ row ∈ document.deck.rows, ∀ field ∈ [rowCode row.2, row.1], IsWord field := by
  intro row member
  have code : IsWord (rowCode row.2) := by
    cases row.2 with
    | none => decide
    | some sense => exact isWord_senseCode sense
  simpa using ⟨code, worded.isWord_of_mem_rows member⟩

theorem Worded.solid_columns (worded : document.Worded) :
    ∀ entry ∈ document.deck.entries,
      ∀ field ∈ [entry.1, entry.2.1, numerals.through meaning entry.2.2], IsWord field := by
  intro entry member
  have names := worded.isWord_of_mem_entries member
  simpa using ⟨names.1, names.2, isWord_through _⟩

theorem Worded.solid_rhs (worded : document.Worded) :
    ∀ pair ∈ document.deck.rhs,
      ∀ field ∈ ["RHS", pair.1, numerals.through meaning pair.2], IsWord field := by
  intro pair member
  have set : IsWord "RHS" := by decide
  simpa using ⟨set, worded.isWord_of_mem_rhs member, isWord_through _⟩

theorem Worded.solid_ranges (worded : document.Worded) :
    ∀ pair ∈ document.deck.ranges,
      ∀ field ∈ ["RNG", pair.1, numerals.through meaning pair.2], IsWord field := by
  intro pair member
  have set : IsWord "RNG" := by decide
  simpa using ⟨set, worded.isWord_of_mem_ranges member, isWord_through _⟩

theorem solid_bounds :
    ∀ item ∈ document.writtenBounds, ∀ field ∈
      item.2.1.code :: "BND" :: item.1 :: (item.2.2.map (numerals.through meaning)).toList,
      IsWord field := by
  intro item member
  have set : IsWord "BND" := by decide
  simpa using ⟨isWord_boundCode _, set, (isWord_of_mem_writtenBounds member).1,
    fun value _ => isWord_through value⟩

variable (deck : Deck L)

theorem Worded.read_rows (worded : document.Worded) :
    (((" N " ++ objectiveRow) :: document.rowLines).map String.toList).foldlM
        (readLine numerals.read?) (.rows, deck) =
      some (.rows, { deck with rows := deck.rows ++ document.deck.rows }) := by
  have reads : ∀ row ∈ document.deck.rows, ∀ earlier,
      readRecord numerals.read? .rows [rowCode row.2, row.1] { deck with rows := earlier } =
        some { deck with rows := earlier ++ [row] } := by
    rintro ⟨name, _ | sense⟩ _ earlier
    · rfl
    · cases sense <;> rfl
  have read := readLines_kept (by decide) (fun rows => { deck with rows }) 0
    (fun row => [rowCode row.2, row.1]) id worded.solid_rows reads deck.rows
  rw [toList_rowLines]
  rwa [List.map_id] at read

theorem Worded.read_columns (worded : document.Worded) :
    (((document.columns.mapIdx (columnLines (numerals.through meaning)
        (document.rows.map MpsRow.name).toArray)).flatten).map String.toList).foldlM
        (readLine numerals.read?) (.columns, deck) =
      some (.columns, { deck with
        entries := deck.entries ++ (document.deck.map meaning).entries }) := by
  have reads : ∀ entry ∈ document.deck.entries, ∀ earlier,
      readRecord numerals.read? .columns [entry.1, entry.2.1, numerals.through meaning entry.2.2]
          { deck with entries := earlier } =
        some { deck with entries := earlier ++ [(entry.1, entry.2.1, meaning entry.2.2)] } := by
    intro entry _ earlier
    simp [readRecord, readPairs, read_through]
  have read := readLines_kept (by decide) (fun entries => { deck with entries }) 3
    (fun entry : String × String × K => [entry.1, entry.2.1, numerals.through meaning entry.2.2])
    _ worded.solid_columns reads deck.entries
  rw [toList_columnLines]
  exact read

theorem Worded.read_rhs (worded : document.Worded) :
    ((document.rhsLines (numerals.through meaning)).map String.toList).foldlM
        (readLine numerals.read?) (.rhs, deck) =
      some (.rhs, { deck with rhs := deck.rhs ++ (document.deck.map meaning).rhs }) := by
  have reads : ∀ pair ∈ document.deck.rhs, ∀ earlier,
      readRecord numerals.read? .rhs ["RHS", pair.1, numerals.through meaning pair.2]
          { deck with rhs := earlier } =
        some { deck with rhs := earlier ++ [(pair.1, meaning pair.2)] } := by
    intro pair _ earlier
    simp [readRecord, readPairs, read_through]
  have read := readLines_kept (by decide) (fun rhs => { deck with rhs }) 3
    (fun pair : String × K => ["RHS", pair.1, numerals.through meaning pair.2]) _
    worded.solid_rhs reads deck.rhs
  rw [toList_rhsLines]
  exact read

theorem Worded.read_ranges (worded : document.Worded) :
    ((document.rangeLines (numerals.through meaning)).map String.toList).foldlM
        (readLine numerals.read?) (.ranges, deck) =
      some (.ranges,
        { deck with ranges := deck.ranges ++ (document.deck.map meaning).ranges }) := by
  have reads : ∀ pair ∈ document.deck.ranges, ∀ earlier,
      readRecord numerals.read? .ranges ["RNG", pair.1, numerals.through meaning pair.2]
          { deck with ranges := earlier } =
        some { deck with ranges := earlier ++ [(pair.1, meaning pair.2)] } := by
    intro pair _ earlier
    simp [readRecord, readPairs, read_through]
  have read := readLines_kept (by decide) (fun ranges => { deck with ranges }) 3
    (fun pair : String × K => ["RNG", pair.1, numerals.through meaning pair.2]) _
    worded.solid_ranges reads deck.ranges
  rw [toList_rangeLines]
  exact read

omit [Scalar K] in
theorem boundOf?_map (meaning : K → L) {code : String} {value : Option K} {bound : Bound K}
    (found : boundOf? code value = some bound) :
    boundOf? code (value.map meaning) = some (bound.map meaning) := by
  unfold boundOf? at found
  split at found <;> first | (cases found; rfl) | cases found

theorem read_bounds :
    (((document.columns.mapIdx fun place column =>
        (columnBounds column).map
          (boundLine (numerals.through meaning) (columnName place))).flatten).map
        String.toList).foldlM (readLine numerals.read?) (.bounds, deck) =
      some (.bounds,
        { deck with bounds := deck.bounds ++ (document.deck.map meaning).bounds }) := by
  have reads : ∀ item ∈ document.writtenBounds, ∀ earlier,
      readRecord numerals.read? .bounds
          (item.2.1.code :: "BND" :: item.1 ::
            (item.2.2.map (numerals.through meaning)).toList)
          { deck with bounds := earlier } =
        some { deck with bounds := earlier ++
          ((boundOf? item.2.1.code item.2.2).map fun bound =>
            (item.1, bound.map meaning)).toList } := by
    intro item member earlier
    obtain ⟨-, bound, read⟩ := isWord_of_mem_writtenBounds member
    have meant := boundOf?_map meaning read
    obtain ⟨column, kind, _ | value⟩ := item
    · dsimp only [Option.map_none] at read meant
      simp [readRecord, read, meant]
    · dsimp only [Option.map_some] at read meant
      simp [readRecord, read, meant, read_through]
  have read := readLines_records (by decide) (fun bounds => { deck with bounds }) 0
    (fun item : String × BoundKind × Option K =>
      item.2.1.code :: "BND" :: item.1 :: (item.2.2.map (numerals.through meaning)).toList) _
    solid_bounds reads deck.bounds
  rw [toList_boundLines, Deck.map, bounds_deck, List.map_filterMap]
  simp only [Option.map_map, Function.comp_def]
  exact read

def senseName : Sense → String
  | .minimise => "MIN"
  | .maximise => "MAX"

theorem toList_senseLine (sense : Sense) :
    (senseLine sense).toList = record 3 [senseName sense] := by
  cases sense <;> rfl

omit [Scalar K] in
theorem read_sense (sense : Sense) :
    readLine numerals.read? (.sense, deck) (senseLine sense).toList =
      some (.sense, { deck with sense }) := by
  have solid : ∀ field ∈ [senseName sense], IsWord field := by
    cases sense <;> decide
  rw [toList_senseLine, readLine_record (List.cons_ne_nil _ _) solid 3 (by decide)]
  cases sense <;> rfl

/-- The lines in the order in which their sections are read. -/
theorem map_toList_lines (numeral : K → String) :
    (document.lines numeral).map String.toList =
      ("NAME " ++ document.name).toList :: "OBJSENSE".toList ::
        (senseLine document.sense).toList :: "ROWS".toList ::
        (((" N " ++ objectiveRow) :: document.rowLines).map String.toList ++
        "COLUMNS".toList ::
        (((document.columns.mapIdx (columnLines numeral
          (document.rows.map MpsRow.name).toArray)).flatten).map String.toList ++
        "RHS".toList :: ((document.rhsLines numeral).map String.toList ++
        "RANGES".toList :: ((document.rangeLines numeral).map String.toList ++
        "BOUNDS".toList ::
        (((document.columns.mapIdx fun place column =>
          (columnBounds column).map (boundLine numeral (columnName place))).flatten).map
          String.toList ++ ["ENDATA".toList]))))) := by
  simp only [lines, List.map_append, List.map_cons, List.map_nil, List.append_assoc,
    List.cons_append, List.nil_append]

theorem Worded.newline_not_mem (worded : document.Worded)
    (single : '\n' ∉ document.name.toList) :
    ∀ letters ∈ (document.lines (numerals.through meaning)).map String.toList,
      '\n' ∉ letters := by
  have records {α : Type} {items : List α} {fields : α → List String} (indent : Nat)
      (solid : ∀ item ∈ items, ∀ field ∈ fields item, IsWord field) :
      ∀ letters ∈ items.map fun item => record indent (fields item), '\n' ∉ letters :=
    List.forall_mem_map.mpr fun item member =>
      newline_not_mem_indented (solid item member) _
  have sense : '\n' ∉ (senseLine document.sense).toList := by
    cases document.sense <;> decide
  have name : '\n' ∉ ("NAME " ++ document.name).toList := by
    simpa using single
  rw [map_toList_lines, toList_rowLines, toList_columnLines, toList_rhsLines,
    toList_rangeLines, toList_boundLines]
  simp only [List.forall_mem_cons, List.forall_mem_append]
  exact ⟨name, by decide, sense, by decide, records 0 worded.solid_rows, by decide,
    records 3 worded.solid_columns, by decide, records 3 worded.solid_rhs, by decide,
    records 3 worded.solid_ranges, by decide, records 0 solid_bounds, by decide⟩

/-- The text of a document says what the document says, with what its numbers stand for. -/
theorem Worded.read_text_through (worded : document.Worded)
    (single : '\n' ∉ document.name.toList) (numerals : Numerals L) (meaning : K → L) :
    Deck.read? numerals (document.text (numerals.through meaning)) =
      some (document.deck.map meaning) := by
  have lines : textLines (document.text (numerals.through meaning)) =
      (document.lines (numerals.through meaning)).map String.toList ++ [[]] :=
    textLines_join fun line member =>
      worded.newline_not_mem single _ (List.mem_map_of_mem member)
  have read : ((document.lines (numerals.through meaning)).map String.toList).foldlM
      (readLine numerals.read?) (.preamble, Deck.empty) =
        some (.finished, document.deck.map meaning) := by
    rw [map_toList_lines, foldlM_cons_of_eq (readLine_name _ _),
      foldlM_cons_of_eq (readLine_header (by decide) rfl (by decide) _),
      foldlM_cons_of_eq (read_sense _ _),
      foldlM_cons_of_eq (readLine_header (by decide) rfl (by decide) _),
      foldlM_append_of_eq (worded.read_rows _),
      foldlM_cons_of_eq (readLine_header (by decide) rfl (by decide) _),
      foldlM_append_of_eq (worded.read_columns _),
      foldlM_cons_of_eq (readLine_header (by decide) rfl (by decide) _),
      foldlM_append_of_eq (worded.read_rhs _),
      foldlM_cons_of_eq (readLine_header (by decide) rfl (by decide) _),
      foldlM_append_of_eq (worded.read_ranges _),
      foldlM_cons_of_eq (readLine_header (by decide) rfl (by decide) _),
      foldlM_append_of_eq (read_bounds _),
      foldlM_cons_of_eq (readLine_header (by decide) rfl (by decide) _)]
    rfl
  rw [Deck.read?, lines, List.foldlM_append, read]
  rfl

theorem Worded.read_text {numerals : Numerals K} (worded : document.Worded)
    (single : '\n' ∉ document.name.toList) :
    Deck.read? numerals (document.text numerals.write) = some document.deck := by
  have read := worded.read_text_through single numerals id
  rwa [Deck.map_id] at read

end MpsDocument

end Dispatch
