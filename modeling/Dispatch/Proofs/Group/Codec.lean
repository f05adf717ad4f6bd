import Dispatch.Proofs.Json.Records
import Dispatch.Proofs.Number.Numerals
import Mathlib.Data.String.Basic

namespace Dispatch

/-! Writing a group to a file and reading it back. What was written is the group itself as
long as all its doubles are finite; a group with another double writes a file that cannot be
read. -/

namespace Sorted

variable {α : Type}

/-- The names ascend, so each stands once. -/
def Ascending (entries : Sorted α) : Prop :=
  entries.Pairwise fun earlier later => earlier.1 < later.1

instance (entries : Sorted α) : Decidable (Ascending entries) :=
  inferInstanceAs (Decidable (List.Pairwise _ _))

theorem insert_last {entries : Sorted α} {name : String} {value : α}
    (before : ∀ entry ∈ entries, entry.1 < name) :
    insert entries name value = entries ++ [(name, value)] := by
  induction entries with
  | nil => rfl
  | cons entry rest induction =>
      obtain ⟨other, kept⟩ := entry
      obtain ⟨first, later⟩ := List.forall_mem_cons.mp before
      have distinct : name ≠ other := fun same => String.lt_irrefl name (same ▸ first)
      have after : ¬name < other := fun less => String.lt_irrefl name (String.lt_trans less first)
      rw [insert, if_neg distinct, if_neg after, induction later]
      rfl

theorem foldl_insert {entries others : Sorted α} (ascending : Ascending (entries ++ others)) :
    others.foldl (fun sorted entry => insert sorted entry.1 entry.2) entries =
      entries ++ others := by
  induction others generalizing entries with
  | nil => exact (List.append_nil entries).symm
  | cons entry rest induction =>
      have before : ∀ earlier ∈ entries, earlier.1 < entry.1 := fun earlier member =>
        (List.pairwise_append.mp ascending).2.2 earlier member entry List.mem_cons_self
      rw [List.append_cons] at ascending ⊢
      rw [List.foldl_cons, insert_last before]
      exact induction ascending

/-- Entries in order stay as they are. -/
theorem ofList_eq {entries : Sorted α} (ascending : Ascending entries) :
    ofList entries = entries :=
  foldl_insert ascending

theorem mem_insert {entries : Sorted α} {name : String} {value : α} {entry : String × α}
    (listed : entry ∈ insert entries name value) : entry = (name, value) ∨ entry ∈ entries := by
  induction entries with
  | nil => exact .inl (List.mem_singleton.mp listed)
  | cons first rest induction =>
      obtain ⟨other, kept⟩ := first
      unfold insert at listed
      split at listed
      · exact (List.mem_cons.mp listed).imp_right (List.mem_cons_of_mem _)
      · split at listed
        · exact List.mem_cons.mp listed
        · rcases List.mem_cons.mp listed with same | later
          · exact .inr (same ▸ List.mem_cons_self)
          · exact (induction later).imp_right (List.mem_cons_of_mem _)

theorem ascending_insert {entries : Sorted α} (ascending : Ascending entries) (name : String)
    (value : α) : Ascending (insert entries name value) := by
  induction entries with
  | nil => exact List.pairwise_singleton _ _
  | cons first rest induction =>
      obtain ⟨other, kept⟩ := first
      obtain ⟨before, ordered⟩ := List.pairwise_cons.mp ascending
      unfold insert
      split
      · rename_i same
        exact List.pairwise_cons.mpr ⟨same ▸ before, ordered⟩
      · split
        · rename_i less
          refine List.pairwise_cons.mpr ⟨List.forall_mem_cons.mpr ⟨less, ?_⟩, ascending⟩
          exact fun entry listed => String.lt_trans less (before entry listed)
        · rename_i distinct after
          refine List.pairwise_cons.mpr ⟨fun entry listed => ?_, induction ordered⟩
          rcases mem_insert listed with rfl | old
          · exact lt_of_le_of_ne (not_lt.mp after) (Ne.symm distinct)
          · exact before entry old

end Sorted

/-- Counts fit 64 bits. -/
def Values.Fit : Values → Prop
  | .counts values => ∀ value ∈ values, value < 2 ^ 64
  | _ => True

instance : (values : Values) → Decidable values.Fit
  | .counts values => inferInstanceAs (Decidable (∀ value ∈ values, value < 2 ^ 64))
  | .doubles _ => inferInstanceAs (Decidable True)
  | .texts _ => inferInstanceAs (Decidable True)

def Values.everyDouble : Values → List Float
  | .doubles values => values
  | _ => []

/-- The double is printed so that it is read back. -/
def IsKept (value : Float) : Prop :=
  (Json.number (Decimal.Style.file.text value)).double? = some value

instance (value : Float) : Decidable (IsKept value) :=
  inferInstanceAs (Decidable (_ = some value))

namespace Field

theorem doubleJson_finite {value : Float} (finite : value.isFinite = true) :
    doubleJson value = .number (Decimal.Style.file.text value) :=
  if_pos finite

theorem doubleJson_infinite {value : Float} (infinite : value.isFinite = false) :
    doubleJson value = .null :=
  if_neg (by rw [infinite]; exact Bool.false_ne_true)

theorem isWritten_doubleJson {value : Float} (kept : value.isFinite = true → IsKept value) :
    (doubleJson value).IsWritten := by
  cases finite : value.isFinite with
  | true =>
      rw [doubleJson_finite finite, Json.IsWritten]
      obtain ⟨numeral, read, -⟩ := Option.bind_eq_some_iff.mp (kept finite)
      exact Option.isSome_of_eq_some read
  | false =>
      rw [doubleJson_infinite finite, Json.IsWritten]
      trivial

/-- An array as it is written. -/
def arrayJson (kind : String) (dims : List String) (data : List Json) : Json :=
  .record [("type", .text kind), ("dims", .list (dims.map Json.text)), ("data", .list data)]

theorem isWritten_arrayJson (kind : String) (dims : List String) {data : List Json}
    (each : ∀ item ∈ data, item.IsWritten) : (arrayJson kind dims data).IsWritten := by
  have names : ∀ item ∈ dims.map Json.text, item.IsWritten := by
    intro item member
    obtain ⟨name, -, rfl⟩ := List.mem_map.mp member
    exact Json.isWritten_text name
  refine Json.isWritten_record ?_
  simp only [List.forall_mem_cons]
  exact ⟨Json.isWritten_text kind, Json.isWritten_list names, Json.isWritten_list each, nofun⟩

/-- The parts of an array are told apart by their names. -/
theorem parts?_arrayJson (kind : String) (dims : List String) (data : List Json) :
    (arrayJson kind dims data).parts? ["type", "dims", "data"] =
      some [some (.text kind), some (.list (dims.map Json.text)), some (.list data)] := by
  rw [arrayJson, Json.parts?_record]
  rfl

theorem ofJson?_arrayJson (depth : Nat) (kind : String) (dims : List String)
    (data : List Json) :
    ofJson? depth (arrayJson kind dims data) =
      if (arrayJson kind dims data).isReadable depth then
        (values? kind data).map fun values => ⟨dims, values⟩
      else none := by
  have names : (dims.map Json.text).mapM Json.text? = some dims :=
    mapM_map_eq_some fun _ _ => rfl
  rw [ofJson?, parts?_arrayJson]
  congr 1
  change ((dims.map Json.text).mapM Json.text?).bind (fun dims =>
    (values? kind data).bind fun values => some (Field.mk dims values)) = _
  rw [names, Option.bind_some, Option.map_eq_bind]
  rfl

theorem isReadable_arrayJson {depth : Nat} {kind : String} {dims : List String}
    {data : List Json} (each : ∀ item ∈ data, item.isReadable depth = true) :
    (arrayJson kind dims data).isReadable (depth + 2) = true := by
  have names : ∀ item ∈ dims.map Json.text, item.isReadable depth = true := by
    intro item member
    obtain ⟨name, -, rfl⟩ := List.mem_map.mp member
    exact Json.isReadable_text depth name
  refine Json.isReadable_record ?_
  simp only [List.forall_mem_cons]
  exact ⟨Json.isReadable_text _ kind, Json.isReadable_list names, Json.isReadable_list each,
    nofun⟩

/-- Brackets around the array and around its data. -/
theorem two_le_brackets (kind : String) (dims : List String) (data : List Json) :
    2 ≤ (arrayJson kind dims data).brackets := by
  by_contra shallow
  have inner := (Json.brackets_record_le_iff _ 0).mp (Nat.le_of_lt_succ (Nat.not_le.mp shallow))
    ("data", .list data) (by simp)
  rw [Json.brackets] at inner
  exact Nat.not_succ_le_zero _ inner

theorem values?_double (data : List Json) :
    values? "double" data = (data.mapM Json.double?).map .doubles := rfl

theorem values?_uint (data : List Json) :
    values? "uint" data = (data.mapM Json.count?).map .counts := rfl

theorem values?_text (data : List Json) :
    values? "text" data = (data.mapM Json.text?).map .texts := rfl

variable {field : Field}

theorem isReadable_number {depth : Nat} {text : String}
    (given : (Json.double? (.number text)).isSome = true) :
    (Json.number text).isReadable depth = true := by
  cases depth <;> exact given

theorem isWritten_toJson
    (kept : ∀ value ∈ field.values.everyDouble, value.isFinite = true → IsKept value) :
    (field.toJson doubleJson).IsWritten := by
  obtain ⟨dims, values⟩ := field
  cases values with
  | doubles values =>
      refine isWritten_arrayJson "double" dims fun item member => ?_
      obtain ⟨value, listed, rfl⟩ := List.mem_map.mp member
      exact isWritten_doubleJson (kept value listed)
  | counts values =>
      refine isWritten_arrayJson "uint" dims fun item member => ?_
      obtain ⟨value, -, rfl⟩ := List.mem_map.mp member
      exact Json.isWritten_count value
  | texts values =>
      refine isWritten_arrayJson "text" dims fun item member => ?_
      obtain ⟨value, -, rfl⟩ := List.mem_map.mp member
      exact Json.isWritten_text value

/-- Once its items can be read, an array is read by its kind. -/
theorem ofJson?_arrayJson_map {α : Type} {depth : Nat} (kind : String) (dims : List String)
    {values : List α} {write : α → Json}
    (shallow : (arrayJson kind dims (values.map write)).brackets ≤ depth)
    (each : ∀ depth, ∀ value ∈ values, (write value).isReadable depth = true) :
    ofJson? depth (arrayJson kind dims (values.map write)) =
      (values? kind (values.map write)).map fun values => ⟨dims, values⟩ := by
  obtain ⟨depth, rfl⟩ := Nat.exists_eq_add_of_le'
    ((two_le_brackets kind dims (values.map write)).trans shallow)
  have items : ∀ item ∈ values.map write, item.isReadable depth = true :=
    List.forall_mem_map.mpr (each depth)
  rw [ofJson?_arrayJson, if_pos (isReadable_arrayJson items)]

/-- An array whose doubles are finite is read back. -/
theorem ofJson?_toJson {depth : Nat} (fit : field.values.Fit)
    (shallow : (field.toJson doubleJson).brackets ≤ depth)
    (finite : ∀ value ∈ field.values.everyDouble, value.isFinite = true ∧ IsKept value) :
    ofJson? depth (field.toJson doubleJson) = some field := by
  obtain ⟨dims, values⟩ := field
  cases values with
  | doubles values =>
      have written : ∀ value ∈ values,
          doubleJson value = .number (Decimal.Style.file.text value) :=
        fun value listed => doubleJson_finite (finite value listed).1
      have data : (values.map doubleJson).mapM Json.double? = some values := by
        refine mapM_map_eq_some fun value listed => ?_
        rw [written value listed]
        exact (finite value listed).2
      refine (ofJson?_arrayJson_map "double" dims shallow fun depth value listed => ?_).trans ?_
      · rw [written value listed]
        exact isReadable_number (Option.isSome_of_eq_some (finite value listed).2)
      · rw [values?_double, data]
        rfl
  | counts values =>
      have data : (values.map Json.count).mapM Json.count? = some values :=
        mapM_map_eq_some fun value listed => Json.count?_count (fit value listed)
      refine (ofJson?_arrayJson_map "uint" dims shallow fun depth value listed => ?_).trans ?_
      · exact isReadable_number (Json.isSome_double?_count (fit value listed))
      · rw [values?_uint, data]
        rfl
  | texts values =>
      have data : (values.map Json.text).mapM Json.text? = some values :=
        mapM_map_eq_some fun _ _ => rfl
      refine (ofJson?_arrayJson_map "text" dims shallow fun depth value _ => ?_).trans ?_
      · exact Json.isReadable_text depth value
      · rw [values?_text, data]
        rfl

/-- An array with another double is refused. -/
theorem ofJson?_toJson_infinite (depth : Nat) {value : Float}
    (listed : value ∈ field.values.everyDouble) (infinite : value.isFinite = false) :
    ofJson? depth (field.toJson doubleJson) = none := by
  obtain ⟨dims, values⟩ := field
  cases values with
  | doubles values =>
      have refused : (values.map doubleJson).mapM Json.double? = none := by
        refine mapM_eq_none (List.mem_map.mpr ⟨value, listed, rfl⟩) ?_
        rw [doubleJson_infinite infinite]
        rfl
      refine (ofJson?_arrayJson _ "double" dims _).trans ?_
      rw [values?_double, refused]
      exact ite_self none
  | counts values => cases listed
  | texts values => cases listed

end Field

namespace Group

/-- A part of a group as it is looked up. -/
def partOf (entries : List (String × Json)) : Option Json :=
  if entries.isEmpty then none else some (.record entries)

theorem entries?_partOf {α : Type} (read? : Json → Option α) (entries : List (String × Json)) :
    entries? read? (partOf entries) =
      entries.mapM fun field => (read? field.2).map fun entry => (field.1, entry) := by
  cases entries with
  | nil => rfl
  | cons first rest =>
      rw [partOf, if_neg (by simp), entries?, Json.fields?_record]
      rfl

/-- The three parts are told apart by their names. -/
theorem parts?_partJson (dims fields groups : List (String × Json)) :
    (Json.record (partJson "dims" dims ++ partJson "vars" fields ++
      partJson "groups" groups)).parts? ["dims", "vars", "groups"] =
      some [partOf dims, partOf fields, partOf groups] := by
  rw [Json.parts?_record]
  cases dims <;> cases fields <;> cases groups <;> rfl

theorem partJson_brackets {name : String} {entries : List (String × Json)} {depth : Nat}
    (shallow : ∀ field ∈ partJson name entries, field.2.brackets ≤ depth + 1) :
    ∀ entry ∈ entries, entry.2.brackets ≤ depth := by
  cases entries with
  | nil => nofun
  | cons first rest =>
      exact (Json.brackets_record_le_iff _ depth).mp
        (shallow (name, .record (first :: rest)) List.mem_cons_self)

/-- Without room for brackets a part is empty. -/
theorem partJson_empty {name : String} {entries : List (String × Json)}
    (shallow : ∀ field ∈ partJson name entries, field.2.brackets ≤ 0) : entries = [] := by
  cases entries with
  | nil => rfl
  | cons first rest =>
      exact absurd (shallow (name, .record (first :: rest)) List.mem_cons_self)
        (Nat.not_le.mpr (Json.brackets_record_pos _))

theorem membersJson_eq_map (double : Float → Json) (groups : List (String × Group)) :
    membersJson double groups = groups.map fun entry => (entry.1, entry.2.toJson double) := by
  induction groups with
  | nil => rfl
  | cons entry rest induction => rw [membersJson, induction, List.map_cons]

/-- A group that a block can hold: the names of each part ascend, and numbers fit 64 bits. -/
inductive Holdable : Group → Prop
  | intro {group : Group} (dimsAscend : Sorted.Ascending group.dims)
      (fieldsAscend : Sorted.Ascending group.fields)
      (groupsAscend : Sorted.Ascending group.groups)
      (sizes : ∀ entry ∈ group.dims, entry.2 < 2 ^ 64)
      (values : ∀ entry ∈ group.fields, entry.2.values.Fit)
      (members : ∀ entry ∈ group.groups, Holdable entry.2) : Holdable group

namespace Holdable

variable {group : Group}

theorem empty : Group.empty.Holdable :=
  .intro .nil .nil .nil nofun nofun nofun

theorem setDim (holdable : group.Holdable) (name : String) {value : Nat}
    (fits : value < 2 ^ 64) : (group.setDim name value).Holdable := by
  obtain ⟨dims, fields, groups, sizes, values, members⟩ := holdable
  refine .intro (Sorted.ascending_insert dims name value) fields groups ?_ values members
  intro entry listed
  rcases Sorted.mem_insert listed with rfl | old
  · exact fits
  · exact sizes entry old

theorem put (holdable : group.Holdable) (name : String) (dims : List String) {values : Values}
    (fit : values.Fit) : (group.put name dims values).Holdable := by
  obtain ⟨dimsAscend, fields, groups, sizes, others, members⟩ := holdable
  refine .intro dimsAscend (Sorted.ascending_insert fields name _) groups sizes ?_ members
  intro entry listed
  rcases Sorted.mem_insert listed with rfl | old
  · exact fit
  · exact others entry old

theorem addMember (holdable : group.Holdable) (name : String) {member : Group}
    (held : member.Holdable) : (group.addMember name member).Holdable := by
  obtain ⟨dims, fields, groups, sizes, values, members⟩ := holdable
  refine .intro dims fields (Sorted.ascending_insert groups name member) sizes values ?_
  intro entry listed
  rcases Sorted.mem_insert listed with rfl | old
  · exact held
  · exact members entry old

end Holdable

mutual
/-- The doubles of the group and of all groups inside. -/
def everyDouble : Group → List Float
  | ⟨_, fields, groups⟩ =>
      fields.flatMap (fun entry => entry.2.values.everyDouble) ++ membersDoubles groups

def membersDoubles : List (String × Group) → List Float
  | [] => []
  | (_, member) :: rest => everyDouble member ++ membersDoubles rest
end

theorem mem_membersDoubles {groups : List (String × Group)} {value : Float} :
    value ∈ membersDoubles groups ↔ ∃ entry ∈ groups, value ∈ entry.2.everyDouble := by
  induction groups with
  | nil => simp [membersDoubles]
  | cons entry rest induction =>
      simp [membersDoubles, induction]

theorem mem_everyDouble {group : Group} {value : Float} :
    value ∈ group.everyDouble ↔
      (∃ entry ∈ group.fields, value ∈ entry.2.values.everyDouble) ∨
        ∃ entry ∈ group.groups, value ∈ entry.2.everyDouble := by
  obtain ⟨dims, fields, groups⟩ := group
  rw [everyDouble, List.mem_append, List.mem_flatMap, mem_membersDoubles]

theorem toJson_eq (group : Group) :
    group.toJson Field.doubleJson =
      .record (partJson "dims" (group.dims.map fun entry => (entry.1, Json.count entry.2)) ++
        partJson "vars"
          (group.fields.map fun entry => (entry.1, entry.2.toJson Field.doubleJson)) ++
        partJson "groups"
          (group.groups.map fun entry => (entry.1, entry.2.toJson Field.doubleJson))) := by
  obtain ⟨dims, fields, groups⟩ := group
  rw [toJson, membersJson_eq_map]

theorem isWritten_partJson {name : String} {entries : List (String × Json)}
    (each : ∀ entry ∈ entries, entry.2.IsWritten) :
    ∀ field ∈ partJson name entries, field.2.IsWritten := by
  cases entries with
  | nil => nofun
  | cons first rest => exact List.forall_mem_singleton.mpr (Json.isWritten_record each)

/-- The text of a group is that of a JSON value. -/
theorem isWritten_toJson {group : Group} (holdable : group.Holdable)
    (kept : ∀ value ∈ group.everyDouble, value.isFinite = true → IsKept value) :
    (group.toJson Field.doubleJson).IsWritten := by
  induction holdable with
  | @intro group _ _ _ _ _ _ induction =>
      rw [toJson_eq]
      refine Json.isWritten_record ?_
      simp only [List.forall_mem_append]
      refine ⟨⟨isWritten_partJson ?_, isWritten_partJson ?_⟩, isWritten_partJson ?_⟩
      · exact List.forall_mem_map.mpr fun entry _ => Json.isWritten_count entry.2
      · refine List.forall_mem_map.mpr fun entry listed => Field.isWritten_toJson ?_
        exact fun value inside => kept value (mem_everyDouble.mpr (.inl ⟨entry, listed, inside⟩))
      · refine List.forall_mem_map.mpr fun entry listed => induction entry listed ?_
        exact fun value inside => kept value (mem_everyDouble.mpr (.inr ⟨entry, listed, inside⟩))

/-- Reading what was written goes part by part. -/
theorem ofJson?_toJson_add_two (depth : Nat) (group : Group) :
    ofJson? (depth + 2) (group.toJson Field.doubleJson) =
      ((group.dims.map fun entry => (entry.1, Json.count entry.2)).mapM fun field =>
          (Json.count? field.2).map fun entry => (field.1, entry)).bind fun dims =>
        ((group.fields.map fun entry => (entry.1, entry.2.toJson Field.doubleJson)).mapM
            fun field => (Field.ofJson? depth field.2).map fun entry => (field.1, entry)).bind
          fun fields =>
            ((group.groups.map fun entry => (entry.1, entry.2.toJson Field.doubleJson)).mapM
                fun field => (ofJson? depth field.2).map fun entry => (field.1, entry)).bind
              fun groups => some
                ⟨Sorted.ofList dims, Sorted.ofList fields, Sorted.ofList groups⟩ := by
  rw [ofJson?, toJson_eq, parts?_partJson]
  simp only [Option.bind_eq_bind, Option.bind_some, entries?_partOf]
  rfl

theorem ofJson?_toJson_one {group : Group}
    (shallow : (group.toJson Field.doubleJson).brackets ≤ 1) :
    ofJson? 1 (group.toJson Field.doubleJson) = some group := by
  rw [toJson_eq] at shallow ⊢
  have inner := (Json.brackets_record_le_iff _ 0).mp shallow
  simp only [List.forall_mem_append] at inner
  have dims := List.map_eq_nil_iff.mp (partJson_empty inner.1.1)
  have fields := List.map_eq_nil_iff.mp (partJson_empty inner.1.2)
  have groups := List.map_eq_nil_iff.mp (partJson_empty inner.2)
  obtain ⟨_, _, _⟩ := group
  cases dims
  cases fields
  cases groups
  rfl

section Entries

variable {α : Type} {read? : Json → Option α} {write : α → Json} {entries : List (String × α)}

theorem mapM_entries (kept : ∀ entry ∈ entries, read? (write entry.2) = some entry.2) :
    ((entries.map fun entry => (entry.1, write entry.2)).mapM fun field =>
      (read? field.2).map fun entry => (field.1, entry)) = some entries := by
  refine mapM_map_eq_some fun entry listed => ?_
  rw [kept entry listed]
  rfl

theorem mapM_entries_eq_none {entry : String × α} (listed : entry ∈ entries)
    (refused : read? (write entry.2) = none) :
    ((entries.map fun entry => (entry.1, write entry.2)).mapM fun field =>
      (read? field.2).map fun entry => (field.1, entry)) = none := by
  refine mapM_eq_none (List.mem_map_of_mem listed) ?_
  rw [refused]
  rfl

end Entries

/-- A group whose doubles are finite is read back. -/
theorem ofJson?_toJson {group : Group} (holdable : group.Holdable) {depth : Nat}
    (shallow : (group.toJson Field.doubleJson).brackets ≤ depth)
    (finite : ∀ value ∈ group.everyDouble, value.isFinite = true ∧ IsKept value) :
    ofJson? depth (group.toJson Field.doubleJson) = some group := by
  induction holdable generalizing depth with
  | @intro group dimsAscend fieldsAscend groupsAscend sizes values members induction =>
      match depth with
      | 0 =>
          rw [toJson_eq] at shallow
          exact absurd shallow (Nat.not_le.mpr (Json.brackets_record_pos _))
      | 1 => exact ofJson?_toJson_one shallow
      | depth + 2 =>
          have inner := shallow
          rw [toJson_eq, Json.brackets_record_le_iff] at inner
          simp only [List.forall_mem_append] at inner
          have dims : ∀ entry ∈ group.dims, Json.count? (Json.count entry.2) = some entry.2 :=
            fun entry listed => Json.count?_count (sizes entry listed)
          have fields : ∀ entry ∈ group.fields,
              Field.ofJson? depth (entry.2.toJson Field.doubleJson) = some entry.2 :=
            fun entry listed => Field.ofJson?_toJson (values entry listed)
              (partJson_brackets inner.1.2 _ (List.mem_map_of_mem listed))
              fun value inside => finite value (mem_everyDouble.mpr (.inl ⟨entry, listed, inside⟩))
          have groups : ∀ entry ∈ group.groups,
              ofJson? depth (entry.2.toJson Field.doubleJson) = some entry.2 :=
            fun entry listed => induction entry listed
              (partJson_brackets inner.2 _ (List.mem_map_of_mem listed))
              fun value inside => finite value (mem_everyDouble.mpr (.inr ⟨entry, listed, inside⟩))
          rw [ofJson?_toJson_add_two, mapM_entries dims, mapM_entries fields,
            mapM_entries groups]
          simp only [Option.bind_some, Sorted.ofList_eq dimsAscend,
            Sorted.ofList_eq fieldsAscend, Sorted.ofList_eq groupsAscend]
          cases group
          rfl

/-- A group with arrays or members opens more than one bracket. -/
theorem ofJson?_one {dims fields groups : List (String × Json)}
    (given : fields ≠ [] ∨ groups ≠ []) :
    ofJson? 1 (.record (partJson "dims" dims ++ partJson "vars" fields ++
      partJson "groups" groups)) = none := by
  rw [ofJson?, parts?_partJson]
  cases fields with
  | cons field others => cases dims <;> rfl
  | nil =>
      cases groups with
      | cons member others => cases dims <;> rfl
      | nil => exact absurd given (by simp)

/-- A group with another double is refused. -/
theorem ofJson?_toJson_infinite {group : Group} (holdable : group.Holdable) (depth : Nat)
    {value : Float} (inside : value ∈ group.everyDouble) (infinite : value.isFinite = false) :
    ofJson? depth (group.toJson Field.doubleJson) = none := by
  induction holdable generalizing depth with
  | @intro group _ _ _ _ _ _ induction =>
      match depth with
      | 0 => rw [ofJson?]
      | 1 =>
          rw [toJson_eq]
          refine ofJson?_one ?_
          rcases mem_everyDouble.mp inside with ⟨entry, listed, _⟩ | ⟨entry, listed, _⟩
          · exact .inl (List.ne_nil_of_mem (List.mem_map_of_mem listed))
          · exact .inr (List.ne_nil_of_mem (List.mem_map_of_mem listed))
      | depth + 2 =>
          rw [ofJson?_toJson_add_two]
          rcases mem_everyDouble.mp inside with ⟨entry, listed, inner⟩ | ⟨entry, listed, inner⟩
          · rw [mapM_entries_eq_none listed (Field.ofJson?_toJson_infinite depth inner infinite)]
            exact Option.bind_fun_none _
          · simp only [mapM_entries_eq_none listed (induction entry listed depth inner),
              Option.bind_none, Option.bind_fun_none]

theorem read_text_eq {group : Group} (written : (group.toJson Field.doubleJson).IsWritten) :
    read group.text = match ofJson? bracketLimit (group.toJson Field.doubleJson) with
      | some group => .ok group
      | none => .error .format := by
  rw [read, text, Json.read?_pretty written]
  rfl

/-- A group is read back from its file if all its doubles are finite; the file of another
group is refused. The finite doubles inside have to be printed so that they are read back. -/
theorem read_text_of_holdable {group : Group} (holdable : group.Holdable)
    (shallow : (group.toJson Field.doubleJson).brackets ≤ bracketLimit)
    (kept : ∀ value ∈ group.everyDouble, value.isFinite = true → IsKept value) :
    ((∀ value ∈ group.everyDouble, value.isFinite = true) → read group.text = .ok group) ∧
      ((∃ value ∈ group.everyDouble, value.isFinite = false) →
        read group.text = .error .format) := by
  have written := isWritten_toJson holdable kept
  rw [read_text_eq written]
  constructor
  · intro finite
    have back := ofJson?_toJson holdable shallow fun value inside =>
      ⟨finite value inside, kept value inside (finite value inside)⟩
    rw [back]
  · rintro ⟨value, inside, infinite⟩
    rw [ofJson?_toJson_infinite holdable bracketLimit inside infinite]

/-- A block with a demand and a unit whose name and array have to be escaped. -/
def quoted (demand : List Float) : Group where
  dims := [("TimeHorizon", 3)]
  fields := [("ActivePowerDemand", ⟨["TimeHorizon"], .doubles demand⟩),
    ("StartLine", ⟨[], .counts [0, 18446744073709551615]⟩)]
  groups := [("Unit\"0\"\n", ⟨[], [("Names", ⟨["\\"], .texts ["", "a\tb"]⟩)], []⟩)]

theorem holdable_quoted (demand : List Float) : (quoted demand).Holdable := by
  have names : "ActivePowerDemand" < "StartLine" := by decide
  refine .intro (List.pairwise_singleton _ _)
    (.cons (List.forall_mem_singleton.mpr names) (List.pairwise_singleton _ _))
    (List.pairwise_singleton _ _) (List.forall_mem_singleton.mpr (by decide)) ?_ ?_
  · simp only [quoted, List.forall_mem_cons]
    exact ⟨trivial, by decide, nofun⟩
  · exact List.forall_mem_singleton.mpr
      (.intro (by decide) (by decide) (by decide) (by decide) (by decide) nofun)

theorem read_text_of_holdable_quoted :
    read (quoted [1, -2.5, 0]).text = .ok (quoted [1, -2.5, 0]) ∧
      read (quoted [1, Float.ofBits 0x7FF0000000000000]).text = .error .format :=
  ⟨(read_text_of_holdable (holdable_quoted _) (by decide +kernel) (by decide +kernel)).1
      (by decide +kernel),
    (read_text_of_holdable (holdable_quoted _) (by decide +kernel) (by decide +kernel)).2
      ⟨Float.ofBits 0x7FF0000000000000,
        mem_everyDouble.mpr (.inl ⟨_, List.mem_cons_self, .tail _ List.mem_cons_self⟩),
        by decide +kernel⟩⟩

end Group

end Dispatch
