import Dispatch.Proofs.Except
import Dispatch.Proofs.Group.Entries
import Dispatch.Proofs.Group.Runs
import Dispatch.Proofs.Number.Counts

namespace Dispatch

/-! Arrays that are read and written back. The form on file is the one that was read or the
full one, and either gives the same values and is written once more as it is. -/

namespace Group

variable {group : Group} {name : String}

/-- A count on file as the double that it stands for. -/
def widened (count : Nat) : Float :=
  count.toUInt64.toFloat

theorem doubles?_of_doubles {dims : List String} {values : List Float}
    (found : group.field? name = some ⟨dims, .doubles values⟩) :
    group.doubles? name = .ok (some values) := by
  simp only [doubles?, found, Option.map_some]

theorem doubles?_of_counts {dims : List String} {values : List Nat}
    (found : group.field? name = some ⟨dims, .counts values⟩) :
    group.doubles? name = .ok (some (values.map widened)) := by
  simp only [doubles?, found, Option.map_some]
  rfl

theorem counts?_of_counts {dims : List String} {values : List Nat}
    (found : group.field? name = some ⟨dims, .counts values⟩) :
    group.counts? name = .ok (some values) := by
  simp only [counts?, found, Option.map_some]

theorem texts?_of_texts {dims : List String} {values : List String}
    (found : group.field? name = some ⟨dims, .texts values⟩) :
    group.texts? name = .ok (some values) := by
  simp only [texts?, found, Option.map_some]

theorem doubles?_eq_none : group.doubles? name = .ok none ↔ group.field? name = none := by
  rcases found : group.field? name with _ | ⟨dims, _ | _ | _⟩ <;> simp [doubles?, found]

theorem counts?_eq_none : group.counts? name = .ok none ↔ group.field? name = none := by
  rcases found : group.field? name with _ | ⟨dims, _ | _ | _⟩ <;> simp [counts?, found]

theorem texts?_eq_none : group.texts? name = .ok none ↔ group.field? name = none := by
  rcases found : group.field? name with _ | ⟨dims, _ | _ | _⟩ <;> simp [texts?, found]

theorem doubles?_eq_some {values : List Float} :
    group.doubles? name = .ok (some values) ↔ ∃ field, group.field? name = some field ∧
      (field.values = .doubles values ∨
        ∃ counts, field.values = .counts counts ∧ values = counts.map widened) := by
  rcases found : group.field? name with _ | ⟨dims, _ | _ | _⟩ <;>
    simp [doubles?, found, eq_comm]
  rfl

theorem counts?_eq_some {values : List Nat} :
    group.counts? name = .ok (some values) ↔
      ∃ field, group.field? name = some field ∧ field.values = .counts values := by
  rcases found : group.field? name with _ | ⟨dims, _ | _ | _⟩ <;> simp [counts?, found]

theorem orMissing_eq_ok {α : Type} {given : Option α} {value : α} :
    orMissing name given = .ok value ↔ given = some value := by
  cases given <;> simp [orMissing]

theorem dim_eq_ok {value : Nat} : group.dim name = .ok value ↔ group.dim? name = some value :=
  orMissing_eq_ok

theorem doubles_eq_ok {values : List Float} :
    group.doubles name = .ok values ↔ group.doubles? name = .ok (some values) := by
  simp [doubles, Except.bind_eq_ok, orMissing_eq_ok]

theorem counts_eq_ok {values : List Nat} :
    group.counts name = .ok values ↔ group.counts? name = .ok (some values) := by
  simp [counts, Except.bind_eq_ok, orMissing_eq_ok]

theorem member_eq_ok {member : Group} :
    group.member name = .ok member ↔ group.member? name = some member :=
  orMissing_eq_ok

end Group

namespace Layouts

variable {layouts : Layouts} {name : String} {dims : List String} {values : List Float}

theorem widened_countOf (count : Nat) :
    Group.widened (countOf (Group.widened count)) = Group.widened count := by
  simp [Group.widened, countOf, toFloat_toUInt64_toFloat]

/-- The form of values: in full, or short, and short as counts or as doubles. -/
theorem fieldFor_cases (layouts : Layouts) (name : String) (dims : List String)
    (values : List Float) :
    layouts.fieldFor name dims values = ⟨dims, .doubles values⟩ ∨
      ∃ layout short, layouts.layout? name = some layout ∧
        compact? values layout.size = some short ∧
        (layouts.fieldFor name dims values = ⟨layout.dims, .doubles short⟩ ∨
          layout.isCounts = true ∧ short.all Float.isCount = true ∧
            layouts.fieldFor name dims values = ⟨layout.dims, .counts (short.map countOf)⟩) := by
  unfold fieldFor
  split
  · exact .inl rfl
  · rename_i layout found
    split
    · exact .inl rfl
    · rename_i short fits
      refine .inr ⟨layout, short, found, fits, ?_⟩
      split
      · rename_i whole
        rw [Bool.and_eq_true] at whole
        exact .inr ⟨whole.1, whole.2, rfl⟩
      · exact .inl rfl

/-- A written array is written once more as it is. -/
theorem fieldFor_again {saved : Group}
    (filed : saved.field? name = some (layouts.fieldFor name dims values)) :
    (ofGroup saved).fieldFor name dims values = layouts.fieldFor name dims values := by
  have layout := (layout?_ofGroup saved name).trans (congrArg (Option.map Field.layout) filed)
  rcases layouts.fieldFor_cases name dims values with
    full | ⟨kept, short, -, fits, doubles | ⟨-, whole, counts⟩⟩
  · rw [full] at layout ⊢
    simp [fieldFor, layout, Field.layout, Field.size, Values.size, compact?_self,
      Values.isCounts]
  · rw [doubles] at layout ⊢
    have fits : compact? values short.length = some short := length_of_compact? fits ▸ fits
    simp [fieldFor, layout, Field.layout, Field.size, Values.size, fits, Values.isCounts]
  · rw [counts] at layout ⊢
    have fits : compact? values short.length = some short := length_of_compact? fits ▸ fits
    simp only [fieldFor, layout, Option.map_some, Field.layout, Field.size, Values.size,
      List.length_map, fits, Values.isCounts, whole, Bool.and_self, if_true]

/-- What a written array is read as, if its short form has no values but those given and
zero. -/
theorem doubles?_fieldFor {group saved : Group} {given : List Float}
    (read : group.doubles? name = .ok (some given))
    (filed : saved.field? name = some ((ofGroup group).fieldFor name dims values))
    (known : ∀ short, compact? values given.length = some short →
      ∀ value ∈ short, value ∈ given ∨ value = 0) :
    saved.doubles? name = .ok (some values) ∨
      ∃ short, compact? values given.length = some short ∧
        saved.doubles? name = .ok (some short) := by
  obtain ⟨field, found, kind⟩ := Group.doubles?_eq_some.mp read
  have size : field.size = given.length := by
    rcases kind with doubles | ⟨counts, kind, rfl⟩ <;> simp [Field.size, Values.size, *]
  rcases (ofGroup group).fieldFor_cases name dims values with
    full | ⟨layout, short, listed, fits, form⟩
  · exact .inl (Group.doubles?_of_doubles (filed.trans (congrArg some full)))
  · rw [layout?_ofGroup, found, Option.map_some, Option.some.injEq] at listed
    subst listed
    rw [Field.layout, size] at fits
    refine .inr ⟨short, fits, ?_⟩
    rcases form with doubles | ⟨isCounts, -, counts⟩
    · exact Group.doubles?_of_doubles (filed.trans (congrArg some doubles))
    · rw [Group.doubles?_of_counts (filed.trans (congrArg some counts)), List.map_map]
      -- the values are counts that were widened when they were read, or zero
      obtain ⟨sources, -, rfl⟩ : ∃ sources, field.values = .counts sources ∧
          given = sources.map Group.widened := by
        rcases kind with doubles | kind
        · simp [Field.layout, doubles, Values.isCounts] at isCounts
        · exact kind
      have kept : ∀ value ∈ short, (Group.widened ∘ countOf) value = value := fun value member => by
        rcases known short fits value member with source | rfl
        · obtain ⟨count, -, rfl⟩ := List.mem_map.mp source
          exact widened_countOf count
        · exact widened_countOf 0
      rw [List.map_congr_left kept, List.map_id']

/-- What was stretched is read as it is, or as what it was stretched from. -/
theorem doubles?_stretched {group saved : Group} {given : List Float}
    (read : group.doubles? name = .ok (some given))
    (filed : saved.field? name = some ((ofGroup group).fieldFor name dims values))
    (stretched : ∃ count, values = stretch count given) :
    saved.doubles? name = .ok (some values) ∨ saved.doubles? name = .ok (some given) := by
  obtain ⟨count, rfl⟩ := stretched
  rcases doubles?_fieldFor read filed fun short fits value member =>
    .inl (mem_of_mem_stretch (mem_of_compact? fits member)) with full | ⟨short, fits, form⟩
  · exact .inl full
  · exact .inr (compact?_stretch fits ▸ form)

theorem doubles?_again {group saved : Group}
    (read : group.doubles? name = .ok (some values))
    (filed : saved.field? name = some ((ofGroup group).fieldFor name dims values)) :
    saved.doubles? name = .ok (some values) :=
  (doubles?_stretched read filed ⟨1, (stretch_one values).symm⟩).elim id id

end Layouts

/-- A form is completed by repeating its values, and what is complete stays as it is. -/
def IsCompletion (complete : List Float → Except Error (List Float)) : Prop :=
  ∀ given values, complete given = .ok values →
    (∃ count, values = stretch count given) ∧ complete values = .ok values

theorem IsCompletion.ofBroadcast (size : Nat) (what : String) :
    IsCompletion fun values => broadcast values size what :=
  fun _ _ filled => ⟨broadcast_stretched filled, broadcast_self (broadcast_ok filled) what⟩

theorem IsCompletion.ofExpand (members horizon : Nat) (what : String) :
    IsCompletion fun values => expand values members horizon what :=
  fun _ _ filled => ⟨expand_stretched filled, expand_self (expand_ok filled) what⟩

namespace Group

/-- The array under a name gives the values; without one there are none. -/
def Gives (group : Group) (name : String) (complete : List Float → Except Error (List Float))
    (values : List Float) : Prop :=
  group.field? name = none ∧ values = [] ∨
    ∃ given, group.doubles? name = .ok (some given) ∧ complete given = .ok values

variable {group saved : Group} {name : String}
  {complete : List Float → Except Error (List Float)} {values : List Float}

theorem Gives.of_absent (gives : group.Gives name complete values)
    (absent : group.field? name = none) : values = [] := by
  rcases gives with ⟨-, none⟩ | ⟨given, read, -⟩
  · exact none
  · obtain ⟨field, found, -⟩ := doubles?_eq_some.mp read
    cases absent.symm.trans found

theorem Gives.of_present (gives : group.Gives name complete values)
    (present : (group.field? name).isSome) :
    ∃ given, group.doubles? name = .ok (some given) ∧ complete given = .ok values := by
  rcases gives with ⟨absent, -⟩ | given
  · simp [absent] at present
  · exact given

theorem isSome_field?_of_doubles? {given : List Float}
    (read : group.doubles? name = .ok (some given)) : (group.field? name).isSome := by
  obtain ⟨field, found, -⟩ := doubles?_eq_some.mp read
  exact Option.isSome_of_eq_some found

/-- Values that are there were given. -/
theorem Gives.isSome_field? (gives : group.Gives name complete values) (given : values ≠ []) :
    (group.field? name).isSome := by
  rcases gives with ⟨-, none⟩ | ⟨given, read, -⟩
  · exact absurd none given
  · exact isSome_field?_of_doubles? read

/-- What is set to an optional array is set to what the group gives. -/
theorem gives_eq_ok {β : Type} {base result : β} {next : List Float → Except Error β}
    (set : List Float → β) (unset : set [] = base)
    (sets : ∀ given, next given = (complete given).map set) :
    (do match ← group.doubles? name with
      | none => .ok base
      | some given => next given) = .ok result ↔
      ∃ values, group.Gives name complete values ∧ result = set values := by
  rw [Except.bind_eq_ok]
  constructor
  · rintro ⟨given, read, changed⟩
    cases given with
    | none =>
        cases changed
        exact ⟨[], .inl ⟨doubles?_eq_none.mp read, rfl⟩, unset.symm⟩
    | some given =>
        obtain ⟨values, full, rfl⟩ := Except.map_eq_ok.mp ((sets given).symm.trans changed)
        exact ⟨values, .inr ⟨given, read, full⟩, rfl⟩
  · rintro ⟨values, ⟨absent, rfl⟩ | ⟨given, read, full⟩, rfl⟩
    · exact ⟨none, doubles?_eq_none.mpr absent, congrArg Except.ok unset.symm⟩
    · exact ⟨some given, read, (sets given).trans (Except.map_eq_ok.mpr ⟨values, full, rfl⟩)⟩

/-- An array that is written whenever it holds values gives them again. -/
theorem Gives.again (gives : group.Gives name complete values) (completes : IsCompletion complete)
    {isKept : Prop} [Decidable isKept] {dims : List String}
    (filed : saved.field? name =
      if isKept then some ((Layouts.ofGroup group).fieldFor name dims values) else none)
    (kept : isKept → (group.field? name).isSome) (left : ¬isKept → values = []) :
    saved.Gives name complete values := by
  split at filed
  · rename_i stays
    rcases gives with ⟨absent, -⟩ | ⟨given, read, full⟩
    · simpa [absent] using kept stays
    · obtain ⟨stretched, stable⟩ := completes given values full
      rcases Layouts.doubles?_stretched read filed stretched with complete | short
      · exact .inr ⟨values, complete, stable⟩
      · exact .inr ⟨given, short, full⟩
  · rename_i goes
    exact .inl ⟨filed, left goes⟩

/-- The second time an array takes the form that it took the first time. -/
theorem fieldFor_again {isKept isKeptAgain : Prop} [Decidable isKept] [Decidable isKeptAgain]
    {layouts : Layouts} {dims : List String}
    (filed : saved.field? name =
      if isKept then some (layouts.fieldFor name dims values) else none)
    (same : isKeptAgain ↔ isKept) :
    (if isKeptAgain then some ((Layouts.ofGroup saved).fieldFor name dims values) else none) =
      if isKept then some (layouts.fieldFor name dims values) else none := by
  by_cases stays : isKept
  · rw [if_pos stays] at filed
    rw [if_pos stays, if_pos (same.mpr stays), Layouts.fieldFor_again filed]
  · rw [if_neg stays, if_neg (mt same.mp stays)]

theorem dimsOr_again {isKept isKeptAgain : Prop} [Decidable isKept] [Decidable isKeptAgain]
    {layouts : Layouts} {dims : List String} {content : Values}
    (filed : saved.field? name =
      if isKept then some ⟨layouts.dimsOr name dims, content⟩ else none)
    (same : isKeptAgain ↔ isKept) :
    (if isKeptAgain then some (⟨(Layouts.ofGroup saved).dimsOr name dims, content⟩ : Field)
      else none) =
      if isKept then some ⟨layouts.dimsOr name dims, content⟩ else none := by
  by_cases stays : isKept
  · rw [if_pos stays] at filed
    rw [if_pos stays, if_pos (same.mpr stays), Layouts.dimsOr_ofGroup, filed]
    rfl
  · rw [if_neg stays, if_neg (mt same.mp stays)]

def givenField (layouts : Layouts) (name : String) (dims : List String) (values : List Float) :
    Option Field :=
  if ¬values.isEmpty then some (layouts.fieldFor name dims values) else none

/-- Counts and texts have a single form. -/
def plainField (layouts : Layouts) (name : String) (dims : List String) (content : Values) :
    Option Field :=
  if ¬content.size = 0 then some ⟨layouts.dimsOr name dims, content⟩ else none

theorem ite_putDoubles (group : Group) (layouts : Layouts) (name : String) (dims : List String)
    (values : List Float) :
    (if values.isEmpty then group else layouts.putDoubles group name dims values) =
      group.fill name (givenField layouts name dims values) := by
  cases group
  cases values <;> rfl

theorem ite_putCounts (group : Group) (layouts : Layouts) (name : String) (dims : List String)
    (values : List Nat) :
    (if values.isEmpty then group else group.putCounts name (layouts.dimsOr name dims) values) =
      group.fill name (plainField layouts name dims (.counts values)) := by
  cases group
  cases values <;> rfl

theorem ite_putTexts (group : Group) (layouts : Layouts) (name : String) (dims : List String)
    (values : List String) :
    (if values.isEmpty then group else group.putTexts name (layouts.dimsOr name dims) values) =
      group.fill name (plainField layouts name dims (.texts values)) := by
  cases group
  cases values <;> rfl

/-- What stands under a name; without an array the content is empty. -/
def Lists (group : Group) (name : String) (content : Values) : Prop :=
  group.field? name = none ∧ content.size = 0 ∨
    (group.field? name).map Field.values = some content

variable {dims : List String} {content : Values} {layouts : Layouts}

theorem counts?_getD {values : List Nat} :
    (∃ given, group.counts? name = .ok given ∧ given.getD [] = values) ↔
      group.Lists name (.counts values) := by
  rcases found : group.field? name with _ | ⟨dims, _ | _ | _⟩ <;>
    simp [counts?, Lists, found, Values.size, eq_comm]

theorem texts?_getD {values : List String} :
    (∃ given, group.texts? name = .ok given ∧ given.getD [] = values) ↔
      group.Lists name (.texts values) := by
  rcases found : group.field? name with _ | ⟨dims, _ | _ | _⟩ <;>
    simp [texts?, Lists, found, Values.size, eq_comm]

theorem Gives.isSome_of_givenField (gives : group.Gives name complete values)
    (written : (givenField layouts name dims values).isSome) : (group.field? name).isSome := by
  refine gives.isSome_field? ?_
  rintro rfl
  cases written

theorem Gives.given_again (gives : group.Gives name complete values)
    (completes : IsCompletion complete)
    (filed : saved.field? name = givenField (Layouts.ofGroup group) name dims values) :
    saved.Gives name complete values :=
  gives.again completes filed (fun given => gives.isSome_field? (by simpa using given)) (by simp)

theorem givenField_again (filed : saved.field? name = givenField layouts name dims values) :
    givenField (Layouts.ofGroup saved) name dims values = givenField layouts name dims values :=
  fieldFor_again filed Iff.rfl

theorem Lists.isSome_of_plainField (lists : group.Lists name content)
    (written : (plainField layouts name dims content).isSome) : (group.field? name).isSome := by
  rcases lists with ⟨-, empty⟩ | found
  · simp [plainField, empty] at written
  · exact Option.isSome_map.symm.trans (Option.isSome_of_eq_some found)

theorem lists_again (filed : saved.field? name = plainField layouts name dims content) :
    saved.Lists name content := by
  unfold plainField at filed
  split at filed
  · exact .inr (by rw [filed]; rfl)
  · rename_i empty
    exact .inl ⟨filed, not_not.mp empty⟩

theorem plainField_again (filed : saved.field? name = plainField layouts name dims content) :
    plainField (Layouts.ofGroup saved) name dims content =
      plainField layouts name dims content :=
  dimsOr_again filed Iff.rfl

end Group

end Dispatch
