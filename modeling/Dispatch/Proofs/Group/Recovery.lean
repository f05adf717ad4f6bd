import Dispatch.Proofs.Change.Laws
import Dispatch.Proofs.Group.Forms
import Dispatch.Proofs.Number.Alike

namespace Dispatch

/-! Arrays that were changed since they were read. Whatever form an array takes on file, what is
read from it repeats to the values that were written, up to the sign of a zero, and is written
once more in the form that it has. -/

theorem forall₂_alike_refl (values : List Float) : List.Forall₂ Alike values values :=
  List.forall₂_same.mpr fun value _ => Alike.refl value

theorem forall₂_replicate {α : Type} {relation : α → α → Prop} {copy : α} {values : List α}
    (close : ∀ value ∈ values, relation copy value) :
    List.Forall₂ relation (List.replicate values.length copy) values := by
  induction values with
  | nil => exact .nil
  | cons value rest induction =>
      exact .cons (close value List.mem_cons_self)
        (induction fun later member => close later (List.mem_cons_of_mem _ member))

theorem forall₂_stretch {α : Type} {relation : α → α → Prop} {left right : List α}
    (close : List.Forall₂ relation left right) (count : Nat) :
    List.Forall₂ relation (stretch count left) (stretch count right) := by
  induction close with
  | nil => exact .nil
  | @cons copy value _ _ here _ induction =>
      rw [stretch_cons, stretch_cons]
      refine List.rel_append ?_ induction
      have copies : ∀ other ∈ List.replicate count value, relation copy other :=
        fun other member => (List.eq_of_mem_replicate member).symm ▸ here
      simpa using forall₂_replicate copies

section Runs

variable {K : Type} [Scalar K]

/-- Whole pieces that are runs are repetitions of their first values. -/
theorem forall₂_heads {size : Nat} {values : List K} (whole : size ∣ values.length)
    (runs : (pieces size values).all isRun = true) (positive : 0 < size) :
    List.Forall₂ (fun copy value => (value == copy) = true)
      (stretch size (heads size values)) values := by
  fun_induction pieces size values with
  | case1 => omega
  | case2 =>
      obtain ⟨size, rfl⟩ := Nat.exists_eq_succ_of_ne_zero positive.ne'
      simp [heads, pieces, stretch]
  | case3 size first rest induction =>
      rw [List.all_cons, Bool.and_eq_true] at runs
      obtain ⟨run, later⟩ := runs
      have long : size ≤ rest.length :=
        Nat.le_of_succ_le_succ (Nat.le_of_dvd (Nat.zero_lt_succ _) whole)
      have further : size + 1 ∣ (rest.drop size).length := by
        have split : (first :: rest).length = (rest.drop size).length + (size + 1) := by
          rw [List.length_cons, List.length_drop]
          omega
        rw [split] at whole
        exact (Nat.dvd_add_left (Nat.dvd_refl _)).mp whole
      have heads_cons : heads (size + 1) (first :: rest) =
          first :: heads (size + 1) (rest.drop size) := by
        rw [heads, pieces]
        rfl
      have piece : List.Forall₂ (fun copy value => (value == copy) = true)
          (List.replicate (size + 1) first) (first :: rest.take size) := by
        have length : (first :: rest.take size).length = size + 1 := by
          rw [List.length_cons, List.length_take, Nat.min_eq_left long]
        rw [← length]
        exact forall₂_replicate fun value member => List.all_eq_true.mp run value member
      rw [heads_cons, stretch_cons, ← List.take_append_drop size rest, ← List.cons_append,
        List.take_append_drop]
      exact List.rel_append piece (induction further later positive)

theorem compact?_runs {values short : List K} {size : Nat}
    (found : compact? values size = some short) :
    short = values ∨ ∃ count, 0 < count ∧
      List.Forall₂ (fun copy value => (value == copy) = true) (stretch count short) values := by
  rcases compact?_cases found with ⟨same, -⟩ | ⟨count, positive, whole, runs, rfl⟩
  · exact .inl same
  · have divides : count ∣ values.length := ⟨size, whole.trans (Nat.mul_comm _ _)⟩
    exact .inr ⟨count, positive, forall₂_heads divides runs positive⟩

omit [Scalar K] in
theorem pieces_stretch {count : Nat} (positive : 0 < count) (values : List K) :
    pieces count (stretch count values) = values.map (List.replicate count) := by
  induction values with
  | nil =>
      obtain ⟨count, rfl⟩ := Nat.exists_eq_succ_of_ne_zero positive.ne'
      simp [pieces, stretch]
  | cons value rest induction =>
      rw [stretch_cons, pieces_append positive List.length_replicate, induction, List.map_cons]

/-- What was repeated is found again, if it makes runs. -/
theorem compact?_stretched {count : Nat} (positive : 0 < count) {values : List K}
    (numbers : count = 1 ∨ ∀ value ∈ values, (value == value) = true) :
    compact? (stretch count values) values.length = some values := by
  by_cases single : count = 1
  · rw [single, stretch_one, compact?_self]
  rcases Nat.eq_zero_or_pos values.length with empty | given
  · rw [List.eq_nil_of_length_eq_zero empty]
    rfl
  have shorter : values.length ≠ (stretch count values).length := by
    rw [length_stretch]
    intro same
    exact single (Nat.eq_of_mul_eq_mul_left given (same.symm.trans (Nat.mul_one _).symm))
  have runs : (pieces count (stretch count values)).all isRun = true := by
    rw [pieces_stretch positive, List.all_map]
    refine List.all_eq_true.mpr fun value member => ?_
    obtain ⟨count, rfl⟩ := Nat.exists_eq_succ_of_ne_zero positive.ne'
    exact List.all_eq_true.mpr fun copy copied =>
      List.eq_of_mem_replicate copied ▸ numbers.resolve_left single value member
  rw [compact?_of_runs positive (length_stretch count values) shorter runs,
    heads_stretch positive]

end Runs

/-- Repeating the given values gives the values back, and more than once only where they are
numbers. -/
structure Expands (count : Nat) (given values : List Float) : Prop where
  positive : 0 < count
  repeats : List.Forall₂ Alike (stretch count given) values
  numbers : count = 1 ∨ ∀ value ∈ given, value.isNaN = false

namespace Expands

variable {count : Nat} {given values : List Float}

theorem refl (values : List Float) : Expands 1 values values :=
  ⟨Nat.one_pos, by simpa [stretch_one] using forall₂_alike_refl values, .inl rfl⟩

theorem ofRuns (positive : 0 < count)
    (runs : List.Forall₂ (fun copy value => (value == copy) = true) (stretch count given) values) :
    Expands count given values := by
  refine ⟨positive, runs.imp fun _ _ same => .inl (Float.beq_comm _ _ ▸ same), .inr ?_⟩
  intro value member
  have repeated : value ∈ stretch count given :=
    List.mem_flatMap.mpr ⟨value, member, List.mem_replicate.mpr ⟨positive.ne', rfl⟩⟩
  obtain ⟨other, -, same⟩ := Change.mem_of_forall₂ runs.flip repeated
  exact (Float.isNaN_of_beq same).2

theorem ofCompact? {short : List Float} {size : Nat} (found : compact? values size = some short) :
    ∃ count, Expands count short values := by
  rcases compact?_runs found with rfl | ⟨count, positive, runs⟩
  · exact ⟨1, refl _⟩
  · exact ⟨count, ofRuns positive runs⟩

theorem congr {other : List Float} (expands : Expands count given values)
    (close : List.Forall₂ Alike other given) : Expands count other values where
  positive := expands.positive
  repeats := Change.forall₂_trans (fun _ _ _ early late => early.trans late)
    (forall₂_stretch close count) expands.repeats
  numbers := expands.numbers.imp_right fun numbers value member => by
    obtain ⟨kept, listed, alike⟩ := Change.mem_of_forall₂ close.flip member
    exact Alike.isNaN_eq alike ▸ numbers kept listed

theorem length (expands : Expands count given values) :
    values.length = given.length * count := by
  rw [← expands.repeats.length_eq, length_stretch]

theorem stretch_self (expands : Expands count given values)
    (full : given.length = values.length) : stretch count given = given :=
  Dispatch.stretch_self (expands.length.symm.trans full.symm)

theorem broadcast (expands : Expands count given values) {size : Nat}
    (full : values.length = size) (form : given.length = 1 ∨ given.length = size)
    (what : String) : broadcast given size what = .ok (stretch count given) :=
  broadcast_eq_stretch (expands.length.symm.trans full) form what

theorem expand (expands : Expands count given values) {members horizon : Nat}
    (full : values.length = members * horizon)
    (form : given.length = 1 ∨ given.length = members ∨ given.length = members * horizon)
    (what : String) : expand given members horizon what = .ok (stretch count given) :=
  expand_eq_stretch (expands.length.symm.trans full) form what

end Expands

/-- A single value has only one form. -/
theorem Expands.single {count : Nat} {given : List Float} {value : Float}
    (expands : Expands count given [value]) :
    ∃ other, given = [other] ∧ stretch count given = [other] ∧ Alike other value := by
  obtain ⟨one, rfl⟩ := mul_eq_one.mp expands.length.symm
  obtain ⟨other, rfl⟩ := List.length_eq_one_iff.mp one
  have repeats := expands.repeats
  rw [stretch_one] at repeats
  exact ⟨other, rfl, stretch_one _, (List.forall₂_cons.mp repeats).1⟩

theorem alike_getD {left right : List Float} (close : List.Forall₂ Alike left right) (index : Nat)
    (default : Float) : Alike (left.getD index default) (right.getD index default) := by
  induction close generalizing index with
  | nil => exact .refl _
  | cons here _ induction =>
      cases index with
      | zero => exact here
      | succ index => exact induction index

namespace Layouts

theorem widened_countOf_eq (value : Float) :
    Group.widened (countOf value) = Float.wholePart value := by
  simp [Group.widened, countOf, Float.wholePart]

theorem countOf_widened {value : Float} (whole : Float.isCount value = true)
    (storable : Storable value) : countOf (Group.widened (countOf value)) = countOf value := by
  rw [widened_countOf_eq, countOf, countOf, toUInt64_congr (storable whole)]

/-- The values in the form in which they are written. -/
def shortened (layouts : Layouts) (name : String) (values : List Float) : List Float :=
  ((layouts.layout? name).bind fun layout => compact? values layout.size).getD values

variable {layouts : Layouts} {name : String} {dims : List String} {values : List Float}

theorem fieldFor_values (layouts : Layouts) (name : String) (dims : List String)
    (values : List Float) :
    (layouts.fieldFor name dims values).values = .doubles (layouts.shortened name values) ∨
      (∃ layout, layouts.layout? name = some layout ∧ layout.isCounts = true) ∧
        (layouts.shortened name values).all Float.isCount = true ∧
        (layouts.fieldFor name dims values).values =
          .counts ((layouts.shortened name values).map countOf) := by
  unfold fieldFor shortened
  cases found : layouts.layout? name with
  | none => exact .inl rfl
  | some layout =>
      rw [Option.bind_some]
      cases fits : compact? values layout.size with
      | none => exact .inl (by simp [fits])
      | some short =>
          by_cases counted : layout.isCounts && short.all Float.isCount
          · simp only [Bool.and_eq_true] at counted
            exact .inr ⟨⟨layout, rfl, counted.1⟩, counted.2, by simp [fits, counted]⟩
          · exact .inl (by simp [fits, counted])

theorem shortened_cases (layouts : Layouts) (name : String) (values : List Float) :
    layouts.shortened name values = values ∨ ∃ layout, layouts.layout? name = some layout ∧
      compact? values layout.size = some (layouts.shortened name values) := by
  unfold shortened
  cases layouts.layout? name with
  | none => exact .inl rfl
  | some layout =>
      rw [Option.bind_some]
      cases fits : compact? values layout.size with
      | none => exact .inl rfl
      | some short => exact .inr ⟨layout, rfl, fits⟩

theorem expands_shortened (layouts : Layouts) (name : String) (values : List Float) :
    ∃ count, Expands count (layouts.shortened name values) values := by
  rcases layouts.shortened_cases name values with same | ⟨layout, -, fits⟩
  · rw [same]
    exact ⟨1, .refl values⟩
  · exact Expands.ofCompact? fits

theorem mem_of_shortened {value : Float} (member : value ∈ layouts.shortened name values) :
    value ∈ values := by
  rcases layouts.shortened_cases name values with same | ⟨layout, -, fits⟩
  · rwa [same] at member
  · exact mem_of_compact? fits member

end Layouts

/-- A field holds values, and none of its counts changes when it is read and written again. -/
def Field.Holds (field : Field) (given : List Float) : Prop :=
  field.values = .doubles given ∨ ∃ counts, field.values = .counts counts ∧
    given = counts.map Group.widened ∧
    ∀ count ∈ counts, Layouts.countOf (Group.widened count) = count

namespace Field.Holds

variable {field : Field} {given : List Float} {saved : Group} {name : String}

theorem read (holds : field.Holds given) (filed : saved.field? name = some field) :
    saved.doubles? name = .ok (some given) := by
  refine Group.doubles?_eq_some.mpr ⟨field, filed, ?_⟩
  rcases holds with doubles | ⟨counts, kind, same, -⟩
  · exact .inl doubles
  · exact .inr ⟨counts, kind, same⟩

theorem size (holds : field.Holds given) : field.size = given.length := by
  rcases holds with doubles | ⟨counts, kind, same, -⟩
  · rw [Field.size, doubles, Values.size]
  · rw [Field.size, kind, Values.size, same, List.length_map]

/-- Values that are repeated take the form that they were read in. -/
theorem fieldFor_again (holds : field.Holds given) (filed : saved.field? name = some field)
    {count : Nat} {values : List Float} (expands : Expands count given values)
    (dims : List String) :
    (Layouts.ofGroup saved).fieldFor name dims (stretch count given) = field := by
  have layout := (Layouts.layout?_ofGroup saved name).trans
    (congrArg (Option.map Field.layout) filed)
  have fits : compact? (stretch count given) field.layout.size = some given := by
    rw [Field.layout, holds.size]
    exact compact?_stretched expands.positive
      (expands.numbers.imp_right fun numbers value member => Float.beq_self (numbers value member))
  unfold Layouts.fieldFor
  rw [layout]
  simp only [Option.map_some, fits]
  obtain ⟨fieldDims, values⟩ := field
  rcases holds with doubles | ⟨counts, kind, same, steady⟩
  · cases doubles
    rfl
  · cases kind
    have whole : given.all Float.isCount = true := by
      rw [same, List.all_map]
      exact List.all_eq_true.mpr fun count _ => isCount_toFloat _
    have back : given.map Layouts.countOf = counts := by
      rw [same, List.map_map]
      exact (List.map_congr_left steady).trans (List.map_id' counts)
    simp only [Field.layout, Values.isCounts, whole, Bool.and_self, if_true, back]

end Field.Holds

namespace Layouts

variable {layouts : Layouts} {name : String} {values : List Float}

/-- What is written holds the short form of the values, up to the sign of a zero. -/
theorem holds_fieldFor (dims : List String)
    (storable : ∀ layout, layouts.layout? name = some layout →
      layout.isCounts = true → ∀ value ∈ values, Storable value) :
    ∃ given, (layouts.fieldFor name dims values).Holds given ∧
      List.Forall₂ Alike given (layouts.shortened name values) := by
  rcases layouts.fieldFor_values name dims values with
    doubles | ⟨⟨layout, found, counted⟩, whole, counts⟩
  · exact ⟨_, .inl doubles, forall₂_alike_refl _⟩
  have steady (value : Float) (member : value ∈ layouts.shortened name values) :=
    storable layout found counted value (mem_of_shortened member)
  rw [List.all_eq_true] at whole
  refine ⟨_, .inr ⟨_, counts, rfl, fun count member => ?_⟩, ?_⟩
  · obtain ⟨value, listed, rfl⟩ := List.mem_map.mp member
    exact countOf_widened (whole value listed) (steady value listed)
  · rw [List.map_map, List.forall₂_map_left_iff]
    refine List.forall₂_same.mpr fun value member => .inl ?_
    rw [Function.comp_apply, widened_countOf_eq]
    exact steady value member (whole value member)

theorem recovers_fieldFor (dims : List String)
    (storable : ∀ layout, layouts.layout? name = some layout →
      layout.isCounts = true → ∀ value ∈ values, Storable value) :
    ∃ given count, (layouts.fieldFor name dims values).Holds given ∧
      Expands count given values ∧ given.length = (layouts.shortened name values).length := by
  obtain ⟨given, holds, close⟩ := holds_fieldFor dims storable
  obtain ⟨count, expands⟩ := layouts.expands_shortened name values
  exact ⟨given, count, holds, expands.congr close, close.length_eq⟩

/-- What is written without repetitions is given back. -/
theorem restored_whole {saved : Group}
    (whole : (layouts.shortened name values).length = values.length)
    (moderate : ∀ value ∈ values, IsModerate value) {dims : List String}
    (filed : saved.field? name = some (layouts.fieldFor name dims values)) :
    ∃ given, saved.doubles? name = .ok (some given) ∧ List.Forall₂ Alike given values := by
  obtain ⟨given, count, holds, expands, length⟩ := recovers_fieldFor dims
    fun (layout : Layout) (_ : layouts.layout? name = some layout) _ value member =>
      (moderate value member).storable
  have repeats := expands.repeats
  rw [expands.stretch_self (length.trans whole)] at repeats
  exact ⟨given, holds.read filed, repeats⟩

/-- The form in which values are written can be completed to this many. -/
def Fits (layouts : Layouts) (name : String) (values : List Float) (size : Nat) : Prop :=
  (layouts.shortened name values).length = 1 ∨ (layouts.shortened name values).length = size

/-- What is written in a form that can be completed is given back. -/
theorem Fits.restored {saved : Group} {size : Nat} (fits : layouts.Fits name values size)
    (full : values.length = size) (moderate : ∀ value ∈ values, IsModerate value)
    {dims : List String} (filed : saved.field? name = some (layouts.fieldFor name dims values)) :
    ∃ given restored, saved.doubles? name = .ok (some given) ∧
      broadcast given size name = .ok restored ∧ List.Forall₂ Alike restored values := by
  obtain ⟨given, count, holds, expands, length⟩ := recovers_fieldFor dims
    fun (layout : Layout) (_ : layouts.layout? name = some layout) _ value member =>
      (moderate value member).storable
  exact ⟨given, _, holds.read filed, expands.broadcast full (length ▸ fits) name,
    expands.repeats⟩

/-- A value that is left out at its default. -/
def singleField (layouts : Layouts) (name : String) (default value : Float) : Option Field :=
  if value != default || layouts.hasField name then some (layouts.fieldFor name [] [value])
  else .none

theorem restored_single {saved : Group} {default value : Float} (storable : Storable value)
    (filed : saved.field? name = layouts.singleField name default value) :
    ∃ given restored, saved.doubles? name = .ok given ∧
      restored = (given.bind List.head?).getD default ∧ Alike restored value ∧
      (ofGroup saved).singleField name default restored =
        layouts.singleField name default value := by
  unfold singleField at filed
  by_cases written : value != default || layouts.hasField name
  · rw [if_pos written] at filed
    obtain ⟨given, count, holds, expands, -⟩ := recovers_fieldFor []
      fun (layout : Layout) (_ : layouts.layout? name = some layout) _ other
        (member : other ∈ [value]) => List.mem_singleton.mp member ▸ storable
    obtain ⟨restored, rfl, single, alike⟩ := expands.single
    refine ⟨_, restored, holds.read filed, rfl, alike, ?_⟩
    have kept := holds.fieldFor_again filed expands []
    rw [single] at kept
    unfold singleField
    rw [if_pos written, hasField_ofGroup, filed, Option.isSome_some, Bool.or_true, if_pos rfl, kept]
  · rw [if_neg written] at filed
    simp only [Bool.or_eq_true, not_or, bne, Bool.not_eq_true, Bool.not_eq_false'] at written
    refine ⟨.none, default, Group.doubles?_eq_none.mpr filed, rfl, .symm (.inl written.1), ?_⟩
    unfold singleField
    rw [hasField_ofGroup, filed, bne, bne, written.1, written.2,
      Float.beq_self (Float.isNaN_of_beq written.1).2]
    rfl

end Layouts

theorem broadcast_form {given values : List Float} {size : Nat} {what : String}
    (filled : broadcast given size what = .ok values) : given.length = 1 ∨ given.length = size := by
  unfold broadcast at filled
  split at filled
  · exact .inr ‹_›
  · split at filled
    · exact .inl rfl
    · cases filled

theorem expand_form {given values : List Float} {members horizon : Nat} {what : String}
    (expanded : expand given members horizon what = .ok values) :
    given.length = 1 ∨ given.length = members ∨ given.length = members * horizon := by
  unfold expand at expanded
  split at expanded
  · exact .inl rfl
  · dsimp only at expanded
    split at expanded
    · exact .inr (.inr ‹_›)
    · split at expanded
      · exact .inr (.inl ‹_›)
      · cases expanded

/-- A layout remembers how many values an array was given as, and counts can be stored again. -/
theorem Group.doubles?_layout {group : Group} {name : String} {given : List Float}
    {layout : Layout} (read : group.doubles? name = .ok (some given))
    (listed : (Layouts.ofGroup group).layout? name = some layout) :
    layout.size = given.length ∧ (layout.isCounts = true → ∀ value ∈ given, Storable value) := by
  obtain ⟨field, found, kind⟩ := doubles?_eq_some.mp read
  rw [Layouts.layout?_ofGroup, found, Option.map_some, Option.some.injEq] at listed
  subst listed
  rcases kind with doubles | ⟨counts, kind, rfl⟩
  · refine ⟨by rw [Field.layout, Field.size, doubles, Values.size], fun counted => ?_⟩
    rw [Field.layout, doubles] at counted
    cases counted
  · refine ⟨by rw [Field.layout, Field.size, kind, Values.size, List.length_map], ?_⟩
    intro _ value member
    obtain ⟨count, -, rfl⟩ := List.mem_map.mp member
    exact storable_toFloat _

end Dispatch
