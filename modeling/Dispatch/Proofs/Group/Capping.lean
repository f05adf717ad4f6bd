import Dispatch.Proofs.Group.Entries
import Dispatch.Proofs.Group.Recovery

namespace Dispatch

/-! Values that are put into a group and read from it again. What is read, each value repeated
equally often, gives the values back, unless they are kept as counts and one of them is above
`2 ^ 64`: no count stands for such a value, and the largest one is read as `2 ^ 64`. -/

open Float.Model

/-- The double that is read for a value that was kept as a count. -/
def capped (value : Float) : Float :=
  if countLimit < value then countLimit else value

theorem isNaN_countLimit : countLimit.isNaN = false := by rfl

theorem capped_beq_iff {value : Float} (number : value.isNaN = false) :
    (capped value == value) = true ↔ ¬countLimit < value := by
  unfold capped
  by_cases above : countLimit < value
  · rw [if_pos above]
    refine iff_of_false (fun same => ?_) (not_not_intro above)
    rw [Float.beq_iff, Float.lt_iff.mp above] at same
    cases same
  · rw [if_neg above]
    exact iff_of_true (Float.beq_self number) above

/-- Equal doubles are above the same doubles. -/
theorem Float.lt_congr {bound left right : Float} (same : (left == right) = true) :
    bound < left ↔ bound < right := by
  rw [Float.beq_iff, Float.order?, Unpacked.compare_eq_eq] at same
  rw [Float.lt_iff, Float.lt_iff, Float.order?, Float.order?]
  rcases same with ⟨same, -⟩ | ⟨⟨sign, left⟩, ⟨other, right⟩⟩
  · rw [same]
  · rw [left, right]
    rcases bound.toModel.unpack with ⟨_ | _⟩ | _ | _ | ⟨⟨_ | _⟩, _, _, _⟩ <;> rfl

theorem capped_congr {left right : Float} (same : (left == right) = true) :
    (capped left == capped right) = true := by
  unfold capped
  rw [if_congr (Float.lt_congr same) rfl rfl]
  split
  · exact Float.beq_self isNaN_countLimit
  · exact same

theorem unpack_above {value : Float} (finite : value.isFinite = true)
    (above : countLimit ≤ value) : ∃ (mantissa shift : Nat) (full : IsSignificand mantissa),
      12 ≤ shift ∧ value.toModel.unpack = .finite .positive mantissa shift full.pos := by
  have lower : Float.order? countLimit value = some .lt ∨
      Float.order? countLimit value = some .eq := by
    rwa [Float.le_iff, Float.lt_iff, Float.beq_iff] at above
  rw [Float.order?, unpack_countLimit] at lower
  change value.toModel.unpack.isFinite = true at finite
  have shape := @unpack_finite value
  generalize value.toModel.unpack = parts at lower finite shape
  cases parts with
  | notANumber => cases finite
  | infinity sign => cases finite
  | zero sign => simp [UnpackedFloat.compare] at lower
  | finite sign mantissa exponent positive =>
      cases sign with
      | negative => simp [UnpackedFloat.compare] at lower
      | positive =>
          have large : 12 ≤ exponent := by
            rcases lower with less | same
            · have := compare_finite_lt less
              omega
            · simp [UnpackedFloat.compare, Ordering.then_eq_eq] at same
              omega
          rcases shape rfl with full | ⟨-, least⟩
          · obtain ⟨shift, rfl⟩ := Int.eq_ofNat_of_zero_le (Int.le_trans (by decide) large)
            exact ⟨mantissa, shift, full, by omega, rfl⟩
          · omega

/-- The largest count is read as `2 ^ 64`. -/
theorem wholePart_above {value : Float} (finite : value.isFinite = true)
    (above : countLimit ≤ value) : Float.wholePart value = countLimit := by
  obtain ⟨mantissa, shift, full, large, unpacked⟩ := unpack_above finite above
  have exceeds : ¬mantissa * 2 ^ shift < UInt64.size := by
    have size : UInt64.size = 2 ^ 52 * 2 ^ 12 := by rfl
    rw [size, Nat.not_lt]
    exact Nat.mul_le_mul full.lower (Nat.pow_le_pow_right (by decide) large)
  have counted : value.toUInt64 = UInt64.ofNatClamp (mantissa * 2 ^ shift) := by
    simp only [Float.toUInt64, Float.Model.toUInt64, unpacked, UnpackedFloat.toUInt64,
      UnpackedFloat.toInt, roundToInt_scaled, Int.toNat_natCast]
  rw [Float.wholePart, counted, UInt64.ofNatClamp, dif_neg exceeds]
  rfl

theorem wholePart_beq_capped {value : Float} (whole : Float.isCount value = true) :
    (Float.wholePart value == capped value) = true := by
  have finite : value.isFinite = true := by
    simp only [Float.isCount, Bool.and_eq_true] at whole
    exact whole.1.1
  have number := Float.isNaN_of_isFinite finite
  unfold capped
  rcases Float.lt_trichotomy number isNaN_countLimit with below | same | above
  · rw [if_neg (Float.not_lt_of_le (Float.le_iff.mpr (.inl below)))]
    exact wholePart_beq whole below
  · have limit : (countLimit == value) = true := Float.beq_comm value countLimit ▸ same
    have atLeast : countLimit ≤ value := Float.le_iff.mpr (.inr limit)
    rw [if_neg (Float.not_lt_of_le (Float.le_iff.mpr (.inr same))),
      wholePart_above finite atLeast]
    exact limit
  · rw [if_pos above, wholePart_above finite (Float.le_iff.mpr (.inl above))]
    exact Float.beq_self isNaN_countLimit

theorem Group.field?_putDoubles (layouts : Layouts) (group : Group) (name : String)
    (dims : List String) (values : List Float) :
    (layouts.putDoubles group name dims values).field? name =
      some (layouts.fieldFor name dims values) :=
  (Sorted.get?_insert ..).trans (if_pos rfl)

namespace Layouts

variable {layouts : Layouts} {name : String} {values : List Float}

/-- Whether values are kept as counts. -/
def keepsCounts (layouts : Layouts) (name : String) (values : List Float) : Bool :=
  (layouts.layout? name).any fun layout => (compact? values layout.size).any fun short =>
    layout.isCounts && short.all Float.isCount

theorem values_fieldFor (layouts : Layouts) (name : String) (dims : List String)
    (values : List Float) :
    (layouts.fieldFor name dims values).values =
      if layouts.keepsCounts name values then
        .counts ((layouts.shortened name values).map countOf)
      else .doubles (layouts.shortened name values) := by
  unfold fieldFor keepsCounts shortened
  cases found : layouts.layout? name with
  | none => rfl
  | some layout =>
      rw [Option.bind_some, Option.any_some]
      cases fits : compact? values layout.size with
      | none => simp [fits]
      | some short => by_cases counted : layout.isCounts && short.all Float.isCount <;>
          simp [fits, counted]

theorem isCount_of_keepsCounts (kept : layouts.keepsCounts name values = true) :
    ∀ value ∈ layouts.shortened name values, Float.isCount value = true := by
  unfold keepsCounts at kept
  unfold shortened
  cases found : layouts.layout? name with
  | none =>
      rw [found] at kept
      cases kept
  | some layout =>
      rw [found, Option.any_some] at kept
      rw [Option.bind_some]
      cases fits : compact? values layout.size with
      | none =>
          rw [fits] at kept
          cases kept
      | some short =>
          rw [fits, Option.any_some, Bool.and_eq_true] at kept
          exact List.all_eq_true.mp kept.2

/-- What is read of values that were put into a group. -/
def kept (layouts : Layouts) (name : String) (values : List Float) : List Float :=
  if layouts.keepsCounts name values then
    (layouts.shortened name values).map Float.wholePart
  else layouts.shortened name values

theorem length_kept (layouts : Layouts) (name : String) (values : List Float) :
    (layouts.kept name values).length = (layouts.shortened name values).length := by
  unfold kept
  split
  · exact List.length_map _
  · rfl

theorem doubles?_putDoubles (layouts : Layouts) (group : Group) (name : String)
    (dims : List String) (values : List Float) :
    (layouts.putDoubles group name dims values).doubles? name =
      .ok (some (layouts.kept name values)) := by
  refine Group.doubles?_eq_some.mpr
    ⟨_, Group.field?_putDoubles layouts group name dims values, ?_⟩
  rw [values_fieldFor, kept]
  split
  · refine .inr ⟨_, rfl, ?_⟩
    rw [List.map_map]
    exact List.map_congr_left fun value _ => (widened_countOf_eq value).symm
  · exact .inl rfl

/-- The value that is read in the place of a given one. -/
def regained (layouts : Layouts) (name : String) (values : List Float) (value : Float) : Float :=
  if layouts.keepsCounts name values then capped value else value

theorem regained_congr (layouts : Layouts) (name : String) (values : List Float)
    {left right : Float} (same : (left == right) = true) :
    (layouts.regained name values left == layouts.regained name values right) = true := by
  unfold regained
  split
  · exact capped_congr same
  · exact same

/-- Evenly repeated, the short form of finite values gives them back. -/
theorem stretch_shortened (layouts : Layouts) (name : String)
    (finite : ∀ value ∈ values, value.isFinite = true) :
    ∃ count, 0 < count ∧ List.Forall₂ (fun copy value => (copy == value) = true)
      (stretch count (layouts.shortened name values)) values := by
  have full : List.Forall₂ (fun copy value => (copy == value) = true) (stretch 1 values)
      values := by
    rw [stretch_one]
    exact List.forall₂_same.mpr fun value member =>
      Float.beq_self (Float.isNaN_of_isFinite (finite value member))
  rcases layouts.shortened_cases name values with same | ⟨layout, -, fits⟩
  · rw [same]
    exact ⟨1, Nat.one_pos, full⟩
  · rcases compact?_runs fits with same | ⟨count, positive, runs⟩
    · rw [same]
      exact ⟨1, Nat.one_pos, full⟩
    · exact ⟨count, positive, runs.imp fun copy value same => Float.beq_comm value copy ▸ same⟩

theorem kept_regained (layouts : Layouts) (name : String)
    (finite : ∀ value ∈ values, value.isFinite = true) :
    List.Forall₂ (fun copy value => (copy == layouts.regained name values value) = true)
      (layouts.kept name values) (layouts.shortened name values) := by
  unfold kept regained
  split
  · rename_i counted
    rw [List.forall₂_map_left_iff]
    exact List.forall₂_same.mpr fun value member =>
      wholePart_beq_capped (isCount_of_keepsCounts counted value member)
  · exact List.forall₂_same.mpr fun value member =>
      Float.beq_self (Float.isNaN_of_isFinite (finite value (mem_of_shortened member)))

/-- What is read, repeated as often as it takes to have as many values as were given. -/
def spread (layouts : Layouts) (name : String) (values : List Float) : List Float :=
  stretch (values.length / (layouts.kept name values).length) (layouts.kept name values)

theorem stretch_quotient {given : List Float} {count size : Nat}
    (length : given.length * count = size) :
    stretch (size / given.length) given = stretch count given := by
  rcases Nat.eq_zero_or_pos given.length with none | some
  · rw [List.eq_nil_of_length_eq_zero none]
    rfl
  · rw [← length, Nat.mul_div_cancel_left count some]

theorem spread_regained (layouts : Layouts) (name : String)
    (finite : ∀ value ∈ values, value.isFinite = true) :
    List.Forall₂ (fun copy value => (copy == layouts.regained name values value) = true)
      (layouts.spread name values) values := by
  obtain ⟨count, -, repeats⟩ := stretch_shortened layouts name finite
  have length := repeats.length_eq
  rw [length_stretch, ← length_kept] at length
  have early : List.Forall₂ (fun copy value => (copy == value) = true)
      (stretch count (layouts.kept name values))
      ((stretch count (layouts.shortened name values)).map (layouts.regained name values)) :=
    List.forall₂_map_right_iff.mpr (forall₂_stretch (kept_regained layouts name finite) count)
  have late : List.Forall₂ (fun copy value => (copy == value) = true)
      ((stretch count (layouts.shortened name values)).map (layouts.regained name values))
      (values.map (layouts.regained name values)) := by
    rw [List.forall₂_map_left_iff, List.forall₂_map_right_iff]
    exact repeats.imp fun _ _ => regained_congr layouts name values
  rw [spread, stretch_quotient length, ← List.forall₂_map_right_iff
    (R := fun copy value : Float => (copy == value) = true)]
  refine Change.forall₂_trans ?_ early late
  exact fun _ _ _ => Float.beq_trans

theorem forall₂_beq_iff {change : Float → Float} {copies values : List Float}
    (close : List.Forall₂ (fun copy value => (copy == change value) = true) copies values) :
    List.Forall₂ (fun copy value => (copy == value) = true) copies values ↔
      ∀ value ∈ values, (change value == value) = true := by
  induction close with
  | nil => simp
  | @cons copy value _ _ here _ induction =>
      rw [List.forall₂_cons, List.forall_mem_cons, induction]
      refine and_congr_left fun _ => ⟨fun same => ?_, Float.beq_trans here⟩
      exact Float.beq_trans (Float.beq_comm copy (change value) ▸ here) same

/-- Values come back as they were given exactly if they are not kept as counts or none of them
is above all counts. -/
theorem spread_beq_iff (layouts : Layouts) (name : String)
    (finite : ∀ value ∈ values, value.isFinite = true) :
    List.Forall₂ (fun copy value => (copy == value) = true) (layouts.spread name values) values ↔
      (layouts.keepsCounts name values = true → ∀ value ∈ values, ¬countLimit < value) := by
  rw [forall₂_beq_iff (spread_regained layouts name finite)]
  unfold regained
  cases counted : layouts.keepsCounts name values with
  | true =>
      simp only [if_true, true_implies]
      exact forall₂_congr fun value member =>
        capped_beq_iff (Float.isNaN_of_isFinite (finite value member))
  | false =>
      simp only [Bool.false_eq_true, if_false, false_implies, iff_true]
      exact fun value member => Float.beq_self (Float.isNaN_of_isFinite (finite value member))

/-- Finite values that are put into a group, whatever form its layouts remember. -/
theorem doubles?_putDoubles_iff (layouts : Layouts) (group : Group) (name : String)
    (dims : List String) (finite : ∀ value ∈ values, value.isFinite = true) :
    ∃ given, (layouts.putDoubles group name dims values).doubles? name = .ok (some given) ∧
      (List.Forall₂ (fun copy value => (copy == value) = true)
          (stretch (values.length / given.length) given) values ↔
        (layouts.keepsCounts name values = true → ∀ value ∈ values, ¬countLimit < value)) :=
  ⟨_, doubles?_putDoubles layouts group name dims values, spread_beq_iff layouts name finite⟩

def countGroup : Group where
  dims := []
  fields := [("ConstantTerm", ⟨[], .counts [1]⟩)]
  groups := []

/-- A constant that was read as a count takes the value of the largest one. -/
theorem doubles?_putDoubles_beyond :
    (1e20 : Float).isFinite = true ∧
      ((ofGroup countGroup).putDoubles countGroup "ConstantTerm" [] [1e20]).doubles?
        "ConstantTerm" = .ok (some [countLimit]) ∧
      (countLimit == 1e20) = false := by
  refine ⟨by decide +kernel, ?_, by decide +kernel⟩
  rfl

end Layouts

end Dispatch
