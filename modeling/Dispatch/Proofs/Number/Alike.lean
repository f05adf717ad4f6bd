import Dispatch.Proofs.Number.Counts
import Dispatch.Proofs.Number.Order

namespace Dispatch

/-! Doubles that a file does not tell apart, and doubles that stand for counts of 64 bits. Below
`2 ^ 64` a double without fraction is the double of its count. -/

open Float.Model

/-- Equal as numbers, or both not a number. -/
def Alike (left right : Float) : Prop :=
  (left == right) = true ∨ left.isNaN = true ∧ right.isNaN = true

namespace Alike

variable {left right third : Float}

theorem refl (value : Float) : Alike value value := by
  by_cases number : value.isNaN
  · exact .inr ⟨number, number⟩
  · exact .inl (Float.beq_self (by simpa using number))

theorem symm (alike : Alike left right) : Alike right left :=
  alike.imp (fun same => Float.beq_comm left right ▸ same) And.symm

theorem trans (first : Alike left right) (second : Alike right third) : Alike left third := by
  rcases first with same | ⟨none, middle⟩
  · rcases second with later | ⟨middle, none⟩
    · exact .inl (Float.beq_trans same later)
    · exact absurd middle (Bool.not_eq_true _ ▸ (Float.isNaN_of_beq same).2)
  · rcases second with later | ⟨-, last⟩
    · exact absurd middle (Bool.not_eq_true _ ▸ (Float.isNaN_of_beq later).1)
    · exact .inr ⟨none, last⟩

theorem isNaN_eq (alike : Alike left right) : left.isNaN = right.isNaN := by
  rcases alike with same | ⟨none, other⟩
  · rw [(Float.isNaN_of_beq same).1, (Float.isNaN_of_beq same).2]
  · rw [none, other]

end Alike

theorem unpack_finite {value : Float} {sign : UnpackedFloat.Sign} {mantissa : Nat}
    {exponent : Int} {positive : 0 < mantissa}
    (unpacked : value.toModel.unpack = .finite sign mantissa exponent positive) :
    IsSignificand mantissa ∨ mantissa < 2 ^ 52 ∧ exponent = -1074 := by
  unfold Float.Model.unpack UnpackedFloat.unpack at unpacked
  dsimp only at unpacked
  split at unpacked
  · split at unpacked <;> cases unpacked
  · split at unpacked
    · rename_i least
      split at unpacked
      · cases unpacked
      · cases unpacked
        refine .inr ⟨BitVec.isLt _, ?_⟩
        rw [least]
        rfl
    · cases unpacked
      refine .inl ⟨?_, ?_⟩
      · rw [append_leading_bit]
        exact Nat.le_add_right _ _
      · exact BitVec.isLt _

def countLimit : Float := Float.ofBits 0x43F0000000000000

theorem unpack_wholeFrom :
    wholeFrom.toModel.unpack = .finite .positive (2 ^ 52) 0 (Nat.two_pow_pos 52) := by
  rfl

theorem unpack_countLimit :
    countLimit.toModel.unpack = .finite .positive (2 ^ 52) 12 (Nat.two_pow_pos 52) := by
  rfl

theorem compare_finite_lt {mantissa mantissa' : Nat} {exponent exponent' : Int}
    {positive : 0 < mantissa} {positive' : 0 < mantissa'}
    (less : UnpackedFloat.compare (.finite .positive mantissa exponent positive)
      (.finite .positive mantissa' exponent' positive') = some .lt) :
    exponent < exponent' ∨ exponent = exponent' ∧ mantissa < mantissa' := by
  simpa [UnpackedFloat.compare, Ordering.then_eq_lt, Int.compare_eq_lt, Nat.compare_eq_lt]
    using less

/-- A double in the range of counts that is too large for a fraction. -/
theorem unpack_large {value : Float} (large : wholeFrom ≤ value) (bounded : value < countLimit) :
    ∃ (mantissa shift : Nat) (full : IsSignificand mantissa), shift < 12 ∧
      value.toModel.unpack = .finite .positive mantissa shift full.pos := by
  have upper := Float.lt_iff.mp bounded
  have lower : Float.order? wholeFrom value = some .lt ∨
      Float.order? wholeFrom value = some .eq := by
    rwa [Float.le_iff, Float.lt_iff, Float.beq_iff] at large
  rw [Float.order?, unpack_wholeFrom] at lower
  rw [Float.order?, unpack_countLimit] at upper
  have shape := @unpack_finite value
  generalize value.toModel.unpack = parts at lower upper shape
  cases parts with
  | notANumber => simp [UnpackedFloat.compare] at lower
  | zero sign => simp [UnpackedFloat.compare] at lower
  | infinity sign =>
      cases sign with
      | positive => simp [UnpackedFloat.compare] at upper
      | negative => simp [UnpackedFloat.compare] at lower
  | finite sign mantissa exponent positive =>
      cases sign with
      | negative => simp [UnpackedFloat.compare] at lower
      | positive =>
          have above := compare_finite_lt upper
          have below : 0 ≤ exponent := by
            rcases lower with less | same
            · have := compare_finite_lt less
              omega
            · simp [UnpackedFloat.compare, Ordering.then_eq_eq] at same
              omega
          rcases shape rfl with full | ⟨-, least⟩
          · have := full.lower
            obtain ⟨shift, rfl⟩ := Int.eq_ofNat_of_zero_le below
            exact ⟨mantissa, shift, full, by omega, rfl⟩
          · omega

/-- Nothing is rounded on the way to the count and back. -/
theorem unpack_wholePart {value : Float} {mantissa shift : Nat} (full : IsSignificand mantissa)
    (bounded : shift < 12)
    (unpacked : value.toModel.unpack = .finite .positive mantissa shift full.pos) :
    (Float.wholePart value).toModel.unpack = .finite .positive mantissa shift full.pos := by
  have fits : mantissa * 2 ^ shift < UInt64.size :=
    calc mantissa * 2 ^ shift
      _ < 2 ^ 53 * 2 ^ 11 := Nat.mul_lt_mul_of_lt_of_le full.upper
          (Nat.pow_le_pow_right (by decide) (by omega)) (by decide)
      _ = UInt64.size := by rfl
  have counted : value.toUInt64 = UInt64.ofNatClamp (mantissa * 2 ^ shift) := by
    simp only [Float.toUInt64, Float.Model.toUInt64, unpacked, UnpackedFloat.toUInt64,
      UnpackedFloat.toInt, roundToInt_scaled, Int.toNat_natCast]
  have kept := UInt64.toNat_ofNatClamp_of_lt fits
  have present : 0 < (UInt64.ofNatClamp (mantissa * 2 ^ shift)).toNat := by
    rw [kept]
    exact Nat.mul_pos full.pos (Nat.two_pow_pos shift)
  have rounded : IsRounded mantissa shift := ⟨full, by omega, by omega, by omega⟩
  rw [Float.wholePart, counted, toFloat_eq present, kept, round_scaled full]
  exact unpack_pack rounded

/-- Below `2 ^ 64` a double without fraction is the double of its count. -/
theorem wholePart_beq {value : Float} (whole : Float.isCount value = true)
    (bounded : value < countLimit) : (Float.wholePart value == value) = true := by
  simp only [Float.isCount, Bool.and_eq_true, Bool.or_eq_true, decide_eq_true_eq] at whole
  rcases whole.2 with large | same
  · obtain ⟨mantissa, shift, full, short, unpacked⟩ := unpack_large large bounded
    rw [Float.beq_iff, Float.order?, unpack_wholePart full short unpacked, unpacked,
      Unpacked.compare_eq_eq]
    exact .inl ⟨rfl, rfl⟩
  · exact same

/-- What a count was rounded to is not negative. -/
theorem unpack_toFloat (count : UInt64) :
    count.toFloat.toModel.unpack = .zero .positive ∨ ∃ mantissa exponent positive,
      count.toFloat.toModel.unpack = .finite .positive mantissa exponent positive := by
  rcases Nat.eq_zero_or_pos count.toNat with zero | positive
  · obtain rfl : count = 0 := UInt64.toNat_inj.mp zero
    exact .inl rfl
  rcases Nat.lt_or_ge count.toNat (2 ^ 53) with small | large
  · have rounded : IsRounded (count.toNat * 2 ^ (52 - count.toNat.log2))
        (-(52 - count.toNat.log2 : Nat)) :=
      ⟨.ofSmall positive small, by omega, by omega, by omega⟩
    rw [toFloat_eq positive, round_small positive small]
    exact .inr ⟨_, _, _, unpack_pack rounded⟩
  · obtain ⟨mantissa, shift, rounded, equal⟩ := round_large large count.toNat_lt
    rw [toFloat_eq positive, equal]
    exact .inr ⟨_, _, _, unpack_pack rounded⟩

theorem isCount_toFloat (count : UInt64) : Float.isCount count.toFloat = true := by
  have kept : Float.wholePart count.toFloat = count.toFloat := toFloat_toUInt64_toFloat count
  have finite : count.toFloat.isFinite = true := by
    change count.toFloat.toModel.unpack.isFinite = true
    rcases unpack_toFloat count with zero | ⟨_, _, _, positive⟩
    · rw [zero]
      rfl
    · rw [positive]
      rfl
  have nonneg : 0 ≤ count.toFloat := by
    rw [Float.le_iff, Float.lt_iff, Float.beq_iff, Float.order?]
    rcases unpack_toFloat count with zero | ⟨_, _, _, positive⟩
    · rw [zero]
      exact .inr rfl
    · rw [positive]
      exact .inl rfl
  simp [Float.isCount, finite, nonneg, kept, Float.beq_self (Float.isNaN_of_isFinite finite)]

/-- Equal doubles have one count. -/
theorem toUInt64_congr {left right : Float} (same : (left == right) = true) :
    left.toUInt64 = right.toUInt64 := by
  rw [Float.beq_iff, Float.order?, Unpacked.compare_eq_eq] at same
  unfold Float.toUInt64 Float.Model.toUInt64
  rcases same with ⟨same, -⟩ | ⟨⟨_, left⟩, ⟨_, right⟩⟩
  · rw [same]
  · rw [left, right]
    rfl

/-- A value that the count it may be kept as gives back. -/
def Storable (value : Float) : Prop :=
  Float.isCount value = true → (Float.wholePart value == value) = true

/-- Finite values may not reach `2 ^ 64`; all others are no counts. -/
def IsModerate (value : Float) : Prop :=
  value.isFinite = true → value < countLimit

instance (value : Float) : Decidable (IsModerate value) :=
  inferInstanceAs (Decidable (_ → _))

theorem IsModerate.storable {value : Float} (bounded : IsModerate value) : Storable value := by
  intro whole
  refine wholePart_beq whole (bounded ?_)
  simp only [Float.isCount, Bool.and_eq_true] at whole
  exact whole.1.1

theorem storable_toFloat (count : UInt64) : Storable count.toFloat := by
  intro whole
  simp only [Float.isCount, Bool.and_eq_true] at whole
  rw [show Float.wholePart count.toFloat = count.toFloat from toFloat_toUInt64_toFloat count]
  exact Float.beq_self (Float.isNaN_of_isFinite whole.1.1)

end Dispatch
