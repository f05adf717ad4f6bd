import Dispatch.Proofs.Number.Alike
import Dispatch.Proofs.Transport.Basic

namespace Dispatch

/-! Doubles without the sign of a zero. No sum, difference or product lets the sign of a zero
through to anything but the sign of another zero, so that what is generated from alike data is
alike. -/

open Float.Model

namespace Unpacked

/-- A zero gets the positive sign. -/
def unsign : UnpackedFloat → UnpackedFloat
  | .zero _ => .zero .positive
  | .notANumber => .notANumber
  | .infinity sign => .infinity sign
  | .finite sign mantissa exponent positive => .finite sign mantissa exponent positive

variable {left right : UnpackedFloat}

theorem unsign_eq_unsign : unsign left = unsign right ↔
    left = right ∨ (∃ sign, left = .zero sign) ∧ ∃ sign, right = .zero sign := by
  cases left <;> cases right <;> simp [unsign]

theorem unsign_neg (value : UnpackedFloat) : unsign (unsign value).neg = unsign value.neg := by
  cases value <;> rfl

theorem unsign_beq (left right : UnpackedFloat) :
    (unsign left).beq (unsign right) = left.beq right := by
  have infinite (sign : UnpackedFloat.Sign) (other : UnpackedFloat) :
      (UnpackedFloat.infinity sign).beq (unsign other) =
        (UnpackedFloat.infinity sign).beq other := by
    cases sign <;> cases other <;> rfl
  have finite {sign : UnpackedFloat.Sign} {mantissa : Nat} {exponent : Int}
      {positive : 0 < mantissa} (other : UnpackedFloat) :
      (UnpackedFloat.finite sign mantissa exponent positive).beq (unsign other) =
        (UnpackedFloat.finite sign mantissa exponent positive).beq other := by
    cases sign <;> cases other <;> rfl
  cases left with
  | notANumber => cases right <;> rfl
  | infinity sign => exact infinite sign right
  | finite => exact finite right
  | zero sign =>
      cases right with
      | zero other => rfl
      | notANumber => rfl
      | infinity other => cases other <;> rfl
      | finite other => cases other <;> rfl

variable (spec : Format) (left right : UnpackedFloat)

theorem unsign_add : unsign (.add spec (unsign left) (unsign right)) =
    unsign (.add spec left right) := by
  cases left with
  | zero sign =>
      cases right with
      | zero other => cases sign <;> cases other <;> rfl
      | notANumber => rfl
      | infinity => rfl
      | finite => rfl
  | notANumber => cases right <;> rfl
  | infinity => cases right <;> rfl
  | finite => cases right <;> rfl

theorem unsign_sub : unsign (.sub spec (unsign left) (unsign right)) =
    unsign (.sub spec left right) := by
  cases left with
  | zero sign =>
      cases right with
      | zero other => cases sign <;> cases other <;> rfl
      | notANumber => rfl
      | infinity => rfl
      | finite => rfl
  | notANumber => cases right <;> rfl
  | infinity => cases right <;> rfl
  | finite => cases right <;> rfl

theorem unsign_mul : unsign (.mul spec (unsign left) (unsign right)) =
    unsign (.mul spec left right) := by
  cases left <;> cases right <;> rfl

end Unpacked

/-- What is left of a double without the sign of a zero. -/
structure Signless where
  parts : UnpackedFloat

namespace Signless

open Unpacked

def of (value : Float) : Signless :=
  ⟨unsign value.toModel.unpack⟩

/-- The double nearest to a result, without the sign of a zero. -/
def rounded (parts : UnpackedFloat) : Signless :=
  .of (.ofModel (.pack parts))

theorem rounded_congr {first second : UnpackedFloat} (same : unsign first = unsign second) :
    rounded first = rounded second := by
  have zero (sign : UnpackedFloat.Sign) : rounded (.zero sign) = ⟨.zero .positive⟩ := by
    cases sign <;> rfl
  rcases unsign_eq_unsign.mp same with equal | ⟨⟨sign, left⟩, ⟨other, right⟩⟩
  · rw [equal]
  · rw [left, right, zero, zero]

instance : Scalar Signless where
  zero := .of 0
  one := .of 1
  add left right := rounded (.add .binary64 left.parts right.parts)
  sub left right := rounded (.sub .binary64 left.parts right.parts)
  mul left right := rounded (.mul .binary64 left.parts right.parts)
  div left right := rounded (.div .binary64 left.parts right.parts)
  neg value := rounded value.parts.neg
  beq left right := left.parts.beq right.parts
  infinity := .of Scalar.infinity
  isFinite value := value.parts.isFinite
  below left right := left.parts.compare right.parts == some .lt
  magnitude value := .of (Scalar.magnitude (.ofModel (.pack value.parts) : Float))
  nearest value := .of (Scalar.nearest (.ofModel (.pack value.parts) : Float))

/-- Alike doubles are those that differ in nothing but the sign of a zero. -/
theorem of_eq_of {left right : Float} : of left = of right ↔ Alike left right := by
  have parts : of left = of right ↔ unsign left.toModel.unpack = unsign right.toModel.unpack :=
    ⟨congrArg Signless.parts, congrArg Signless.mk⟩
  rw [parts, unsign_eq_unsign, Alike, Float.beq_iff, Float.order?, compare_eq_eq]
  have number (value : Float) : value.isNaN = value.toModel.unpack.isNaN := rfl
  rw [number, number]
  generalize left.toModel.unpack = first
  generalize right.toModel.unpack = second
  constructor
  · rintro (rfl | zeros)
    · cases isNaN : first.isNaN with
      | false => exact .inl (.inl ⟨rfl, rfl⟩)
      | true => exact .inr ⟨rfl, rfl⟩
    · exact .inl (.inr zeros)
  · rintro ((⟨same, -⟩ | zeros) | ⟨firstNaN, secondNaN⟩)
    · exact .inl same
    · exact .inr zeros
    · have missing {parts : UnpackedFloat} (isNaN : parts.isNaN = true) :
          parts = .notANumber := by
        cases parts with
        | notANumber => rfl
        | _ => cases isNaN
      exact .inl ((missing firstNaN).trans (missing secondNaN).symm)

end Signless

/-- New identities, and numbers without the sign of a zero. -/
def signless (block : BlockId → BlockId) : Transport Float Signless where
  number := .of
  block := block
  number_zero := rfl
  number_one := rfl
  number_infinity := rfl
  number_neg _ := Signless.rounded_congr (Unpacked.unsign_neg _).symm
  number_add _ _ := Signless.rounded_congr (Unpacked.unsign_add _ _ _).symm
  number_sub _ _ := Signless.rounded_congr (Unpacked.unsign_sub _ _ _).symm
  number_mul _ _ := Signless.rounded_congr (Unpacked.unsign_mul _ _ _).symm
  number_beq _ _ := Unpacked.unsign_beq _ _

/-- The same identities, and numbers without the sign of a zero. -/
def unsigned : Transport Float Signless :=
  signless id

theorem map_of_eq {left right : List Float} (close : List.Forall₂ Alike left right) :
    left.map Signless.of = right.map Signless.of := by
  induction close with
  | nil => rfl
  | cons here _ induction =>
      rw [List.map_cons, List.map_cons, Signless.of_eq_of.mpr here, induction]

theorem alike_sum {left right : List Float} (close : List.Forall₂ Alike left right) :
    Alike (Scalar.sum left) (Scalar.sum right) := by
  have carried (values : List Float) :
      Scalar.sum (values.map Signless.of) = .of (Scalar.sum values) :=
    unsigned.sum_map values
  rw [← Signless.of_eq_of, ← carried, ← carried, map_of_eq close]

/-- Nothing but zeros adds up to zero. -/
theorem alike_sum_zeros {values : List Float} (zeros : ∀ value ∈ values, (value == 0) = true) :
    Alike (Scalar.sum values) 0 := by
  have carried : Scalar.sum (values.map Signless.of) = .of (Scalar.sum values) :=
    unsigned.sum_map values
  have nothing : values.map Signless.of = List.replicate values.length 0 :=
    List.eq_replicate_iff.mpr ⟨List.length_map .., fun value member => by
      obtain ⟨zero, listed, rfl⟩ := List.mem_map.mp member
      exact Signless.of_eq_of.mpr (.inl (zeros zero listed))⟩
  have still : (0 : Signless) + 0 = 0 := (unsigned.number_add 0 0).symm
  rw [← Signless.of_eq_of, ← carried, nothing]
  generalize values.length = count
  have start : -(0 : Signless) = 0 := (unsigned.number_neg 0).symm
  unfold Scalar.sum
  rw [start]
  change _ = (0 : Signless)
  induction count with
  | zero => rfl
  | succ count induction =>
      rw [List.replicate_succ, List.foldl_cons, still]
      exact induction

end Dispatch
