import Dispatch.Error
import Dispatch.Group.Codec
import Dispatch.Model

namespace Dispatch

/-! Settings on file: an object or a list with one part, the feasibility tolerance, which
is an object or a list of an amount and a flag in turn. Everything may be left out. -/

namespace Settings

def orDefault {α : Type} (default : α) (read? : Json → Option α) :
    Option Json → Option α
  | none => some default
  | some value => read? value

def toleranceOfJson? (value : Json) : Option (Tolerance Float) := do
  match ← value.parts? ["tolerance", "relative"] with
  | [amount, relative] =>
      return ⟨← orDefault 0 Json.double? amount,
        ← orDefault true Json.boolean? relative⟩
  | _ => none

/-- A null tolerance is an absent one. -/
def optionalTolerance? : Json → Option (Option (Tolerance Float))
  | .null => some none
  | value => (toleranceOfJson? value).map some

def ofJson? (value : Json) : Option (Settings Float) := do
  match ← value.parts? ["is_feasible"] with
  | [feasibility] => return ⟨← orDefault none optionalTolerance? feasibility⟩
  | _ => none

def read (text : String) : Except Error (Settings Float) :=
  match (Json.read? text).bind ofJson? with
  | some settings => .ok settings
  | none => .error .format

end Settings

end Dispatch
