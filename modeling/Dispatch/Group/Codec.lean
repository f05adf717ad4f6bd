import Dispatch.Decimal.Style
import Dispatch.Group.Basic
import Dispatch.Json.Printer
import Dispatch.Json.Reader

namespace Dispatch

/-! Group files. A group is an object with up to three parts, or a list of them in order;
an array is an object with a type, its dimensions and its data, or a list of the three.
A named part of a group may stand once only, of equal names inside a part the last one
counts, and parts that a group does not know are skipped unread. An array is read in
full before its parts are looked up. -/

namespace Json

/-- The part of that name, `none` inside when it is absent; refused when it stands more
than once. -/
def part? (fields : List (String × Json)) (name : String) : Option (Option Json) :=
  match fields.filter fun field => field.1 == name with
  | [] => some none
  | [field] => some (some field.2)
  | _ => none

/-- The parts of a record that is written as an object or as a list in the order of
`names`. -/
def parts? (names : List String) (value : Json) : Option (List (Option Json)) :=
  match value with
  | .list items =>
      if items.length ≤ names.length then
        some (items.map some ++ List.replicate (names.length - items.length) none)
      else none
  | _ => do
      let fields ← value.fields?
      names.mapM (part? fields)

end Json

def Field.values? (kind : String) (data : List Json) : Option Values :=
  if kind = "double" then (data.mapM Json.double?).map .doubles
  else if kind = "uint" then (data.mapM Json.count?).map .counts
  else if kind = "text" then (data.mapM Json.text?).map .texts
  else none

/-- Reads an array with at most `depth` brackets around any part of it. -/
def Field.ofJson? (depth : Nat) (value : Json) : Option Field := do
  if value.isReadable depth then
    match ← value.parts? ["type", "dims", "data"] with
    | [some kind, some dims, some data] =>
        let dims ← (← dims.list?).mapM Json.text?
        let values ← Field.values? (← kind.text?) (← data.list?)
        return ⟨dims, values⟩
    | _ => none
  else none

namespace Group

/-- An absent part is empty. -/
def entries? {α : Type} (read? : Json → Option α) (part : Option Json) :
    Option (List (String × α)) :=
  match part with
  | none => some []
  | some value => do
      let fields ← value.fields?
      fields.mapM fun field => (read? field.2).map fun entry => (field.1, entry)

/-- A part that would open a bracket too many can only be absent. -/
def onlyAbsent {α : Type} : Option Json → Option (List α)
  | none => some []
  | some _ => none

/-- Reads a group that may open `depth` more brackets. -/
def ofJson? : Nat → Json → Option Group
  | 0, _ => none
  | 1, value => do
      match ← value.parts? ["dims", "vars", "groups"] with
      | [none, none, none] => return Group.empty
      | _ => none
  | depth + 2, value => do
      match ← value.parts? ["dims", "vars", "groups"] with
      | [dims, fields, groups] =>
          let dims ← entries? Json.count? dims
          let fields ← entries? (Field.ofJson? depth) fields
          let groups ← entries? (ofJson? depth) groups
          return ⟨Sorted.ofList dims, Sorted.ofList fields, Sorted.ofList groups⟩
      | _ => none

/-- A file may open 127 brackets. -/
def bracketLimit : Nat := 127

def read (text : String) : Except Error Group :=
  match (Json.read? text).bind (ofJson? bracketLimit) with
  | some group => .ok group
  | none => .error .format

end Group

/-- A double in a file; one that is not finite has no number and is written as null. -/
def Field.doubleJson (value : Float) : Json :=
  if value.isFinite then .number (Decimal.Style.file.text value) else .null

/-- The array as an object, its doubles written by `double`. -/
def Field.toJson (double : Float → Json) (field : Field) : Json :=
  let (kind, data) :=
    match field.values with
    | .doubles values => ("double", values.map double)
    | .counts values => ("uint", values.map Json.count)
    | .texts values => ("text", values.map Json.text)
  .record [("type", .text kind), ("dims", .list (field.dims.map Json.text)),
    ("data", .list data)]

namespace Group

/-- Empty parts are left out. -/
def partJson (name : String) (entries : List (String × Json)) : List (String × Json) :=
  if entries.isEmpty then [] else [(name, .record entries)]

mutual
/-- The group as an object, its doubles written by `double`. -/
def toJson (double : Float → Json) : Group → Json
  | ⟨dims, fields, groups⟩ =>
      .record (partJson "dims" (dims.map fun entry => (entry.1, Json.count entry.2)) ++
        partJson "vars" (fields.map fun entry => (entry.1, entry.2.toJson double)) ++
        partJson "groups" (membersJson double groups))

def membersJson (double : Float → Json) : List (String × Group) → List (String × Json)
  | [] => []
  | (name, member) :: rest => (name, toJson double member) :: membersJson double rest
end

def text (group : Group) : String :=
  (group.toJson Field.doubleJson).pretty

end Group

end Dispatch
