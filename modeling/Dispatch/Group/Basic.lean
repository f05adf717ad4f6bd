import Dispatch.Error
import Dispatch.Scalar

namespace Dispatch

/-! The file form of a block: named dimensions, typed arrays and sub-groups. Names are
unique and kept in the order of their characters. -/

/-- Entries sorted by name. -/
abbrev Sorted (α : Type) := List (String × α)

namespace Sorted

variable {α : Type}

def insert (entries : Sorted α) (name : String) (value : α) : Sorted α :=
  match entries with
  | [] => [(name, value)]
  | (other, kept) :: rest =>
      if name = other then (name, value) :: rest
      else if name < other then (name, value) :: (other, kept) :: rest
      else (other, kept) :: insert rest name value

def get? (entries : Sorted α) (name : String) : Option α :=
  entries.lookup name

def ofList (entries : List (String × α)) : Sorted α :=
  entries.foldl (fun sorted entry => insert sorted entry.1 entry.2) []

end Sorted

inductive Values
  | doubles (values : List Float)
  | counts (values : List Nat)
  | texts (values : List String)

namespace Values

def size : Values → Nat
  | .doubles values => values.length
  | .counts values => values.length
  | .texts values => values.length

def isCounts : Values → Bool
  | .counts _ => true
  | _ => false

/-- Equal kinds and equal entries; a double that differs from itself equals nothing. -/
def same : Values → Values → Bool
  | .doubles left, .doubles right => Scalar.same left right
  | .counts left, .counts right => left == right
  | .texts left, .texts right => left == right
  | _, _ => false

end Values

/-- A typed array over named dimensions; without dimensions it is a scalar. -/
structure Field where
  dims : List String
  values : Values

namespace Field

def size (field : Field) : Nat :=
  field.values.size

def same (left right : Field) : Bool :=
  left.dims == right.dims && left.values.same right.values

end Field

structure Group where
  dims : Sorted Nat
  fields : Sorted Field
  groups : List (String × Group)

namespace Group

def empty : Group := ⟨[], [], []⟩

def setDim (group : Group) (name : String) (value : Nat) : Group :=
  { group with dims := Sorted.insert group.dims name value }

def dim? (group : Group) (name : String) : Option Nat :=
  Sorted.get? group.dims name

def hasDim (group : Group) (name : String) : Bool :=
  (group.dim? name).isSome

def field? (group : Group) (name : String) : Option Field :=
  Sorted.get? group.fields name

def put (group : Group) (name : String) (dims : List String) (values : Values) : Group :=
  { group with fields := Sorted.insert group.fields name ⟨dims, values⟩ }

def putDoubles (group : Group) (name : String) (dims : List String)
    (values : List Float) : Group :=
  group.put name dims (.doubles values)

def putCounts (group : Group) (name : String) (dims : List String)
    (values : List Nat) : Group :=
  group.put name dims (.counts values)

def putTexts (group : Group) (name : String) (dims : List String)
    (values : List String) : Group :=
  group.put name dims (.texts values)

def member? (group : Group) (name : String) : Option Group :=
  Sorted.get? group.groups name

def addMember (group : Group) (name : String) (member : Group) : Group :=
  { group with groups := Sorted.insert group.groups name member }

def orMissing {α : Type} (name : String) : Option α → Except Error α
  | some value => .ok value
  | none => .error (.missingField name)

/-- Counts widen to doubles. -/
def doubles? (group : Group) (name : String) : Except Error (Option (List Float)) :=
  match (group.field? name).map Field.values with
  | none => .ok none
  | some (.doubles values) => .ok (some values)
  | some (.counts values) => .ok (some (values.map fun value => value.toUInt64.toFloat))
  | some (.texts _) => .error (.unsupported (.textForNumbers name))

def counts? (group : Group) (name : String) : Except Error (Option (List Nat)) :=
  match (group.field? name).map Field.values with
  | none => .ok none
  | some (.counts values) => .ok (some values)
  | some _ => .error (.unsupported (.notUnsigned name))

def texts? (group : Group) (name : String) : Except Error (Option (List String)) :=
  match (group.field? name).map Field.values with
  | none => .ok none
  | some (.texts values) => .ok (some values)
  | some _ => .error (.unsupported (.notText name))

def dim (group : Group) (name : String) : Except Error Nat :=
  orMissing name (group.dim? name)

def doubles (group : Group) (name : String) : Except Error (List Float) := do
  orMissing name (← group.doubles? name)

def counts (group : Group) (name : String) : Except Error (List Nat) := do
  orMissing name (← group.counts? name)

def member (group : Group) (name : String) : Except Error Group :=
  orMissing name (group.member? name)

/-- Whether two sorted lists hold equal entries under equal names. -/
def sameEntries {α : Type} (same : α → α → Bool) :
    List (String × α) → List (String × α) → Bool
  | [], [] => true
  | (name, value) :: rest, (other, otherValue) :: otherRest =>
      name == other && same value otherValue && sameEntries same rest otherRest
  | _, _ => false

mutual
def same : Group → Group → Bool
  | ⟨dims, fields, groups⟩, ⟨otherDims, otherFields, otherGroups⟩ =>
      dims == otherDims && sameEntries Field.same fields otherFields &&
        sameMembers groups otherGroups

def sameMembers : List (String × Group) → List (String × Group) → Bool
  | [], [] => true
  | (name, member) :: rest, (other, otherMember) :: otherRest =>
      name == other && same member otherMember && sameMembers rest otherRest
  | _, _ => false
end

end Group

end Dispatch
