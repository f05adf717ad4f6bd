import Dispatch.Change.Notifier
import Dispatch.Error

namespace Dispatch

/-! What a change does to a block: the block afterwards, the notices it sent on the way,
and its answer or the cause of its refusal. What was written before a refusal stays
written, so "a refused change leaves the block alone" is a statement about a change and
not about this type. -/

structure Effect (S : Type) (α : Type) where
  state : S
  notices : List Notice
  result : Except Error α

def Change (S : Type) (α : Type) : Type := S → Effect S α

namespace Change

variable {S T α β : Type}

def done (answer : α) : Change S α := fun state => ⟨state, [], .ok answer⟩

def refuse (error : Error) : Change S α := fun state => ⟨state, [], .error error⟩

/-- The second change starts from what the first left, unless the first was refused. -/
def andThen (first : Change S α) (second : α → Change S β) : Change S β := fun state =>
  let before := first state
  match before.result with
  | .error error => ⟨before.state, before.notices, .error error⟩
  | .ok answer =>
      let after := second answer before.state
      ⟨after.state, before.notices ++ after.notices, after.result⟩

instance : Monad (Change S) where
  pure := done
  bind := andThen

def current : Change S S := fun state => ⟨state, [], .ok state⟩

def write (update : S → S) : Change S PUnit := fun state => ⟨update state, [], .ok ⟨⟩⟩

def require (result : Except Error α) : Change S α :=
  match result with
  | .ok answer => done answer
  | .error error => refuse error

/-- A notice goes out only where the mode names a channel. -/
def report (mode : Mode) (notifier : NotifierKey) (record : Record) :
    Change S PUnit := fun state =>
  match mode.channel? with
  | none => ⟨state, [], .ok ⟨⟩⟩
  | some channel => ⟨state, [⟨notifier, channel, record⟩], .ok ⟨⟩⟩

/-- A change of a part, seen as a change of the whole. -/
def onPart (get : S → T) (put : T → S → S) (change : Change T α) : Change S α :=
  fun state =>
    let part := change (get state)
    ⟨put part.state state, part.notices, part.result⟩

/-- A change of one member of a list; `absent` answers for a missing member. -/
def onMember (index : Nat) (absent : Except Error α) (change : Change T α) :
    Change (List T) α := fun members =>
  match members[index]? with
  | none => ⟨members, [], absent⟩
  | some member =>
      let part := change member
      ⟨members.set index part.state, part.notices, part.result⟩

/-- Changes the members in order, from number `start` on, until one is refused. -/
def eachFrom (change : Nat → Change T α) : Nat → Change (List T) PUnit
  | _, [] => ⟨[], [], .ok ⟨⟩⟩
  | start, member :: rest =>
      let part := change start member
      match part.result with
      | .error error => ⟨part.state :: rest, part.notices, .error error⟩
      | .ok _ =>
          let others := eachFrom change (start + 1) rest
          ⟨part.state :: others.state, part.notices ++ others.notices, others.result⟩

def each (change : Nat → Change T α) : Change (List T) PUnit :=
  eachFrom change 0

/-- One change for every item of a list, until one is refused. -/
def forAll (items : List β) (change : β → Change S α) : Change S PUnit :=
  match items with
  | [] => done ⟨⟩
  | item :: rest => andThen (change item) fun _ => forAll rest change

end Change

/-- Creation of blocks: a counter of the identities already given out, which keeps what
a failing creation took. -/
def Creation (α : Type) : Type := Nat → Except Error α × Nat

namespace Creation

variable {α β : Type}

def done (answer : α) : Creation α := fun taken => (.ok answer, taken)

def refuse (error : Error) : Creation α := fun taken => (.error error, taken)

def andThen (first : Creation α) (second : α → Creation β) : Creation β := fun taken =>
  match first taken with
  | (.error error, taken) => (.error error, taken)
  | (.ok answer, taken) => second answer taken

instance : Monad Creation where
  pure := done
  bind := andThen

def fresh : Creation BlockId := fun taken => (.ok ⟨taken⟩, taken + 1)

def require (result : Except Error α) : Creation α :=
  match result with
  | .ok answer => done answer
  | .error error => refuse error

end Creation

end Dispatch
