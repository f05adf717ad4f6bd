import Dispatch.Proofs.Change.Laws
import Dispatch.Proofs.Change.Selection

namespace Dispatch

/-! Changes that look entries up where they stand. A change reads a default past the end of
a list, where the program would stop; its attempt stops there too. -/

def Attempt (S α : Type) : Type := S → Option (Effect S α)

namespace Attempt

variable {S T α β : Type}

def ofChange (change : Change S α) : Attempt S α := fun state => some (change state)

def andThen (first : Attempt S α) (second : α → Attempt S β) : Attempt S β := fun state =>
  match first state with
  | none => none
  | some before =>
      match before.result with
      | .error error => some ⟨before.state, before.notices, .error error⟩
      | .ok answer => (second answer before.state).map (Effect.after before.notices)

instance : Monad (Attempt S) where
  pure answer := ofChange (Change.done answer)
  bind := andThen

def current : Attempt S S := ofChange Change.current

def write (update : S → S) : Attempt S PUnit := ofChange (Change.write update)

def require (result : Except Error α) : Attempt S α := ofChange (Change.require result)

def report (mode : Mode) (notifier : NotifierKey) (record : Record) : Attempt S PUnit :=
  ofChange (Change.report mode notifier record)

/-- Stops where there is no entry. -/
def look (lookup : Option α) : Attempt S α := fun state =>
  lookup.map fun entry => ⟨state, [], .ok entry⟩

/-- A write of what has to be looked up first. -/
def revise (update? : S → Option S) : Attempt S PUnit := fun state =>
  (update? state).map fun after => ⟨after, [], .ok ⟨⟩⟩

def onPart (get : S → T) (put : T → S → S) (attempt : Attempt T α) : Attempt S α :=
  fun state => (attempt (get state)).map fun part =>
    ⟨put part.state state, part.notices, part.result⟩

/-- Without an answer for a missing member, the attempt stops there. -/
def onMember (index : Nat) (absent : Option (Except Error α)) (attempt : Attempt T α) :
    Attempt (List T) α := fun members =>
  match members[index]? with
  | none => absent.map fun result => ⟨members, [], result⟩
  | some member => (attempt member).map fun part =>
      ⟨members.set index part.state, part.notices, part.result⟩

def eachFrom (attempt : Nat → Attempt T α) : Nat → Attempt (List T) PUnit
  | _, [] => some ⟨[], [], .ok ⟨⟩⟩
  | start, member :: rest =>
      match attempt start member with
      | none => none
      | some part =>
          match part.result with
          | .error error => some ⟨part.state :: rest, part.notices, .error error⟩
          | .ok _ => (eachFrom attempt (start + 1) rest).map fun others =>
              ⟨part.state :: others.state, part.notices ++ others.notices, others.result⟩

def each (attempt : Nat → Attempt T α) : Attempt (List T) PUnit :=
  eachFrom attempt 0

def forAll (items : List β) (attempt : β → Attempt S α) : Attempt S PUnit :=
  match items with
  | [] => ofChange (Change.done ⟨⟩)
  | item :: rest => andThen (attempt item) fun _ => forAll rest attempt

/-- The attempt finds every entry it looks up and does what the change does. -/
def Completes (attempt : Attempt S α) (change : Change S α) (state : S) : Prop :=
  attempt state = some (change state)

namespace Completes

variable {state : S}

theorem lift (change : Change S α) (state : S) : Completes (ofChange change) change state := rfl

theorem bind {attempt : Attempt S α} {change : Change S α} {next : α → Attempt S β}
    {next' : α → Change S β} (first : Completes attempt change state)
    (rest : ∀ answer, (change state).result = .ok answer →
      Completes (next answer) (next' answer) (change state).state) :
    Completes (attempt >>= next) (change >>= next') state := by
  unfold Completes at first rest ⊢
  rw [Change.bind_apply]
  change (match attempt state with | none => none | some before => _) = _
  rw [first]
  dsimp only
  cases result : (change state).result with
  | error error => rfl
  | ok answer =>
      dsimp only
      rw [rest answer result]
      rfl

theorem current {next : S → Attempt S β} {next' : S → Change S β}
    (rest : Completes (next state) (next' state) state) :
    Completes (Attempt.current >>= next) (Change.current >>= next') state := by
  refine bind (lift _ state) fun answer found => ?_
  cases found
  exact rest

theorem write {update : S → S} {next : PUnit → Attempt S β} {next' : PUnit → Change S β}
    (rest : Completes (next ⟨⟩) (next' ⟨⟩) (update state)) :
    Completes (Attempt.write update >>= next) (Change.write update >>= next') state :=
  bind (lift _ state) fun _ _ => rest

theorem require {required : Except Error α} {next : α → Attempt S β}
    {next' : α → Change S β}
    (rest : ∀ answer, required = .ok answer → Completes (next answer) (next' answer) state) :
    Completes (Attempt.require required >>= next) (Change.require required >>= next')
      state := by
  cases required with
  | error error => rfl
  | ok answer =>
      refine bind (lift _ state) fun found same => ?_
      cases same
      exact rest answer rfl

theorem report {mode : Mode} {notifier : NotifierKey} {record : Record}
    {next : PUnit → Attempt S β} {next' : PUnit → Change S β}
    (rest : Completes (next ⟨⟩) (next' ⟨⟩) state) :
    Completes (Attempt.report mode notifier record >>= next)
      (Change.report mode notifier record >>= next') state := by
  refine bind (lift _ state) fun _ _ => ?_
  have still : (Change.report mode notifier record state).state = state := by
    cases mode <;> rfl
  rw [still]
  exact rest

theorem ite {condition : Prop} [Decidable condition] {first second : Attempt S α}
    {first' second' : Change S α} (holds : condition → Completes first first' state)
    (fails : ¬condition → Completes second second' state) :
    Completes (if condition then first else second)
      (if condition then first' else second') state := by
  split
  · rename_i yes
    exact holds yes
  · rename_i no
    exact fails no

theorem look {lookup : Option α} {entry : α} (found : lookup = some entry)
    {next : α → Attempt S β} {change : Change S β}
    (rest : Completes (next entry) change state) :
    Completes (Attempt.look lookup >>= next) change state := by
  unfold Completes at rest ⊢
  subst found
  change (next entry state).map (Effect.after []) = _
  rw [rest]
  rfl

theorem revise {update? : S → Option S} {update : S → S}
    (found : update? state = some (update state)) {next : PUnit → Attempt S β}
    {next' : PUnit → Change S β} (rest : Completes (next ⟨⟩) (next' ⟨⟩) (update state)) :
    Completes (Attempt.revise update? >>= next) (Change.write update >>= next') state := by
  refine bind ?_ fun _ _ => rest
  unfold Completes Attempt.revise
  rw [found]
  rfl

theorem onPart {get : S → T} {put : T → S → S} {attempt : Attempt T α}
    {change : Change T α} (part : Completes attempt change (get state)) :
    Completes (Attempt.onPart get put attempt) (Change.onPart get put change) state := by
  unfold Completes Attempt.onPart at *
  rw [part]
  rfl

theorem onMember {index : Nat} {absent : Option (Except Error α)} {absent' : Except Error α}
    {attempt : Attempt T α} {change : Change T α} {members : List T}
    (missing : members[index]? = none → absent = some absent')
    (found : ∀ member, members[index]? = some member → Completes attempt change member) :
    Completes (Attempt.onMember index absent attempt)
      (Change.onMember index absent' change) members := by
  unfold Completes Attempt.onMember
  cases present : members[index]? with
  | none => rw [Change.onMember_of_none present, missing present, Option.map_some]
  | some member =>
      dsimp only
      rw [Change.onMember_of_getElem? present, found member present]
      rfl

theorem eachFrom {attempt : Nat → Attempt T α} {change : Nat → Change T α}
    {members : List T} (start : Nat)
    (member : ∀ index member, members[index]? = some member →
      Completes (attempt (start + index)) (change (start + index)) member) :
    Completes (Attempt.eachFrom attempt start) (Change.eachFrom change start) members := by
  induction members generalizing start with
  | nil => rfl
  | cons head rest induction =>
      have first := member 0 head rfl
      have others := induction (start + 1) fun index later found => by
        rw [Nat.add_assoc, Nat.add_comm 1]
        exact member (index + 1) later found
      unfold Completes at first others ⊢
      rw [Nat.add_zero] at first
      rw [Attempt.eachFrom, Change.eachFrom, first]
      dsimp only
      cases (change start head).result with
      | error error => rfl
      | ok answer =>
          dsimp only
          rw [others]
          rfl

theorem each {attempt : Nat → Attempt T α} {change : Nat → Change T α} {members : List T}
    (member : ∀ index member, members[index]? = some member →
      Completes (attempt index) (change index) member) :
    Completes (Attempt.each attempt) (Change.each change) members :=
  eachFrom 0 fun index present found => by
    rw [Nat.zero_add]
    exact member index present found

/-- One attempt for every item, where each leaves what the next one relies on. -/
theorem forAll {attempt : β → Attempt S α} {change : β → Change S α} (invariant : S → Prop)
    {items : List β}
    (item : ∀ item ∈ items, ∀ state, invariant state →
      Completes (attempt item) (change item) state ∧ invariant (change item state).state)
    {state : S} (holds : invariant state) :
    Completes (Attempt.forAll items attempt) (Change.forAll items change) state := by
  induction items generalizing state with
  | nil => rfl
  | cons head rest induction =>
      obtain ⟨completes, kept⟩ := item head (by simp) state holds
      exact bind completes fun _ _ =>
        induction (fun other member => item other (by simp [member])) kept

end Completes

end Attempt

/-- A refusal leaves no trace: nothing is written, and no notice is sent. -/
def Change.Atomic {S α : Type} (change : Change S α) (state : S) : Prop :=
  ∀ error, (change state).result = .error error → change state = ⟨state, [], .error error⟩

theorem Change.atomic_of_ok {S α : Type} {change : Change S α} {state : S} {answer : α}
    (accepted : (change state).result = .ok answer) : change.Atomic state := by
  intro error refused
  rw [accepted] at refused
  cases refused

theorem Change.atomic_of_error {S α : Type} {change : Change S α} {state : S} {error : Error}
    (refused : change state = ⟨state, [], .error error⟩) : change.Atomic state := by
  intro other same
  rw [refused] at same ⊢
  cases same
  rfl

/-- A call on a block that either happens as a whole or not at all. -/
structure AllOrNothing {S α : Type} (attempt : Attempt S α) (change : Change S α)
    (state : S) : Prop where
  completes : attempt.Completes change state
  atomic : change.Atomic state

namespace Lookup

variable {α β : Type}

theorem getElem?_eq_getD {values : List α} {index : Nat} (within : index < values.length)
    (default : α) : values[index]? = some (values.getD index default) := by
  simp [List.getElem?_eq_getElem within]

theorem mapM_eq_some {lookup : α → Option β} {entry : α → β} {items : List α}
    (found : ∀ item ∈ items, lookup item = some (entry item)) :
    items.mapM lookup = some (items.map entry) := by
  induction items with
  | nil => rfl
  | cons item rest induction =>
      rw [List.mapM_cons, found item (by simp),
        induction fun other member => found other (by simp [member])]
      rfl

/-- Lookups that all succeed are what a filter would keep. -/
theorem mapM_eq_filterMap {lookup : α → Option β} {items : List α}
    (found : ∀ item ∈ items, (lookup item).isSome) :
    items.mapM lookup = some (items.filterMap lookup) := by
  induction items with
  | nil => rfl
  | cons item rest induction =>
      obtain ⟨entry, there⟩ := Option.isSome_iff_exists.mp (found item List.mem_cons_self)
      rw [List.mapM_cons, there, List.filterMap_cons_some there,
        induction fun other member => found other (List.mem_cons_of_mem _ member)]
      rfl

theorem filterM_eq_some {lookup : α → Option Bool} {entry : α → Bool} {items : List α}
    (found : ∀ item ∈ items, lookup item = some (entry item)) :
    items.filterM lookup = some (items.filter entry) := by
  have reversed (kept : List α) :
      List.filterAuxM lookup items kept = some ((items.filter entry).reverse ++ kept) := by
    induction items generalizing kept with
    | nil => rfl
    | cons item rest induction =>
        rw [List.filterAuxM, found item (by simp)]
        have others := induction fun other member => found other (by simp [member])
        change List.filterAuxM lookup rest (cond (entry item) (item :: kept) kept) = _
        rw [others]
        cases holds : entry item <;> simp [holds]
  rw [List.filterM, reversed]
  simp

theorem anyM_eq_some {lookup : α → Option Bool} {entry : α → Bool} {items : List α}
    (found : ∀ item ∈ items, lookup item = some (entry item)) :
    items.anyM lookup = some (items.any entry) := by
  induction items with
  | nil => rfl
  | cons item rest induction =>
      rw [List.anyM, found item (by simp), List.any_cons]
      change (match entry item with | true => some true | false => rest.anyM lookup) = _
      rw [induction fun other member => found other (by simp [member])]
      cases entry item <;> rfl

theorem foldlM_eq_some {lookup : β → α → Option β} {next : β → α → β}
    (invariant : β → Prop) {items : List α}
    (found : ∀ item ∈ items, ∀ total, invariant total →
      lookup total item = some (next total item) ∧ invariant (next total item))
    {start : β} (holds : invariant start) :
    items.foldlM lookup start = some (items.foldl next start) := by
  induction items generalizing start with
  | nil => rfl
  | cons item rest induction =>
      obtain ⟨first, kept⟩ := found item (by simp) start holds
      rw [List.foldlM_cons, first, List.foldl_cons]
      exact induction (fun other member => found other (by simp [member])) kept

end Lookup

namespace Selection

variable {K : Type} [Scalar K]

def stored? (values : List K) (default : K) (index : Nat) : Option K :=
  if values.isEmpty then some default else values[index]?

def differs? (selection : Selection) (current : List K) (default : K) (values : List K) :
    Option Bool :=
  (selection.indices.zip values).anyM fun pair => do
    return (← stored? current default pair.1) != pair.2

def write? (selection : Selection) (current : List K) (extent : Nat) (default : K)
    (values : List K) : Option (List K) :=
  (selection.indices.zip values).foldlM
    (fun written pair =>
      if pair.1 < written.length then some (written.set pair.1 pair.2) else none)
    (materialise current extent default)

variable {selection : Selection} {current : List K} {extent : Nat}

theorem differs?_eq (within : ∀ index ∈ selection.indices, index < extent)
    (shaped : current = [] ∨ current.length = extent) (default : K) (values : List K) :
    selection.differs? current default values =
      some (selection.differs current default values) := by
  refine Lookup.anyM_eq_some fun pair paired => ?_
  have index_lt := within pair.1 (List.of_mem_zip paired).1
  cases shaped with
  | inl empty => simp [stored?, stored, empty]
  | inr length =>
      unfold stored? stored
      split
      · rfl
      · simp [List.getElem?_eq_getElem (length ▸ index_lt)]

omit [Scalar K] in
theorem write?_eq (within : ∀ index ∈ selection.indices, index < extent)
    (shaped : current = [] ∨ current.length = extent) (default : K) (values : List K) :
    selection.write? current extent default values =
      some (selection.write current extent default values) := by
  refine Lookup.foldlM_eq_some (fun written => written.length = extent)
    (fun pair paired written length => ?_) (length_materialise shaped default)
  have index_lt := within pair.1 (List.of_mem_zip paired).1
  rw [if_pos (length ▸ index_lt)]
  exact ⟨rfl, by rw [List.length_set, length]⟩

end Selection

end Dispatch
