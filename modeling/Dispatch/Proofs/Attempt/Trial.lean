import Dispatch.Proofs.Attempt.Change

namespace Dispatch

/-! Answers and creations that look entries up where they stand, as attempts do for changes.
`none` is where the program would stop. -/

def Trial (α : Type) : Type := Option (Except Error α)

namespace Trial

variable {α β : Type}

def done (answer : α) : Trial α := some (.ok answer)

def refuse (error : Error) : Trial α := some (.error error)

def require (result : Except Error α) : Trial α := some result

/-- Stops where there is no entry. -/
def look (lookup : Option α) : Trial α := lookup.map .ok

def andThen (first : Trial α) (second : α → Trial β) : Trial β :=
  match first with
  | none => none
  | some (.error error) => some (.error error)
  | some (.ok answer) => second answer

instance : Monad Trial where
  pure := done
  bind := andThen

instance : LawfulMonad Trial := LawfulMonad.mk' Trial
  (fun trial => by rcases trial with _ | _ | _ <;> rfl)
  (fun _ _ => rfl)
  (fun trial _ _ => by rcases trial with _ | _ | _ <;> rfl)

/-- The trial finds every entry it looks up and gives the answer. -/
def Completes (trial : Trial α) (result : Except Error α) : Prop :=
  trial = some result

namespace Completes

theorem pure (answer : α) : Completes (Pure.pure answer) (.ok answer) := rfl

theorem require (result : Except Error α) : Completes (Trial.require result) result := rfl

theorem bind {trial : Trial α} {result : Except Error α} {next : α → Trial β}
    {next' : α → Except Error β} (first : trial.Completes result)
    (rest : ∀ answer, result = .ok answer → (next answer).Completes (next' answer)) :
    (trial >>= next).Completes (result >>= next') := by
  unfold Completes at first rest ⊢
  subst first
  cases result with
  | error error => rfl
  | ok answer => exact rest answer rfl

theorem look {lookup : Option α} {entry : α} (found : lookup = some entry)
    {next : α → Trial β} {result : Except Error β} (rest : (next entry).Completes result) :
    (Trial.look lookup >>= next).Completes result := by
  subst found
  exact rest

theorem ite {condition : Prop} [Decidable condition] {first second : Trial α}
    {first' second' : Except Error α} (holds : condition → first.Completes first')
    (fails : ¬condition → second.Completes second') :
    (if condition then first else second).Completes
      (if condition then first' else second') := by
  split
  · rename_i yes
    exact holds yes
  · rename_i no
    exact fails no

theorem mapM {trial : α → Trial β} {answer : α → Except Error β} {items : List α}
    (item : ∀ item ∈ items, (trial item).Completes (answer item)) :
    (items.mapM trial).Completes (items.mapM answer) := by
  induction items with
  | nil => rfl
  | cons head rest induction =>
      rw [List.mapM_cons, List.mapM_cons]
      refine bind (item head List.mem_cons_self) fun _ _ => ?_
      exact bind (induction fun later member => item later (List.mem_cons_of_mem _ member))
        fun _ _ => rfl

end Completes

end Trial

/-- An answer of a trial within an attempt. -/
def Attempt.demand {S α : Type} (trial : Trial α) : Attempt S α := fun state =>
  trial.map fun result => Change.require result state

theorem Attempt.Completes.demand {S α β : Type} {state : S} {trial : Trial α}
    {result : Except Error α} (completes : trial.Completes result)
    {next : α → Attempt S β} {next' : α → Change S β}
    (rest : ∀ answer, result = .ok answer →
      Attempt.Completes (next answer) (next' answer) state) :
    Attempt.Completes (Attempt.demand trial >>= next) (Change.require result >>= next')
      state := by
  unfold Trial.Completes at completes
  subst completes
  exact Attempt.Completes.require rest

def Making (α : Type) : Type := Nat → Option (Except Error α × Nat)

namespace Making

variable {α β : Type}

def ofCreation (creation : Creation α) : Making α := fun taken => some (creation taken)

def demand (trial : Trial α) : Making α := fun taken =>
  trial.map fun result => Creation.require result taken

/-- Stops where there is no entry. -/
def look (lookup : Option α) : Making α := fun taken =>
  lookup.map fun entry => (.ok entry, taken)

def andThen (first : Making α) (second : α → Making β) : Making β := fun taken =>
  match first taken with
  | none => none
  | some (.error error, taken) => some (.error error, taken)
  | some (.ok answer, taken) => second answer taken

instance : Monad Making where
  pure answer := ofCreation (Creation.done answer)
  bind := andThen

/-- The making finds every entry it looks up and creates what the creation does. -/
def Completes (making : Making α) (creation : Creation α) (taken : Nat) : Prop :=
  making taken = some (creation taken)

namespace Completes

variable {taken : Nat}

theorem lift (creation : Creation α) (taken : Nat) :
    Completes (ofCreation creation) creation taken := rfl

theorem bind {making : Making α} {creation : Creation α} {next : α → Making β}
    {next' : α → Creation β} (first : Completes making creation taken)
    (rest : ∀ answer after, creation taken = (.ok answer, after) →
      Completes (next answer) (next' answer) after) :
    Completes (making >>= next) (creation >>= next') taken := by
  unfold Completes at first rest ⊢
  change making.andThen next taken = some (creation.andThen next' taken)
  unfold Making.andThen Creation.andThen
  rw [first]
  cases created : creation taken with
  | mk result after =>
      cases result with
      | error error => rfl
      | ok answer => exact rest answer after created

theorem look {lookup : Option α} {entry : α} (found : lookup = some entry)
    {next : α → Making β} {creation : Creation β}
    (rest : Completes (next entry) creation taken) :
    Completes (Making.look lookup >>= next) creation taken := by
  subst found
  exact rest

theorem demand {trial : Trial α} {result : Except Error α} (completes : trial.Completes result) :
    Completes (Making.demand trial) (Creation.require result) taken := by
  unfold Trial.Completes at completes
  subst completes
  rfl

end Completes

end Making

end Dispatch
