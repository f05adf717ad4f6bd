namespace Dispatch

/-! States that operations lead to. What a block goes through is one list of operations; what
tells the ways of using it apart is where they start and which operations they allow. -/

variable {State Operation : Type}

/-- Where allowed operations lead. -/
inductive Reached (starts : State → Prop) (perform : State → Operation → State)
    (allowed : Operation → Prop) : State → Prop
  | start {state : State} (begins : starts state) : Reached starts perform allowed state
  | step {state : State} (reached : Reached starts perform allowed state) (operation : Operation)
      (allows : allowed operation) : Reached starts perform allowed (perform state operation)

namespace Reached

variable {starts others : State → Prop} {perform : State → Operation → State}
  {allowed permitted : Operation → Prop} {state : State}

/-- Other starts that are reached themselves, and more operations. -/
theorem mono (begins : ∀ state, starts state → Reached others perform permitted state)
    (allows : ∀ operation, allowed operation → permitted operation)
    (reached : Reached starts perform allowed state) :
    Reached others perform permitted state := by
  induction reached with
  | start first => exact begins _ first
  | step _ operation first reached => exact reached.step operation (allows operation first)

theorem play (reached : Reached starts perform allowed state) {operations : List Operation}
    (allows : ∀ operation ∈ operations, allowed operation) :
    Reached starts perform allowed (operations.foldl perform state) := by
  induction operations generalizing state with
  | nil => exact reached
  | cons operation rest induction =>
      exact induction (reached.step operation (allows operation List.mem_cons_self))
        fun other member => allows other (List.mem_cons_of_mem operation member)

end Reached

end Dispatch
