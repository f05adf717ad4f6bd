import Dispatch.Change.Effect
import Mathlib.Data.List.Forall2

namespace Dispatch

/-! How changes run: one law for each way of putting a change together, so that the
effect of an operation can be written down once and its parts need not be run again. -/

namespace Effect

variable {S α : Type}

/-- The effect of going on after some notices were sent. -/
def after (notices : List Notice) (effect : Effect S α) : Effect S α :=
  { effect with notices := notices ++ effect.notices }

@[simp] theorem after_mk (earlier notices : List Notice) (state : S)
    (result : Except Error α) :
    after earlier ⟨state, notices, result⟩ = ⟨state, earlier ++ notices, result⟩ := rfl

@[simp] theorem after_nil (effect : Effect S α) : effect.after [] = effect := rfl

end Effect

/-- The notice that a mode calls for. -/
def Mode.notices (mode : Mode) (notifier : NotifierKey) (record : Record) : List Notice :=
  match mode.channel? with
  | none => []
  | some channel => [⟨notifier, channel, record⟩]

@[simp] theorem Mode.notices_quiet (notifier : NotifierKey) (record : Record) :
    Mode.quiet.notices notifier record = [] := rfl

@[simp] theorem Mode.writes_silent (mode : Mode) : mode.silent.writes = mode.writes := by
  cases mode <;> rfl

namespace Change

variable {S T α β : Type}

@[simp] theorem pure_apply (answer : α) (state : S) :
    (pure answer : Change S α) state = ⟨state, [], .ok answer⟩ := rfl

theorem bind_apply (first : Change S α) (next : α → Change S β) (state : S) :
    (first >>= next) state =
      match (first state).result with
      | .error error => ⟨(first state).state, (first state).notices, .error error⟩
      | .ok answer => (next answer (first state).state).after (first state).notices := rfl

/-- A sequence that is accepted is accepted in every part. -/
theorem bind_accepted {first : Change S α} {next : α → Change S β} {state : S} {answer : β}
    (accepted : ((first >>= next) state).result = .ok answer) :
    ∃ middle, (first state).result = .ok middle ∧
      (next middle (first state).state).result = .ok answer := by
  rw [bind_apply] at accepted
  cases ran : (first state).result with
  | error error =>
      rw [ran] at accepted
      cases accepted
  | ok middle =>
      rw [ran] at accepted
      exact ⟨middle, rfl, accepted⟩

theorem bind_ok {first : Change S α} {next : α → Change S β} {state state' : S}
    {notices : List Notice} {answer : α}
    (run : first state = ⟨state', notices, .ok answer⟩) :
    (first >>= next) state = (next answer state').after notices := by
  rw [bind_apply, run]

theorem bind_error {first : Change S α} {next : α → Change S β} {state state' : S}
    {notices : List Notice} {error : Error}
    (run : first state = ⟨state', notices, .error error⟩) :
    (first >>= next) state = ⟨state', notices, .error error⟩ := by
  rw [bind_apply, run]

/-- Where the first change is refused, its state is the last. -/
theorem state_bind {first : Change S α} {next : α → Change S β} {state : S} (holds : S → Prop)
    (start : holds (first state).state)
    (run : ∀ answer, holds (next answer (first state).state).state) :
    holds ((first >>= next) state).state := by
  rw [bind_apply]
  cases (first state).result with
  | error error => exact start
  | ok answer => exact run answer

@[simp] theorem pure_bind_apply (answer : α) (next : α → Change S β) (state : S) :
    ((pure answer : Change S α) >>= next) state = next answer state := rfl

@[simp] theorem current_bind (next : S → Change S β) (state : S) :
    (current >>= next) state = next state state := rfl

@[simp] theorem write_apply (update : S → S) (state : S) :
    write update state = ⟨update state, [], .ok ⟨⟩⟩ := rfl

@[simp] theorem write_bind (update : S → S) (next : PUnit → Change S β) (state : S) :
    (write update >>= next) state = next ⟨⟩ (update state) := rfl

@[simp] theorem refuse_apply (error : Error) (state : S) :
    (refuse error : Change S α) state = ⟨state, [], .error error⟩ := rfl

@[simp] theorem refuse_bind (error : Error) (next : α → Change S β) (state : S) :
    (refuse error >>= next) state = ⟨state, [], .error error⟩ := rfl

@[simp] theorem require_ok (answer : α) (state : S) :
    require (.ok answer) state = ⟨state, [], .ok answer⟩ := rfl

@[simp] theorem require_ok_bind (answer : α) (next : α → Change S β) (state : S) :
    (require (.ok answer) >>= next) state = next answer state := rfl

@[simp] theorem require_error_bind (error : Error) (next : α → Change S β) (state : S) :
    (require (.error error) >>= next) state = ⟨state, [], .error error⟩ := rfl

@[simp] theorem report_bind (mode : Mode) (notifier : NotifierKey) (record : Record)
    (next : PUnit → Change S β) (state : S) :
    (report mode notifier record >>= next) state =
      (next ⟨⟩ state).after (mode.notices notifier record) := by
  cases mode <;> rfl

theorem onPart_apply (get : S → T) (put : T → S → S) (change : Change T α) (state : S) :
    onPart get put change state =
      ⟨put (change (get state)).state state, (change (get state)).notices,
        (change (get state)).result⟩ := rfl

theorem onMember_of_getElem? {members : List T} {index : Nat} {member : T}
    (found : members[index]? = some member) (absent : Except Error α)
    (change : Change T α) :
    onMember index absent change members =
      ⟨members.set index (change member).state, (change member).notices,
        (change member).result⟩ := by
  simp [onMember, found]

theorem onMember_of_none {members : List T} {index : Nat} (missing : members[index]? = none)
    (absent : Except Error α) (change : Change T α) :
    onMember index absent change members = ⟨members, [], absent⟩ := by
  simp [onMember, missing]

theorem eachFrom_ok {change : Nat → Change T α} (next : Nat → T → T) {members : List T}
    (start : Nat)
    (succeeds : ∀ index member, members[index]? = some member →
      ∃ answer, change (start + index) member =
        ⟨next (start + index) member, [], .ok answer⟩) :
    eachFrom change start members =
      ⟨members.mapIdx fun index => next (start + index), [], .ok ⟨⟩⟩ := by
  induction members generalizing start with
  | nil => rfl
  | cons member rest induction =>
      obtain ⟨answer, head⟩ := succeeds 0 member rfl
      have tail : eachFrom change (start + 1) rest =
          ⟨rest.mapIdx fun index => next (start + 1 + index), [], .ok ⟨⟩⟩ := by
        apply induction
        intro index other found
        have later := succeeds (index + 1) other (by simpa using found)
        simpa only [Nat.add_assoc, Nat.add_comm 1] using later
      rw [Nat.add_zero] at head
      simp only [eachFrom, head, tail, List.mapIdx_cons, List.append_nil, Nat.add_zero]
      congr 3
      funext index
      rw [Nat.add_assoc, Nat.add_comm 1]

/-- A change that every member passes without notice is a map. -/
theorem each_ok {change : Nat → Change T α} (next : Nat → T → T) {members : List T}
    (succeeds : ∀ index member, members[index]? = some member →
      ∃ answer, change index member = ⟨next index member, [], .ok answer⟩) :
    each change members = ⟨members.mapIdx next, [], .ok ⟨⟩⟩ := by
  have run := eachFrom_ok next 0 (by simpa using succeeds)
  simpa [each] using run

/-- A change that moves no member. -/
theorem each_still {change : Nat → Change T α} {members : List T}
    (still : ∀ index member, members[index]? = some member →
      ∃ answer, change index member = ⟨member, [], .ok answer⟩) :
    each change members = ⟨members, [], .ok ⟨⟩⟩ := by
  rw [each_ok (fun _ member => member) still]
  congr 1
  apply List.ext_getElem?
  intro index
  simp

/-- The same change of all members, which are seen as images of others. -/
theorem each_map {change : Change T α} (view next : S → T) {members : List S}
    (succeeds : ∀ member ∈ members,
      ∃ answer, change (view member) = ⟨next member, [], .ok answer⟩) :
    each (fun _ => change) (members.map view) = ⟨members.map next, [], .ok ⟨⟩⟩ := by
  have run (start : Nat) : eachFrom (fun _ => change) start (members.map view) =
      ⟨members.map next, [], .ok ⟨⟩⟩ := by
    induction members generalizing start with
    | nil => rfl
    | cons member rest induction =>
        obtain ⟨answer, head⟩ := succeeds member (by simp)
        have tail := induction (fun other later => succeeds other (by simp [later])) (start + 1)
        simp only [List.map_cons, eachFrom, head, tail, List.append_nil]
  exact run 0

/-- Whether or not it is refused on the way, a change of all members relates each member
to what became of it. -/
theorem eachFrom_forall₂ {change : Nat → Change T α} {related : T → T → Prop}
    (refl : ∀ member, related member member)
    (relates : ∀ index member, related member (change index member).state)
    (start : Nat) (members : List T) :
    List.Forall₂ related members (eachFrom change start members).state := by
  induction members generalizing start with
  | nil => exact .nil
  | cons member rest induction =>
      have same : List.Forall₂ related rest rest :=
        List.forall₂_same.mpr fun other _ => refl other
      simp only [eachFrom]
      cases (change start member).result with
      | error error => exact .cons (relates start member) same
      | ok answer => exact .cons (relates start member) (induction (start + 1))

theorem each_forall₂ {change : Nat → Change T α} {related : T → T → Prop}
    (refl : ∀ member, related member member)
    (relates : ∀ index member, related member (change index member).state)
    (members : List T) : List.Forall₂ related members (each change members).state :=
  eachFrom_forall₂ refl relates 0 members

/-- A change of all members that is not refused was refused for none of them. -/
theorem eachFrom_of_ok {change : Nat → Change T α} {start : Nat} {members : List T}
    (accepted : (eachFrom change start members).result = .ok ⟨⟩) :
    (eachFrom change start members).state =
        members.mapIdx (fun index member => (change (start + index) member).state) ∧
      ∀ index member, members[index]? = some member →
        ∃ answer, (change (start + index) member).result = .ok answer := by
  induction members generalizing start with
  | nil => exact ⟨rfl, fun index member found => by cases found⟩
  | cons member rest induction =>
      simp only [eachFrom] at accepted ⊢
      cases head : (change start member).result with
      | error error => simp [head] at accepted
      | ok answer =>
          simp only [head] at accepted
          obtain ⟨states, answers⟩ := induction accepted
          have shift (index : Nat) : start + 1 + index = start + (index + 1) := by omega
          refine ⟨?_, ?_⟩
          · simp only [states, List.mapIdx_cons, shift, Nat.add_zero]
          · intro index other found
            cases index with
            | zero =>
                cases found
                exact ⟨answer, head⟩
            | succ index =>
                rw [← shift]
                exact answers index other (by simpa using found)

theorem each_of_ok {change : Nat → Change T α} {members : List T}
    (accepted : (each change members).result = .ok ⟨⟩) :
    (each change members).state =
        members.mapIdx (fun index member => (change index member).state) ∧
      ∀ index member, members[index]? = some member →
        ∃ answer, (change index member).result = .ok answer := by
  simpa [each] using eachFrom_of_ok accepted

/-- The same, for a change that does not read the number of the member. -/
theorem each_map_of_ok (change : Change T α) {members : List T}
    (accepted : (each (fun _ => change) members).result = .ok ⟨⟩) :
    (each (fun _ => change) members).state =
        members.map (fun member => (change member).state) ∧
      ∀ member ∈ members, ∃ answer, (change member).result = .ok answer := by
  obtain ⟨states, answers⟩ := each_of_ok accepted
  refine ⟨?_, fun member present => ?_⟩
  · rw [states]
    apply List.ext_getElem?
    intro index
    rw [List.getElem?_mapIdx, List.getElem?_map]
  · obtain ⟨index, found⟩ := List.mem_iff_getElem?.mp present
    exact answers index member found

theorem mapIdx_forall₂ {related : T → T → Prop} {next : Nat → T → T} {members : List T}
    (relates : ∀ index member, related member (next index member)) :
    List.Forall₂ related members (members.mapIdx next) := by
  induction members generalizing next with
  | nil => exact .nil
  | cons member rest induction =>
      rw [List.mapIdx_cons]
      exact .cons (relates 0 member) (induction fun index => relates (index + 1))

theorem set_forall₂ {related : T → T → Prop} (refl : ∀ member, related member member)
    {members : List T} {index : Nat} {member next : T}
    (found : members[index]? = some member) (relates : related member next) :
    List.Forall₂ related members (members.set index next) := by
  induction members generalizing index with
  | nil => cases found
  | cons head rest induction =>
      cases index with
      | zero =>
          cases found
          exact .cons relates (List.forall₂_same.mpr fun other _ => refl other)
      | succ index => exact .cons (refl head) (induction (by simpa using found))

theorem onMember_forall₂ {change : Change T α} {related : T → T → Prop}
    (refl : ∀ member, related member member)
    (relates : ∀ member, related member (change member).state) (index : Nat)
    (absent : Except Error α) (members : List T) :
    List.Forall₂ related members (onMember index absent change members).state := by
  cases found : members[index]? with
  | none =>
      rw [onMember_of_none found]
      exact List.forall₂_same.mpr fun member _ => refl member
  | some member =>
      rw [onMember_of_getElem? found]
      exact set_forall₂ refl found (relates member)

theorem forall₂_trans {related : T → T → Prop}
    (trans : ∀ first second third, related first second → related second third →
      related first third) {first second third : List T}
    (early : List.Forall₂ related first second) (late : List.Forall₂ related second third) :
    List.Forall₂ related first third := by
  induction early generalizing third with
  | nil => exact late
  | cons head _ induction =>
      cases late with
      | cons next rest => exact .cons (trans _ _ _ head next) (induction rest)

theorem forall₂_map_eq {view : S → α} {other : T → α} {first : List S} {second : List T}
    (related : List.Forall₂ (fun before after => view before = other after) first second) :
    first.map view = second.map other := by
  induction related with
  | nil => rfl
  | cons head _ tail => rw [List.map_cons, List.map_cons, head, tail]

theorem isEmpty_of_forall₂ {related : S → T → Prop} {before : List S} {after : List T}
    (members : List.Forall₂ related before after) : after.isEmpty = before.isEmpty := by
  cases members <;> rfl

/-- What became of the member with a number. -/
theorem getElem?_of_forall₂ {related : S → T → Prop} {before : List S} {after : List T}
    (members : List.Forall₂ related before after) {index : Nat} {member : T}
    (found : after[index]? = some member) :
    ∃ earlier, before[index]? = some earlier ∧ related earlier member := by
  induction members generalizing index with
  | nil => cases found
  | cons head _ induction =>
      cases index with
      | zero =>
          cases found
          exact ⟨_, rfl, head⟩
      | succ index => exact induction (by simpa using found)

theorem mem_of_forall₂ {related : S → T → Prop} {before : List S} {after : List T}
    (members : List.Forall₂ related before after) {member : T} (present : member ∈ after) :
    ∃ earlier ∈ before, related earlier member := by
  obtain ⟨index, found⟩ := List.mem_iff_getElem?.mp present
  obtain ⟨earlier, there, relates⟩ := getElem?_of_forall₂ members found
  exact ⟨earlier, List.mem_of_getElem? there, relates⟩

@[simp] theorem forAll_nil (change : β → Change S α) (state : S) :
    forAll [] change state = ⟨state, [], .ok ⟨⟩⟩ := rfl

theorem forAll_cons (item : β) (items : List β) (change : β → Change S α) (state : S) :
    forAll (item :: items) change state =
      (change item >>= fun _ => forAll items change) state := rfl

/-- Changes that all succeed without notice do so together. -/
theorem forAll_accepted {change : β → Change S α} (invariant : S → Prop) {items : List β}
    (succeeds : ∀ item ∈ items, ∀ state, invariant state → ∃ after answer,
      change item state = ⟨after, [], .ok answer⟩ ∧ invariant after)
    {state : S} (holds : invariant state) :
    ∃ after, forAll items change state = ⟨after, [], .ok ⟨⟩⟩ ∧ invariant after := by
  induction items generalizing state with
  | nil => exact ⟨state, rfl, holds⟩
  | cons item rest induction =>
      obtain ⟨next, answer, run, kept⟩ := succeeds item (by simp) state holds
      rw [forAll_cons, bind_ok run, Effect.after_nil]
      exact induction (fun other member => succeeds other (by simp [member])) kept

/-- Changes that each relate the states around them do so together. -/
theorem forAll_related (change : β → Change S α) (related : S → S → Prop)
    (refl : ∀ state, related state state)
    (trans : ∀ first second third, related first second → related second third →
      related first third)
    (relates : ∀ item state, related state (change item state).state) (items : List β)
    (state : S) : related state (forAll items change state).state := by
  induction items generalizing state with
  | nil => exact refl state
  | cons item rest induction =>
      rw [forAll_cons, bind_apply]
      split
      · exact relates item state
      · exact trans _ _ _ (relates item state) (induction _)

end Change

namespace Creation

variable {α β : Type}

theorem bind_eq_ok {first : Creation α} {next : α → Creation β} {before after : Nat}
    {result : β} (created : (first >>= next) before = (.ok result, after)) :
    ∃ answer middle, first before = (.ok answer, middle) ∧
      next answer middle = (.ok result, after) := by
  change andThen first next before = _ at created
  unfold andThen at created
  cases run : first before with
  | mk part middle =>
      rw [run] at created
      cases part with
      | error error => cases created
      | ok answer => exact ⟨answer, middle, rfl, created⟩

theorem require_eq_ok {required : Except Error α} {before after : Nat} {result : α}
    (created : require required before = (.ok result, after)) :
    required = .ok result ∧ before = after := by
  cases required with
  | error error => cases created
  | ok answer =>
      cases created
      exact ⟨rfl, rfl⟩

theorem pure_eq_ok {answer result : α} {before after : Nat}
    (created : (pure answer : Creation α) before = (.ok result, after)) :
    result = answer := by
  cases created
  rfl

end Creation

end Dispatch
