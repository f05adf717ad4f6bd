import Dispatch.Change.Notifier

namespace Dispatch

/-! What a receiver gets to hear: whoever subscribes to a channel holds the records issued on
it from then on, until the channel is taken over or given up, and no others. -/

theorem lookup_filter_ne {α β : Type} [DecidableEq α] (entries : List (α × β)) (key other : α) :
    (entries.filter fun entry => entry.1 != key).lookup other =
      if other = key then none else entries.lookup other := by
  induction entries with
  | nil => simp
  | cons entry rest induction =>
      obtain ⟨name, value⟩ := entry
      by_cases removed : name = key
      · subst removed
        rw [List.filter_cons_of_neg (by simp), induction, List.lookup_cons]
        by_cases same : other = name
        · rw [if_pos same, if_pos same]
        · rw [if_neg same, if_neg same, beq_false_of_ne same]
      · rw [List.filter_cons_of_pos (by simpa using removed), List.lookup_cons, induction,
          List.lookup_cons]
        by_cases same : other = name
        · have apart : other ≠ key := fun given => removed (same.symm.trans given)
          rw [beq_iff_eq.mpr same, if_neg apart, if_neg apart]
        · rw [beq_false_of_ne same]

theorem lookup_cons_filter_ne {α β : Type} [DecidableEq α] (entries : List (α × β))
    (key other : α) (value : β) :
    ((key, value) :: entries.filter fun entry => entry.1 != key).lookup other =
      if other = key then some value else entries.lookup other := by
  rw [List.lookup_cons, lookup_filter_ne]
  by_cases same : other = key
  · rw [beq_iff_eq.mpr same, if_pos same, if_pos same]
  · rw [beq_false_of_ne same, if_neg same, if_neg same]

namespace Notifier

/-- One step of the life of a notifier. A receiver that is dropped closes its mailbox. -/
inductive Event
  | subscribe (channel : Channel)
  | unsubscribe (channel : Channel)
  | issue (channel : Channel) (record : Record)
  | close (mailbox : Nat)
deriving DecidableEq, Repr

namespace Event

/-- Whether the receiver that the channel delivers to so far hears no more. -/
def reassigns (channel : Channel) : Event → Bool
  | .subscribe other => other == channel
  | .unsubscribe other => other == channel
  | _ => false

def issued? (channel : Channel) : Event → Option Record
  | .issue other record => if other = channel then some record else none
  | _ => none

end Event

def handle (notifier : Notifier) : Event → Notifier
  | .subscribe channel => notifier.subscribe channel
  | .unsubscribe channel => notifier.unsubscribe channel
  | .issue channel record => notifier.issue channel record
  | .close mailbox => notifier.close mailbox

def run (notifier : Notifier) (events : List Event) : Notifier :=
  events.foldl handle notifier

/-- The records issued on a channel before anyone subscribes to it or unsubscribes from it. -/
def heard (channel : Channel) (events : List Event) : List Record :=
  (events.takeWhile fun event => !event.reassigns channel).filterMap (Event.issued? channel)

variable {notifier : Notifier} {channel other : Channel} {mailbox receiver : Nat}
  {record : Record}

theorem observer?_unsubscribe (notifier : Notifier) (channel other : Channel) :
    (notifier.unsubscribe channel).observer? other =
      if other = channel then none else notifier.observer? other :=
  lookup_filter_ne notifier.observers channel other

theorem observer?_subscribe (notifier : Notifier) (channel other : Channel) :
    (notifier.subscribe channel).observer? other =
      if other = channel then some notifier.nextMailbox else notifier.observer? other :=
  lookup_cons_filter_ne notifier.observers channel other notifier.nextMailbox

theorem observer?_put (notifier : Notifier) (mailbox : Nat) (record : Record)
    (channel : Channel) :
    (notifier.put mailbox record).observer? channel = notifier.observer? channel := rfl

theorem nextMailbox_close (notifier : Notifier) (mailbox : Nat) :
    (notifier.close mailbox).nextMailbox = notifier.nextMailbox :=
  List.length_modify _ _ _

theorem pending_subscribe (old : receiver < notifier.nextMailbox) :
    (notifier.subscribe channel).pending receiver = notifier.pending receiver := by
  unfold pending subscribe
  rw [List.getElem?_append_left old]

theorem isOpen_subscribe (old : receiver < notifier.nextMailbox) :
    (notifier.subscribe channel).isOpen receiver = notifier.isOpen receiver := by
  unfold isOpen subscribe
  rw [List.getElem?_append_left old]

theorem pending_nextMailbox (notifier : Notifier) (channel : Channel) :
    (notifier.subscribe channel).pending notifier.nextMailbox = [] := by
  simp [pending, subscribe, nextMailbox]

theorem isOpen_nextMailbox (notifier : Notifier) (channel : Channel) :
    (notifier.subscribe channel).isOpen notifier.nextMailbox = true := by
  simp [isOpen, subscribe, nextMailbox]

theorem lt_nextMailbox_of_isOpen (isOpen : notifier.isOpen receiver = true) :
    receiver < notifier.nextMailbox := by
  refine Nat.lt_of_not_le fun beyond => ?_
  rw [Notifier.isOpen, List.getElem?_eq_none beyond] at isOpen
  cases isOpen

theorem pending_put (present : receiver < notifier.nextMailbox) :
    (notifier.put mailbox record).pending receiver =
      if mailbox = receiver then notifier.pending receiver ++ [record]
      else notifier.pending receiver := by
  unfold pending put
  rw [List.getElem?_modify, List.getElem?_eq_getElem present]
  split <;> rfl

theorem isOpen_put (notifier : Notifier) (mailbox : Nat) (record : Record) (receiver : Nat) :
    (notifier.put mailbox record).isOpen receiver = notifier.isOpen receiver := by
  unfold isOpen put
  rw [List.getElem?_modify]
  cases notifier.mailboxes[receiver]? with
  | none => rfl
  | some box => dsimp only [Option.map_some]; split <;> rfl

theorem pending_close (apart : mailbox ≠ receiver) :
    (notifier.close mailbox).pending receiver = notifier.pending receiver := by
  unfold pending close
  rw [List.getElem?_modify_ne _ _ apart]

theorem isOpen_close (notifier : Notifier) (mailbox receiver : Nat) :
    (notifier.close mailbox).isOpen receiver =
      (notifier.isOpen receiver && mailbox != receiver) := by
  unfold isOpen close
  rw [List.getElem?_modify]
  cases notifier.mailboxes[receiver]? with
  | none => rfl
  | some box =>
      by_cases same : mailbox = receiver
      · simp [same]
      · simp [same]

/-! Issuing either puts the record in one mailbox or forgets one observer. -/

theorem issue_cases (notifier : Notifier) (channel : Channel) (record : Record) :
    (notifier.observer? channel = none ∧ notifier.issue channel record = notifier) ∨
    (∃ mailbox, notifier.observer? channel = some mailbox ∧ notifier.isOpen mailbox = true ∧
      notifier.issue channel record = notifier.put mailbox record) ∨
    (∃ mailbox, notifier.observer? channel = some mailbox ∧ notifier.isOpen mailbox = false ∧
      notifier.issue channel record = notifier.unsubscribe channel) := by
  unfold issue
  cases observer : notifier.observer? channel with
  | none => exact .inl ⟨rfl, rfl⟩
  | some mailbox =>
      refine .inr ?_
      dsimp only
      cases status : notifier.isOpen mailbox with
      | true => exact .inl ⟨mailbox, rfl, status, rfl⟩
      | false => exact .inr ⟨mailbox, rfl, status, rfl⟩

theorem isOpen_issue (notifier : Notifier) (channel : Channel) (record : Record)
    (receiver : Nat) :
    (notifier.issue channel record).isOpen receiver = notifier.isOpen receiver := by
  obtain ⟨-, same⟩ | ⟨mailbox, -, -, same⟩ | ⟨mailbox, -, -, same⟩ :=
    notifier.issue_cases channel record
  · rw [same]
  · rw [same, isOpen_put]
  · rw [same]
    rfl

theorem nextMailbox_issue (notifier : Notifier) (channel : Channel) (record : Record) :
    (notifier.issue channel record).nextMailbox = notifier.nextMailbox := by
  obtain ⟨-, same⟩ | ⟨mailbox, -, -, same⟩ | ⟨mailbox, -, -, same⟩ :=
    notifier.issue_cases channel record
  · rw [same]
  · rw [same, nextMailbox, put, List.length_modify, nextMailbox]
  · rw [same]
    rfl

theorem observer?_of_issue (kept : (notifier.issue channel record).observer? other = some mailbox) :
    notifier.observer? other = some mailbox := by
  obtain ⟨-, same⟩ | ⟨box, -, -, same⟩ | ⟨box, -, -, same⟩ := notifier.issue_cases channel record
  · rwa [same] at kept
  · rwa [same, observer?_put] at kept
  · rw [same, observer?_unsubscribe] at kept
    split at kept
    · cases kept
    · exact kept

/-! Numbers of mailboxes are given out once, so a new receiver is nobody's observer yet. -/

def Lodged (notifier : Notifier) : Prop :=
  ∀ channel mailbox, notifier.observer? channel = some mailbox → mailbox < notifier.nextMailbox

theorem lodged_empty : Lodged empty := fun _ _ listed => by cases listed

theorem Lodged.handle (lodged : notifier.Lodged) (event : Event) :
    (notifier.handle event).Lodged := by
  intro channel mailbox listed
  cases event with
  | subscribe on =>
      have grown : (notifier.subscribe on).nextMailbox = notifier.nextMailbox + 1 := by
        simp [nextMailbox, subscribe]
      simp only [Notifier.handle, grown, observer?_subscribe] at listed ⊢
      split at listed
      · cases listed
        exact Nat.lt_succ_self _
      · exact Nat.lt_succ_of_lt (lodged channel mailbox listed)
  | unsubscribe on =>
      simp only [Notifier.handle, observer?_unsubscribe] at listed
      split at listed
      · cases listed
      · exact lodged channel mailbox listed
  | issue on record =>
      simp only [Notifier.handle, nextMailbox_issue] at listed ⊢
      exact lodged channel mailbox (observer?_of_issue listed)
  | close box =>
      rw [Notifier.handle, nextMailbox_close]
      exact lodged channel mailbox listed

theorem Lodged.run (lodged : notifier.Lodged) (events : List Event) :
    (notifier.run events).Lodged := by
  induction events generalizing notifier with
  | nil => exact lodged
  | cons event later induction => exact induction (lodged.handle event)

theorem isOpen_handle (present : receiver < notifier.nextMailbox) (event : Event) :
    (notifier.handle event).isOpen receiver =
      (notifier.isOpen receiver && event != .close receiver) := by
  cases event with
  | subscribe on => simp [Notifier.handle, isOpen_subscribe present]
  | unsubscribe on => simp [Notifier.handle, unsubscribe, isOpen]
  | issue on record => simp [Notifier.handle, isOpen_issue]
  | close mailbox =>
      rw [Notifier.handle, isOpen_close]
      congr 1
      exact Bool.eq_iff_iff.mpr (by simp)

theorem nextMailbox_le_handle (notifier : Notifier) (event : Event) :
    notifier.nextMailbox ≤ (notifier.handle event).nextMailbox := by
  cases event with
  | subscribe on => simp [Notifier.handle, nextMailbox, subscribe]
  | unsubscribe on => exact Nat.le_refl _
  | issue on record => exact Nat.le_of_eq (notifier.nextMailbox_issue on record).symm
  | close mailbox => simp [Notifier.handle, nextMailbox, close]

theorem isOpen_run (present : receiver < notifier.nextMailbox) (events : List Event) :
    (notifier.run events).isOpen receiver =
      (notifier.isOpen receiver && !decide (.close receiver ∈ events)) := by
  induction events generalizing notifier with
  | nil => simp [run]
  | cons event later induction =>
      have still := Nat.lt_of_lt_of_le present (notifier.nextMailbox_le_handle event)
      change ((notifier.handle event).run later).isOpen receiver = _
      rw [induction still, isOpen_handle present]
      by_cases dropped : event = .close receiver
      · simp [dropped]
      · rw [bne_iff_ne.mpr dropped]
        simp [Ne.symm dropped]

/-! The receiver of a channel hears what is issued on it; one that no channel delivers to
hears nothing. -/

structure Attached (notifier : Notifier) (channel : Channel) (receiver : Nat) : Prop where
  isOpen : notifier.isOpen receiver = true
  listed : notifier.observer? channel = some receiver
  alone : ∀ other, notifier.observer? other = some receiver → other = channel

structure Detached (notifier : Notifier) (receiver : Nat) : Prop where
  isOpen : notifier.isOpen receiver = true
  unlisted : ∀ channel, notifier.observer? channel ≠ some receiver

theorem Lodged.attached (lodged : notifier.Lodged) (channel : Channel) :
    (notifier.subscribe channel).Attached channel notifier.nextMailbox where
  isOpen := notifier.isOpen_nextMailbox channel
  listed := by rw [observer?_subscribe, if_pos rfl]
  alone := by
    intro other listed
    rw [observer?_subscribe] at listed
    split at listed
    · assumption
    · exact absurd (lodged other _ listed) (Nat.lt_irrefl _)

theorem Detached.handle (detached : notifier.Detached receiver) {event : Event}
    (undropped : event ≠ .close receiver) :
    (notifier.handle event).Detached receiver ∧
      (notifier.handle event).pending receiver = notifier.pending receiver := by
  have present := lt_nextMailbox_of_isOpen detached.isOpen
  have isOpen : (notifier.handle event).isOpen receiver = true := by
    rw [isOpen_handle present, detached.isOpen, Bool.true_and, bne_iff_ne]
    exact undropped
  cases event with
  | subscribe on =>
      refine ⟨⟨isOpen, fun channel listed => ?_⟩, pending_subscribe present⟩
      rw [Notifier.handle, observer?_subscribe] at listed
      split at listed
      · cases listed
        exact Nat.lt_irrefl _ present
      · exact detached.unlisted channel listed
  | unsubscribe on =>
      refine ⟨⟨isOpen, fun channel listed => ?_⟩, rfl⟩
      rw [Notifier.handle, observer?_unsubscribe] at listed
      split at listed
      · cases listed
      · exact detached.unlisted channel listed
  | issue on record =>
      refine ⟨⟨isOpen, fun channel listed =>
        detached.unlisted channel (observer?_of_issue listed)⟩, ?_⟩
      obtain ⟨-, same⟩ | ⟨mailbox, listed, -, same⟩ | ⟨mailbox, -, -, same⟩ :=
        notifier.issue_cases on record
      · rw [Notifier.handle, same]
      · have apart : mailbox ≠ receiver := fun given => detached.unlisted on (given ▸ listed)
        rw [Notifier.handle, same, pending_put present, if_neg apart]
      · rw [Notifier.handle, same]
        rfl
  | close mailbox =>
      have apart : mailbox ≠ receiver := fun same => undropped (congrArg Event.close same)
      exact ⟨⟨isOpen, detached.unlisted⟩, pending_close apart⟩

theorem Detached.pending_run (detached : notifier.Detached receiver) {events : List Event}
    (undropped : .close receiver ∉ events) :
    (notifier.run events).pending receiver = notifier.pending receiver := by
  induction events generalizing notifier with
  | nil => rfl
  | cons event later induction =>
      rw [List.mem_cons, not_or] at undropped
      obtain ⟨next, same⟩ := detached.handle (Ne.symm undropped.1)
      exact (induction next undropped.2).trans same

theorem Attached.detached_of_reassigns (attached : notifier.Attached channel receiver)
    {event : Event} (reassigns : event.reassigns channel = true) :
    (notifier.handle event).Detached receiver ∧
      (notifier.handle event).pending receiver = notifier.pending receiver := by
  have present := lt_nextMailbox_of_isOpen attached.isOpen
  cases event with
  | subscribe on =>
      have same : on = channel := by simpa [Event.reassigns] using reassigns
      subst same
      refine ⟨⟨(isOpen_subscribe present).trans attached.isOpen, fun other listed => ?_⟩,
        pending_subscribe present⟩
      rw [Notifier.handle, observer?_subscribe] at listed
      split at listed
      · cases listed
        exact Nat.lt_irrefl _ present
      · rename_i apart
        exact apart (attached.alone other listed)
  | unsubscribe on =>
      have same : on = channel := by simpa [Event.reassigns] using reassigns
      subst same
      refine ⟨⟨attached.isOpen, fun other listed => ?_⟩, rfl⟩
      rw [Notifier.handle, observer?_unsubscribe] at listed
      split at listed
      · cases listed
      · rename_i apart
        exact apart (attached.alone other listed)
  | issue on record => cases reassigns
  | close mailbox => cases reassigns

/-- An open receiver is not forgotten by issuing on its channel. -/
theorem Attached.issue (attached : notifier.Attached channel receiver) (on : Channel)
    (record : Record) :
    (notifier.issue on record).Attached channel receiver ∧
      (notifier.issue on record).pending receiver =
        notifier.pending receiver ++ ((Event.issue on record).issued? channel).toList := by
  have present := lt_nextMailbox_of_isOpen attached.isOpen
  have isOpen : (notifier.issue on record).isOpen receiver = true := by
    rw [isOpen_issue, attached.isOpen]
  have alone : ∀ other, (notifier.issue on record).observer? other = some receiver →
      other = channel := fun other listed => attached.alone other (observer?_of_issue listed)
  obtain ⟨silent, same⟩ | ⟨mailbox, listed, -, same⟩ | ⟨mailbox, listed, closed, same⟩ :=
    notifier.issue_cases on record
  · have apart : on ≠ channel := by
      rintro rfl
      rw [attached.listed] at silent
      cases silent
    rw [same] at alone isOpen ⊢
    exact ⟨⟨isOpen, attached.listed, alone⟩, by simp [Event.issued?, apart]⟩
  · rw [same] at alone isOpen ⊢
    refine ⟨⟨isOpen, attached.listed, alone⟩, ?_⟩
    rw [pending_put present]
    by_cases own : on = channel
    · have found : mailbox = receiver := by
        rw [own, attached.listed] at listed
        exact (Option.some.inj listed).symm
      rw [if_pos found]
      simp [Event.issued?, own]
    · have apart : mailbox ≠ receiver := fun given => own (attached.alone on (given ▸ listed))
      rw [if_neg apart]
      simp [Event.issued?, own]
  · have apart : channel ≠ on := by
      rintro rfl
      rw [attached.listed] at listed
      cases listed
      rw [attached.isOpen] at closed
      cases closed
    rw [same] at alone isOpen ⊢
    refine ⟨⟨isOpen, ?_, alone⟩, ?_⟩
    · rw [observer?_unsubscribe, if_neg apart, attached.listed]
    · simp [Event.issued?, Ne.symm apart, unsubscribe, pending]

theorem Attached.handle (attached : notifier.Attached channel receiver) {event : Event}
    (undropped : event ≠ .close receiver) (keeps : event.reassigns channel = false) :
    (notifier.handle event).Attached channel receiver ∧
      (notifier.handle event).pending receiver =
        notifier.pending receiver ++ (event.issued? channel).toList := by
  have present := lt_nextMailbox_of_isOpen attached.isOpen
  have isOpen : (notifier.handle event).isOpen receiver = true := by
    rw [isOpen_handle present, attached.isOpen, Bool.true_and, bne_iff_ne]
    exact undropped
  cases event with
  | subscribe on =>
      have apart : channel ≠ on := by rintro rfl; simp [Event.reassigns] at keeps
      refine ⟨⟨isOpen, ?_, fun other listed => ?_⟩, ?_⟩
      · rw [Notifier.handle, observer?_subscribe, if_neg apart, attached.listed]
      · rw [Notifier.handle, observer?_subscribe] at listed
        split at listed
        · cases listed
          exact absurd present (Nat.lt_irrefl _)
        · exact attached.alone other listed
      · exact (pending_subscribe present).trans (List.append_nil _).symm
  | unsubscribe on =>
      have apart : channel ≠ on := by rintro rfl; simp [Event.reassigns] at keeps
      refine ⟨⟨isOpen, ?_, fun other listed => ?_⟩, (List.append_nil _).symm⟩
      · rw [Notifier.handle, observer?_unsubscribe, if_neg apart, attached.listed]
      · rw [Notifier.handle, observer?_unsubscribe] at listed
        split at listed
        · cases listed
        · exact attached.alone other listed
  | issue on record => exact attached.issue on record
  | close mailbox =>
      have apart : mailbox ≠ receiver := fun same => undropped (congrArg Event.close same)
      exact ⟨⟨isOpen, attached.listed, attached.alone⟩,
        (pending_close apart).trans (List.append_nil _).symm⟩

theorem Attached.pending_run (attached : notifier.Attached channel receiver)
    {events : List Event} (undropped : .close receiver ∉ events) :
    (notifier.run events).pending receiver =
      notifier.pending receiver ++ heard channel events := by
  induction events generalizing notifier with
  | nil => exact (List.append_nil _).symm
  | cons event later induction =>
      rw [List.mem_cons, not_or] at undropped
      change ((notifier.handle event).run later).pending receiver = _
      cases reassigns : event.reassigns channel with
      | true =>
          obtain ⟨detached, same⟩ := attached.detached_of_reassigns reassigns
          rw [detached.pending_run undropped.2, same]
          simp [heard, reassigns]
      | false =>
          obtain ⟨next, grown⟩ := attached.handle (Ne.symm undropped.1) reassigns
          rw [induction next undropped.2, grown, List.append_assoc]
          congr 1
          cases issued : event.issued? channel with
          | none => simp [heard, reassigns, issued]
          | some record => simp [heard, reassigns, issued]

/-- A subscription opens an empty mailbox, which fills with what its channel is issued. -/
theorem Lodged.pending_run (lodged : notifier.Lodged) (channel : Channel) {later : List Event}
    (undropped : .close notifier.nextMailbox ∉ later) :
    (notifier.run (.subscribe channel :: later)).pending notifier.nextMailbox =
      heard channel later := by
  change ((notifier.subscribe channel).run later).pending notifier.nextMailbox = _
  rw [(lodged.attached channel).pending_run undropped, pending_nextMailbox, List.nil_append]

theorem isOpen_run_subscribe (notifier : Notifier) (channel : Channel) (later : List Event) :
    (notifier.run (.subscribe channel :: later)).isOpen notifier.nextMailbox =
      !decide (.close notifier.nextMailbox ∈ later) := by
  have isOpen := notifier.isOpen_nextMailbox channel
  change ((notifier.subscribe channel).run later).isOpen notifier.nextMailbox = _
  rw [isOpen_run (lt_nextMailbox_of_isOpen isOpen), isOpen, Bool.true_and]

end Notifier

namespace Exchange

theorem notifier_update (exchange : Exchange) (key other : NotifierKey)
    (change : Notifier → Notifier) :
    (exchange.update key change).notifier other =
      if other = key then change (exchange.notifier key) else exchange.notifier other := by
  unfold Exchange.notifier update
  rw [lookup_cons_filter_ne]
  split <;> rfl

end Exchange

/-- Holders of clones. Two clones of one notifier have the same key. -/
structure Clients where
  holders : List NotifierKey
  exchange : Exchange

/-- A receiver is dropped by the number of its mailbox, which one of the clones tells apart
from the receivers of other notifiers. -/
inductive Call
  | clone (holder : Nat)
  | act (holder : Nat) (event : Notifier.Event)
deriving DecidableEq, Repr

namespace Clients

def perform (clients : Clients) : Call → Clients
  | .clone holder =>
      { clients with holders := clients.holders ++ clients.holders[holder]?.toList }
  | .act holder event =>
      match clients.holders[holder]? with
      | none => clients
      | some key =>
          { clients with
            exchange := clients.exchange.update key fun notifier => notifier.handle event }

def play (clients : Clients) (calls : List Call) : Clients :=
  calls.foldl perform clients

/-- What the calls come to for one notifier, whichever of its clones they go through. -/
def eventsOf (key : NotifierKey) (clients : Clients) : List Call → List Notifier.Event
  | [] => []
  | call :: later =>
      let rest := eventsOf key (clients.perform call) later
      match call with
      | .clone _ => rest
      | .act holder event => if clients.holders[holder]? = some key then event :: rest else rest

theorem perform_act {clients : Clients} {holder : Nat} {key : NotifierKey}
    (held : clients.holders[holder]? = some key) (event : Notifier.Event)
    (other : NotifierKey) :
    (clients.perform (.act holder event)).exchange.notifier other =
      if other = key then (clients.exchange.notifier key).handle event
      else clients.exchange.notifier other := by
  simp only [perform, held, Exchange.notifier_update]

theorem notifier_play (clients : Clients) (key : NotifierKey) (calls : List Call) :
    (clients.play calls).exchange.notifier key =
      (clients.exchange.notifier key).run (clients.eventsOf key calls) := by
  induction calls generalizing clients with
  | nil => rfl
  | cons call later induction =>
      refine (induction (clients.perform call)).trans ?_
      cases call with
      | clone holder => rfl
      | act holder event =>
          by_cases held : clients.holders[holder]? = some key
          · rw [perform_act held, if_pos rfl]
            simp only [eventsOf, if_pos held]
            rfl
          · have same : (clients.perform (.act holder event)).exchange.notifier key =
                clients.exchange.notifier key := by
              cases other : clients.holders[holder]? with
              | none => simp only [perform, other]
              | some name =>
                  have apart : key ≠ name := by
                    rintro rfl
                    exact held other
                  rw [perform_act other, if_neg apart]
            rw [same]
            simp only [eventsOf, if_neg held]

/-- What clones promise to whoever subscribes through one of them, whatever is done through
any of them later on. -/
structure Delivers (clients : Clients) : Prop where
  isOpen : ∀ holder key channel later, clients.holders[holder]? = some key →
    let subscription : Call := .act holder (.subscribe channel)
    let receiver := (clients.exchange.notifier key).nextMailbox
    let events := (clients.perform subscription).eventsOf key later
    let after := (clients.play (subscription :: later)).exchange.notifier key
    after.isOpen receiver = true ↔ .close receiver ∉ events
  holds : ∀ holder key channel later, clients.holders[holder]? = some key →
    let subscription : Call := .act holder (.subscribe channel)
    let receiver := (clients.exchange.notifier key).nextMailbox
    let events := (clients.perform subscription).eventsOf key later
    let after := (clients.play (subscription :: later)).exchange.notifier key
    .close receiver ∉ events → after.pending receiver = Notifier.heard channel events
  /-- Where the receiver of a channel was dropped, the next record only ends its
  subscription. -/
  forgets : ∀ holder key channel mailbox record, clients.holders[holder]? = some key →
    let before := clients.exchange.notifier key
    let after := (clients.perform (.act holder (.issue channel record))).exchange
    before.observer? channel = some mailbox → before.isOpen mailbox = false →
      (after.notifier key).mailboxes = before.mailboxes ∧
      (∀ other, (after.notifier key).observer? other =
        if other = channel then none else before.observer? other) ∧
      ∀ other, other ≠ key → after.notifier other = clients.exchange.notifier other

theorem lodged_play (holders : List NotifierKey) (calls : List Call) (key : NotifierKey) :
    (((Clients.mk holders .empty).play calls).exchange.notifier key).Lodged := by
  rw [notifier_play]
  exact Notifier.lodged_empty.run _

/-- From notifiers that nobody has used yet, every course of calls delivers. -/
theorem delivers_play (holders : List NotifierKey) (calls : List Call) :
    ((Clients.mk holders .empty).play calls).Delivers := by
  have lodged := lodged_play holders calls
  generalize (Clients.mk holders .empty).play calls = clients at lodged ⊢
  have course : ∀ {holder key} channel later, clients.holders[holder]? = some key →
      (clients.play (.act holder (.subscribe channel) :: later)).exchange.notifier key =
        (clients.exchange.notifier key).run (.subscribe channel ::
          (clients.perform (.act holder (.subscribe channel))).eventsOf key later) := by
    intro holder key channel later held
    rw [notifier_play]
    simp only [eventsOf, if_pos held]
  refine ⟨?_, ?_, ?_⟩
  · intro holder key channel later held
    dsimp only
    rw [course channel later held, Notifier.isOpen_run_subscribe]
    simp
  · intro holder key channel later held
    dsimp only
    intro undropped
    rw [course channel later held]
    exact (lodged key).pending_run channel undropped
  · intro holder key channel mailbox record held
    dsimp only
    intro listed dropped
    have forgotten : (clients.exchange.notifier key).issue channel record =
        (clients.exchange.notifier key).unsubscribe channel := by
      simp [Notifier.issue, listed, dropped]
    refine ⟨?_, fun other => ?_, fun other apart => ?_⟩
    · rw [perform_act held, if_pos rfl, Notifier.handle, forgotten]
      rfl
    · rw [perform_act held, if_pos rfl, Notifier.handle, forgotten,
        Notifier.observer?_unsubscribe]
    · rw [perform_act held, if_neg apart]

end Clients

end Dispatch
