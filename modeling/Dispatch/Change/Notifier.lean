import Dispatch.Change.Record

namespace Dispatch

/-! One observer per channel. A subscription opens a mailbox and takes the channel over
from the one before, which keeps what it was sent. A record for a channel without an
observer is dropped, and so is the entry of an observer that has gone. -/

structure Mailbox where
  isOpen : Bool
  queue : List Record
deriving DecidableEq, Repr

structure Notifier where
  /-- The mailbox that each channel delivers to. -/
  observers : List (Channel × Nat)
  mailboxes : List Mailbox
deriving DecidableEq, Repr

namespace Notifier

def empty : Notifier := ⟨[], []⟩

def observer? (notifier : Notifier) (channel : Channel) : Option Nat :=
  notifier.observers.lookup channel

def unsubscribe (notifier : Notifier) (channel : Channel) : Notifier :=
  { notifier with
    observers := notifier.observers.filter fun entry => entry.1 != channel }

/-- The number of the mailbox that the next subscription opens. -/
def nextMailbox (notifier : Notifier) : Nat :=
  notifier.mailboxes.length

def subscribe (notifier : Notifier) (channel : Channel) : Notifier where
  observers := (channel, notifier.nextMailbox) :: (notifier.unsubscribe channel).observers
  mailboxes := notifier.mailboxes ++ [⟨true, []⟩]

def close (notifier : Notifier) (mailbox : Nat) : Notifier :=
  { notifier with
    mailboxes := notifier.mailboxes.modify mailbox fun _ => ⟨false, []⟩ }

def isOpen (notifier : Notifier) (mailbox : Nat) : Bool :=
  (notifier.mailboxes[mailbox]?.map Mailbox.isOpen).getD false

def put (notifier : Notifier) (mailbox : Nat) (record : Record) : Notifier :=
  { notifier with
    mailboxes := notifier.mailboxes.modify mailbox fun box =>
      { box with queue := box.queue ++ [record] } }

def issue (notifier : Notifier) (channel : Channel) (record : Record) : Notifier :=
  match notifier.observer? channel with
  | none => notifier
  | some mailbox =>
      if notifier.isOpen mailbox then notifier.put mailbox record
      else notifier.unsubscribe channel

def issueIf (notifier : Notifier) (mode : Mode) (record : Record) : Notifier :=
  match mode.channel? with
  | none => notifier
  | some channel => notifier.issue channel record

def pending (notifier : Notifier) (mailbox : Nat) : List Record :=
  (notifier.mailboxes[mailbox]?.map Mailbox.queue).getD []

def drain (notifier : Notifier) (mailbox : Nat) : Notifier :=
  { notifier with
    mailboxes := notifier.mailboxes.modify mailbox fun box => { box with queue := [] } }

end Notifier

/-- A block starts with observers of its own and can be given shared ones. -/
inductive NotifierKey
  | own (block : BlockId)
  | shared (number : Nat)
deriving DecidableEq, Repr

/-- A record on its way to one channel of one notifier. -/
structure Notice where
  notifier : NotifierKey
  channel : Channel
  record : Record
deriving DecidableEq, Repr

/-- Every notifier in use, by key; one that was never used has no observers. -/
structure Exchange where
  notifiers : List (NotifierKey × Notifier)

namespace Exchange

def empty : Exchange := ⟨[]⟩

def notifier (exchange : Exchange) (key : NotifierKey) : Notifier :=
  (exchange.notifiers.lookup key).getD Notifier.empty

def update (exchange : Exchange) (key : NotifierKey) (change : Notifier → Notifier) :
    Exchange :=
  ⟨(key, change (exchange.notifier key)) ::
    exchange.notifiers.filter fun entry => entry.1 != key⟩

def deliver (exchange : Exchange) (notices : List Notice) : Exchange :=
  notices.foldl (fun exchange notice => exchange.update notice.notifier fun notifier =>
    notifier.issue notice.channel notice.record) exchange

end Exchange

end Dispatch
