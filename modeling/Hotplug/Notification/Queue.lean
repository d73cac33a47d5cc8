import Hotplug.Chronicle.Basic

/-!
# The notification queue

Notifications wait in one unbounded queue from a library to its consumer.

This file models the notification channel of the manager component, with its senders and its
receiver.

* `Queue.deliver` — puts a notification in; a notification that nobody can take is
  released at once.
* `Queue.receive` — takes the notification that has waited longest.
* `Queue.close`, `Queue.dropReceiver` — two ways to stop taking: what waits in a closed
  queue can still be taken, what waits in a dropped one is released.

Senders are numbered in the order in which they were made.
-/

namespace Hotplug

/-- The receiving side of a queue. -/
inductive Receiver where
  | taking
  /-- Nothing more is put in, what is in can be taken. -/
  | closed
  | dropped
  deriving DecidableEq, Repr, Inhabited

/-- What a receive finds. -/
inductive Received where
  | item (n : Notification)
  | empty
  /-- The queue is empty and nothing can come any more. -/
  | disconnected
  deriving DecidableEq, Repr, Inhabited

/-- A queue of notifications, with its senders and its receiver. -/
structure Queue where
  items : List Notification := []
  senders : List Bool := [true]
  receiver : Receiver := .taking
  deriving DecidableEq, Repr, Inhabited

namespace Queue

/-! ## Senders -/

/-- Whether a sender is still held. -/
def holds (q : Queue) (i : Nat) : Bool :=
  q.senders.getD i false

/-- Makes another sender like sender `i`; a copy of a dropped sender is a dropped one. -/
def cloneSender (q : Queue) (i : Nat) : Nat × Queue :=
  (q.senders.length, { q with senders := q.senders ++ [q.holds i] })

/-- Gives a sender up; says whether it was held. -/
def dropSender (q : Queue) (i : Nat) : Bool × Queue :=
  (q.holds i, { q with senders := q.senders.set i false })

/-- Whether any sender is held. -/
def hasSender (q : Queue) : Bool :=
  q.senders.contains true

/-! ## Putting in and taking out -/

/-- Puts a notification into the queue, or releases it if nobody takes any.  Says whether
it was accepted. -/
def deliver (q : Queue) (c : Chronicle) (n : Notification) : Bool × Queue × Chronicle :=
  match q.receiver with
  | .taking =>
    (true, { q with items := q.items ++ [n] },
      (c.record (.accepted n)).measure fun m =>
        { m with notifications := Tally.bump n.event.kind.label m.notifications })
  | _ =>
    (false, q, ((c.log (.notificationDropped n.event.kind)).record (.refused n)).release n)

/-- Puts notifications in one after the other. -/
def deliverAll (q : Queue) (c : Chronicle) : List Notification → List Bool × Queue × Chronicle
  | [] => ([], q, c)
  | n :: rest =>
    let (ok, q, c) := q.deliver c n
    let (oks, q, c) := q.deliverAll c rest
    (ok :: oks, q, c)

/-- Takes the notification that has waited longest. -/
def receive (q : Queue) : Received × Queue :=
  match q.items with
  | n :: rest => (.item n, { q with items := rest })
  | [] => (if q.receiver = .taking && q.hasSender then .empty else .disconnected, q)

/-! ## The end of a queue -/

/-- Closes the queue. -/
def close (q : Queue) : Queue :=
  if q.receiver = .taking then { q with receiver := .closed } else q

/-- Gives the receiver up with all that waits. -/
def dropReceiver (q : Queue) (c : Chronicle) : Queue × Chronicle :=
  ({ q with receiver := .dropped, items := [] }, c.releaseAll q.items)

end Queue

end Hotplug
