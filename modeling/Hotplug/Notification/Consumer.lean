import Hotplug.Notification.Queue

/-!
# A consumer of notifications

A queue together with somebody who takes notifications from it and keeps some of them.

This file models the use of the notification channel of the manager component outside a
session, where nobody but the consumer has the receiver.

* `Consumer.take` — takes a notification and drops it at once.
* `Consumer.keep` — takes a notification and keeps it under a number.
-/

namespace Hotplug

/-- A queue, what was kept of what came out of it, and the chronicle. -/
structure Consumer where
  chronicle : Chronicle := {}
  queue : Queue := {}
  /-- What was kept, by number; `none` once it was dropped. -/
  kept : List (Option Notification) := []
  deriving Repr, Inhabited

namespace Consumer

/-- Whether the receiver is still there. -/
def isReceiving (s : Consumer) : Bool :=
  s.queue.receiver ≠ .dropped

/-- Delivers through a sender, if that is held. -/
def deliver (s : Consumer) (i : Nat) (n : Notification) : Option Bool × Consumer :=
  if s.queue.holds i then
    let (ok, q, c) := s.queue.deliver s.chronicle n
    (some ok, { s with queue := q, chronicle := c })
  else (none, s)

/-- Copies a sender. -/
def cloneSender (s : Consumer) (i : Nat) : Nat × Consumer :=
  let (k, q) := s.queue.cloneSender i
  (k, { s with queue := q })

/-- Gives a sender up. -/
def dropSender (s : Consumer) (i : Nat) : Bool × Consumer :=
  let (was, q) := s.queue.dropSender i
  (was, { s with queue := q })

/-- Takes a notification and drops it at once. -/
def take (s : Consumer) : Received × Consumer :=
  match s.queue.receive with
  | (.item n, q) => (.item n, { s with queue := q, chronicle := s.chronicle.release n })
  | (r, q) => (r, { s with queue := q })

/-- Takes a notification and keeps it. -/
def keep (s : Consumer) : Except Received Nat × Consumer :=
  match s.queue.receive with
  | (.item n, q) => (.ok s.kept.length, { s with queue := q, kept := s.kept ++ [some n] })
  | (r, q) => (.error r, { s with queue := q })

/-- What is kept under a number. -/
def kept? (s : Consumer) (i : Nat) : Option Notification :=
  s.kept.getD i none

/-- Drops what is kept under a number; says whether there was anything. -/
def dropKept (s : Consumer) (i : Nat) : Bool × Consumer :=
  match s.kept? i with
  | none => (false, s)
  | some n => (true, { s with kept := s.kept.set i none, chronicle := s.chronicle.release n })

/-- Closes the queue. -/
def close (s : Consumer) : Consumer :=
  { s with queue := s.queue.close }

/-- Gives the receiver up. -/
def dropReceiver (s : Consumer) : Consumer :=
  let (q, c) := s.queue.dropReceiver s.chronicle
  { s with queue := q, chronicle := c }

end Consumer

end Hotplug
