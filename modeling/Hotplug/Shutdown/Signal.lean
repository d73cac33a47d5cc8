/-!
# Signals

The two signals that ask a process to end, and the bounded buffer in which they wait.  A
signal that finds the buffer full is coalesced with those that wait: it is dropped.

This file models the channel between the signal listener and the shutdown coordinator of the
lifecycle component.

* `SignalBuffer.offer` — puts a signal in, if there is room and somebody to read it.
* `SignalBuffer.receive` — what is to be had: the signal that has waited longest, or the news that
  no signal can come any more.
-/

namespace Hotplug

/-- A signal that asks the process to end. -/
inductive Signal where
  | interrupt
  | terminate
  deriving DecidableEq, Repr, Inhabited

namespace Signal

/-- The name of a signal. -/
def name : Signal → String
  | interrupt => "SIGINT"
  | terminate => "SIGTERM"

/-- The signal of a name. -/
def ofName? (s : String) : Option Signal :=
  [interrupt, terminate].find? (·.name = s)

end Signal

/-- What becomes of a signal that is offered to a buffer. -/
inductive Offered where
  | queued
  /-- The buffer was full. -/
  | coalesced
  /-- Nobody reads the buffer any more. -/
  | unread
  /-- The sending side was given up. -/
  | unsendable
  deriving DecidableEq, Repr, Inhabited

/-- What the reader of a buffer finds in it. -/
inductive Heard where
  | signal (s : Signal)
  /-- Nothing waits, but signals can still come. -/
  | pending
  /-- Nothing waits, and no signal can come any more. -/
  | closed
  deriving DecidableEq, Repr, Inhabited

/-- Signals waiting to be read. -/
structure SignalBuffer where
  capacity : Nat := 2
  waiting : List Signal := []
  isSending : Bool := true
  isRead : Bool := true
  deriving DecidableEq, Repr, Inhabited

namespace SignalBuffer

/-- Offers a signal to the buffer. -/
def offer (b : SignalBuffer) (s : Signal) : Offered × SignalBuffer :=
  if !b.isSending then (.unsendable, b)
  else if !b.isRead then (.unread, b)
  else if b.capacity ≤ b.waiting.length then (.coalesced, b)
  else (.queued, { b with waiting := b.waiting ++ [s] })

/-- Offers signals one after the other. -/
def offerAll (b : SignalBuffer) : List Signal → List Offered × SignalBuffer
  | [] => ([], b)
  | s :: rest =>
    let (r, b) := b.offer s
    let (rs, b) := b.offerAll rest
    (r :: rs, b)

/-- Takes the signal that has waited longest, or finds that there is none. -/
def receive (b : SignalBuffer) : Heard × SignalBuffer :=
  match b.waiting with
  | s :: rest => (.signal s, { b with waiting := rest })
  | [] => (if b.isSending then .pending else .closed, b)

theorem receive_eq_signal {b c : SignalBuffer} {s : Signal} :
    b.receive = (.signal s, c) ↔
      ∃ rest, b.waiting = s :: rest ∧ c = { b with waiting := rest } := by
  unfold receive
  cases b.waiting with
  | nil => cases b.isSending <;> simp
  | cons u later => simp [@eq_comm _ c, and_assoc]

theorem receive_eq_pending {b : SignalBuffer} :
    b.receive.1 = .pending ↔ b.waiting = [] ∧ b.isSending = true := by
  unfold receive
  cases b.waiting <;> cases b.isSending <;> simp

theorem receive_eq_closed {b : SignalBuffer} :
    b.receive.1 = .closed ↔ b.waiting = [] ∧ b.isSending = false := by
  unfold receive
  cases b.waiting <;> cases b.isSending <;> simp

/-- Takes the signal that has waited longest, if there is one. -/
def take? (b : SignalBuffer) : Option (Signal × SignalBuffer) :=
  match b.receive with
  | (.signal s, b) => some (s, b)
  | _ => none

/-- Gives up the sending side; says whether it was still there. -/
def stopSending (b : SignalBuffer) : Bool × SignalBuffer :=
  (b.isSending, { b with isSending := false })

/-- Gives up the reading side with all that waits. -/
def stopReading (b : SignalBuffer) : SignalBuffer :=
  { b with isRead := false, waiting := [] }

end SignalBuffer

end Hotplug
