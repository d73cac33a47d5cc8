import Hotplug.Shutdown.Coordinator

/-!
# Many parties to one shutdown

A coordinator with any number of handles, timers and waits, all under numbers in the
order in which they were made.  A handle shows the stop flag and posts terminations; a
wait and a timer keep going when the handle they were made with is dropped.

This file models the shutdown coordinator of the lifecycle component in use on its own, without
a supervisor: every handle of it, and every timer armed with one.
-/

namespace Hotplug

/-- A coordinator and everybody who deals with it. -/
structure ShutdownDesk where
  coordinator : Coordinator
  chronicle : Chronicle := {}
  /-- Whether each handle is still held. -/
  handles : List Bool := []
  /-- The timers that are still held. -/
  timers : List (Option (TimerId × Termination)) := []
  /-- When each wait for the stop flag was over. -/
  waits : List (Option Nat) := []
  /-- The decision of the coordinator and when it was made. -/
  ended : Option (Nat × Termination) := none
  deriving Repr, Inhabited

namespace ShutdownDesk

/-- Whether a handle is held. -/
def holds (s : ShutdownDesk) (i : Nat) : Bool :=
  s.handles.getD i false

/-! ## Requests -/

/-- Makes a handle, as long as the coordinator is idle. -/
def subscribe (s : ShutdownDesk) : Option (Nat × ShutdownDesk) :=
  if s.coordinator.isIdle then
    some (s.handles.length, { s with handles := s.handles ++ [true] })
  else none

/-- Raises the stop flag, as long as the coordinator is idle. -/
def trigger (s : ShutdownDesk) : Option (Bool × ShutdownDesk) :=
  if s.coordinator.isIdle then
    let (wasDown, k, c) := s.coordinator.trigger s.chronicle
    some (wasDown, { s with coordinator := k, chronicle := c })
  else none

/-- The stop flag as an idle coordinator shows it. -/
def isStopping? (s : ShutdownDesk) : Option Bool :=
  if s.coordinator.isIdle then some s.coordinator.stop.isRaised else none

/-- Runs the coordinator, if it is idle. -/
def run (s : ShutdownDesk) : Option ShutdownDesk :=
  if s.coordinator.isIdle then some { s with coordinator := s.coordinator.run } else none

/-- Drops the coordinator, if it is idle. -/
def drop (s : ShutdownDesk) : Bool × ShutdownDesk :=
  if s.coordinator.isIdle then (true, { s with coordinator := s.coordinator.drop })
  else (false, s)

/-- Offers signals. -/
def signal (s : ShutdownDesk) (signals : List Signal) : List Offered × ShutdownDesk :=
  let (results, b) := s.coordinator.signals.offerAll signals
  (results, { s with coordinator := { s.coordinator with signals := b } })

/-- Gives up the sending side of the signals. -/
def closeSignals (s : ShutdownDesk) : Bool × ShutdownDesk :=
  let (was, b) := s.coordinator.signals.stopSending
  (was, { s with coordinator := { s.coordinator with signals := b } })

/-- Arms a timer through a handle. -/
def arm (s : ShutdownDesk) (i delay : Nat) (t : Termination) : Option (Nat × ShutdownDesk) :=
  if s.holds i then
    let (id, timers, c) := s.coordinator.timers.arm s.chronicle delay t
    some (s.timers.length,
      { s with
        coordinator := { s.coordinator with timers := timers }
        chronicle := c
        timers := s.timers ++ [some (id, t)] })
  else none

/-- A timer that is still held. -/
def timer? (s : ShutdownDesk) (j : Nat) : Option (TimerId × Termination) :=
  s.timers.getD j none

/-- Cancels a timer. -/
def cancel (s : ShutdownDesk) (j : Nat) : Bool × ShutdownDesk :=
  match s.timer? j with
  | none => (false, s)
  | some (id, t) =>
    let (timers, c) := s.coordinator.timers.cancel s.chronicle id t
    (true,
      { s with
        coordinator := { s.coordinator with timers := timers }
        chronicle := c
        timers := s.timers.set j none })

/-- Drops a timer. -/
def dropTimer (s : ShutdownDesk) (j : Nat) : Bool × ShutdownDesk :=
  match s.timer? j with
  | none => (false, s)
  | some (id, _) =>
    (true,
      { s with
        coordinator := { s.coordinator with timers := s.coordinator.timers.drop id }
        timers := s.timers.set j none })

/-- Whether a timer has fired. -/
def hasFired? (s : ShutdownDesk) (j : Nat) : Option Bool :=
  (s.timer? j).map fun (id, _) => s.coordinator.timers.hasFired id

/-- The stop flag as a handle shows it. -/
def stopping? (s : ShutdownDesk) (i : Nat) : Option Bool :=
  if s.holds i then some s.coordinator.stop.isRaised else none

/-- Begins to wait for the stop flag. -/
def await (s : ShutdownDesk) (i : Nat) : Option (Nat × ShutdownDesk) :=
  if s.holds i then some (s.waits.length, { s with waits := s.waits ++ [none] }) else none

/-- Posts a termination through a handle. -/
def terminate (s : ShutdownDesk) (i : Nat) (t : Termination) : Option ShutdownDesk :=
  if s.holds i then
    let (k, c) := s.coordinator.post s.chronicle t
    some { s with coordinator := k, chronicle := c }
  else none

/-- Drops a handle. -/
def dropHandle (s : ShutdownDesk) (i : Nat) : Option ShutdownDesk :=
  if s.holds i then some { s with handles := s.handles.set i false } else none

/-! ## The course of time -/

/-- The next thing that happens now: a timer fires, or the coordinator goes a step. -/
def step? (s : ShutdownDesk) : Option ShutdownDesk :=
  match s.coordinator.fireTimer? s.chronicle with
  | some (k, c) => some { s with coordinator := k, chronicle := c }
  | none =>
    (s.coordinator.step? s.chronicle).map fun (k, c) =>
      { s with
        coordinator := k
        chronicle := c
        ended := k.decision?.map fun t => (c.now, t) }

/-- Ends the waits for the stop flag that are over. -/
def wake (s : ShutdownDesk) : ShutdownDesk :=
  if s.coordinator.stop.isOver then
    { s with waits := s.waits.map fun w => some (w.getD s.chronicle.now) }
  else s

/-- Does what is to be done now, in at most so many steps. -/
def settleWithin : Nat → ShutdownDesk → ShutdownDesk
  | 0, s => s.wake
  | fuel + 1, s =>
    match s.step? with
    | some s => settleWithin fuel s
    | none => s.wake

/-- Does what is to be done now: each timer fires once, and the coordinator takes at most
one step for each signal and one to decide. -/
def settle (s : ShutdownDesk) : ShutdownDesk :=
  settleWithin (s.coordinator.timers.armed.length + s.coordinator.signals.waiting.length + 4) s

/-- Lets time pass until `target`, deadline by deadline. -/
def advance : Nat → ShutdownDesk → Nat → ShutdownDesk
  | 0, s, _ => s
  | fuel + 1, s, target =>
    let s := s.settle
    match s.coordinator.timers.nextDeadline?.filter (· ≤ target) with
    | some due => advance fuel { s with chronicle := { s.chronicle with now := due } } target
    | none => { s with chronicle := { s.chronicle with now := target } }

/-- Lets time pass.  Every deadline on the way belongs to an armed timer, or to the grace
timer. -/
def wait (s : ShutdownDesk) (duration : Nat) : ShutdownDesk :=
  advance (s.coordinator.timers.armed.length + 4) s (s.chronicle.now + duration)

end ShutdownDesk

end Hotplug
