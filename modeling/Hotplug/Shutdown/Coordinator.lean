import Hotplug.Shutdown.AbortTimer
import Hotplug.Shutdown.StopFlag

/-!
# The shutdown coordinator

The one place that decides how a run ends.

This file models the shutdown coordinator of the lifecycle component: the handles that post to
it, its choice between terminations and signals, and the flag that keeps it from polling the
signals once none can come.

* The first signal raises the stop flag and arms the grace timer.
* A second signal ends the run at once.
* The first termination that anybody posts ends the run.

The coordinator is a machine: `Coordinator.step?` is its next step, if it has one.  It is
idle until it is run, and over once it has decided or was dropped; terminations posted
before it is run wait for it.
-/

namespace Hotplug

/-- How far the coordinator has come. -/
inductive CoordinatorPhase where
  | idle
  | awaitingSignal
  /-- The first signal has come and the grace timer was armed. -/
  | stopping (grace : TimerId)
  | decided (t : Termination)
  | dropped
  deriving DecidableEq, Repr, Inhabited

/-- The coordinator with the stop flag, the terminations posted to it, the signals it
reads, and the timers of the run. -/
structure Coordinator where
  gracePeriod : Nat
  phase : CoordinatorPhase := .idle
  stop : StopFlag := {}
  posted : List Termination := []
  signals : SignalBuffer := {}
  /-- Whether it polls the signals: it does until it has found that none can come any more. -/
  signalsOpen : Bool := true
  timers : Timers := {}
  deriving DecidableEq, Repr, Inhabited

namespace Coordinator

/-- Whether the coordinator still takes terminations. -/
def isListening (k : Coordinator) : Bool :=
  match k.phase with
  | .idle | .awaitingSignal | .stopping _ => true
  | .decided _ | .dropped => false

/-- Whether the coordinator is still in the hands of those who made it. -/
def isIdle (k : Coordinator) : Bool :=
  k.phase = .idle

/-- Whether the coordinator is being run and has not decided. -/
def isRunning (k : Coordinator) : Bool :=
  match k.phase with
  | .awaitingSignal | .stopping _ => true
  | _ => false

/-- The decision, once there is one. -/
def decision? (k : Coordinator) : Option Termination :=
  match k.phase with
  | .decided t => some t
  | _ => none

/-! ## Requests -/

/-- Posts a termination. -/
def post (k : Coordinator) (c : Chronicle) (t : Termination) : Coordinator × Chronicle :=
  if k.isListening then
    ({ k with posted := k.posted ++ [t] }, c.record (.terminationPosted t))
  else (k, c.log (.terminationIgnored t))

/-- Raises the stop flag; says whether it was down. -/
def trigger (k : Coordinator) (c : Chronicle) : Bool × Coordinator × Chronicle :=
  let (wasDown, stop) := k.stop.raise
  (wasDown, { k with stop := stop }, if wasDown then c.record .stopRaised else c)

/-- Starts to run an idle coordinator. -/
def run (k : Coordinator) : Coordinator :=
  { k with phase := .awaitingSignal }

/-- Drops an idle coordinator. -/
def drop (k : Coordinator) : Coordinator :=
  { k with phase := .dropped, stop := k.stop.abandon, posted := [] }

/-! ## Steps -/

/-- Fires the first timer whose deadline has come. -/
def fireTimer? (k : Coordinator) (c : Chronicle) : Option (Coordinator × Chronicle) :=
  match k.timers.due? c.now with
  | none => none
  | some t =>
    let (timers, c) := k.timers.fire c t
    some ({ k with timers := timers }.post c t.termination)

/-- The coordinator once it has decided: nobody is listened to any more, and the grace timer
is disarmed. -/
def conclude (k : Coordinator) (t : Termination) : Coordinator :=
  let timers :=
    match k.phase with
    | .stopping grace => k.timers.drop grace
    | _ => k.timers
  { k with
    phase := .decided t
    stop := k.stop.abandon
    posted := []
    signals := k.signals.stopReading
    timers := timers }

/-- Decides. -/
def decide (k : Coordinator) (c : Chronicle) (t : Termination) : Coordinator × Chronicle :=
  (k.conclude t, c.record (.terminated t))

/-- Reacts to the first signal. -/
def takeFirst (k : Coordinator) (c : Chronicle) (s : Signal) : Coordinator × Chronicle :=
  let c := (c.record (.signalTaken s)).log (.signalReceived s)
  let (_, k, c) := k.trigger c
  let (id, timers, c) := k.timers.arm c k.gracePeriod .shutdownTimeout
  ({ k with timers := timers, phase := .stopping id }, c)

/-- Reacts to a second signal. -/
def takeSecond (k : Coordinator) (c : Chronicle) (s : Signal) : Coordinator × Chronicle :=
  k.decide ((c.record (.signalTaken s)).log (.secondSignal s)) .repeatedSignal

/-- Decides as the first of the posted terminations says. -/
def decidePosted? (k : Coordinator) (c : Chronicle) : Option (Coordinator × Chronicle) :=
  if k.isRunning then k.posted.head?.map (k.decide c) else none

/-- Polls the signals no more. -/
def ignoreSignals (k : Coordinator) : Coordinator :=
  { k with signalsOpen := false }

/-- Polls the signals, if they are still polled: reacts to the one that has waited longest, or
finds that none can come any more. -/
def poll? (k : Coordinator) (c : Chronicle)
    (react : Coordinator → Chronicle → Signal → Coordinator × Chronicle) :
    Option (Coordinator × Chronicle) :=
  if k.signalsOpen then
    match k.signals.receive with
    | (.signal s, b) => some (react { k with signals := b } c s)
    | (.pending, _) => none
    | (.closed, _) => some (k.ignoreSignals, c)
  else none

/-- Polls the signals, for the first one or for the second. -/
def takeSignal? (k : Coordinator) (c : Chronicle) : Option (Coordinator × Chronicle) :=
  match k.phase with
  | .awaitingSignal => k.poll? c takeFirst
  | .stopping _ => k.poll? c takeSecond
  | _ => none

/-- The next step of a coordinator that is being run: a posted termination goes before the
signals. -/
def step? (k : Coordinator) (c : Chronicle) : Option (Coordinator × Chronicle) :=
  (k.decidePosted? c).or (k.takeSignal? c)

end Coordinator

end Hotplug
