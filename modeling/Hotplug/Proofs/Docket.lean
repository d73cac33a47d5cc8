import Hotplug.Proofs.Steps.Coordinator
import Hotplug.Proofs.Traffic.Ledger
import Hotplug.Shutdown.Listener

/-!
# One coordinator, and what others do to it

A coordinator with its own grace timer, in whatever order its steps come and whatever terminations
and signals it is sent meanwhile.  A docket keeps what others have done and when; what the
coordinator may decide on, and when, is read off the docket alone.

The subject is the shutdown coordinator of the lifecycle component on its own, with no supervisor
around it.

* `Docket.candidates`, `Docket.outcomes` — what can end the run, and what ends it first.
* `Incident`, `ShutdownRun.occur` — what can happen, and what becomes of the run.
* `ShutdownRun.Step` — everything that an incident can do.
* `ShutdownRun.Attentive` — no signal is missed for want of polling.
-/

namespace Hotplug

/-! ## The docket -/

/-- What others have done to a coordinator, and when. -/
structure Docket where
  /-- Whether somebody has raised the stop flag. -/
  isTriggered : Bool := false
  /-- When the coordinator began to be run. -/
  begun : Option Nat := none
  /-- The terminations that others have posted, the oldest first. -/
  posts : List (Nat × Termination) := []
  /-- The signals that were sent while the buffer was open, the oldest first. -/
  forwarded : List Signal := []
  /-- Those of them that got into the buffer. -/
  arrivals : List (Nat × Signal) := []
  deriving DecidableEq, Repr, Inhabited

namespace Docket

/-- Somebody posts a termination. -/
def post (d : Docket) (now : Nat) (t : Termination) : Docket :=
  { d with posts := d.posts ++ [(now, t)] }

/-- Somebody sends a signal. -/
def send (d : Docket) (now : Nat) (s : Signal) : Offered → Docket
  | .queued =>
    { d with forwarded := d.forwarded ++ [s], arrivals := d.arrivals ++ [(now, s)] }
  | .coalesced => { d with forwarded := d.forwarded ++ [s] }
  | .unread | .unsendable => d

/-- What ends the run at the latest, and when: the first termination that was posted, the grace
period after the first signal, and the second signal.  What comes before the run counts from its
beginning. -/
def candidates (d : Docket) (gracePeriod : Nat) : List (Nat × Termination) :=
  match d.begun with
  | none => []
  | some begun =>
    (d.posts[0]?.map fun x => (max begun x.1, x.2)).toList ++
      (d.arrivals[0]?.map fun x => (max begun x.1 + gracePeriod, .shutdownTimeout)).toList ++
        (d.arrivals[1]?.map fun x => (max begun x.1, .repeatedSignal)).toList

/-- The earliest of the candidates. -/
def outcomes (d : Docket) (gracePeriod : Nat) : List (Nat × Termination) :=
  (d.candidates gracePeriod).filter fun x => (d.candidates gracePeriod).all (x.1 ≤ ·.1)

end Docket

/-- The signal that the coordinator takes. -/
def Happening.taken? : Happening → Option Signal
  | .signalTaken s => some s
  | _ => none

/-! ## Incidents -/

/-- One thing that can happen to a coordinator. -/
inductive Incident where
  /-- Somebody raises the stop flag. -/
  | trigger
  /-- The coordinator begins to be run. -/
  | run
  /-- Somebody posts a termination. -/
  | post (t : Termination)
  /-- Somebody sends a signal. -/
  | signal (s : Signal)
  /-- Nobody sends signals any more. -/
  | closeSignals
  /-- Time passes until then. -/
  | pass (time : Nat)
  /-- The grace timer fires. -/
  | fireTimer
  /-- The coordinator decides as it was asked to. -/
  | decide
  /-- The coordinator takes a signal, or finds that none can come any more. -/
  | takeSignal
  deriving DecidableEq, Repr, Inhabited

namespace Incident

/-- Whether an incident is a step of the coordinator or of its timer. -/
def isOwn : Incident → Bool
  | fireTimer | decide | takeSignal => true
  | _ => false

/-- Whether an incident has to do with the sending of signals. -/
def isSending : Incident → Bool
  | signal _ | closeSignals => true
  | _ => false

end Incident

/-- A coordinator, what it has recorded, and what others have done to it. -/
structure ShutdownRun where
  coordinator : Coordinator
  chronicle : Chronicle := {}
  docket : Docket := {}
  deriving Repr, Inhabited

namespace ShutdownRun

/-- A run before anything has happened. -/
def fresh (gracePeriod capacity : Nat) : ShutdownRun :=
  { coordinator := { gracePeriod := gracePeriod, signals := { capacity := capacity } } }

/-- The time in a run. -/
def now (r : ShutdownRun) : Nat :=
  r.chronicle.now

/-- The signals that the coordinator has taken, the oldest first. -/
def received (r : ShutdownRun) : List Signal :=
  gather Happening.taken? r.chronicle.happenings

/-- The step that an incident stands for, if it stands for one that can be made now. -/
def attempt (r : ShutdownRun) : Incident → Option (Coordinator × Chronicle)
  | .fireTimer => r.coordinator.fireTimer? r.chronicle
  | .decide => r.coordinator.decidePosted? r.chronicle
  | .takeSignal => r.coordinator.takeSignal? r.chronicle
  | _ => none

/-- The run after a step, if that can be made now. -/
def turn (r : ShutdownRun) (i : Incident) : ShutdownRun :=
  (r.attempt i).elim r fun (k, c) => { r with coordinator := k, chronicle := c }

/-- Whether no step can be made now. -/
def rests (r : ShutdownRun) : Bool :=
  (r.attempt .fireTimer).isNone && (r.attempt .decide).isNone && (r.attempt .takeSignal).isNone

/-- Whether time can pass until `time` with no step on the way. -/
def mayPass (r : ShutdownRun) (time : Nat) : Bool :=
  r.rests && Nat.ble r.now time && r.coordinator.timers.armed.all (time ≤ ·.deadline)

/-- The run after something has happened in it.  Before the coordinator is run, and only then, it
is in the hands of those who run it and raise its flag. -/
def occur (r : ShutdownRun) : Incident → ShutdownRun
  | .trigger =>
    if r.coordinator.isIdle then
      let (_, k, c) := r.coordinator.trigger r.chronicle
      ⟨k, c, { r.docket with isTriggered := true }⟩
    else r
  | .run =>
    if r.coordinator.isIdle then
      { r with coordinator := r.coordinator.run, docket := { r.docket with begun := some r.now } }
    else r
  | .post t =>
    let (k, c) := r.coordinator.post r.chronicle t
    ⟨k, c, r.docket.post r.now t⟩
  | .signal s =>
    let (o, b, c) := r.coordinator.signals.forward r.chronicle s
    ⟨{ r.coordinator with signals := b }, c, r.docket.send r.now s o⟩
  | .closeSignals =>
    { r with coordinator :=
        { r.coordinator with signals := r.coordinator.signals.stopSending.2 } }
  | .pass time =>
    if r.mayPass time then { r with chronicle := { r.chronicle with now := time } } else r
  | .fireTimer => r.turn .fireTimer
  | .decide => r.turn .decide
  | .takeSignal => r.turn .takeSignal

/-- The run after several things have happened in it. -/
def follow (r : ShutdownRun) (is : List Incident) : ShutdownRun :=
  is.foldl occur r

@[simp] theorem follow_nil (r : ShutdownRun) : r.follow [] = r := rfl

theorem follow_append (r : ShutdownRun) (is js : List Incident) :
    r.follow (is ++ js) = (r.follow is).follow js :=
  List.foldl_append

end ShutdownRun

/-! ## Everything that an incident can do -/

/-- What a chronicle goes on to when the coordinator neither takes a signal nor decides. -/
structure Chronicle.Aside (c d : Chronicle) : Prop where
  now : d.now = c.now
  adds : Adds (fun h => !h.isSignal && !h.isTermination) c.happenings d.happenings

namespace Chronicle.Aside

variable {c d : Chronicle}

theorem refl (c : Chronicle) : c.Aside c :=
  ⟨rfl, Adds.refl _⟩

theorem record (h : c.Aside d) {x : Happening} (hsignal : x.isSignal = false)
    (hend : x.isTermination = false) : c.Aside (d.record x) where
  now := h.now
  adds := h.adds.cons (by simp [hsignal, hend])

theorem log (h : c.Aside d) (m : Message) (s : Option SessionId) : c.Aside (d.log m s) :=
  h.record rfl rfl

theorem adds_untold (h : c.Aside d) : Adds (!·.isTermination) c.happenings d.happenings := by
  apply h.adds.mono
  intro x hx
  rw [Bool.and_eq_true] at hx
  exact hx.2

end Chronicle.Aside

theorem Coordinator.isIdle_iff {k : Coordinator} : k.isIdle = true ↔ k.phase = .idle := by
  simp [isIdle]

/-- Taking the first signal raises the flag and arms the grace timer. -/
theorem Coordinator.takeFirst_fst (k : Coordinator) (c : Chronicle) (s : Signal) :
    (k.takeFirst c s).1 =
      { k with
        phase := .stopping k.timers.made
        stop := { k.stop with isRaised := true }
        timers := (k.timers.arm c k.gracePeriod .shutdownTimeout).2.1 } := by
  cases hraised : k.stop.isRaised <;>
    simp [takeFirst, trigger, StopFlag.raise, Timers.arm, hraised]

theorem Coordinator.now_takeFirst (k : Coordinator) (c : Chronicle) (s : Signal) :
    (k.takeFirst c s).2.now = c.now := by
  cases hraised : k.stop.isRaised <;>
    simp [takeFirst, trigger, StopFlag.raise, Timers.arm, hraised]

namespace ShutdownRun

variable {r v : ShutdownRun}

/-- Everything that can become of a run by one incident. -/
inductive Step (r : ShutdownRun) : ShutdownRun → Prop
  | stay : Step r r
  | trigger (c : Chronicle) (hidle : r.coordinator.phase = .idle) (hc : r.chronicle.Aside c) :
      Step r ⟨{ r.coordinator with stop := { r.coordinator.stop with isRaised := true } }, c,
        { r.docket with isTriggered := true }⟩
  | run (hidle : r.coordinator.phase = .idle) :
      Step r ⟨{ r.coordinator with phase := .awaitingSignal }, r.chronicle,
        { r.docket with begun := some r.now }⟩
  | post (t : Termination) (hlistening : r.coordinator.isListening = true) :
      Step r ⟨{ r.coordinator with posted := r.coordinator.posted ++ [t] },
        r.chronicle.record (.terminationPosted t), r.docket.post r.now t⟩
  | ignore (t : Termination) (c : Chronicle) (hlistening : r.coordinator.isListening = false)
      (hc : r.chronicle.Aside c) : Step r ⟨r.coordinator, c, r.docket.post r.now t⟩
  | queue (s : Signal) (hread : r.coordinator.signals.isRead = true)
      (hsending : r.coordinator.signals.isSending = true)
      (hroom : r.coordinator.signals.waiting.length < r.coordinator.signals.capacity) :
      Step r ⟨{ r.coordinator with signals :=
          { r.coordinator.signals with waiting := r.coordinator.signals.waiting ++ [s] } },
        r.chronicle, r.docket.send r.now s .queued⟩
  | coalesce (s : Signal) (c : Chronicle) (hread : r.coordinator.signals.isRead = true)
      (hfull : r.coordinator.signals.capacity ≤ r.coordinator.signals.waiting.length)
      (hc : r.chronicle.Aside c) :
      Step r ⟨r.coordinator, c, r.docket.send r.now s .coalesced⟩
  | close :
      Step r { r with coordinator :=
        { r.coordinator with signals := { r.coordinator.signals with isSending := false } } }
  | pass (time : Nat) (hrests : r.rests = true) (hle : r.now ≤ time)
      (hdue : ∀ a ∈ r.coordinator.timers.armed, time ≤ a.deadline) :
      Step r { r with chronicle := { r.chronicle with now := time } }
  | fire (a : AbortTimer) (fired : List TimerId) (c : Chronicle)
      (harmed : a ∈ r.coordinator.timers.armed) (hdue : a.deadline ≤ r.now)
      (hlistening : r.coordinator.isListening = true) (hc : r.chronicle.Aside c) :
      Step r { r with
        coordinator := { r.coordinator with
          timers := { r.coordinator.timers.drop a.id with fired := fired }
          posted := r.coordinator.posted ++ [a.termination] }
        chronicle := c.record (.terminationPosted a.termination) }
  | expire (a : AbortTimer) (fired : List TimerId) (c : Chronicle)
      (harmed : a ∈ r.coordinator.timers.armed)
      (hlistening : r.coordinator.isListening = false) (hc : r.chronicle.Aside c) :
      Step r { r with
        coordinator := { r.coordinator with
          timers := { r.coordinator.timers.drop a.id with fired := fired } }
        chronicle := c }
  | decide (t : Termination) (rest : List Termination) (hrun : r.coordinator.isRunning = true)
      (hposted : r.coordinator.posted = t :: rest) :
      Step r { r with
        coordinator := r.coordinator.conclude t
        chronicle := r.chronicle.record (.terminated t) }
  | first (s : Signal) (rest : List Signal) (c : Chronicle)
      (hphase : r.coordinator.phase = .awaitingSignal)
      (hwaiting : r.coordinator.signals.waiting = s :: rest)
      (hc : (r.chronicle.record (.signalTaken s)).Aside c) :
      Step r { r with
        coordinator := { r.coordinator with
          phase := .stopping r.coordinator.timers.made
          stop := { r.coordinator.stop with isRaised := true }
          signals := { r.coordinator.signals with waiting := rest }
          timers := { r.coordinator.timers with
            made := r.coordinator.timers.made + 1
            armed := r.coordinator.timers.armed ++ [⟨r.coordinator.timers.made,
              r.now + r.coordinator.gracePeriod, r.coordinator.gracePeriod, .shutdownTimeout⟩] } }
        chronicle := c }
  | second (s : Signal) (rest : List Signal) (grace : TimerId) (c : Chronicle)
      (hphase : r.coordinator.phase = .stopping grace)
      (hwaiting : r.coordinator.signals.waiting = s :: rest)
      (hc : (r.chronicle.record (.signalTaken s)).Aside c) :
      Step r { r with
        coordinator := { r.coordinator with
          signals := { r.coordinator.signals with waiting := rest } }.conclude .repeatedSignal
        chronicle := c.record (.terminated .repeatedSignal) }
  /-- The coordinator finds that no signal can come any more. -/
  | ignoreSignals (hrun : r.coordinator.isRunning = true)
      (hopen : r.coordinator.signalsOpen = true)
      (hwaiting : r.coordinator.signals.waiting = [])
      (hclosed : r.coordinator.signals.isSending = false) :
      Step r { r with coordinator := r.coordinator.ignoreSignals }

theorem step_trigger (r : ShutdownRun) : r.Step (r.occur .trigger) := by
  by_cases hidle : r.coordinator.phase = .idle
  · have hoccur := Step.trigger (r := r) (r.coordinator.trigger r.chronicle).2.2 hidle (by
      cases hraised : r.coordinator.stop.isRaised with
      | true => simpa [Coordinator.trigger, StopFlag.raise, hraised] using .refl _
      | false =>
        simpa [Coordinator.trigger, StopFlag.raise, hraised] using
          (Chronicle.Aside.refl r.chronicle).record rfl rfl)
    simpa [occur, Coordinator.isIdle_iff, hidle, Coordinator.trigger, StopFlag.raise] using hoccur
  · simpa [occur, Coordinator.isIdle_iff, hidle] using Step.stay

theorem step_post (r : ShutdownRun) (t : Termination) : r.Step (r.occur (.post t)) := by
  cases hlistening : r.coordinator.isListening with
  | true =>
    simpa [occur, Coordinator.post, hlistening] using Step.post t hlistening
  | false =>
    have hc := (Chronicle.Aside.refl r.chronicle).log (.terminationIgnored t) none
    simpa [occur, Coordinator.post, hlistening] using Step.ignore t _ hlistening hc

/-- A signal is sent in vain, is coalesced, or gets into the buffer. -/
theorem step_signal (r : ShutdownRun) (s : Signal) : r.Step (r.occur (.signal s)) := by
  cases hsending : r.coordinator.signals.isSending with
  | false =>
    simpa [occur, SignalBuffer.forward, SignalBuffer.offer, hsending, SignalBuffer.remark?,
      Docket.send] using Step.stay
  | true =>
    cases hread : r.coordinator.signals.isRead with
    | false =>
      simpa [occur, SignalBuffer.forward, SignalBuffer.offer, hsending, hread,
        SignalBuffer.remark?, Docket.send] using Step.stay
    | true =>
      by_cases hfull : r.coordinator.signals.capacity ≤ r.coordinator.signals.waiting.length
      · have hc := (Chronicle.Aside.refl r.chronicle).log (.signalCoalesced s) none
        simpa [occur, SignalBuffer.forward, SignalBuffer.offer, hsending, hread, hfull,
          SignalBuffer.remark?] using Step.coalesce s _ hread hfull hc
      · have hroom := Nat.lt_of_not_le hfull
        simpa [occur, SignalBuffer.forward, SignalBuffer.offer, hsending, hread, hfull,
          SignalBuffer.remark?] using Step.queue s hread hsending hroom

theorem step_pass (r : ShutdownRun) (time : Nat) : r.Step (r.occur (.pass time)) := by
  by_cases hmay : r.mayPass time = true
  · have hparts := hmay
    simp only [mayPass, Bool.and_eq_true, Nat.ble_eq, List.all_eq_true, decide_eq_true_eq]
      at hparts
    simpa [occur, hmay] using Step.pass time hparts.1.1 hparts.1.2 hparts.2
  · simpa [occur, hmay] using Step.stay

theorem occur_of_none {i : Incident} (hown : i.isOwn = true) (hnone : r.attempt i = none) :
    r.occur i = r := by
  cases i with
  | fireTimer | decide | takeSignal => simp [occur, turn, hnone]
  | _ => cases hown

theorem occur_of_some {i : Incident} {x : Coordinator × Chronicle} (hown : i.isOwn = true)
    (hsome : r.attempt i = some x) :
    r.occur i = { r with coordinator := x.1, chronicle := x.2 } := by
  cases i with
  | fireTimer | decide | takeSignal => simp [occur, turn, hsome]
  | _ => cases hown

theorem step_fireTimer (r : ShutdownRun) : r.Step (r.occur .fireTimer) := by
  cases hdue : r.coordinator.timers.due? r.chronicle.now with
  | none =>
    rw [occur_of_none rfl (by simp [attempt, Coordinator.fireTimer?, hdue])]
    exact .stay
  | some a =>
    obtain ⟨harmed, hle⟩ := Timers.due?_eq_some hdue
    let k : Coordinator :=
      { r.coordinator with timers := (r.coordinator.timers.fire r.chronicle a).1 }
    let c : Chronicle := (r.coordinator.timers.fire r.chronicle a).2
    have hc : r.chronicle.Aside c :=
      ⟨rfl, ((Adds.refl r.chronicle.happenings).cons rfl).cons rfl⟩
    rw [occur_of_some (x := k.post c a.termination) rfl
      (by simp [attempt, Coordinator.fireTimer?, hdue, k, c])]
    cases hlistening : r.coordinator.isListening with
    | true =>
      rw [Coordinator.post, if_pos (by exact hlistening)]
      exact .fire a _ c harmed hle hlistening hc
    | false =>
      rw [Coordinator.post, if_neg (by rw [show k.isListening = _ from hlistening]; simp)]
      exact .expire a _ _ harmed hlistening (hc.log (.terminationIgnored a.termination) none)

theorem step_decide (r : ShutdownRun) : r.Step (r.occur .decide) := by
  cases hrun : r.coordinator.isRunning with
  | false =>
    rw [occur_of_none rfl (by simp [attempt, Coordinator.decidePosted?, hrun])]
    exact .stay
  | true =>
    cases hposted : r.coordinator.posted with
    | nil =>
      rw [occur_of_none rfl (by simp [attempt, Coordinator.decidePosted?, hposted])]
      exact .stay
    | cons t rest =>
      rw [occur_of_some (x := r.coordinator.decide r.chronicle t) rfl
        (by simp [attempt, Coordinator.decidePosted?, hrun, hposted])]
      exact .decide t rest hrun hposted

/-- What is recorded as the first signal is taken. -/
theorem aside_takeFirst (k : Coordinator) (c : Chronicle) (s : Signal) :
    (c.record (.signalTaken s)).Aside (k.takeFirst c s).2 := by
  have hlogged := (Chronicle.Aside.refl (c.record (.signalTaken s))).log (.signalReceived s) none
  cases hraised : k.stop.isRaised with
  | true =>
    simpa [Coordinator.takeFirst, Coordinator.trigger, StopFlag.raise, hraised, Timers.arm]
      using hlogged.record rfl rfl
  | false =>
    simpa [Coordinator.takeFirst, Coordinator.trigger, StopFlag.raise, hraised, Timers.arm]
      using (hlogged.record (x := .stopRaised) rfl rfl).record rfl rfl

theorem step_takeSignal (r : ShutdownRun) : r.Step (r.occur .takeSignal) := by
  cases htake : r.coordinator.takeSignal? r.chronicle with
  | none =>
    rw [occur_of_none (i := .takeSignal) rfl htake]
    exact .stay
  | some x =>
    rw [occur_of_some (i := .takeSignal) rfl htake]
    obtain ⟨hopen, ⟨s, b, hreceive, htaken⟩ | ⟨hrun, hclosed, rfl⟩⟩ :=
      Coordinator.takeSignal?_eq_some htake
    · obtain ⟨rest, hwaiting, rfl⟩ := SignalBuffer.receive_eq_signal.1 hreceive
      let k : Coordinator :=
        { r.coordinator with signals := { r.coordinator.signals with waiting := rest } }
      rcases htaken with ⟨hphase, rfl⟩ | ⟨grace, hphase, rfl⟩
      · rw [show (k.takeFirst r.chronicle s).1 = _ from k.takeFirst_fst r.chronicle s]
        exact .first s rest _ hphase hwaiting (aside_takeFirst k r.chronicle s)
      · have htold := Chronicle.Aside.refl (r.chronicle.record (.signalTaken s))
        exact .second s rest grace _ hphase hwaiting (htold.log (.secondSignal s) none)
    · obtain ⟨hwaiting, hsending⟩ := SignalBuffer.receive_eq_closed.1 hclosed
      exact .ignoreSignals hrun hopen hwaiting hsending

/-- Whatever happens is a step. -/
theorem step_occur (r : ShutdownRun) (i : Incident) : r.Step (r.occur i) := by
  cases i with
  | trigger => exact r.step_trigger
  | run =>
    by_cases hidle : r.coordinator.phase = .idle
    · simpa [occur, Coordinator.isIdle_iff, hidle, Coordinator.run] using Step.run hidle
    · simpa [occur, Coordinator.isIdle_iff, hidle] using Step.stay
  | post t => exact r.step_post t
  | signal s => exact r.step_signal s
  | closeSignals => exact .close
  | pass time => exact r.step_pass time
  | fireTimer => exact r.step_fireTimer
  | decide => exact r.step_decide
  | takeSignal => exact r.step_takeSignal

/-- What every step preserves holds in the whole run. -/
theorem follow_induction {P : ShutdownRun → Prop} (hstep : ∀ r v, r.Step v → P r → P v)
    (hr : P r) (is : List Incident) : P (r.follow is) := by
  induction is generalizing r with
  | nil => exact hr
  | cons i is ih =>
    apply ih
    exact hstep r (r.occur i) (r.step_occur i) hr

/-! ## Polling the signals -/

/-- The coordinator polls the signals as long as one waits or can still come. -/
def Attentive (r : ShutdownRun) : Prop :=
  r.coordinator.signalsOpen = false →
    r.coordinator.signals.waiting = [] ∧ r.coordinator.signals.isSending = false

theorem Attentive.step (h : r.Attentive) (hs : r.Step v) : v.Attentive := by
  cases hs with
  | queue s hread hsending =>
    intro hignored
    rw [(h hignored).2] at hsending
    cases hsending
  | close => exact fun hignored => ⟨(h hignored).1, rfl⟩
  | decide | second => exact fun hignored => ⟨rfl, (h hignored).2⟩
  | first s rest c _ hwaiting =>
    intro hignored
    rw [(h hignored).1] at hwaiting
    cases hwaiting
  | ignoreSignals _ _ hwaiting hclosed => exact fun _ => ⟨hwaiting, hclosed⟩
  | stay | trigger | run | post | ignore | coalesce | pass | fire | expire => exact h

/-- So it does in every run. -/
theorem attentive_follow (gracePeriod capacity : Nat) (is : List Incident) :
    ((fresh gracePeriod capacity).follow is).Attentive := by
  apply follow_induction
  · exact fun r v hs h => h.step hs
  · rintro ⟨⟩

/-! ## At rest -/

theorem posted_of_rests (hrests : r.rests = true) (hrun : r.coordinator.isRunning = true) :
    r.coordinator.posted = [] := by
  simp only [rests, attempt, Coordinator.decidePosted?, hrun, Bool.and_eq_true, if_true] at hrests
  simpa using hrests.1.2

theorem waiting_of_rests (hattentive : r.Attentive) (hrests : r.rests = true)
    (hrun : r.coordinator.isRunning = true) : r.coordinator.signals.waiting = [] := by
  simp only [rests, attempt, Bool.and_eq_true, Option.isNone_iff_eq_none] at hrests
  have hpending := Coordinator.takeSignal?_eq_none.1 hrests.2 hrun
  cases hopen : r.coordinator.signalsOpen with
  | false => exact (hattentive hopen).1
  | true => exact (SignalBuffer.receive_eq_pending.1 (hpending hopen)).1

end ShutdownRun

end Hotplug
