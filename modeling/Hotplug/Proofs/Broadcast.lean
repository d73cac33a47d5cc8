import Hotplug.Proofs.Docket

/-!
# The stop flag reaches everyone

One coordinator, any number of handles that show its stop flag, and any number of waits for the
flag.  A wait goes step by step: it looks at the flag, and if that is down it waits until it has
changed or the coordinator is gone.  The flag is raised by whoever has the coordinator, and by the
coordinator itself when it takes its first signal.

The subject is the stop flag of the lifecycle component.  What a wait goes by is the version of
the flag that it has seen.

* `StopWait.poll` — a step of a wait.
* `StopOp`, `StopRun.occur` — what can happen, and what becomes of it.
* `StopRun.Kept` — what holds at any time.
* `StopRun.stop_reaches_everyone` — the flag is raised once and stays up, and no wait misses it.
-/

namespace Hotplug

/-! ## Waiting for the flag -/

/-- How far one has come who waits for the stop flag. -/
inductive StopWait where
  /-- It is about to look at the flag. -/
  | looking
  /-- It waits for a change since the version of the flag that it has seen. -/
  | watching (seen : Nat)
  | resolved
  deriving DecidableEq, Repr, Inhabited

namespace StopWait

/-- A step of a wait, at the version that the flag has.  A change counts even if the coordinator is
gone. -/
def poll (f : StopFlag) (version : Nat) : StopWait → StopWait
  | .looking => if f.isRaised then .resolved else .watching version
  | .watching seen =>
    if version ≠ seen then .looking else if f.isHeld then .watching seen else .resolved
  | .resolved => .resolved

/-- How many steps a wait needs at most, once the flag is up or will never be. -/
def distance (isRaised : Bool) : StopWait → Nat
  | .looking => if isRaised then 1 else 2
  | .watching _ => if isRaised then 2 else 1
  | .resolved => 0

/-- What a wait may rely on: it has seen no version but the first, and is over only if it may be. -/
def Fair (f : StopFlag) : StopWait → Prop
  | .looking => True
  | .watching seen => seen = 0
  | .resolved => f.isOver = true

end StopWait

/-! ## Runs -/

/-- One thing that can happen around a stop flag. -/
inductive StopOp where
  /-- Something happens to the coordinator. -/
  | incident (i : Incident)
  /-- The coordinator is given up, whether it is being run or not. -/
  | drop
  /-- Whoever has the coordinator makes a handle. -/
  | subscribe
  /-- Somebody makes another handle of one. -/
  | clone (i : Nat)
  | dropHandle (i : Nat)
  /-- Somebody begins to wait for the flag with a handle. -/
  | await (i : Nat)
  /-- A wait goes a step. -/
  | poll (j : Nat)
  deriving DecidableEq, Repr, Inhabited

/-- The coordinator is given up with all that it has. -/
def Coordinator.giveUp (k : Coordinator) : Coordinator :=
  match k.phase with
  | .idle => k.drop
  | .awaitingSignal => { k.drop with signals := k.signals.stopReading }
  | .stopping grace =>
    { k.drop with signals := k.signals.stopReading, timers := k.timers.drop grace }
  | .decided _ | .dropped => k

/-- The answer to the request to raise the flag that an incident makes, if it makes one.  The
coordinator makes one when it takes its first signal. -/
def ShutdownRun.raise? (r : ShutdownRun) : Incident → Option Bool
  | .trigger =>
    if r.coordinator.isIdle then some (r.coordinator.trigger r.chronicle).1 else none
  | .takeSignal =>
    if r.coordinator.phase = .awaitingSignal ∧ r.coordinator.signalsOpen then
      r.coordinator.signals.take?.map fun _ => (r.coordinator.trigger r.chronicle).1
    else none
  | _ => none

/-- A coordinator with its handles and the waits for its flag. -/
structure StopRun where
  run : ShutdownRun
  /-- Whether each handle is still held. -/
  handles : List Bool := []
  waits : List StopWait := []
  /-- How often it was asked to raise the flag. -/
  requests : Nat := 0
  /-- How often the flag has changed. -/
  version : Nat := 0
  deriving Repr, Inhabited

namespace StopRun

/-- A run before anything has happened. -/
def fresh (gracePeriod capacity : Nat) : StopRun :=
  { run := .fresh gracePeriod capacity }

/-- The stop flag. -/
def flag (x : StopRun) : StopFlag :=
  x.run.coordinator.stop

/-- Whether the coordinator is gone: it was given up, or its run has come to its end. -/
def isGone (x : StopRun) : Bool :=
  !x.run.coordinator.isListening

/-- Whether a handle is held. -/
def holds (x : StopRun) (i : Nat) : Bool :=
  x.handles.getD i false

/-- The flag as a handle shows it. -/
def shows? (x : StopRun) (i : Nat) : Option Bool :=
  if x.holds i then some x.flag.isRaised else none

/-- The flag as the coordinator shows it to those who have it. -/
def isStopping? (x : StopRun) : Option Bool :=
  if x.run.coordinator.isIdle then some x.flag.isRaised else none

/-- What becomes of everybody.  What cannot happen leaves them as they are. -/
def occur (x : StopRun) : StopOp → StopRun
  | .incident i =>
    let answers := (x.run.raise? i).toList
    { x with
      run := x.run.occur i
      requests := x.requests + answers.length
      version := x.version + answers.count true }
  | .drop => { x with run := { x.run with coordinator := x.run.coordinator.giveUp } }
  | .subscribe =>
    if x.run.coordinator.isIdle then { x with handles := x.handles ++ [true] } else x
  | .clone i => if x.holds i then { x with handles := x.handles ++ [true] } else x
  | .dropHandle i => { x with handles := x.handles.set i false }
  | .await i => if x.holds i then { x with waits := x.waits ++ [.looking] } else x
  | .poll j => { x with waits := x.waits.modify j (StopWait.poll x.flag x.version) }

/-- What becomes of everybody as several things happen. -/
def follow (x : StopRun) (os : List StopOp) : StopRun :=
  os.foldl occur x

@[simp] theorem follow_nil (x : StopRun) : x.follow [] = x := rfl

@[simp] theorem follow_cons (x : StopRun) (o : StopOp) (os : List StopOp) :
    x.follow (o :: os) = (x.occur o).follow os := rfl

end StopRun

/-! ## The flag itself -/

namespace ShutdownRun

variable {r v : ShutdownRun} {i : Incident}

theorem eq_of_raise? {a : Bool} (hraise : r.raise? i = some a) :
    a = !r.coordinator.stop.isRaised := by
  cases i with
  | trigger =>
    simp only [raise?] at hraise
    split at hraise
    · exact (Option.some.inj hraise).symm
    · cases hraise
  | takeSignal =>
    simp only [raise?] at hraise
    split at hraise
    · obtain ⟨-, -, ha⟩ := Option.map_eq_some_iff.1 hraise
      exact ha.symm
    · cases hraise
  | _ => cases hraise

/-- The flag goes up with a request to raise it, and by nothing else. -/
theorem isRaised_occur (r : ShutdownRun) (i : Incident) :
    (r.occur i).coordinator.stop.isRaised =
      (r.coordinator.stop.isRaised || (r.raise? i).isSome) := by
  cases i with
  | trigger =>
    by_cases hidle : r.coordinator.isIdle = true <;>
      simp [occur, raise?, hidle, Coordinator.trigger, StopFlag.raise]
  | run =>
    by_cases hidle : r.coordinator.isIdle = true <;>
      simp [occur, raise?, hidle, Coordinator.run]
  | post t =>
    by_cases hlistening : r.coordinator.isListening = true <;>
      simp [occur, raise?, Coordinator.post, hlistening]
  | signal s => simp [occur, raise?]
  | closeSignals => simp [occur, raise?]
  | pass time =>
    by_cases hmay : r.mayPass time = true <;> simp [occur, raise?, hmay]
  | fireTimer =>
    cases hdue : r.coordinator.timers.due? r.chronicle.now with
    | none => simp [occur, turn, attempt, raise?, Coordinator.fireTimer?, hdue]
    | some a =>
      simp only [occur, turn, attempt, raise?, Coordinator.fireTimer?, hdue, Coordinator.post,
        Option.elim_some, Option.isSome_none, Bool.or_false]
      split <;> rfl
  | decide =>
    cases hrun : r.coordinator.isRunning <;>
      cases hposted : r.coordinator.posted.head? <;>
        simp [occur, turn, attempt, raise?, Coordinator.decidePosted?, hrun, hposted,
          Coordinator.decide, Coordinator.conclude, StopFlag.abandon]
  | takeSignal =>
    rcases hreceive : r.coordinator.signals.receive with ⟨s | - | -, b⟩ <;>
      cases hopen : r.coordinator.signalsOpen <;> cases hphase : r.coordinator.phase <;>
        simp [occur, turn, attempt, raise?, Coordinator.takeSignal?, Coordinator.poll?,
          SignalBuffer.take?, hopen, hreceive, hphase, Coordinator.takeFirst_fst,
          Coordinator.takeSecond, Coordinator.ignoreSignals, Coordinator.decide,
          Coordinator.conclude, StopFlag.abandon]

/-- The coordinator holds the flag until it is gone. -/
theorem Step.isHeld (hs : r.Step v)
    (hheld : r.coordinator.stop.isHeld = r.coordinator.isListening) :
    v.coordinator.stop.isHeld = v.coordinator.isListening := by
  cases hs with
  | run hidle =>
    rw [hheld]
    simp [Coordinator.isListening, hidle]
  | first s rest c hphase =>
    rw [hheld]
    simp [Coordinator.isListening, hphase]
  | decide t | second s rest grace c =>
    simp [Coordinator.conclude, Coordinator.isListening, StopFlag.abandon]
  | _ => exact hheld

/-- One who is gone does not come back. -/
theorem Step.isListening (hs : r.Step v) (hgone : r.coordinator.isListening = false) :
    v.coordinator.isListening = false := by
  cases hs with
  | run hidle => simp [Coordinator.isListening, hidle] at hgone
  | first s rest c hphase => simp [Coordinator.isListening, hphase] at hgone
  | decide t | second s rest grace c => rfl
  | _ => exact hgone

/-- Nobody asks one who is gone. -/
theorem raise?_of_gone (hgone : r.coordinator.isListening = false) (i : Incident) :
    r.raise? i = none := by
  cases i with
  | trigger | takeSignal =>
    cases hphase : r.coordinator.phase <;>
      simp_all [raise?, Coordinator.isListening, Coordinator.isIdle]
  | _ => rfl

end ShutdownRun

namespace Coordinator

@[simp] theorem isRaised_giveUp (k : Coordinator) : k.giveUp.stop.isRaised = k.stop.isRaised := by
  cases hphase : k.phase <;> simp [giveUp, hphase, drop, StopFlag.abandon]

@[simp] theorem isListening_giveUp (k : Coordinator) : k.giveUp.isListening = false := by
  cases hphase : k.phase <;> simp [giveUp, hphase, drop, isListening]

theorem isHeld_giveUp {k : Coordinator} (hheld : k.stop.isHeld = k.isListening) :
    k.giveUp.stop.isHeld = false := by
  cases hphase : k.phase <;>
    simp [giveUp, hphase, drop, StopFlag.abandon, hheld, isListening]

end Coordinator

namespace StopWait

variable {f g : StopFlag} {w : StopWait} {version : Nat}

/-- A step relies on what holds. -/
theorem Fair.poll (h : w.Fair f) (hversion : f.isRaised = false → version = 0) :
    (w.poll f version).Fair f := by
  cases w with
  | looking =>
    cases hraised : f.isRaised with
    | true => simp [StopWait.poll, hraised, Fair, StopFlag.isOver]
    | false => simp [StopWait.poll, hraised, Fair, hversion hraised]
  | watching seen =>
    obtain rfl : seen = 0 := h
    by_cases hchanged : version = 0
    · cases hheld : f.isHeld <;>
        simp [StopWait.poll, hchanged, hheld, Fair, StopFlag.isOver]
    · simp [StopWait.poll, hchanged, Fair]
  | resolved => exact h

theorem Fair.mono (h : w.Fair f) (hover : f.isOver = true → g.isOver = true) : w.Fair g := by
  cases w with
  | looking => trivial
  | watching seen => exact h
  | resolved => exact hover h

/-- Once the flag is up or will never be, every step counts. -/
theorem distance_poll (h : w.Fair f) (hover : f.isOver = true)
    (hversion : f.isRaised = decide (version ≠ 0)) :
    (w.poll f version).distance f.isRaised ≤ w.distance f.isRaised - 1 := by
  cases w with
  | looking => cases hraised : f.isRaised <;> simp [StopWait.poll, hraised, distance]
  | watching seen =>
    obtain rfl : seen = 0 := h
    cases hraised : f.isRaised with
    | true =>
      have hchanged : version ≠ 0 := by
        simpa [hraised] using hversion.symm
      simp [StopWait.poll, hchanged, distance]
    | false =>
      have hsame : version = 0 := by
        simpa [hraised] using hversion.symm
      have hfree : f.isHeld = false := by
        simpa [StopFlag.isOver, hraised] using hover
      simp [StopWait.poll, hsame, hfree, distance]
  | resolved => simp [StopWait.poll, distance]

theorem distance_le (w : StopWait) (isRaised : Bool) : w.distance isRaised ≤ 2 := by
  cases w <;> cases isRaised <;> simp [distance]

theorem eq_resolved_of_distance {isRaised : Bool} (hnear : w.distance isRaised = 0) :
    w = .resolved := by
  cases w with
  | looking | watching => cases isRaised <;> simp [distance] at hnear
  | resolved => rfl

end StopWait

/-! ## What is kept -/

namespace StopRun

variable {x : StopRun} {j : Nat}

/-- What holds at any time. -/
structure Kept (x : StopRun) : Prop where
  raised : x.flag.isRaised = decide (0 < x.requests)
  version : x.version = min x.requests 1
  held : x.flag.isHeld = x.run.coordinator.isListening
  fair : ∀ w ∈ x.waits, w.Fair x.flag

namespace Kept

theorem changed (h : x.Kept) : x.flag.isRaised = decide (x.version ≠ 0) := by
  rw [h.raised, h.version]
  congr 1
  rw [eq_iff_iff]
  omega

theorem isOver_iff (h : x.Kept) : x.flag.isOver = true ↔ 0 < x.requests ∨ x.isGone = true := by
  simp [StopFlag.isOver, isGone, h.raised, h.held]

/-- The first request is answered with true. -/
theorem answer (h : x.Kept) {i : Incident} {a : Bool} (hraise : x.run.raise? i = some a) :
    a = decide (x.requests = 0) := by
  rw [ShutdownRun.eq_of_raise? hraise, show x.run.coordinator.stop.isRaised = _ from h.raised]
  cases hrequests : x.requests <;> simp

/-- A flag that is up stays up. -/
theorem isRaised_occur (o : StopOp) (hraised : x.flag.isRaised = true) :
    (x.occur o).flag.isRaised = true := by
  cases o with
  | incident i =>
    have hflag := x.run.isRaised_occur i
    rw [show x.run.coordinator.stop.isRaised = true from hraised, Bool.true_or] at hflag
    exact hflag
  | drop => exact (Coordinator.isRaised_giveUp _).trans hraised
  | subscribe | clone i | await i =>
    simp only [occur]
    split <;> exact hraised
  | dropHandle i | poll j => exact hraised

/-- One who is gone does not come back. -/
theorem isGone_occur (o : StopOp) (hgone : x.isGone = true) : (x.occur o).isGone = true := by
  simp only [isGone, Bool.not_eq_true'] at hgone ⊢
  cases o with
  | incident i => exact (x.run.step_occur i).isListening hgone
  | drop => exact Coordinator.isListening_giveUp _
  | subscribe | clone i | await i =>
    simp only [occur]
    split <;> exact hgone
  | dropHandle i | poll j => exact hgone

/-- Whoever holds the coordinator can still raise the flag. -/
theorem isHeld_occur (h : x.Kept) (o : StopOp) :
    (x.occur o).flag.isHeld = (x.occur o).run.coordinator.isListening := by
  cases o with
  | incident i => exact (x.run.step_occur i).isHeld h.held
  | drop =>
    rw [occur, Coordinator.isListening_giveUp]
    exact Coordinator.isHeld_giveUp h.held
  | subscribe | clone i | await i =>
    simp only [occur]
    split <;> exact h.held
  | dropHandle i | poll j => exact h.held

theorem isOver_occur (h : x.Kept) (o : StopOp) (hover : x.flag.isOver = true) :
    (x.occur o).flag.isOver = true := by
  rcases Bool.or_eq_true_iff.1 hover with hraised | hfree
  · simp [StopFlag.isOver, isRaised_occur o hraised]
  · have hgone : x.isGone = true := by
      rw [isGone, ← h.held]
      exact hfree
    have hlater := isGone_occur o hgone
    rw [isGone, ← h.isHeld_occur] at hlater
    simp [StopFlag.isOver, hlater]

theorem requests_occur (h : x.Kept) (o : StopOp) :
    (x.occur o).flag.isRaised = decide (0 < (x.occur o).requests) ∧
      (x.occur o).version = min (x.occur o).requests 1 := by
  cases o with
  | incident i =>
    have hflag := x.run.isRaised_occur i
    rw [show x.run.coordinator.stop.isRaised = _ from h.raised] at hflag
    have hraised : (x.occur (.incident i)).flag.isRaised = _ := hflag
    rw [hraised]
    cases hraise : x.run.raise? i with
    | none => simpa [occur, hraise] using h.version
    | some a =>
      obtain rfl := h.answer hraise
      cases hrequests : x.requests <;> simp [occur, hraise, h.version, hrequests]
  | drop => exact ⟨(Coordinator.isRaised_giveUp _).trans h.raised, h.version⟩
  | subscribe | clone i | await i =>
    simp only [occur]
    split <;> exact ⟨h.raised, h.version⟩
  | dropHandle i | poll j => exact ⟨h.raised, h.version⟩

theorem fair_occur (h : x.Kept) (o : StopOp) :
    ∀ w ∈ (x.occur o).waits, w.Fair (x.occur o).flag := by
  have hmono : ∀ w ∈ x.waits, w.Fair (x.occur o).flag := by
    intro w hw
    exact (h.fair w hw).mono (h.isOver_occur o)
  cases o with
  | incident i => exact hmono
  | drop => exact hmono
  | subscribe | clone i =>
    simp only [occur] at hmono ⊢
    split <;> simp_all
  | dropHandle i => exact hmono
  | await i =>
    simp only [occur]
    split
    · intro w hw
      rcases List.mem_append.1 hw with hold | hnew
      · exact h.fair w hold
      · rw [List.mem_singleton.1 hnew]
        trivial
    · exact h.fair
  | poll j =>
    intro w hw
    obtain ⟨k, hk, rfl⟩ := List.mem_iff_getElem.1 hw
    have hold : k < x.waits.length := by
      simpa [occur] using hk
    have hfair := h.fair _ (List.getElem_mem hold)
    simp only [occur, List.getElem_modify]
    split
    · exact hfair.poll fun hdown => by simpa [hdown] using h.changed
    · exact hfair

theorem step (h : x.Kept) (o : StopOp) : (x.occur o).Kept :=
  ⟨(h.requests_occur o).1, (h.requests_occur o).2, h.isHeld_occur o, h.fair_occur o⟩

theorem follow (h : x.Kept) (os : List StopOp) : (x.follow os).Kept := by
  induction os generalizing x with
  | nil => exact h
  | cons o os ih => exact ih (h.step o)

theorem fresh (gracePeriod capacity : Nat) : (StopRun.fresh gracePeriod capacity).Kept := by
  constructor <;> simp [StopRun.fresh, ShutdownRun.fresh, flag, Coordinator.isListening]

theorem isRaised_follow (hraised : x.flag.isRaised = true) (os : List StopOp) :
    (x.follow os).flag.isRaised = true := by
  induction os generalizing x with
  | nil => exact hraised
  | cons o os ih => exact ih (isRaised_occur o hraised)

/-- A flag that is up, or that nobody can raise any more, stays as it is. -/
theorem isRaised_eq (h : x.Kept) (hover : x.flag.isOver = true) (o : StopOp) :
    (x.occur o).flag.isRaised = x.flag.isRaised := by
  cases hraised : x.flag.isRaised with
  | true => exact isRaised_occur o hraised
  | false =>
    have hgone : x.run.coordinator.isListening = false := by
      rw [← h.held]
      simpa [StopFlag.isOver, hraised] using hover
    cases o with
    | incident i =>
      have hflag := x.run.isRaised_occur i
      rw [show x.run.coordinator.stop.isRaised = false from hraised,
        ShutdownRun.raise?_of_gone hgone] at hflag
      exact hflag
    | drop => exact (Coordinator.isRaised_giveUp _).trans hraised
    | subscribe | clone i | await i =>
      simp only [occur]
      split <;> exact hraised
    | dropHandle i | poll j => exact hraised

end Kept

/-! ## The waits -/

theorem waits_occur_of_ne {o : StopOp} (ho : o ≠ .poll j) (hbegun : j < x.waits.length) :
    (x.occur o).waits[j]? = x.waits[j]? := by
  cases o with
  | incident i | drop | dropHandle i => rfl
  | subscribe | clone i =>
    simp only [occur]
    split <;> rfl
  | await i =>
    simp only [occur]
    split
    · exact List.getElem?_append_left hbegun
    · rfl
  | poll k =>
    have hother : k ≠ j := by
      rintro rfl
      exact ho rfl
    simp [occur, hother]

theorem waits_poll (x : StopRun) (j : Nat) :
    (x.occur (.poll j)).waits[j]? = x.waits[j]?.map (StopWait.poll x.flag x.version) := by
  simp [occur]

/-- Once the flag is up or will never be, the steps of a wait bring it nearer to its end, whatever
else happens. -/
theorem Kept.distance_follow (h : x.Kept) (hover : x.flag.isOver = true) {w : StopWait}
    (hw : x.waits[j]? = some w) (os : List StopOp) :
    ∃ v, (x.follow os).waits[j]? = some v ∧
      v.distance x.flag.isRaised ≤ w.distance x.flag.isRaised - os.count (.poll j) := by
  induction os generalizing x w with
  | nil => exact ⟨w, hw, by simp⟩
  | cons o os ih =>
    have hlater {u : StopWait} := @ih (x.occur o) (h.step o) (h.isOver_occur o hover) u
    rw [h.isRaised_eq hover o] at hlater
    by_cases ho : o = .poll j
    · subst ho
      have hfair := h.fair w (List.mem_of_getElem? hw)
      have hnearer := StopWait.distance_poll hfair hover h.changed
      obtain ⟨v, hv, hle⟩ := hlater (by rw [waits_poll, hw, Option.map_some])
      refine ⟨v, hv, ?_⟩
      rw [List.count_cons_self]
      omega
    · obtain ⟨hbegun, -⟩ := List.getElem?_eq_some_iff.1 hw
      obtain ⟨v, hv, hle⟩ := hlater ((waits_occur_of_ne ho hbegun).trans hw)
      refine ⟨v, hv, ?_⟩
      rw [List.count_cons_of_ne ho]
      exact hle

/-- A wait that is over stays over. -/
theorem resolved_follow (hover : x.waits[j]? = some .resolved) (os : List StopOp) :
    (x.follow os).waits[j]? = some .resolved := by
  induction os generalizing x with
  | nil => exact hover
  | cons o os ih =>
    apply ih
    by_cases ho : o = .poll j
    · rw [ho, waits_poll, hover]
      rfl
    · obtain ⟨hbegun, -⟩ := List.getElem?_eq_some_iff.1 hover
      exact (waits_occur_of_ne ho hbegun).trans hover

/-- Two steps after the flag is up or can never be, a wait is over. -/
theorem Kept.resolves (h : x.Kept) (hover : x.flag.isOver = true) (hbegun : j < x.waits.length)
    {os : List StopOp} (hpolls : 2 ≤ os.count (.poll j)) :
    (x.follow os).waits[j]? = some .resolved := by
  obtain ⟨v, hv, hle⟩ := h.distance_follow hover (List.getElem?_eq_getElem hbegun) os
  have hfar := x.waits[j].distance_le x.flag.isRaised
  rw [hv, StopWait.eq_resolved_of_distance (by omega : v.distance x.flag.isRaised = 0)]

/-- What everybody may rely on who has to do with a stop flag. -/
structure ReachesEveryone (x : StopRun) : Prop where
  /-- A request to raise the flag is answered with true just if it is the first. -/
  answer : ∀ i a, x.run.raise? i = some a → (a = true ↔ x.requests = 0)
  /-- The coordinator shows the flag as up just if there was a request, … -/
  stopping : ∀ b, x.isStopping? = some b → (b = true ↔ 0 < x.requests)
  /-- … and so does every handle, whenever it was made, also when the coordinator is gone. -/
  shows : ∀ i, x.holds i = true → x.shows? i = some (decide (0 < x.requests))
  /-- Once they show it as up, they do so for ever. -/
  lasting : 0 < x.requests →
    ∀ later i, (x.follow later).holds i = true → (x.follow later).shows? i = some true
  /-- A wait is over only after a request or without a coordinator, and it stays over. -/
  ended : ∀ j : Nat, x.waits[j]? = some .resolved →
    (0 < x.requests ∨ x.isGone = true) ∧ ∀ later, (x.follow later).waits[j]? = some .resolved
  /-- Then every wait that has begun is over after two of its steps, whatever happens meanwhile. -/
  resolves : 0 < x.requests ∨ x.isGone = true → ∀ j < x.waits.length,
    ∀ later, 2 ≤ later.count (.poll j) → (x.follow later).waits[j]? = some .resolved
  /-- Two steps in a row bring a wait to its end just if the rest of the program takes it for
  over. -/
  settles : ∀ j < x.waits.length,
    ((x.follow [.poll j, .poll j]).waits[j]? = some .resolved ↔ x.flag.isOver = true)

/-- **The stop flag reaches everyone.**  However requests to raise it, handles, waits and the end of
the coordinator follow one another, the flag is raised once and stays up, and every wait learns
of it, or of the end of the coordinator, and of nothing else. -/
theorem stop_reaches_everyone (gracePeriod capacity : Nat) (os : List StopOp) :
    ((fresh gracePeriod capacity).follow os).ReachesEveryone := by
  have h : ((fresh gracePeriod capacity).follow os).Kept :=
    (Kept.fresh gracePeriod capacity).follow os
  generalize (fresh gracePeriod capacity).follow os = x at h
  constructor
  · intro i a hraise
    rw [h.answer hraise, decide_eq_true_eq]
  · intro b hb
    simp only [isStopping?] at hb
    split at hb
    · rw [← Option.some.inj hb, h.raised, decide_eq_true_eq]
    · cases hb
  · intro i hheld
    rw [shows?, if_pos hheld, h.raised]
  · intro hrequested later i hheld
    have hraised : x.flag.isRaised = true := by
      rw [h.raised, decide_eq_true hrequested]
    rw [shows?, if_pos hheld, Kept.isRaised_follow hraised]
  · intro j hover
    exact ⟨h.isOver_iff.1 (h.fair _ (List.mem_of_getElem? hover)), resolved_follow hover⟩
  · intro hover j hbegun later hpolls
    exact h.resolves (h.isOver_iff.2 hover) hbegun hpolls
  · intro j hbegun
    constructor
    · intro hresolved
      have hlater := h.follow [.poll j, .poll j]
      exact hlater.fair _ (List.mem_of_getElem? hresolved)
    · intro hover
      exact h.resolves hover hbegun (by simp)

/-- A wait that has seen the flag down learns that nobody can raise it any more. -/
example :
    ((fresh 5 2).follow [.subscribe, .await 0, .poll 0, .drop, .poll 0]).waits = [.resolved] := by
  decide

end StopRun

end Hotplug
