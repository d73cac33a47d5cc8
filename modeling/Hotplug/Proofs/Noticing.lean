import Hotplug.Proofs.Clock
import Hotplug.Proofs.Traffic.Ledger
import Hotplug.Session.Script
import Mathlib.Data.List.Induction
import Mathlib.Data.List.Infix

/-!
# Changes of presence are noticed

Whoever waits for the device to come or to go looks at once, and again after every interval.  So
a change that lasts for an interval is noticed within it, however the looks fall.

* `Scene.Awaits`, `Scene.Punctual` — the next look is an interval away at most.
* `Lookout` — a change that somebody waits for.
* `Scene.Vigil` — the change will be noticed up to some time, unless a look shows otherwise.
* `Supervision.GoesOnPast` — a run goes on up to some time, and past it.
* `Supervision.changes_noticed` — every change that lasts is noticed within an interval.
-/

namespace Hotplug

namespace Scene

variable {f f' : Scene} {m : Move} {wait : PresenceWait}

/-! ## Waits -/

/-- Somebody waits for the device to come or to go. -/
inductive Awaits (f : Scene) (wait : PresenceWait) : Prop where
  | cycle (hc : f.cycle = .waiting wait)
  | skip (s : Session) (hs : f.session = some s) (hst : s.stage = .skipping wait)
  | watch (child : Child) (hchild : child ∈ f.children) (htask : child.task = .watchRemoval wait)

/-- The next look is an interval away at most. -/
def Punctual (f : Scene) : Prop :=
  ∀ wait, f.Awaits wait → wait.due ≤ f.now + f.setup.pollInterval

namespace Awaits

/-- Nobody begins to wait. -/
theorem back (h : f'.Awaits wait) (hcycle : f'.cycle = .waiting wait → f.cycle = .waiting wait)
    (hsession : ∀ s, f'.session = some s → s.stage = .skipping wait →
      ∃ s, f.session = some s ∧ s.stage = .skipping wait)
    (hchildren : ∀ child ∈ f'.children, child ∈ f.children) : f.Awaits wait := by
  cases h with
  | cycle hc => exact .cycle (hcycle hc)
  | skip s hs hst =>
    obtain ⟨s', hs', hst'⟩ := hsession s hs hst
    exact .skip s' hs' hst'
  | watch child hchild htask => exact .watch child (hchildren child hchild) htask

theorem congr (h : f'.Awaits wait) (hcycle : f'.cycle = f.cycle)
    (hsession : f'.session = f.session) (hchildren : f'.children = f.children) : f.Awaits wait :=
  h.back (fun hc => hcycle.symm.trans hc) (fun s hs hst => ⟨s, hsession.symm.trans hs, hst⟩)
    fun _ hchild => hchildren ▸ hchild

/-- The session under way goes on, and does not skip. -/
theorem goOn {s' : Session} (h : f'.Awaits wait) (hcycle : f'.cycle = f.cycle)
    (hs' : f'.session = some s') (hst : ∀ wait, s'.stage ≠ .skipping wait)
    (hchildren : f'.children = f.children) : f.Awaits wait := by
  refine h.back (fun hc => hcycle.symm.trans hc) ?_ fun _ hchild => hchildren ▸ hchild
  intro t ht hskip
  obtain rfl : s' = t := Option.some.inj (hs'.symm.trans ht)
  exact absurd hskip (hst wait)

/-- The session under way is cut off or ends. -/
theorem leave (h : f'.Awaits wait) (hcycle : ∀ wait, f'.cycle ≠ .waiting wait)
    (hs' : f'.session = none) (hchildren : ∀ child ∈ f'.children, child ∈ f.children) :
    f.Awaits wait := by
  refine h.back (fun hc => absurd hc (hcycle wait)) ?_ hchildren
  intro t ht
  rw [hs'] at ht
  cases ht

theorem cancelCycle (h : f.cancelCycle.Awaits wait) : f.Awaits wait := by
  unfold Scene.cancelCycle at h
  split at h
  · exact h.leave (by rintro wait ⟨⟩) rfl fun _ => Forwards.mem_of_mem_childrenAfterCut
  · exact h

theorem decide {t : Termination} (h : (f.decide t).Awaits wait) : f.Awaits wait :=
  h.cancelCycle.congr rfl rfl rfl

theorem raiseQuit {child : Child} {r : QuitReason} (h : (f.raiseQuit child r).Awaits wait) :
    f.Awaits wait := by
  refine h.back id ?_ fun _ hchild => (List.mem_filter.1 hchild).1
  intro s' hs' hst
  obtain ⟨s, hs, rfl⟩ := Option.map_eq_some_iff.1 hs'
  refine ⟨s, hs, ?_⟩
  split at hst <;> exact hst

end Awaits

/-- Whoever begins to wait looks at once, and whoever goes on waiting looks after an interval. -/
theorem Act.awaits (hs : f.Act m f') (h : f'.Awaits wait) :
    f.Awaits wait ∨ wait.due ≤ f.now + f.setup.pollInterval := by
  cases hs with
  | fire | firstSignal | ignoreSignals => exact .inl (h.congr rfl rfl rfl)
  | decide => exact .inl h.decide
  | secondSignal => exact .inl (h.decide.congr rfl rfl rfl)
  | beginStop => exact .inl (h.back (by rintro ⟨⟩) (fun s hs hst => ⟨s, hs, hst⟩) fun _ => id)
  | beginWaiting =>
    cases h with
    | cycle hc =>
      obtain rfl := CyclePhase.waiting.inj hc
      exact .inr (Nat.le_add_right _ _)
    | skip s hs hst => exact .inl (.skip s hs hst)
    | watch child hchild htask => exact .inl (.watch child hchild htask)
  | keepWaiting wait' =>
    cases h with
    | cycle hc =>
      obtain rfl := CyclePhase.waiting.inj hc
      exact .inr (Nat.le_refl _)
    | skip s hs hst => exact .inl (.skip s hs hst)
    | watch child hchild htask => exact .inl (.watch child hchild htask)
  | beginSession =>
    refine .inl (h.back (by rintro ⟨⟩) ?_ fun _ => id)
    rintro s ⟨rfl⟩ ⟨⟩
  | loopWent s executor p p' | loopEnded s executor p =>
    exact .inl (h.goOn rfl rfl (by rintro wait ⟨⟩) rfl)
  | loopPanicked =>
    exact .inl (h.leave (by rintro wait ⟨⟩) rfl fun _ => Forwards.mem_of_mem_childrenAfterCut)
  | skipStopped | sessionEnded | skipEnded =>
    exact .inl (h.leave (by rintro wait ⟨⟩) rfl fun _ hchild => (List.mem_filter.1 hchild).1)
  | beginRemoval s loop r =>
    exact .inl (h.goOn (f.cycle_requestRemoval s loop) (f.session_requestRemoval s loop)
      (by rintro wait ⟨⟩) (f.children_requestRemoval s loop))
  | keepSkipping s wait' =>
    cases h with
    | cycle hc => exact .inl (.cycle hc)
    | skip t ht hst =>
      obtain rfl := Option.some.inj ht
      obtain rfl := Stage.skipping.inj hst
      exact .inr (Nat.le_refl _)
    | watch child hchild htask => exact .inl (.watch child hchild htask)
  | stopForwarded => exact .inl h.raiseQuit
  | removalSeen => exact .inl (h.raiseQuit.congr rfl rfl rfl)
  | keepWatching child wait' hchild =>
    cases h with
    | cycle hc => exact .inl (.cycle hc)
    | skip s hs hst => exact .inl (.skip s hs hst)
    | watch other hother htask =>
      obtain ⟨before, hbefore, rfl⟩ := List.mem_map.1 hother
      split at htask
      · obtain rfl := ChildTask.watchRemoval.inj htask
        exact .inr (Nat.le_refl _)
      · exact .inl (.watch before hbefore htask)
  | added s timer call ok =>
    cases h with
    | cycle hc => exact .inl (.cycle hc)
    | skip t ht hst =>
      obtain rfl := Option.some.inj ht
      cases hst
    | watch child hchild htask =>
      rcases List.mem_append.1 hchild with hold | hnew
      · exact .inl (.watch child hold htask)
      · rcases List.mem_cons.1 hnew with rfl | hlast
        · obtain rfl := ChildTask.watchRemoval.inj htask
          exact .inr (Nat.le_add_right _ _)
        · obtain rfl := List.mem_singleton.1 hlast
          cases htask
  | skipped s timer call =>
    cases h with
    | cycle hc => exact .inl (.cycle hc)
    | skip t ht hst =>
      obtain rfl := Option.some.inj ht
      obtain rfl := Stage.skipping.inj hst
      exact .inr (Nat.le_add_right _ _)
    | watch child hchild htask => exact .inl (.watch child hchild htask)
  | addPanicked | driverRemoved | removalFailed =>
    exact .inl (h.goOn rfl rfl (by rintro wait ⟨⟩) rfl)
  | stopped => exact .inl (h.back (by rintro ⟨⟩) (fun s hs hst => ⟨s, hs, hst⟩) fun _ => id)
  | lateEnd => exact .inl (h.congr rfl rfl rfl)

/-- A move takes no time, and changes nothing that is fixed. -/
theorem Act.fixed (hs : f.Act m f') : f'.now = f.now ∧ f'.setup = f.setup := by
  cases hs with
  | beginRemoval s loop => exact ⟨f.now_requestRemoval s loop, f.setup_requestRemoval s loop⟩
  | decide =>
    unfold Scene.decide cancelCycle
    split <;> exact ⟨rfl, rfl⟩
  | secondSignal =>
    unfold Scene.decide cancelCycle
    split <;> exact ⟨rfl, rfl⟩
  | _ => exact ⟨rfl, rfl⟩

theorem Punctual.step (h : f.Punctual) {o : Occurrence} (hs : f.Step o f') : f'.Punctual := by
  cases hs with
  | stay => exact h
  | files | signal | closeSignals => exact fun wait hwait => h wait (hwait.congr rfl rfl rfl)
  | pass time hrests =>
    intro wait hwait
    have hdue := h wait (hwait.congr rfl rfl rfl)
    exact Nat.le_trans hdue (Nat.add_le_add_right hrests.le _)
  | act hact =>
    intro wait hwait
    obtain ⟨hnow, hsetup⟩ := hact.fixed
    rw [hnow, hsetup]
    exact (hact.awaits hwait).elim (h wait) id

end Scene

/-! ## Lookouts -/

/-- A change that somebody waits for. -/
inductive Lookout where
  /-- The device comes. -/
  | arrival
  /-- The device goes as session `n` runs. -/
  | departure (n : SessionId)
  /-- The device goes as session `n` skips it. -/
  | absence (n : SessionId)

namespace Lookout

/-- What comes of the change. -/
def answer : Lookout → Happening
  | arrival => .callBegan .add
  | departure n => .stateChanged n .running .removalRequested
  | absence n => .stateChanged n .activating .removed

/-- What a look shows that does not show the change. -/
def denial : Lookout → Bool
  | arrival => false
  | departure _ | absence _ => true

end Lookout

namespace Scene

variable {f f' : Scene} {m : Move} {time : Nat} {l : Lookout}

/-- A run goes on: nothing is decided, and the stop flag is down. -/
structure IsUp (f : Scene) : Prop where
  stop : f.coordinator.stop.isRaised = false
  undecided : f.coordinator.decision? = none

/-- The change that a lookout waits for will be noticed up to `time`, unless a look shows
otherwise. -/
inductive Vigil (time : Nat) (f : Scene) : Lookout → Prop where
  | waiting (wait : PresenceWait) (hc : f.cycle = .waiting wait) (hdue : wait.due ≤ time) :
      Vigil time f .arrival
  | skipping (s : Session) (wait : PresenceWait) (hs : f.session = some s)
      (hst : s.stage = .skipping wait) (hdue : wait.due ≤ time) : Vigil time f (.absence s.id)
  /-- A watcher stands beside the session, or the session was asked to quit. -/
  | running (s : Session) (loop : LoopPhase) (hs : f.session = some s)
      (hst : s.stage = .running .listening loop)
      (hready : s.quit.reason ≠ none ∨
        ∃ wait, ⟨s.id, 1, .watchRemoval wait⟩ ∈ f.children ∧ wait.due ≤ time) :
      Vigil time f (.departure s.id)
  /-- The event loop has panicked, and the run is about to end. -/
  | panicked (n : SessionId) (hc : f.cycle = .panicked) (hrun : f.coordinator.isRunning = true)
      (hposted : f.coordinator.posted ≠ []) : Vigil time f (.departure n)

/-- Since `f` the change was noticed, or a look has shown otherwise. -/
def Answers (f : Scene) (l : Lookout) (f' : Scene) : Prop :=
  ∃ new, f'.outline = new ++ f.outline ∧
    ((f.now, l.answer) ∈ new ∨ (f.now, .checked l.denial) ∈ new)

theorem Answers.deny {b : Bool} (hb : f.sees ≠ b) (hl : l.denial = !b)
    (hout : f'.outline = (f.now, .checked f.sees) :: f.outline) : f.Answers l f' := by
  refine ⟨[(f.now, .checked f.sees)], hout, .inr ?_⟩
  rw [hl, Bool.eq_not_of_ne hb]
  exact List.mem_cons_self

namespace IsUp

theorem not_decide (t : Termination) : ¬ (f.decide t).IsUp := by
  intro hup
  have hnone := hup.undecided
  unfold Scene.decide cancelCycle at hnone
  split at hnone <;> cases hnone

end IsUp

namespace Vigil

/-- Only what the vigil depends on matters. -/
theorem congr (h : f.Vigil time l) (hcycle : f'.cycle = f.cycle)
    (hsession : f'.session = f.session) (hchildren : f'.children = f.children)
    (hrun : f'.coordinator.isRunning = f.coordinator.isRunning)
    (hposted : f.coordinator.posted ≠ [] → f'.coordinator.posted ≠ []) : f'.Vigil time l := by
  cases h with
  | waiting wait hc hdue => exact .waiting wait (hcycle.trans hc) hdue
  | skipping s wait hs hst hdue => exact .skipping s wait (hsession.trans hs) hst hdue
  | running s loop hs hst hready =>
    exact .running s loop (hsession.trans hs) hst (by rwa [hchildren])
  | panicked n hc hrun' hposted' =>
    exact .panicked n (hcycle.trans hc) (hrun.trans hrun') (hposted hposted')

/-- A vigil may be kept for longer. -/
theorem mono (h : f.Vigil time l) {later : Nat} (hle : time ≤ later) : f.Vigil later l := by
  cases h with
  | waiting wait hc hdue => exact .waiting wait hc (Nat.le_trans hdue hle)
  | skipping s wait hs hst hdue => exact .skipping s wait hs hst (Nat.le_trans hdue hle)
  | running s loop hs hst hready =>
    exact .running s loop hs hst
      (hready.imp_right fun ⟨wait, hchild, hdue⟩ => ⟨wait, hchild, Nat.le_trans hdue hle⟩)
  | panicked n hc hrun hposted => exact .panicked n hc hrun hposted

/-- Time does not pass the end of a vigil, and does not rest there. -/
theorem lt_of_rests (h : f.Vigil time l) (hacc : f.Accompanied) {later : Nat}
    (hrests : f.Rests later) : f.now < time ∧ later ≤ time := by
  cases h with
  | waiting wait hc hdue =>
    obtain ⟨-, hlt, hle⟩ := hrests.waiting wait hc
    exact ⟨Nat.lt_of_lt_of_le hlt hdue, Nat.le_trans hle hdue⟩
  | skipping s wait hs hst hdue =>
    obtain ⟨-, hlt, hle⟩ := hrests.skipping s wait hs hst
    exact ⟨Nat.lt_of_lt_of_le hlt hdue, Nat.le_trans hle hdue⟩
  | running s loop hs hst hready =>
    rcases hready with hreason | ⟨wait, hchild, hdue⟩
    · have hnone := hrests.listening s loop hs hst
      rw [(hacc.beside s hs).answer?_eq] at hnone
      exact absurd (Option.map_eq_none_iff.1 hnone) hreason
    · obtain ⟨hlt, hle⟩ := hrests.watching _ hchild wait rfl
      exact ⟨Nat.lt_of_lt_of_le hlt hdue, Nat.le_trans hle hdue⟩
  | panicked n hc hrun hposted => exact absurd (hrests.posted hrun) hposted

/-- A timer fires. -/
theorem fire (h : f.Vigil time l) (a : AbortTimer) : (f.put (f.conduct.fire a)).Vigil time l := by
  refine h.congr rfl rfl rfl rfl fun hposted => ?_
  change (if _ then f.coordinator.posted ++ [a.termination] else f.coordinator.posted) ≠ []
  split
  · simp
  · exact hposted

/-- The supervisor goes on waiting for the device, or sees it and begins a session. -/
theorem act_waiting {wait : PresenceWait} (hc : f.cycle = .waiting wait) (hdue : wait.due ≤ time)
    (hord : f.toFrame.Orderly) (hsteer : f.conduct.Steered) (hacc : f.Accompanied)
    (hup : f'.IsUp) (hs : f.Act m f') : f'.Vigil time .arrival ∨ f.Answers .arrival f' := by
  have hstay : f.Vigil time .arrival := .waiting wait hc hdue
  have hnone : f.session = none := hord.session_eq_none (by rw [hc]; rintro ⟨⟩)
  have hnobody : ∀ {s : Session}, f.session ≠ some s := by simp [hnone]
  have hnoChild : ∀ {child : Child}, child ∉ f.children := by simp [hacc.alone hnone]
  cases hs with
  | fire a => exact .inl (hstay.fire a)
  | decide t => exact absurd hup (IsUp.not_decide t)
  | secondSignal => exact absurd hup (IsUp.not_decide _)
  | firstSignal => exact absurd hup.stop (by rintro ⟨⟩)
  | ignoreSignals => exact .inl (hstay.congr rfl rfl rfl rfl id)
  | beginStop hc' =>
    have hactive : f.duty.isActive = true := by simp [Frame.duty, hc, Duty.isActive]
    have hover : f.coordinator.stop.isOver = true := by simpa [hc] using hc'
    have hraised := isRaised_of_isActive hsteer hactive hover
    exact absurd (hup.stop.symm.trans hraised) Bool.false_ne_true
  | beginWaiting hc' | stopped call hc' =>
    rw [hc] at hc'
    cases hc'
  | lateEnd call hc' => simp [hc] at hc'
  | keepWaiting wait' hc' hstop hdue' hseen =>
    obtain rfl : wait' = wait := CyclePhase.waiting.inj (hc'.symm.trans hc)
    rw [hord.waiting wait' hc] at hseen
    exact .inr (.deny hseen rfl rfl)
  | beginSession => exact .inr ⟨[_, _, _, _], rfl, .inl List.mem_cons_self⟩
  | loopWent s executor p p' hs | loopEnded s executor p hs | loopPanicked s executor p reason hs
  | skipStopped s wait hs | keepSkipping s wait hs | skipEnded s wait hs
  | added s timer call ok hs | skipped s timer call hs | addPanicked s timer call reason hs
  | sessionEnded s timer hs | driverRemoved s timer loop call hs
  | removalFailed s timer loop call hs | beginRemoval s loop r hs => exact absurd hs hnobody
  | stopForwarded child hchild | keepWatching child wait hchild | removalSeen child wait hchild =>
    exact absurd hchild hnoChild

/-- A session goes on skipping the device, or sees that it is gone and ends. -/
theorem act_skipping {s : Session} {wait : PresenceWait} (hs : f.session = some s)
    (hst : s.stage = .skipping wait) (hdue : wait.due ≤ time) (hord : f.toFrame.Orderly)
    (hsteer : f.conduct.Steered) (hacc : f.Accompanied) (hup : f'.IsUp) (hact : f.Act m f') :
    f'.Vigil time (.absence s.id) ∨ f.Answers (.absence s.id) f' := by
  have hstay : f.Vigil time (.absence s.id) := .skipping s wait hs hst hdue
  have hc : f.cycle = .inSession := hord.cycle_eq hs
  have hsame : ∀ {t : Session}, f.session = some t → t = s := fun ht =>
    Option.some.inj (ht.symm.trans hs)
  have hnoChild : ∀ {child : Child}, child ∉ f.children := by
    simp [((hacc.beside s hs).eq_nil (by rw [hst]; rfl)).1]
  cases hact with
  | fire a => exact .inl (hstay.fire a)
  | decide t => exact absurd hup (IsUp.not_decide t)
  | secondSignal => exact absurd hup (IsUp.not_decide _)
  | firstSignal => exact absurd hup.stop (by rintro ⟨⟩)
  | ignoreSignals => exact .inl (hstay.congr rfl rfl rfl rfl id)
  | beginStop hc' => simp [hc] at hc'
  | beginWaiting hc' | keepWaiting wait hc' | beginSession wait hc' | stopped call hc' =>
    rw [hc] at hc'
    cases hc'
  | lateEnd call hc' => simp [hc] at hc'
  | skipStopped t wait' ht hst' hstop =>
    have hraised := isRaised_of_isOver hord hsteer hs hstop
    exact absurd (hup.stop.symm.trans hraised) Bool.false_ne_true
  | keepSkipping t wait' ht hst' hdue' hseen =>
    obtain rfl := hsame ht
    rw [hord.skipping t hs wait' hst'] at hseen
    exact .inr (.deny hseen rfl rfl)
  | skipEnded t wait' ht =>
    obtain rfl := hsame ht
    have hstate : t.state = .activating := by
      rw [hord.session_state t hs, hst]
      rfl
    exact .inr ⟨[_, _], rfl, .inl (by simp [Lookout.answer, hstate, tell])⟩
  | loopWent t executor p p' ht hst' | loopEnded t executor p ht hst'
  | loopPanicked t executor p reason ht hst' | added t timer call ok ht hst'
  | skipped t timer call ht hst' | addPanicked t timer call reason ht hst'
  | sessionEnded t timer ht hst' | driverRemoved t timer loop call ht hst'
  | removalFailed t timer loop call ht hst' | beginRemoval t loop r ht hst' =>
    rw [hsame ht, hst] at hst'
    cases hst'
  | stopForwarded child hchild | keepWatching child wait hchild | removalSeen child wait hchild =>
    exact absurd hchild hnoChild

/-- A session that runs is asked to quit. -/
theorem raiseQuit {s : Session} {loop : LoopPhase} (hs : f.session = some s)
    (hst : s.stage = .running .listening loop) (hacc : f.Accompanied) {child : Child}
    (hchild : child ∈ f.children) (r : QuitReason) :
    (f.raiseQuit child r).Vigil time (.departure s.id) := by
  have hbeside := hacc.beside s hs
  have hid : s.id = child.session := (hbeside.session_eq hchild).symm
  refine .running { s with quit := s.quit.spend child.trigger r } loop ?_ hst (.inl ?_)
  · simp [Scene.raiseQuit, hs, hid]
  · rw [QuitRequest.spend_eq (hbeside.holds hchild)]
    simp

/-- The event loop of a session panics. -/
theorem panicLoop {s : Session} (hs : f.session = some s) (hord : f.toFrame.Orderly)
    (hsteer : f.conduct.Steered) (reason : String) :
    (f.panicLoop reason).Vigil time (.departure s.id) := by
  have hrun : f.coordinator.isRunning = true := hsteer.running (hord.isActive hs)
  refine .panicked s.id rfl hrun ?_
  rw [show (f.panicLoop reason).coordinator.posted = f.coordinator.posted ++ [.supervisorPanicked]
    from Conduct.posted_post (c := ((f.abandonSession .panicked).tell
      (.logged (.loopPanicked reason) none)).conduct) hrun _]
  simp

/-- A session that runs goes on running, or begins to remove its driver, unless its event loop
panics. -/
theorem act_running {s : Session} {loop : LoopPhase} (hs : f.session = some s)
    (hst : s.stage = .running .listening loop)
    (hready : s.quit.reason ≠ none ∨
      ∃ wait, ⟨s.id, 1, .watchRemoval wait⟩ ∈ f.children ∧ wait.due ≤ time)
    (hord : f.toFrame.Orderly) (hsteer : f.conduct.Steered) (hacc : f.Accompanied)
    (hup : f'.IsUp) (hact : f.Act m f') :
    f'.Vigil time (.departure s.id) ∨ f.Answers (.departure s.id) f' := by
  have hstay : f.Vigil time (.departure s.id) := .running s loop hs hst hready
  have hc : f.cycle = .inSession := hord.cycle_eq hs
  have hbeside := hacc.beside s hs
  have hsame : ∀ {t : Session}, f.session = some t → t = s := fun ht =>
    Option.some.inj (ht.symm.trans hs)
  cases hact with
  | fire a => exact .inl (hstay.fire a)
  | decide t => exact absurd hup (IsUp.not_decide t)
  | secondSignal => exact absurd hup (IsUp.not_decide _)
  | firstSignal => exact absurd hup.stop (by rintro ⟨⟩)
  | ignoreSignals => exact .inl (hstay.congr rfl rfl rfl rfl id)
  | beginStop hc' => simp [hc] at hc'
  | beginWaiting hc' | keepWaiting wait hc' | beginSession wait hc' | stopped call hc' =>
    rw [hc] at hc'
    cases hc'
  | lateEnd call hc' => simp [hc] at hc'
  | loopWent t executor p p' ht hst' =>
    obtain rfl := hsame ht
    obtain ⟨rfl, -⟩ := Stage.running.inj (hst'.symm.trans hst)
    exact .inl (.running { t with stage := .running .listening p' } p' rfl rfl hready)
  | loopEnded t executor p ht hst' =>
    obtain rfl := hsame ht
    obtain ⟨rfl, -⟩ := Stage.running.inj (hst'.symm.trans hst)
    exact .inl (.running { t with stage := .running .listening .returned } .returned rfl rfl hready)
  | loopPanicked t executor p reason => exact .inl (.panicLoop hs hord hsteer reason)
  | beginRemoval t loop' r ht =>
    obtain rfl := hsame ht
    have hstate : t.state = .running := by
      rw [hord.session_state t hs, hst]
      rfl
    refine .inr ⟨[_, _, _, _], outline_requestRemoval f t loop', .inl ?_⟩
    simp [Lookout.answer, hstate]
  | skipStopped t wait ht hst' | keepSkipping t wait ht hst' | skipEnded t wait ht hst'
  | added t timer call ok ht hst' | skipped t timer call ht hst'
  | addPanicked t timer call reason ht hst' | sessionEnded t timer ht hst'
  | driverRemoved t timer loop call ht hst' | removalFailed t timer loop call ht hst' =>
    rw [hsame ht, hst] at hst'
    cases hst'
  | stopForwarded child hchild => exact .inl (.raiseQuit hs hst hacc hchild _)
  | removalSeen child wait hchild =>
    have hacc' : (f.tell (.checked f.sees)).Accompanied := hacc.congr rfl rfl
    exact .inl (.raiseQuit (f := f.tell (.checked f.sees)) hs hst hacc' hchild _)
  | keepWatching child wait hchild htask hdue hseen =>
    rw [hbeside.desired hchild htask] at hseen
    exact .inr (.deny hseen rfl rfl)

/-- After its event loop has panicked, a run can only end. -/
theorem act_panicked (n : SessionId) (hc : f.cycle = .panicked)
    (hrun : f.coordinator.isRunning = true) (hposted : f.coordinator.posted ≠ [])
    (hord : f.toFrame.Orderly) (hacc : f.Accompanied) (hup : f'.IsUp) (hs : f.Act m f') :
    f'.Vigil time (.departure n) := by
  have hstay : f.Vigil time (.departure n) := .panicked n hc hrun hposted
  have hnone : f.session = none := hord.session_eq_none (by rw [hc]; rintro ⟨⟩)
  have hnobody : ∀ {s : Session}, f.session ≠ some s := by simp [hnone]
  have hnoChild : ∀ {child : Child}, child ∉ f.children := by simp [hacc.alone hnone]
  cases hs with
  | fire a => exact hstay.fire a
  | decide t => exact absurd hup (IsUp.not_decide t)
  | secondSignal => exact absurd hup (IsUp.not_decide _)
  | firstSignal => exact absurd hup.stop (by rintro ⟨⟩)
  | ignoreSignals => exact hstay.congr rfl rfl rfl rfl id
  | beginStop hc' => simp [hc] at hc'
  | beginWaiting hc' | keepWaiting wait hc' | beginSession wait hc' | stopped call hc' =>
    rw [hc] at hc'
    cases hc'
  | lateEnd => exact hstay.congr rfl rfl rfl rfl id
  | loopWent s executor p p' hs | loopEnded s executor p hs | loopPanicked s executor p reason hs
  | skipStopped s wait hs | keepSkipping s wait hs | skipEnded s wait hs
  | added s timer call ok hs | skipped s timer call hs | addPanicked s timer call reason hs
  | sessionEnded s timer hs | driverRemoved s timer loop call hs
  | removalFailed s timer loop call hs | beginRemoval s loop r hs => exact absurd hs hnobody
  | stopForwarded child hchild | keepWatching child wait hchild | removalSeen child wait hchild =>
    exact absurd hchild hnoChild

/-- As long as a run goes on, a vigil is kept or answered. -/
theorem act (h : f.Vigil time l) (hord : f.toFrame.Orderly) (hsteer : f.conduct.Steered)
    (hacc : f.Accompanied) (hup : f'.IsUp) (hs : f.Act m f') :
    f'.Vigil time l ∨ f.Answers l f' := by
  cases h with
  | waiting wait hc hdue => exact act_waiting hc hdue hord hsteer hacc hup hs
  | skipping s wait hs' hst hdue => exact act_skipping hs' hst hdue hord hsteer hacc hup hs
  | running s loop hs' hst hready => exact act_running hs' hst hready hord hsteer hacc hup hs
  | panicked n hc hrun hposted => exact .inl (act_panicked n hc hrun hposted hord hacc hup hs)

/-- Whatever happens up to the end of a vigil, it is kept or answered. -/
theorem step (h : f.Vigil time l) (hnow : f.now ≤ time) (hord : f.toFrame.Orderly)
    (hsteer : f.conduct.Steered) (hacc : f.Accompanied) (hup : f'.now ≤ time → f'.IsUp)
    {o : Occurrence} (hs : f.Step o f') :
    f'.Vigil time l ∧ f'.now ≤ time ∨ f.Answers l f' := by
  cases hs with
  | stay => exact .inl ⟨h, hnow⟩
  | files | signal | closeSignals => exact .inl ⟨h.congr rfl rfl rfl rfl id, hnow⟩
  | pass later hrests =>
    exact .inl ⟨h.congr rfl rfl rfl rfl id, (h.lt_of_rests hacc hrests).2⟩
  | act hact =>
    have hnow' : f'.now ≤ time := hact.fixed.1 ▸ hnow
    exact (h.act hord hsteer hacc (hup hnow') hact).imp_left fun hkept => ⟨hkept, hnow'⟩

end Vigil

end Scene

/-! ## Runs -/

/-- A world in which nothing is left to do rests. -/
theorem World.rests_of_next?_eq_none {L : EventLoop} {w : World L} (h : w.next? = none) :
    w.scene.Rests w.now := by
  refine rests_of_mayPass ?_
  unfold mayPass
  rw [h]
  cases hdue : w.nextDue? with
  | none => simp
  | some due => simpa using Nat.le_of_lt (now_lt_of_nextDue? hdue)

namespace Supervision

variable {L : EventLoop} (s : Supervision L)

/-- From `os` on, the run goes on with `ps` past `time`: as long as that has not passed, it has not
returned, and its stop flag is down. -/
structure GoesOnPast (os ps : List Occurrence) (time : Nat) : Prop where
  up : ∀ qs rs, ps = qs ++ rs → (s.after (os ++ qs)).now ≤ time →
    (s.after (os ++ qs)).outcome? = none ∧
      (s.after (os ++ qs)).coordinator.stop.isRaised = false
  /-- At the end, `time` is over, or nothing is left to do at it. -/
  past : time < (s.after (os ++ ps)).now ∨
    (s.after (os ++ ps)).now = time ∧ (s.after (os ++ ps)).next? = none

theorem punctual_after (os : List Occurrence) : (s.after os).scene.Punctual := by
  refine s.scene_induction (P := fun _ f => f.Punctual) ?_ (fun _ _ _ hs h => h.step hs) os
  intro wait hwait
  have hcycle : s.start.scene.cycle = _ := congrArg Frame.cycle s.frame_start
  cases hwait with
  | cycle hc =>
    rw [hcycle] at hc
    cases hr : s.refusal? <;> simp [hr] at hc
  | skip x hx =>
    rw [s.session_start] at hx
    cases hx
  | watch child hchild =>
    rw [s.children_start] at hchild
    cases hchild

/-- Whoever waits in a run looks within an interval. -/
theorem due_le_of_awaits (os : List Occurrence) {wait : PresenceWait}
    (h : (s.after os).scene.Awaits wait) :
    wait.due ≤ (s.after os).now + s.settings.device.pollInterval := by
  have hdue := s.punctual_after os wait h
  rwa [show (s.after os).scene.setup = s.setup from s.setup_after os] at hdue

variable {s} in
theorem GoesOnPast.isUp {os ps qs rs : List Occurrence} {time : Nat}
    (h : s.GoesOnPast os ps time) (heq : ps = qs ++ rs)
    (hnow : (s.after (os ++ qs)).now ≤ time) : (s.after (os ++ qs)).scene.IsUp := by
  obtain ⟨hnone, hstop⟩ := h.up qs rs heq hnow
  refine ⟨hstop, ?_⟩
  unfold World.outcome? at hnone
  split at hnone
  · cases hnone
  · exact Option.map_eq_none_iff.1 hnone

/-- What answers a vigil in the scene of a run has happened in the run. -/
theorem mem_since_of_answers {os : List Occurrence} {o : Occurrence} {l : Lookout}
    (h : (s.after os).scene.Answers l (s.after (os ++ [o])).scene) :
    ((s.after os).now, l.answer) ∈ s.since os [o] ∨
      ((s.after os).now, .checked l.denial) ∈ s.since os [o] := by
  obtain ⟨new, heq, hmem⟩ := h
  have houtline : l.answer.isOutline = true := by cases l <;> rfl
  exact hmem.imp (s.mem_since_iff heq houtline).2 (s.mem_since_iff heq rfl).2

/-- A vigil is answered as its run goes on past its end. -/
theorem answered_of_vigil {os ps : List Occurrence} {time : Nat} {l : Lookout}
    (hnow : (s.after os).now ≤ time) (h : (s.after os).scene.Vigil time l)
    (hgoes : s.GoesOnPast os ps time) :
    ∃ t ≤ time, (t, l.answer) ∈ s.since os ps ∨ (t, .checked l.denial) ∈ s.since os ps := by
  have hkept : ∀ qs rs, ps = qs ++ rs →
      ((s.after (os ++ qs)).scene.Vigil time l ∧ (s.after (os ++ qs)).now ≤ time) ∨
        ∃ t ≤ time, (t, l.answer) ∈ s.since os qs ∨ (t, .checked l.denial) ∈ s.since os qs := by
    intro qs
    induction qs using List.reverseRecOn with
    | nil =>
      intro _ _
      rw [List.append_nil]
      exact .inl ⟨h, hnow⟩
    | append_singleton qs o ih =>
      intro rs heq
      rw [s.since_append, ← List.append_assoc]
      rcases ih (o :: rs) (by rw [heq, List.append_assoc]; rfl) with ⟨hvigil, hle⟩ | ⟨t, ht, hmem⟩
      · have hup : (s.after (os ++ qs ++ [o])).now ≤ time →
            (s.after (os ++ qs ++ [o])).scene.IsUp := by
          rw [List.append_assoc]
          exact hgoes.isUp heq
        refine (hvigil.step hle (s.orderly_after _) (s.steered_after _) (s.accompanied_after _) hup
          (s.step_after _ o)).imp_right fun hanswers => ?_
        exact ⟨_, hle, (s.mem_since_of_answers hanswers).imp (List.mem_append_left _)
          (List.mem_append_left _)⟩
      · exact .inr ⟨t, ht, hmem.imp (List.mem_append_right _) (List.mem_append_right _)⟩
  rcases hkept ps [] (List.append_nil _).symm with ⟨hvigil, hle⟩ | hanswered
  · -- The run does not rest at the end of a vigil.
    rcases hgoes.past with hlt | ⟨heq, hnext⟩
    · exact absurd hle (Nat.not_le_of_lt hlt)
    · have hrests := World.rests_of_next?_eq_none hnext
      have hlt := (hvigil.lt_of_rests (s.accompanied_after _) hrests).1
      exact absurd heq (Nat.ne_of_lt hlt)
  · exact hanswered

/-- Every change of presence that lasts up to `time` after `os` is noticed by then, as the run goes
on with `ps`. -/
structure ChangesNoticed (os ps : List Occurrence) (time : Nat) : Prop where
  /-- If the device is there whenever somebody looks, a call to add the driver begins. -/
  arrival : ∀ wait, (s.after os).cycle = .waiting wait →
    (∀ t ≤ time, (t, .checked false) ∉ s.since os ps) →
      ∃ t ≤ time, (t, .callBegan .add) ∈ s.since os ps
  /-- If the device is gone whenever somebody looks, a running session goes on to its removal. -/
  departure : ∀ x ∈ (s.after os).session, x.state = .running →
    (∀ t ≤ time, (t, .checked true) ∉ s.since os ps) →
      ∃ t ≤ time, (t, .stateChanged x.id .running .removalRequested) ∈ s.since os ps
  /-- And a session that skips a refused device is over. -/
  absence : ∀ x ∈ (s.after os).session, ∀ wait, x.stage = .skipping wait →
    (∀ t ≤ time, (t, .checked true) ∉ s.since os ps) →
      ∃ t ≤ time, (t, .stateChanged x.id .activating .removed) ∈ s.since os ps

/-- A session is in the state of running just as it serves its event loop. -/
theorem stage_of_running (os : List Occurrence) {x : Session} (hx : x ∈ (s.after os).session)
    (hrunning : x.state = .running) : ∃ loop, x.stage = .running .listening loop := by
  have hstate : x.state = x.stage.state := (s.orderly_after os).session_state x hx
  rw [hrunning] at hstate
  unfold Stage.state at hstate
  split at hstate
  case h_4 loop hst => exact ⟨loop, hst⟩
  all_goals cases hstate

/-- A running session keeps a vigil until the next look of its watcher. -/
theorem vigil_of_running (os : List Occurrence) {x : Session} (hx : x ∈ (s.after os).session)
    (hrunning : x.state = .running) :
    (s.after os).scene.Vigil ((s.after os).now + s.settings.device.pollInterval)
      (.departure x.id) := by
  obtain ⟨loop, hst⟩ := s.stage_of_running os hx hrunning
  refine .running x loop hx hst ?_
  cases hreason : x.quit.reason with
  | some r => exact .inl (Option.some_ne_none r)
  | none =>
    obtain ⟨wait, hchild⟩ := ((s.accompanied_after os).beside x hx).watcher_mem
      (by rw [hst]; rfl) hreason
    exact .inr ⟨wait, hchild, s.due_le_of_awaits os (.watch _ hchild rfl)⟩

/-- **No lasting plug or unplug is missed.**  Let `os` be what has happened by the time `u`, and let
the run go on with `ps` for an interval more, without returning and without its stop flag being
raised.  Whoever waits at `u` for a change of presence, and whose looks all show the change from
then on, has noticed it by the end of the interval. -/
theorem changes_noticed (os ps : List Occurrence) {u : Nat} (hu : (s.after os).now ≤ u)
    (hgoes : s.GoesOnPast os ps (u + s.settings.device.pollInterval)) :
    s.ChangesNoticed os ps (u + s.settings.device.pollInterval) := by
  have hnext : (s.after os).now + s.settings.device.pollInterval ≤
      u + s.settings.device.pollInterval := Nat.add_le_add_right hu _
  have hanswered : ∀ l, (s.after os).scene.Vigil (u + s.settings.device.pollInterval) l →
      (∀ t ≤ u + s.settings.device.pollInterval, (t, .checked l.denial) ∉ s.since os ps) →
        ∃ t ≤ u + s.settings.device.pollInterval, (t, l.answer) ∈ s.since os ps := by
    intro l hvigil hlooks
    obtain ⟨t, ht, hmem⟩ := s.answered_of_vigil (Nat.le_add_right_of_le hu) hvigil hgoes
    exact ⟨t, ht, hmem.resolve_right (hlooks t ht)⟩
  constructor
  · intro wait hc
    have hdue := s.due_le_of_awaits os (.cycle hc)
    exact hanswered .arrival (.waiting wait hc (Nat.le_trans hdue hnext))
  · intro x hx hrunning
    exact hanswered (.departure x.id) ((s.vigil_of_running os hx hrunning).mono hnext)
  · intro x hx wait hst
    have hdue := s.due_le_of_awaits os (.skip x hx hst)
    exact hanswered (.absence x.id) (.skipping x wait hx hst (Nat.le_trans hdue hnext))

/-- A run whose device is there from its start on, and whose library takes its time to add the
driver. -/
def plugged : Supervision (Script.loop []) where
  files := .plugged
  library := { adding := fun _ => { hold := some 2000 } }
  loop := {}

/-- The supervisor has a look, and time passes. -/
def pluggedCourse : List Occurrence :=
  [.move .cycle, .pass 1500]

theorem goesOnPast_plugged : plugged.GoesOnPast [.move .cycle] pluggedCourse 1000 where
  up qs rs heq _ := by
    have hup : ∀ ps ∈ pluggedCourse.inits,
        (plugged.after (.move .cycle :: ps)).outcome? = none ∧
          (plugged.after (.move .cycle :: ps)).coordinator.stop.isRaised = false := by
      decide +kernel
    exact hup qs ((List.mem_inits _ _).2 ⟨rs, heq.symm⟩)
  past := .inl (by decide +kernel)

theorem changes_noticed_plugged :
    (plugged.after [.move .cycle]).cycle = .waiting (.start true 0) ∧
      ∃ t ≤ 1000, (t, .callBegan .add) ∈ plugged.since [.move .cycle] pluggedCourse := by
  have hlooks : ∀ x ∈ plugged.since [.move .cycle] pluggedCourse, x.2 ≠ .checked false := by
    decide +kernel
  have hnoticed : plugged.ChangesNoticed [.move .cycle] pluggedCourse 1000 :=
    changes_noticed (u := 0) plugged [.move .cycle] pluggedCourse (by decide +kernel)
      goesOnPast_plugged
  exact ⟨rfl, hnoticed.arrival _ rfl fun t _ hmem => hlooks _ hmem rfl⟩

end Supervision

end Hotplug
