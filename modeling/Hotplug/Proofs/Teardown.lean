import Hotplug.Proofs.StateMachine

/-!
# The teardown of sessions

A session that runs is torn down once at most, and only because its own watcher has found no
device or its own forwarder a raised stop flag.  Whichever of the two came first gives the reason.

* `Supervision.raised` — the reasons to quit that were raised in a session, oldest first.
* `Scene.Step.reason` — what a step makes of the reason of a session.
* `Scene.Stays` — a session that nobody has asked to quit goes on running.
* `Supervision.torn_down_once` — what this says of every run.
-/

namespace Hotplug

open Scene (Act Step)

/-! ## What is raised -/

/-- The reasons to quit that are raised in session `n` on the way, oldest first. -/
def World.raised {L : EventLoop} (w : World L) (n : SessionId) : List Occurrence → List QuitReason
  | [] => []
  | o :: os => (w.scene.raises? n o).toList ++ (w.occur o).raised n os

theorem World.raised_append {L : EventLoop} (w : World L) (n : SessionId)
    (os ps : List Occurrence) :
    w.raised n (os ++ ps) = w.raised n os ++ (w.follow os).raised n ps := by
  induction os generalizing w with
  | nil => rfl
  | cons o os ih =>
    rw [List.cons_append, World.raised, World.raised, ih, List.append_assoc]
    rfl

namespace Supervision

variable {L : EventLoop} (s : Supervision L)

/-- The reasons to quit that were raised in session `n` of a run, oldest first. -/
def raised (n : SessionId) (os : List Occurrence) : List QuitReason :=
  s.start.raised n os

theorem raised_append (n : SessionId) (os ps : List Occurrence) :
    s.raised n (os ++ ps) = s.raised n os ++ (s.after os).raised n ps :=
  s.start.raised_append n os ps

theorem raised_concat (n : SessionId) (os : List Occurrence) (o : Occurrence) :
    s.raised n (os ++ [o]) = s.raised n os ++ ((s.after os).scene.raises? n o).toList := by
  rw [raised_append]
  simp [World.raised]

end Supervision

namespace Scene

variable {f f' : Scene} {n : SessionId} {o : Occurrence} {r : QuitReason}

/-- Whoever is there belongs to a session that runs. -/
theorem Accompanied.exists_session (h : f.Accompanied) {child : Child}
    (hchild : child ∈ f.children) :
    ∃ s, f.session = some s ∧ s.id = child.session ∧ s.stage.isRunning = true := by
  cases hs : f.session with
  | none =>
    rw [h.alone hs] at hchild
    cases hchild
  | some s =>
    have hbeside := h.beside s hs
    refine ⟨s, rfl, (hbeside.session_eq hchild).symm, ?_⟩
    cases hrunning : s.stage.isRunning with
    | true => rfl
    | false =>
      rw [(hbeside.eq_nil hrunning).1] at hchild
      cases hchild

/-- What the endpoint, or the stop flag, shows when a reason is raised. -/
def Shows (f : Scene) : QuitReason → Prop
  | .deviceRemoved => f.files.stat f.setup.device.path = .error .notFound
  | .shutdown => f.coordinator.stop.isRaised = true

theorem raises?_eq_some (h : f.raises? n o = some r) :
    f.Shows r ∧ ∃ child ∈ f.children, child.session = n := by
  cases o with
  | move m =>
    cases m with
    | watchRemoval =>
      obtain ⟨⟨⟨child, hchild, hn, -⟩, hseen⟩, heq⟩ := Option.ite_none_right_eq_some.1 h
      obtain rfl := Option.some.inj heq
      exact ⟨sees_eq_false_iff.1 hseen, child, hchild, hn⟩
    | forwardStop =>
      obtain ⟨⟨⟨child, hchild, hn, -⟩, hraised⟩, heq⟩ := Option.ite_none_right_eq_some.1 h
      obtain rfl := Option.some.inj heq
      exact ⟨hraised, child, hchild, hn⟩
    | _ => cases h
  | _ => cases h

/-- A reason is raised only in the session under way, once it runs. -/
theorem exists_session_of_raises? (hacc : f.Accompanied) (h : f.raises? n o = some r) :
    ∃ s, f.session = some s ∧ s.id = n ∧ s.stage.isRunning = true := by
  obtain ⟨-, child, hchild, rfl⟩ := raises?_eq_some h
  exact hacc.exists_session hchild

theorem raises?_forwardStop {child : Child} (hchild : child ∈ f.children)
    (htask : child.task = .forwardStop) (hraised : f.coordinator.stop.isRaised = true) :
    f.raises? child.session (.move .forwardStop) = some .shutdown :=
  if_pos ⟨⟨child, hchild, rfl, htask⟩, hraised⟩

theorem raises?_watchRemoval {child : Child} {wait : PresenceWait} (hchild : child ∈ f.children)
    (htask : child.task = .watchRemoval wait) (hdue : wait.due ≤ f.now) (hseen : f.sees = false) :
    f.raises? child.session (.move .watchRemoval) = some .deviceRemoved :=
  if_pos ⟨⟨child, hchild, rfl, by simp [Child.dueLook?, htask, hdue]⟩, hseen⟩

theorem raises?_of_sees (hseen : f.sees = true) : f.raises? n (.move .watchRemoval) = none := by
  refine if_neg ?_
  rintro ⟨-, hgone⟩
  rw [hseen] at hgone
  cases hgone

/-! ## The reason of a session -/

theorem session_decide {t : Termination} {s : Session} (hs : s ∈ (f.decide t).session) :
    s ∈ f.session :=
  session_cancelCycle (f := { f with coordinator := f.coordinator.conclude t : Scene }.tell
    (.terminated t)) hs

theorem count_decide (t : Termination) : (f.decide t).count = f.count := by
  unfold decide cancelCycle
  split <;> rfl

/-- A session that goes on has the reason that is raised in it, unless it has one already; one
that begins has none. -/
def GoesOn (f f' : Scene) (o : Occurrence) : Prop :=
  ∀ s' ∈ f'.session,
    (∃ s, f.session = some s ∧ s'.id = s.id ∧
      s'.quit.reason = s.quit.reason.or (f.raises? s.id o)) ∨
    s'.id = f.count + 1 ∧ s'.quit.reason = none ∧ f.raises? s'.id o = none

namespace GoesOn

/-- The session under way goes on as it was. -/
theorem same (hs : ∀ s' ∈ f'.session, ∃ s, f.session = some s ∧ s'.id = s.id ∧
      s'.quit.reason = s.quit.reason) (hnone : ∀ n, f.raises? n o = none) : f.GoesOn f' o := by
  intro s' hs'
  obtain ⟨s, hold, hid, hreason⟩ := hs s' hs'
  exact .inl ⟨s, hold, hid, by simp [hreason, hnone]⟩

theorem of_eq (hsession : f'.session = f.session) (hnone : ∀ n, f.raises? n o = none) :
    f.GoesOn f' o :=
  same (fun s' hs' => ⟨s', hsession ▸ hs', rfl, rfl⟩) hnone

theorem of_some {s s' : Session} (hs : f.session = some s) (hs' : f'.session = some s')
    (hid : s'.id = s.id) (hreason : s'.quit.reason = s.quit.reason)
    (hnone : ∀ n, f.raises? n o = none) : f.GoesOn f' o := by
  refine same (fun t ht => ⟨s, hs, ?_⟩) hnone
  rw [hs'] at ht
  obtain rfl := Option.some.inj ht
  exact ⟨hid, hreason⟩

theorem of_none (hs : f'.session = none) : f.GoesOn f' o := by
  intro t ht
  rw [hs] at ht
  cases ht

/-- A task asks its session to quit. -/
theorem raiseQuit (hacc : f.Accompanied) {child : Child} (hchild : child ∈ f.children)
    (hraises : f.raises? child.session o = some r)
    (hsession : f'.session = (f.raiseQuit child r).session) : f.GoesOn f' o := by
  intro s' hs'
  rw [hsession] at hs'
  obtain ⟨s, hs, hid, -⟩ := hacc.exists_session hchild
  have hspend := QuitRequest.spend_eq ((hacc.beside s hs).holds hchild) r
  obtain rfl : { s with quit := s.quit.spend child.trigger r } = s' := by
    simpa [Scene.raiseQuit, hs, hid] using hs'
  refine .inl ⟨s, hs, rfl, ?_⟩
  rw [hid, hraises, hspend]
  cases s.quit.reason <;> rfl

end GoesOn

theorem Act.goesOn (hacc : f.Accompanied) (hord : f.toFrame.Orderly) (hsteer : f.conduct.Steered)
    {m : Move} (hs : f.Act m f') : f.GoesOn f' (.move m) := by
  cases hs with
  | fire | firstSignal | ignoreSignals | beginStop | beginWaiting | keepWaiting | stopped
  | lateEnd => exact .of_eq rfl fun _ => rfl
  | decide t =>
    refine .same (fun s' hs' => ?_) fun _ => rfl
    exact ⟨s', session_decide hs', rfl, rfl⟩
  | secondSignal s b =>
    refine .same (fun s' hs' => ?_) fun _ => rfl
    have hold := session_decide hs'
    exact ⟨s', hold, rfl, rfl⟩
  | beginSession =>
    rintro s' ⟨rfl⟩
    exact .inr ⟨rfl, rfl, rfl⟩
  | loopWent s executor p p' hs | loopEnded s executor p hs | keepSkipping s wait hs
  | skipped s timer call hs | addPanicked s timer call reason hs
  | driverRemoved s timer loop call hs | removalFailed s timer loop call hs =>
    exact .of_some hs rfl rfl rfl fun _ => rfl
  | beginRemoval s loop r hs =>
    exact .of_some hs (f.session_requestRemoval s loop) rfl rfl fun _ => rfl
  | loopPanicked | skipStopped | sessionEnded | skipEnded => exact .of_none rfl
  | added s timer call ok hs hst =>
    have hfresh : s.quit = .fresh :=
      ((hacc.beside s hs).eq_nil (by rw [hst]; rfl)).2
    exact .of_some hs rfl rfl (by rw [hfresh]; rfl) fun _ => rfl
  | stopForwarded child hchild htask hstop =>
    obtain ⟨s, hs, -, -⟩ := hacc.exists_session hchild
    have hraised := isRaised_of_isOver hord hsteer hs hstop
    exact .raiseQuit hacc hchild (raises?_forwardStop hchild htask hraised) rfl
  | keepWatching child wait hchild htask hdue hseen =>
    obtain ⟨s, hs, -, -⟩ := hacc.exists_session hchild
    have hdesired : wait.desired = false := (hacc.beside s hs).desired hchild htask
    rw [hdesired] at hseen
    exact .of_eq rfl fun _ => raises?_of_sees (by simpa using hseen)
  | removalSeen child wait hchild htask hdue hseen =>
    obtain ⟨s, hs, -, -⟩ := hacc.exists_session hchild
    have hdesired : wait.desired = false := (hacc.beside s hs).desired hchild htask
    rw [hdesired] at hseen
    exact .raiseQuit hacc hchild (raises?_watchRemoval hchild htask hdue hseen) rfl

theorem Step.goesOn (hacc : f.Accompanied) (hord : f.toFrame.Orderly)
    (hsteer : f.conduct.Steered) (hs : f.Step o f') : f.GoesOn f' o := by
  cases hs with
  | stay o hnone => exact .of_eq rfl hnone
  | files | signal | closeSignals | pass => exact .of_eq rfl fun _ => rfl
  | act hact => exact hact.goesOn hacc hord hsteer

/-- No session is ever forgotten. -/
theorem Step.count_le (hs : f.Step o f') : f.count ≤ f'.count := by
  cases hs with
  | act hact =>
    cases hact with
    | decide t => exact Nat.le_of_eq (count_decide (f := f) t).symm
    | secondSignal s b =>
      have hcount := count_decide (f := (f.put (f.conduct.setSignals b)).tell (.signalTaken s))
        .repeatedSignal
      exact Nat.le_of_eq hcount.symm
    | beginSession => exact Nat.le_succ _
    | beginRemoval s loop => exact Nat.le_of_eq (f.count_requestRemoval s loop).symm
    | _ => exact Nat.le_refl _
  | _ => exact Nat.le_refl _

/-- A driver begins to be removed only as its session has learnt that it has to quit. -/
theorem Act.removes {m : Move} (hs : f.Act m f') :
    Adds (fun h => !h.isRemoval) f.outline f'.outline ∨
      ∃ s loop, f.session = some s ∧ s.quit.answer? ≠ none ∧ f' = f.requestRemoval s loop := by
  cases hs with
  | fire a => exact .inl (Conduct.adds_post ((Adds.refl _).cons rfl) _ rfl)
  | decide t =>
    rw [outline_decide]
    exact .inl ((Adds.refl _).cons rfl)
  | firstSignal s b =>
    exact .inl ((Conduct.adds_raiseStop (c := (f.conduct.setSignals b).tell (.signalTaken s))
      ((Adds.refl _).cons rfl) rfl).cons rfl)
  | secondSignal s b =>
    rw [outline_decide]
    exact .inl (((Adds.refl _).cons rfl).cons rfl)
  | ignoreSignals | beginWaiting | loopWent | stopForwarded => exact .inl (Adds.refl _)
  | beginStop | keepWaiting | loopEnded | skipStopped | sessionEnded | keepSkipping | keepWatching
  | removalSeen | skipped | addPanicked | driverRemoved | lateEnd =>
    exact .inl ((Adds.refl _).cons rfl)
  | loopPanicked | stopped => exact .inl (Conduct.adds_post ((Adds.refl _).cons rfl) _ rfl)
  | skipEnded | removalFailed => exact .inl (((Adds.refl _).cons rfl).cons rfl)
  | beginSession => exact .inl ((((Adds.refl _).cons rfl).cons rfl |>.cons rfl).cons rfl)
  | added => exact .inl (((Adds.refl _).cons rfl).cons rfl |>.cons rfl)
  | beginRemoval s loop r hs hst hr => exact .inr ⟨s, loop, hs, by simp [hr], rfl⟩

end Scene

/-! ## Stories that go on -/

theorem mem_storyOf_cons {n : SessionId} {e : Nat × Happening} {hs : List (Nat × Happening)}
    {x : Happening} :
    x ∈ storyOf n (e :: hs) ↔ x = e.2 ∧ e.2.concerns n (begunIn hs) = true ∨ x ∈ storyOf n hs := by
  by_cases hconcerns : e.2.concerns n (begunIn hs) = true
  · simp [storyOf, hconcerns, or_comm]
  · simp [storyOf, hconcerns]

theorem Adds.mem_storyOf {p : Happening → Bool} {hs hs' : List (Nat × Happening)}
    (h : Adds p hs hs') {x : Happening} (hx : p x = false) (n : SessionId) :
    x ∈ storyOf n hs' ↔ x ∈ storyOf n hs := by
  obtain ⟨new, rfl, hnew⟩ := h
  induction new with
  | nil => rfl
  | cons e new ih =>
    have hne : x ≠ e.2 := by
      rintro rfl
      have hp := hnew e List.mem_cons_self
      rw [hx] at hp
      cases hp
    rw [List.cons_append, mem_storyOf_cons, ih fun d hd => hnew d (List.mem_cons_of_mem _ hd)]
    simp [hne]

/-- A story tells the same of what has not come again. -/
theorem Adds.filterMap_storyOf {α : Type} {pick : Happening → Option α}
    {hs hs' : List (Nat × Happening)} (h : Adds (fun x => (pick x).isNone) hs hs')
    (n : SessionId) : (storyOf n hs').filterMap pick = (storyOf n hs).filterMap pick := by
  obtain ⟨new, rfl, hnew⟩ := h
  induction new with
  | nil => rfl
  | cons e new ih =>
    have hnone : pick e.2 = none := by simpa using hnew e List.mem_cons_self
    have hold := ih fun d hd => hnew d (List.mem_cons_of_mem _ hd)
    rw [List.cons_append, storyOf]
    split
    · simpa [hnone] using hold
    · exact hold

/-- A story without a new state change tells the same state. -/
theorem Adds.stateOf_storyOf {hs hs' : List (Nat × Happening)}
    (h : Adds (·.change?.isNone) hs hs') (n : SessionId) :
    stateOf (storyOf n hs') = stateOf (storyOf n hs) := by
  have hsame : changesOf (storyOf n hs') = changesOf (storyOf n hs) := h.filterMap_storyOf n
  unfold stateOf
  rw [hsame]

/-! ## Sessions that nobody asks to quit -/

namespace Scene

variable {f f' : Scene} {n : SessionId} {o : Occurrence} {posted : List Termination}

/-- Nobody has asked the running session `n` to quit, and nothing new ends the run. -/
structure Serves (n : SessionId) (posted : List Termination) (f : Scene) : Prop where
  session : ∃ s loop, f.session = some s ∧ s.id = n ∧ s.state = .running ∧
    s.stage = .running .listening loop ∧ s.quit.reason = none
  phase : f.coordinator.phase = .awaitingSignal
  posted : ∀ t ∈ f.coordinator.posted, t ∈ posted

/-- The running session `n` goes on, unless the run was ended as had been asked for before. -/
structure Stays (n : SessionId) (posted : List Termination) (f : Scene) : Prop where
  state : stateOf (storyOf n f.outline) = .running
  goes : f.Serves n posted ∨
    ∃ t ∈ posted, f.coordinator.phase = .decided t ∧ f.cycle = .cancelled

/-- Nothing has happened that a running session `n` would have to quit for, where `raised` has
the reasons that were raised in it. -/
structure Calm (raised : List QuitReason) (f : Scene) : Prop where
  stop : f.coordinator.stop.isRaised = false
  device : .deviceRemoved ∉ raised
  loop : ∀ t reason m, (t, .logged (.loopPanicked reason) m) ∉ f.outline

theorem Serves.congr (h : f.Serves n posted) (hsession : f'.session = f.session)
    (hphase : f'.coordinator.phase = f.coordinator.phase)
    (hposted : f'.coordinator.posted = f.coordinator.posted) : f'.Serves n posted where
  session := by
    rw [hsession]
    exact h.session
  phase := hphase.trans h.phase
  posted := by
    rw [hposted]
    exact h.posted

namespace Stays

/-- Nothing changes that the session has to do with. -/
theorem congr (h : f.Stays n posted) (hadds : Adds (·.change?.isNone) f.outline f'.outline)
    (hsession : f'.session = f.session) (hcycle : f'.cycle = f.cycle)
    (hphase : f'.coordinator.phase = f.coordinator.phase)
    (hposted : f'.coordinator.posted = f.coordinator.posted) : f'.Stays n posted where
  state := (hadds.stateOf_storyOf n).trans h.state
  goes := by
    rw [hphase, hcycle]
    exact h.goes.imp_left fun hserves => hserves.congr hsession hphase hposted

/-- The session goes on with its event loop. -/
theorem goOn (hserves : f.Serves n posted) (hstate : stateOf (storyOf n f.outline) = .running)
    (hadds : Adds (·.change?.isNone) f.outline f'.outline) {s : Session}
    (hs : f.session = some s) {executor : Executor} {loop loop' : LoopPhase}
    (hst : s.stage = .running executor loop)
    (hs' : f'.session = some { s with stage := .running executor loop' })
    (hcoordinator : f'.coordinator = f.coordinator) : f'.Stays n posted where
  state := (hadds.stateOf_storyOf n).trans hstate
  goes := by
    obtain ⟨t, l, ht, hid, hrunning, hstage, hreason⟩ := hserves.session
    obtain rfl : s = t := Option.some.inj (hs.symm.trans ht)
    obtain ⟨rfl, -⟩ : executor = .listening ∧ loop = l := by simpa [hst] using hstage
    refine .inl ⟨⟨_, loop', hs', hid, hrunning, rfl, hreason⟩, ?_, ?_⟩
    · rw [hcoordinator]
      exact hserves.phase
    · rw [hcoordinator]
      exact hserves.posted

/-- The run is ended, as had been asked for. -/
theorem decide (hserves : f.Serves n posted) (hstate : stateOf (storyOf n f.outline) = .running)
    (hord : f.toFrame.Orderly) {t : Termination} {rest : List Termination}
    (hposted : f.coordinator.posted = t :: rest) : (f.decide t).Stays n posted where
  state := by
    rw [outline_decide]
    exact (((Adds.refl _).cons rfl).stateOf_storyOf n).trans hstate
  goes := by
    obtain ⟨s, loop, hs, -⟩ := hserves.session
    have hactive : f.duty.isActive = true := hord.isActive hs
    have hcancel : f.decide t = ({ f with coordinator := f.coordinator.conclude t : Scene }.tell
        (.terminated t)).abandonSession .cancelled := if_pos hactive
    refine .inr ⟨t, hserves.posted t (by simp [hposted]), ?_⟩
    rw [hcancel]
    exact ⟨rfl, rfl⟩

/-- A session that serves goes on serving, if it is not asked to quit and the event loop does not
panic. -/
theorem act_of_serves (hserves : f.Serves n posted)
    (hstate : stateOf (storyOf n f.outline) = .running) (hacc : f.Accompanied)
    (hord : f.toFrame.Orderly) (hsteer : f.conduct.Steered) {raised : List QuitReason}
    {m : Move} (hraises : ∀ r, f.raises? n (.move m) = some r → r ∈ raised)
    (hcalm : f'.Calm raised) (hs : f.Act m f') : f'.Stays n posted := by
  obtain ⟨s, loop, hsession, hid, hrunning, hst, hreason⟩ := hserves.session
  have hcycle : f.cycle = .inSession := hord.cycle_eq hsession
  have hbeside := hacc.beside s hsession
  have hstay : f.Stays n posted := ⟨hstate, .inl hserves⟩
  have hsame : ∀ {t : Session}, f.session = some t → t = s := fun ht =>
    Option.some.inj (ht.symm.trans hsession)
  cases hs with
  | fire a ha =>
    -- No timer is armed while a session serves before the first signal.
    rcases hsteer.owned a ha with hphase | htimer
    · rw [show f.conduct.coordinator.phase = _ from hserves.phase] at hphase
      cases hphase
    · rw [show f.conduct.duty = s.duty from hord.duty_eq hsession] at htimer
      simp [Session.duty, hst, Duty.timer?, Duty.guard?] at htimer
  | decide t rest hrun hposted => exact .decide hserves hstate hord hposted
  | firstSignal => exact absurd hcalm.stop (by rintro ⟨⟩)
  | secondSignal t b grace hphase =>
    rw [hserves.phase] at hphase
    cases hphase
  | ignoreSignals => exact hstay.congr (Adds.refl _) rfl rfl rfl rfl
  | beginStop hc => simp [hcycle] at hc
  | beginWaiting hc | keepWaiting wait hc | beginSession wait hc | stopped call hc =>
    rw [hcycle] at hc
    cases hc
  | lateEnd call hc => simp [hcycle] at hc
  | loopWent t executor p p' ht hst' =>
    exact .goOn hserves hstate (Adds.refl _) ht hst' rfl rfl
  | loopEnded t executor p ht hst' =>
    exact .goOn hserves hstate ((Adds.refl _).cons rfl) ht hst' rfl rfl
  | loopPanicked t executor p reason =>
    exact absurd (mem_outline_panicLoop f reason) (hcalm.loop f.now reason none)
  | skipStopped t wait ht hst' | keepSkipping t wait ht hst' | skipEnded t wait ht hst'
  | added t timer call ok ht hst' | skipped t timer call ht hst'
  | addPanicked t timer call reason ht hst' =>
    rw [hsame ht, hst] at hst'
    cases hst'
  | sessionEnded t timer ht hst' | driverRemoved t timer loop call ht hst'
  | removalFailed t timer loop call ht hst' =>
    rw [hsame ht, hst] at hst'
    cases hst'
  | beginRemoval t loop r ht hst' hr =>
    rw [hsame ht, hbeside.answer?_eq, hreason] at hr
    cases hr
  | stopForwarded child hchild htask hstop =>
    have hraised := isRaised_of_isOver hord hsteer hsession hstop
    exact absurd (hcalm.stop.symm.trans hraised) (by rintro ⟨⟩)
  | keepWatching child wait => exact hstay.congr ((Adds.refl _).cons rfl) rfl rfl rfl rfl
  | removalSeen child wait hchild htask hdue hseen =>
    have hchild' : child.session = n := (hbeside.session_eq hchild).trans hid
    rw [hbeside.desired hchild htask] at hseen
    have hraise := raises?_watchRemoval hchild htask hdue hseen
    rw [hchild'] at hraise
    exact absurd (hraises _ hraise) hcalm.device

/-- Once the run has ended, only late calls end. -/
theorem act_of_cancelled (h : f.Stays n posted) (hacc : f.Accompanied) (hord : f.toFrame.Orderly)
    (hsteer : f.conduct.Steered) {t : Termination} (hphase : f.coordinator.phase = .decided t)
    (hcycle : f.cycle = .cancelled) {m : Move} (hs : f.Act m f') : f'.Stays n posted := by
  have hnone : f.session = none := hord.session_eq_none (by rw [hcycle]; rintro ⟨⟩)
  have hnobody : ∀ {s : Session}, f.session ≠ some s := by simp [hnone]
  have hnoChild : ∀ {child : Child}, child ∉ f.children := by simp [hacc.alone hnone]
  have hover : f.coordinator.isRunning = false := by simp [Coordinator.isRunning, hphase]
  cases hs with
  | fire a ha =>
    have hrun : f.coordinator.isRunning = true := hsteer.isRunning_of_mem ha
    rw [hover] at hrun
    cases hrun
  | decide t rest hrun =>
    rw [hover] at hrun
    cases hrun
  | firstSignal s b hawait | secondSignal s b grace hawait =>
    rw [hphase] at hawait
    cases hawait
  | ignoreSignals => exact h.congr (Adds.refl _) rfl rfl rfl rfl
  | beginStop hc => simp [hcycle] at hc
  | beginWaiting hc | keepWaiting wait hc | beginSession wait hc | stopped call hc =>
    rw [hcycle] at hc
    cases hc
  | loopWent s executor p p' hs | loopEnded s executor p hs | loopPanicked s executor p reason hs
  | skipStopped s wait hs | keepSkipping s wait hs | skipEnded s wait hs
  | added s timer call ok hs | skipped s timer call hs | addPanicked s timer call reason hs
  | sessionEnded s timer hs | driverRemoved s timer loop call hs
  | removalFailed s timer loop call hs | beginRemoval s loop r hs => exact absurd hs hnobody
  | stopForwarded child hchild | keepWatching child wait hchild | removalSeen child wait hchild =>
    exact absurd hchild hnoChild
  | lateEnd call => exact h.congr ((Adds.refl _).cons rfl) rfl rfl rfl rfl

theorem step (h : f.Stays n posted) (hacc : f.Accompanied) (hord : f.toFrame.Orderly)
    (hsteer : f.conduct.Steered) {raised : List QuitReason}
    (hraises : ∀ r, f.raises? n o = some r → r ∈ raised) (hcalm : f'.Calm raised)
    (hs : f.Step o f') : f'.Stays n posted := by
  cases hs with
  | stay => exact h
  | files | signal | closeSignals | pass => exact h.congr (Adds.refl _) rfl rfl rfl rfl
  | act hact =>
    rcases h.goes with hserves | ⟨t, -, hphase, hcycle⟩
    · exact act_of_serves hserves h.state hacc hord hsteer hraises hcalm hact
    · exact h.act_of_cancelled hacc hord hsteer hphase hcycle hact

end Stays

/-- A reason that a forwarder raises has not waited: the stop flag went up at this instant, or the
session began to run. -/
def Forwards (f : Scene) : Prop :=
  f.coordinator.stop.isRaised = true → ∀ child ∈ f.children, child.task = .forwardStop →
    (f.now, .stopRaised) ∈ f.outline ∨
      (f.now, .loopStarted child.session f.setup.device) ∈ f.outline

namespace Forwards

/-- No forwarder comes, and the stop flag does not go up. -/
theorem congr (h : f.Forwards)
    (hraised : f'.coordinator.stop.isRaised = f.coordinator.stop.isRaised)
    (hnow : f'.now = f.now) (hsetup : f'.setup = f.setup) (hout : f.outline <:+ f'.outline)
    (hchildren : ∀ child ∈ f'.children, child.task = .forwardStop → child ∈ f.children) :
    f'.Forwards := by
  intro hup child hchild htask
  rw [hraised] at hup
  rw [hnow, hsetup]
  exact (h hup child (hchildren child hchild htask) htask).imp (hout.subset ·) (hout.subset ·)

theorem mem_of_mem_childrenAfterCut {child : Child} (hchild : child ∈ f.childrenAfterCut) :
    child ∈ f.children := by
  unfold childrenAfterCut at hchild
  cases hs : f.session with
  | none => simpa [hs] using hchild
  | some s =>
    rw [hs] at hchild
    exact (List.mem_filter.1 hchild).1

theorem decide (h : f.Forwards) (t : Termination) : (f.decide t).Forwards := by
  have hout : f.outline <:+ (f.decide t).outline := by
    rw [outline_decide]
    exact List.suffix_cons _ _
  unfold Scene.decide cancelCycle at hout ⊢
  split at hout
  · rw [if_pos ‹_›]
    exact h.congr rfl rfl rfl hout fun _ hchild _ => mem_of_mem_childrenAfterCut hchild
  · rw [if_neg ‹_›]
    exact h.congr rfl rfl rfl hout fun _ hchild _ => hchild

theorem act (h : f.Forwards) (hsteer : f.conduct.Steered) {m : Move} (hs : f.Act m f') :
    f'.Forwards := by
  have hout : f.outline <:+ f'.outline := (Step.act hs).outline_suffix
  cases hs with
  | firstSignal s b hphase =>
    have hdown : f.coordinator.stop.isRaised = false := (hsteer.calm hphase).1
    intro _ child _ _
    left
    change (f.now, Happening.stopRaised) ∈ _
    simp [Conduct.raiseStop, Conduct.tell, Conduct.setSignals, Frame.conduct, hdown]
  | added s timer call ok hs =>
    intro hup child hchild htask
    rcases List.mem_append.1 hchild with hold | hnew
    · exact (h hup child hold htask).imp (hout.subset ·) (hout.subset ·)
    · right
      rcases List.mem_cons.1 hnew with rfl | hnew
      · cases htask
      · obtain rfl := List.mem_singleton.1 hnew
        exact List.mem_cons_self
  | keepWatching child wait hchild htask =>
    refine h.congr rfl rfl rfl hout fun other hother hforward => ?_
    obtain ⟨old, hold, rfl⟩ := List.mem_map.1 hother
    by_cases heq : old = child
    · rw [if_pos heq] at hforward
      cases hforward
    · rw [if_neg heq]
      exact hold
  | stopForwarded child | removalSeen child =>
    exact h.congr rfl rfl rfl hout fun _ hchild _ => (List.mem_filter.1 hchild).1
  | decide t => exact h.decide t
  | secondSignal s b =>
    have hsame : ((f.put (f.conduct.setSignals b)).tell (.signalTaken s)).Forwards :=
      h.congr rfl rfl rfl (List.suffix_cons _ _) fun _ hchild _ => hchild
    exact hsame.decide _
  | loopPanicked =>
    exact h.congr rfl rfl rfl hout fun _ hchild _ => mem_of_mem_childrenAfterCut hchild
  | skipStopped | sessionEnded | skipEnded =>
    exact h.congr rfl rfl rfl hout fun _ hchild _ => (List.mem_filter.1 hchild).1
  | beginRemoval s loop =>
    have hstop := congrArg (·.stop.isRaised) (f.coordinator_requestRemoval s loop)
    refine h.congr hstop (f.now_requestRemoval s loop) (f.setup_requestRemoval s loop) hout ?_
    rw [f.children_requestRemoval s loop]
    exact fun _ hchild _ => hchild
  | _ => exact h.congr rfl rfl rfl hout fun _ hchild _ => hchild

theorem step (h : f.Forwards) (hsteer : f.conduct.Steered) (hs : f.Step o f') :
    f'.Forwards := by
  cases hs with
  | stay => exact h
  | files | signal | closeSignals => exact h.congr rfl rfl rfl (List.suffix_refl _) fun _ hc _ => hc
  | pass time hrests =>
    intro hup child hchild htask
    have hover : f.coordinator.stop.isOver = true := by
      simp [StopFlag.isOver, show f.coordinator.stop.isRaised = true from hup]
    exact absurd htask (hrests.forwarding hover child hchild)
  | act hact => exact h.act hsteer hact

end Forwards

/-- What a session has to quit for stays. -/
theorem Calm.before {raised : List QuitReason} (h : f'.Calm raised) (hevident : f.Evident)
    (hevident' : f'.Evident) (hs : f.Step o f') : f.Calm raised where
  stop := by
    refine eq_false_of_ne_true fun hup => ?_
    obtain ⟨t, hmem⟩ := hevident.raised.1 hup
    have hup' := hevident'.raised.2 ⟨t, hs.outline_suffix.subset hmem⟩
    rw [h.stop] at hup'
    cases hup'
  device := h.device
  loop t reason m hmem := h.loop t reason m (hs.outline_suffix.subset hmem)

end Scene

/-! ## Runs -/

namespace Supervision

variable {L : EventLoop} (s : Supervision L)

/-- The reason of a session is the first one that was raised in it, and nothing is raised in a
session that has not begun. -/
theorem recorded_after (os : List Occurrence) :
    (∀ x ∈ (s.after os).session, x.quit.reason = (s.raised x.id os).head?) ∧
      ∀ n, (s.after os).sessionCount < n → s.raised n os = [] := by
  refine s.scene_induction (P := fun os f =>
    (∀ x ∈ f.session, x.quit.reason = (s.raised x.id os).head?) ∧
      ∀ n, f.count < n → s.raised n os = []) ?_ ?_ os
  · refine ⟨?_, fun _ _ => rfl⟩
    rw [s.session_start]
    rintro _ ⟨⟩
  · rintro os o f hs ⟨hrecorded, hfuture⟩
    have hacc := s.accompanied_after os
    have hord := s.orderly_after os
    constructor
    · intro x hx
      rw [raised_concat]
      rcases hs.goesOn hacc hord (s.steered_after os) x hx with
        ⟨y, hy, hid, hreason⟩ | ⟨hid, hreason, hnone⟩
      · rw [hreason, hid, hrecorded y hy, List.head?_append]
        cases (s.after os).scene.raises? y.id o <;> rfl
      · rw [hreason, hnone, hfuture x.id (hid ▸ Nat.lt_succ_self _)]
        rfl
    · intro n hn
      have hlt := Nat.lt_of_le_of_lt hs.count_le hn
      rw [raised_concat, hfuture n hlt]
      cases hraise : (s.after os).scene.raises? n o with
      | none => rfl
      | some r =>
        obtain ⟨x, hx, rfl, -⟩ := Scene.exists_session_of_raises? hacc hraise
        have hid : x.id = (s.after os).scene.count := hord.session_id x hx
        rw [← hid] at hlt
        exact absurd hlt (Nat.lt_irrefl _)

/-- No driver is removed in whose session nothing was raised. -/
theorem provoked_after (os : List Occurrence) (n : SessionId)
    (hmem : .callBegan .remove ∈ storyOf n (s.history os)) : s.raised n os ≠ [] := by
  rw [← s.storyOf_outline] at hmem
  refine s.scene_induction (P := fun os f => ∀ n, .callBegan .remove ∈ storyOf n f.outline →
    s.raised n os ≠ []) ?_ ?_ os n hmem
  · intro n hmem
    have hout : s.start.scene.outline = [(0, .managerStarting s.settings.managerOptions)] :=
      congrArg Frame.outline s.frame_start
    rw [hout] at hmem
    simp [storyOf, Happening.concerns] at hmem
  · intro os o f hs ih n hmem
    have hbefore : .callBegan .remove ∈ storyOf n (s.after os).scene.outline ∨
        ∃ x, (s.after os).session = some x ∧ x.id = n ∧ x.quit.reason ≠ none := by
      cases hs with
      | stay | files | signal | closeSignals | pass => exact .inl hmem
      | act hact =>
        rcases hact.removes with hadds | ⟨x, loop, hx, hanswer, rfl⟩
        · exact .inl ((hadds.mem_storyOf rfl n).1 hmem)
        · rw [Scene.outline_requestRemoval, mem_storyOf_cons] at hmem
          rcases hmem with ⟨-, hconcerns⟩ | hmem
          · -- The call belongs to the latest session, and that is the one under way.
            refine .inr ⟨x, hx, ?_, fun hnone => hanswer ?_⟩
            · have hid : x.id = (s.after os).scene.count := (s.orderly_after os).session_id x hx
              have hbegun : begunIn (s.after os).scene.outline = (s.after os).scene.count :=
                (s.narrated_after os).begun
              rw [hid, ← hbegun]
              simpa [begunIn, Happening.concerns, Happening.isBegin] using hconcerns.symm
            · rw [((s.accompanied_after os).beside x hx).answer?_eq, hnone]
              rfl
          · refine .inl ((Adds.mem_storyOf (p := fun h => !h.isRemoval) ?_ rfl n).1 hmem)
            exact (((Adds.refl _).cons rfl).cons rfl).cons rfl
    rw [raised_concat]
    intro hnil
    obtain ⟨hold, -⟩ := List.append_eq_nil_iff.1 hnil
    rcases hbefore with hmem | ⟨x, hx, rfl, hreason⟩
    · exact ih n hmem hold
    · rw [(s.recorded_after os).1 x hx, hold] at hreason
      exact hreason rfl

/-- A forwarder that is still there has not had to wait for anything to forward. -/
theorem forwards_after (os : List Occurrence) : (s.after os).scene.Forwards := by
  refine s.scene_induction (P := fun _ f => f.Forwards) ?_ ?_ os
  · intro _ child hchild
    rw [s.children_start] at hchild
    cases hchild
  · exact fun os _ _ hs h => h.step (s.steered_after os) hs

/-- A session that runs, and that nobody has asked to quit, serves. -/
theorem serves_after (os : List Occurrence) {x : Session} (hx : (s.after os).session = some x)
    (hrunning : x.state = .running)
    (hcalm : (s.after os).scene.Calm (s.raised x.id os)) :
    (s.after os).scene.Serves x.id (s.after os).coordinator.posted := by
  have hord := s.orderly_after os
  have hsteer := s.steered_after os
  have hreason : x.quit.reason = none := by
    cases hreason : x.quit.reason with
    | none => rfl
    | some r =>
      cases r with
      | deviceRemoved =>
        rw [(s.recorded_after os).1 x hx] at hreason
        exact absurd (List.mem_of_head? hreason) hcalm.device
      | shutdown =>
        have hup : (s.after os).scene.coordinator.stop.isRaised = true :=
          (s.evident_after os).reason x hx .shutdown hreason
        rw [hcalm.stop] at hup
        cases hup
  have hstage : ∃ loop, x.stage = .running .listening loop := by
    have hstate : x.state = x.stage.state := hord.session_state x hx
    rw [hrunning] at hstate
    unfold Stage.state at hstate
    split at hstate
    · cases hstate
    · cases hstate
    · cases hstate
    · exact ⟨_, ‹_›⟩
    · cases hstate
    · cases hstate
    · cases hstate
  obtain ⟨loop, hst⟩ := hstage
  refine ⟨⟨x, loop, hx, rfl, hrunning, hst, hreason⟩, ?_, fun _ ht => ht⟩
  have hactive : (s.after os).scene.conduct.duty.isActive = true := hord.isActive hx
  have hrun := hsteer.running hactive
  cases hphase : (s.after os).scene.coordinator.phase with
  | awaitingSignal => rfl
  | stopping grace =>
    have hup := hsteer.raised grace hphase
    rw [show (s.after os).scene.conduct.coordinator.stop.isRaised = false from hcalm.stop] at hup
    cases hup
  | idle | decided | dropped =>
    rw [show (s.after os).scene.conduct.coordinator.isRunning = _ from
      congrArg (fun p => Coordinator.isRunning { (s.after os).coordinator with phase := p })
        hphase] at hrun
    cases hrun

/-- A session that runs goes on running as long as nobody asks it to quit. -/
theorem stays_after (os ps : List Occurrence) {x : Session} (hx : (s.after os).session = some x)
    (hrunning : x.state = .running)
    (hcalm : (s.after (os ++ ps)).scene.Calm (s.raised x.id (os ++ ps))) :
    (s.after (os ++ ps)).scene.Stays x.id (s.after os).coordinator.posted := by
  refine s.scene_induction_from (P := fun qs f => f.Evident → f.Calm (s.raised x.id qs) →
    f.Stays x.id (s.after os).coordinator.posted) ?_ ?_ ps (s.evident_after _) hcalm
  · intro qs o f hs ih hevident hcalm
    have hacc := s.accompanied_after qs
    have hord := s.orderly_after qs
    have hsteer := s.steered_after qs
    have hbefore := hcalm.before (s.evident_after qs) hevident hs
    rw [raised_concat] at hcalm hbefore
    refine Scene.Stays.step (ih (s.evident_after qs) ?_) hacc hord hsteer ?_ hcalm hs
    · exact ⟨hbefore.stop, fun hmem => hbefore.device (List.mem_append_left _ hmem), hbefore.loop⟩
    · intro r hr
      simp [hr]
  · intro _ hcalm
    refine ⟨?_, .inl (s.serves_after os hx hrunning hcalm)⟩
    rw [← hrunning]
    refine Session.stateOf_eq ((s.orderly_after os).session_state x hx) (g := s.settings)
      (n := x.id) ?_
    have hrecalls := s.recalls_after os hx
    rwa [← s.storyOf_outline] at hrecalls

/-- How the sessions of a run are torn down. -/
structure TornDownOnce (os : List Occurrence) : Prop where
  once : ∀ n, ((storyOf n (s.history os)).filter Happening.isRemoval).length ≤ 1
  provoked : ∀ n, .callBegan .remove ∈ storyOf n (s.history os) → s.raised n os ≠ []
  /-- A reason is raised in the session under way, once that runs, as the endpoint is gone or the
  stop flag is up. -/
  raising : ∀ before o after, os = before ++ o :: after → ∀ n r,
    (s.after before).scene.raises? n o = some r →
      (s.after before).scene.Shows r ∧ (∃ x ∈ (s.after before).session, x.id = n) ∧
        ∃ m, .stateChanged m .activating .running ∈ storyOf n (s.history before)
  /-- The reason that a session records is the first one that was raised in it. -/
  recorded : ∀ x ∈ (s.after os).session, x.quit.reason = (s.raised x.id os).head?
  kept : ∀ ps, ∀ x ∈ (s.after os).session, ∀ y ∈ (s.after (os ++ ps)).session, y.id = x.id →
    ∀ r ∈ x.quit.reason, y.quit.reason = some r
  /-- A running session begins to remove its driver with that reason, as soon as there is one. -/
  removal : ∀ x ∈ (s.after os).session, ∀ loop, x.stage = .running .listening loop →
    (s.after os).session? =
      (s.raised x.id os).head?.map ((s.after os).requestRemoval x loop)
  /-- Nobody who listens finds all triggers dropped. -/
  noFallback : ∀ x ∈ (s.after os).session, x.quit.answer? ≠ some none
  /-- The stop flag is forwarded before any time passes. -/
  prompt : (s.after os).coordinator.stop.isRaised = true →
    ∀ child ∈ (s.after os).children, child.task = .forwardStop →
      ((s.after os).now, .stopRaised) ∈ s.history os ∨
        ((s.after os).now, .loopStarted child.session s.settings.deviceId) ∈ s.history os
  /-- Without a reason, and unless the event loop panics, a session runs for ever, or until the
  run ends as had been asked for before. -/
  stays : ∀ ps, ∀ x ∈ (s.after os).session, x.state = .running →
    (s.after (os ++ ps)).coordinator.stop.isRaised = false →
    .deviceRemoved ∉ s.raised x.id (os ++ ps) →
    (∀ t reason m, (t, .logged (.loopPanicked reason) m) ∉ s.history (os ++ ps)) →
      stateOf (storyOf x.id (s.history (os ++ ps))) = .running ∧
        ((∃ y ∈ (s.after (os ++ ps)).session, y.id = x.id ∧ y.state = .running) ∨
          ∃ t ∈ (s.after os).coordinator.posted, (s.after (os ++ ps)).outcome? = some (.ok t))

/-- A session whose event loop has begun has been running. -/
theorem running_mem_storyOf (os : List Occurrence) {x : Session}
    (hx : (s.after os).session = some x) (hrunning : x.stage.isRunning = true) :
    ∃ m, .stateChanged m .activating .running ∈ storyOf x.id (s.history os) := by
  have hstate := Session.stateOf_eq ((s.orderly_after os).session_state x hx)
    (s.recalls_after os hx)
  have hreaches := (s.lawful_after os x.id).1.reaches
  rw [hstate, (s.orderly_after os).session_state x hx] at hreaches
  refine mem_changesOf.1 ?_
  cases hst : x.stage with
  | running executor loop =>
    rw [hst] at hreaches
    cases executor with
    | listening | removing | removed | failed =>
      rw [show changesOf _ = _ from hreaches]
      decide
  | activating | stranded | skipping =>
    rw [hst] at hrunning
    cases hrunning

/-- **One teardown for each session.**  A session that runs removes its driver once at most, and
only as its own watcher has found no device or its own forwarder a raised stop flag; the first of
them gives the reason. -/
theorem torn_down_once (os : List Occurrence) : s.TornDownOnce os where
  once n := (s.lawful_after os n).1.length_removals
  provoked n := s.provoked_after os n
  raising before o after _ n r hraise := by
    obtain ⟨x, hx, rfl, hrunning⟩ :=
      Scene.exists_session_of_raises? (s.accompanied_after before) hraise
    exact ⟨(Scene.raises?_eq_some hraise).1, ⟨x, hx, rfl⟩, s.running_mem_storyOf before hx hrunning⟩
  recorded := (s.recorded_after os).1
  kept ps x hx y hy hid r hr := by
    have hhead : (s.raised x.id os).head? = some r := ((s.recorded_after os).1 x hx).symm.trans hr
    rw [(s.recorded_after (os ++ ps)).1 y hy, hid, raised_append, List.head?_append, hhead]
    rfl
  removal x hx loop hst := by
    have hs : (s.after os).session = some x := hx
    have hanswer := ((s.accompanied_after os).beside x hx).answer?_eq
    rw [(s.recorded_after os).1 x hx] at hanswer
    unfold World.session?
    simp only [hs, hst, hanswer]
    cases (s.raised x.id os).head? <;> rfl
  noFallback x hx := by
    rw [((s.accompanied_after os).beside x hx).answer?_eq]
    cases x.quit.reason <;> simp
  prompt hup child hchild htask := by
    have hdevice : (s.after os).scene.setup.device = s.settings.deviceId :=
      congrArg Setup.device (s.setup_after os)
    have hprompt := s.forwards_after os hup child hchild htask
    rw [hdevice] at hprompt
    exact hprompt.imp (mem_outlineOf rfl).1 (mem_outlineOf rfl).1
  stays ps x hx hrunning hdown hdevice hloop := by
    have hcalm : (s.after (os ++ ps)).scene.Calm (s.raised x.id (os ++ ps)) :=
      ⟨hdown, hdevice, fun t reason m hmem => hloop t reason m ((mem_outlineOf rfl).1 hmem)⟩
    have hstays := s.stays_after os ps hx hrunning hcalm
    refine ⟨(s.storyOf_outline x.id _).symm ▸ hstays.state, ?_⟩
    rcases hstays.goes with hserves | ⟨t, ht, hphase, hcycle⟩
    · obtain ⟨y, loop, hy, hid, hstate, -⟩ := hserves.session
      exact .inl ⟨y, hy, hid, hstate⟩
    · refine .inr ⟨t, ht, ?_⟩
      have hcycle' : (s.after (os ++ ps)).cycle = .cancelled := hcycle
      have hphase' : (s.after (os ++ ps)).coordinator.phase = .decided t := hphase
      simp [World.outcome?, hcycle', Coordinator.decision?, hphase']

end Supervision

end Hotplug
