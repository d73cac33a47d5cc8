import Hotplug.Proofs.Reach

/-!
# The course of a run

The state changes of the sessions, the library calls and the event loops of a run, in the
order in which they come.  A run is a sequence of sessions that are over, followed by what is
under way.

* `Past` — the sessions that are over: each has removed its driver, or was skipped.
* `Present` — what has come after them, for each thing that the supervisor can be at.
* `Conduct.Told` — the course of a run is its past and its present.
* `Conduct.Reached.told` — so it is in every run.
-/

namespace Hotplug

/-! ## Choosing from what has happened -/

/-- The happenings that `p` chooses, oldest first. -/
def pick (p : Happening → Bool) (hs : List (Nat × Happening)) : List Happening :=
  ((hs.map (·.2)).filter p).reverse

section Pick

variable {p : Happening → Bool}

theorem pick_cons (p : Happening → Bool) (e : Nat × Happening) (hs : List (Nat × Happening)) :
    pick p (e :: hs) = if p e.2 then pick p hs ++ [e.2] else pick p hs := by
  unfold pick
  by_cases he : p e.2 = true
  · simp [he]
  · simp [he]

/-- The outline is enough to choose from, if `p` chooses nothing else. -/
theorem pick_outlineOf (hp : ∀ h, p h = true → h.isOutline = true)
    (hs : List (Nat × Happening)) : pick p (outlineOf hs) = pick p hs := by
  induction hs with
  | nil => rfl
  | cons e hs ih =>
    by_cases he : e.2.isOutline = true
    · rw [outlineOf_cons_of_pos he, pick_cons, pick_cons, ih]
    · have hnot : ¬ p e.2 = true := fun h => he (hp _ h)
      rw [outlineOf_cons_of_neg he, pick_cons, if_neg hnot, ih]

/-- Choosing twice is choosing what both choose. -/
theorem filter_pick (p q : Happening → Bool) (hs : List (Nat × Happening)) :
    (pick p hs).filter q = pick (fun h => q h && p h) hs := by
  simp [pick, List.filter_filter]

theorem mem_pick {h : Happening} {hs : List (Nat × Happening)} :
    h ∈ pick p hs ↔ p h = true ∧ ∃ t, (t, h) ∈ hs := by
  simp [pick, and_comm]

end Pick

namespace Happening

/-- Whether a happening is a state change of a session, or concerns the library. -/
def isCourse : Happening → Bool
  | managerStarting _ | stateChanged .. | callBegan _ | callEnded .. => true
  | _ => false

/-- Whether a happening is that an event loop starts, returns or panics. -/
def isLoop : Happening → Bool
  | loopStarted .. | loopEnded _ => true
  | logged m _ => m.isLoopPanic
  | _ => false

theorem isOutline_of_isCourse (h : Happening) (hh : h.isCourse = true) : h.isOutline = true := by
  cases h <;> first | rfl | cases hh

theorem isOutline_of_isLoop (h : Happening) (hh : h.isLoop = true) : h.isOutline = true := by
  cases h <;> first | rfl | exact hh

end Happening

/-- The course of what has happened. -/
def courseOf (hs : List (Nat × Happening)) : List Happening :=
  pick Happening.isCourse hs

/-- What the event loops did. -/
def loopsOf (hs : List (Nat × Happening)) : List Happening :=
  pick Happening.isLoop hs

@[simp] theorem courseOf_cons (e : Nat × Happening) (hs : List (Nat × Happening)) :
    courseOf (e :: hs) = if e.2.isCourse then courseOf hs ++ [e.2] else courseOf hs :=
  pick_cons _ e hs

@[simp] theorem loopsOf_cons (e : Nat × Happening) (hs : List (Nat × Happening)) :
    loopsOf (e :: hs) = if e.2.isLoop then loopsOf hs ++ [e.2] else loopsOf hs :=
  pick_cons _ e hs

@[simp] theorem courseOf_outlineOf (hs : List (Nat × Happening)) :
    courseOf (outlineOf hs) = courseOf hs :=
  pick_outlineOf Happening.isOutline_of_isCourse hs

@[simp] theorem loopsOf_outlineOf (hs : List (Nat × Happening)) :
    loopsOf (outlineOf hs) = loopsOf hs :=
  pick_outlineOf Happening.isOutline_of_isLoop hs

/-! ## The course of one session -/

/-- Session `n` begins to add the driver. -/
def opening (n : SessionId) : List Happening :=
  [.stateChanged n .inactive .activating, .callBegan .add]

/-- The call to add the driver has returned `ok`, and the event loop runs. -/
def attaching (n : SessionId) (ok : Bool) : List Happening :=
  opening n ++ [.callEnded .add (.returned ok), .stateChanged n .activating .running]

/-- Session `n` begins to remove the driver. -/
def detaching (n : SessionId) (ok : Bool) : List Happening :=
  attaching n ok ++
    [.stateChanged n .running .removalRequested, .stateChanged n .removalRequested .removing,
      .callBegan .remove]

/-- Session `n` has removed the driver and is over. -/
def served (n : SessionId) (ok : Bool) : List Happening :=
  detaching n ok ++ [.callEnded .remove (.returned true), .stateChanged n .removing .removed]

/-- Session `n` was skipped and is over. -/
def skipped (n : SessionId) : List Happening :=
  opening n ++ [.callEnded .add (.returned false), .stateChanged n .activating .removed]

/-- What the event loop of session `n` did, up to its return if `isOver`. -/
def looped (g : Settings) (n : SessionId) (isOver : Bool) : List Happening :=
  .loopStarted n g.deviceId :: if isOver then [.loopEnded n] else []

/-- Whether a session goes on to its event loop when the call to add the driver returns `ok`. -/
def Settings.goesOn (g : Settings) (ok : Bool) : Prop :=
  ok = true ∨ g.driver.onActivationFailure = .proceed

/-! ## Past and present -/

/-- The course of the first `n` sessions, all of them over, and of their event loops. -/
inductive Past (g : Settings) : SessionId → List Happening → List Happening → Prop where
  | none : Past g 0 [] []
  | served {n : SessionId} {course loops : List Happening} (h : Past g n course loops) (ok : Bool)
      (hok : g.goesOn ok) :
      Past g (n + 1) (course ++ served (n + 1) ok) (loops ++ looped g (n + 1) true)
  | skipped {n : SessionId} {course loops : List Happening} (h : Past g n course loops)
      (hskip : g.driver.onActivationFailure = .skipCycle) :
      Past g (n + 1) (course ++ skipped (n + 1)) loops

/-- The course of what is under way, and of the event loop that belongs to it. -/
inductive Present (g : Settings) : Duty → List Happening → List Happening → Prop where
  | refused (r : Refusal) : Present g (.refused r) [] []
  | idle : Present g .idle [] []
  | adding (n : SessionId) (t : TimerId) : Present g (.adding n t) (opening n) []
  | stranded (n : SessionId) (t : TimerId) (reason : String) :
      Present g (.stranded n t) (opening n ++ [.callEnded .add (.panicked reason)]) []
  | skipping (n : SessionId) (hskip : g.driver.onActivationFailure = .skipCycle) :
      Present g (.skipping n) (opening n ++ [.callEnded .add (.returned false)]) []
  | serving (n : SessionId) (ok isOver : Bool) (hok : g.goesOn ok) :
      Present g (.serving n isOver) (attaching n ok) (looped g n isOver)
  | removing (n : SessionId) (t : TimerId) (ok isOver : Bool) (hok : g.goesOn ok) :
      Present g (.removing n t isOver) (detaching n ok) (looped g n isOver)
  | removed (n : SessionId) (t : TimerId) (ok isOver : Bool) (hok : g.goesOn ok) :
      Present g (.removed n t isOver)
        (detaching n ok ++ [.callEnded .remove (.returned true)]) (looped g n isOver)
  | failed (n : SessionId) (t : TimerId) (ok isOver : Bool) (hok : g.goesOn ok) (r : CallResult)
      (hr : r ≠ .returned true) :
      Present g (.failed n t isOver)
        (detaching n ok ++ [.callEnded .remove r, .stateChanged n .removing .aborted])
        (looped g n isOver)
  | stopping : Present g .stopping [.callBegan .stop] []
  | finished (r : CallResult) :
      Present g .finished [.callBegan .stop, .callEnded .stop r] []
  /-- The supervisor's own loop was cut off. -/
  | cut {d : Duty} {course loops : List Happening} (h : Present g d course loops)
      (hd : d.isActive = true) : Present g (.cut d.call?) course loops
  /-- The event loop panicked. -/
  | panicked {d : Duty} {course loops : List Happening} (h : Present g d course loops)
      (hd : d.isActive = true) (reason : String) :
      Present g (.cut d.call?) course (loops ++ [.logged (.loopPanicked reason) none])
  /-- The call that was busy at the cut has ended. -/
  | late {k : CallKind} {course loops : List Happening}
      (h : Present g (.cut (some k)) course loops) (r : CallResult) :
      Present g (.cut none) (course ++ [.callEnded k r]) loops

namespace Past

variable {g : Settings} {n : SessionId} {course loops : List Happening}

/-- Every session that was begun is removed. -/
theorem removed (h : Past g n course loops) {m : SessionId} {s : SessionState}
    (hm : .stateChanged m s .activating ∈ course) : ∃ s', .stateChanged m s' .removed ∈ course := by
  induction h with
  | none => cases hm
  | served h ok hok ih =>
    rcases List.mem_append.1 hm with hm | hm
    · obtain ⟨s', hs'⟩ := ih hm
      exact ⟨s', List.mem_append_left _ hs'⟩
    · simp [Hotplug.served, detaching, attaching, opening] at hm
      exact ⟨.removing, by simp [Hotplug.served, hm.1]⟩
  | skipped h hskip ih =>
    rcases List.mem_append.1 hm with hm | hm
    · obtain ⟨s', hs'⟩ := ih hm
      exact ⟨s', List.mem_append_left _ hs'⟩
    · simp [Hotplug.skipped, opening] at hm
      exact ⟨.activating, by simp [Hotplug.skipped, hm.1]⟩

theorem not_aborted (h : Past g n course loops) (m : SessionId) (s : SessionState) :
    .stateChanged m s .aborted ∉ course := by
  induction h with
  | none => exact List.not_mem_nil
  | served h ok hok ih => simp [ih, Hotplug.served, detaching, attaching, opening]
  | skipped h hskip ih => simp [ih, Hotplug.skipped, opening]

/-- Every event loop that was begun has returned. -/
theorem loopEnded (h : Past g n course loops) {m : SessionId} {d : DeviceId}
    (hm : .loopStarted m d ∈ loops) : .loopEnded m ∈ loops := by
  induction h with
  | none => cases hm
  | served h ok hok ih =>
    rcases List.mem_append.1 hm with hm | hm
    · exact List.mem_append_left _ (ih hm)
    · simp [looped] at hm
      simp [looped, hm.1]
  | skipped h hskip ih => exact ih hm

theorem not_panicked (h : Past g n course loops) (m : Message) (s : Option SessionId) :
    .logged m s ∉ loops := by
  induction h with
  | none => exact List.not_mem_nil
  | served h ok hok ih => simp [ih, looped]
  | skipped h hskip ih => exact ih

end Past

/-- The event loop returns while its session goes on. -/
theorem Present.endLoop {g : Settings} {d : Duty} {course loops : List Happening}
    (h : Present g d course loops) {n : SessionId} (hd : d.looping? = some n) :
    Present g d.afterLoop course (loops ++ [.loopEnded n]) := by
  cases h with
  | serving m ok isOver hok =>
    cases isOver with
    | true => cases hd
    | false =>
      obtain rfl := Option.some.inj hd
      exact .serving _ ok true hok
  | removing m t ok isOver hok =>
    cases isOver with
    | true => cases hd
    | false =>
      obtain rfl := Option.some.inj hd
      exact .removing _ t ok true hok
  | removed m t ok isOver hok =>
    cases isOver with
    | true => cases hd
    | false =>
      obtain rfl := Option.some.inj hd
      exact .removed _ t ok true hok
  | failed m t ok isOver hok r hr =>
    cases isOver with
    | true => cases hd
    | false =>
      obtain rfl := Option.some.inj hd
      exact .failed _ t ok true hok r hr
  | _ => cases hd

namespace Conduct

variable {g : Settings} {c c' : Conduct}

/-- The course of a run is its past, with `n` sessions, and its present. -/
structure Told (g : Settings) (c : Conduct) (n : SessionId) : Prop where
  split : ∃ past pastLoops present loops, Past g n past pastLoops ∧
    Present g c.duty present loops ∧
    courseOf c.outline = .managerStarting g.managerOptions :: (past ++ present) ∧
    loopsOf c.outline = pastLoops ++ loops
  idle : c.duty.isIdle = true → c.count = n
  session : ∀ m, c.duty.session? = some m → m = n + 1 ∧ c.count = n + 1

@[simp] theorem courseOf_post (t : Termination) :
    courseOf (c.post t).outline = courseOf c.outline := by
  change courseOf (if _ then _ else _) = _
  split <;> simp [Happening.isCourse]

@[simp] theorem loopsOf_post (t : Termination) :
    loopsOf (c.post t).outline = loopsOf c.outline := by
  change loopsOf (if _ then _ else _) = _
  split <;> simp [Happening.isLoop]

@[simp] theorem courseOf_raiseStop : courseOf c.raiseStop.outline = courseOf c.outline := by
  change courseOf (if _ then _ else _) = _
  split <;> simp [Happening.isCourse]

@[simp] theorem loopsOf_raiseStop : loopsOf c.raiseStop.outline = loopsOf c.outline := by
  change loopsOf (if _ then _ else _) = _
  split <;> simp [Happening.isLoop]

/-! ## One step -/

namespace Told

variable {n : SessionId}

/-- The supervisor stays at its duty, and nothing is added to the course. -/
theorem keep (h : Told g c n) (hduty : c'.duty = c.duty) (hcount : c'.count = c.count)
    (hcourse : courseOf c'.outline = courseOf c.outline)
    (hloops : loopsOf c'.outline = loopsOf c.outline) : Told g c' n where
  split := by
    rw [hduty, hcourse, hloops]
    exact h.split
  idle := by
    rw [hduty, hcount]
    exact h.idle
  session := by
    rw [hduty, hcount]
    exact h.session

/-- What is neither of the course nor about an event loop is told by the way. -/
theorem tell (h : Told g c n) (x : Happening) (hcourse : x.isCourse = false)
    (hloop : x.isLoop = false) : Told g (c.tell x) n := by
  refine h.keep rfl rfl ?_ ?_
  · simp [hcourse]
  · simp [hloop]

/-- The present goes on, within the session under way if there is one. -/
theorem go (h : Told g c n) (hcount : c'.count = c.count)
    (hsession : c'.duty.session? = c.duty.session? ∨ c'.duty.session? = none)
    (hidle : c'.duty.isIdle = false) (new newLoops : List Happening)
    (hpresent : ∀ course loops, Present g c.duty course loops →
      Present g c'.duty (course ++ new) (loops ++ newLoops))
    (hcourse : courseOf c'.outline = courseOf c.outline ++ new)
    (hloops : loopsOf c'.outline = loopsOf c.outline ++ newLoops) : Told g c' n where
  split := by
    obtain ⟨past, pastLoops, present, loops, hpast, hnow, hold, holdLoops⟩ := h.split
    refine ⟨past, pastLoops, present ++ new, loops ++ newLoops, hpast, hpresent _ _ hnow, ?_, ?_⟩
    · rw [hcourse, hold]
      simp
    · rw [hloops, holdLoops]
      simp
  idle hd := by
    rw [hidle] at hd
    cases hd
  session m hm := by
    rcases hsession with hsame | hnone
    · rw [hsame] at hm
      rw [hcount]
      exact h.session m hm
    · rw [hnone] at hm
      cases hm

/-- The supervisor's own loop is cut off. -/
theorem cutOff (h : Told g c n) : Told g c.cutOff n := by
  by_cases hactive : c.duty.isActive = true
  · have hcut : c.cutOff.duty = .cut c.duty.call? := Duty.afterCut_of_isActive hactive
    refine h.go rfl (.inr (by rw [hcut]; rfl)) (by rw [hcut]; rfl) [] [] ?_ ?_ ?_
    · intro course loops hp
      rw [hcut, List.append_nil, List.append_nil]
      exact hp.cut hactive
    · exact (List.append_nil _).symm
    · exact (List.append_nil _).symm
  · rw [cutOff_of_not_isActive hactive]
    exact h

theorem beginSession (h : Told g c n) (hduty : c.duty = .idle) : Told g (c.beginSession g) n where
  split := by
    obtain ⟨past, pastLoops, present, loops, hpast, hnow, hold, holdLoops⟩ := h.split
    rw [hduty] at hnow
    cases hnow
    refine ⟨past, pastLoops, _, _, hpast, .adding _ _, ?_, ?_⟩
    · simp [Happening.isCourse, hold, opening]
    · simp [Happening.isLoop, holdLoops]
  idle hd := by cases hd
  session m hm := by
    obtain rfl : c.count + 1 = m := Option.some.inj hm
    have hcount : c.count = n := h.idle (by rw [hduty]; rfl)
    exact ⟨congrArg (· + 1) hcount, congrArg (· + 1) hcount⟩

/-- A session that skips a refused driver ends. -/
theorem endSkipped (h : Told g c n) {m : SessionId} (hduty : c.duty = .skipping m) :
    Told g (c.endSession m .activating) (n + 1) where
  split := by
    obtain ⟨past, pastLoops, present, loops, hpast, hnow, hold, holdLoops⟩ := h.split
    obtain ⟨rfl, -⟩ := h.session m (by rw [hduty]; rfl)
    rw [hduty] at hnow
    cases hnow with
    | skipping _ hskip =>
      refine ⟨_, _, _, _, hpast.skipped hskip, .idle, ?_, ?_⟩
      · simp [Happening.isCourse, hold, skipped]
      · simp [Happening.isLoop, holdLoops]
  idle _ := (h.session m (by rw [hduty]; rfl)).2
  session m hm := by cases hm

/-- A session whose driver is removed ends, after its event loop has returned. -/
theorem endServed (h : Told g c n) {m : SessionId} {timer : TimerId}
    (hduty : c.duty = .removed m timer true) :
    Told g ((c.disarm timer).endSession m .removing) (n + 1) where
  split := by
    obtain ⟨past, pastLoops, present, loops, hpast, hnow, hold, holdLoops⟩ := h.split
    obtain ⟨rfl, -⟩ := h.session m (by rw [hduty]; rfl)
    rw [hduty] at hnow
    cases hnow with
    | removed _ _ ok _ hok =>
      refine ⟨_, _, _, _, hpast.served ok hok, .idle, ?_, ?_⟩
      · simp [Happening.isCourse, hold, served]
      · simp [Happening.isLoop, holdLoops]
  idle _ := (h.session m (by rw [hduty]; rfl)).2
  session m hm := by cases hm

/-- The event loop returns. -/
theorem endLoop (h : Told g c n) {m : SessionId} (hloop : c.duty.looping? = some m) :
    Told g ((c.turn c.duty.afterLoop).tell (.loopEnded m)) n := by
  have hsession : c.duty.afterLoop.session? = c.duty.session? := by
    rw [Duty.session?_afterLoop hloop, Duty.session?_of_looping? hloop]
  have hidle : c.duty.afterLoop.isIdle = false :=
    Duty.isIdle_of_session? (Duty.session?_afterLoop hloop)
  refine h.go rfl (.inl hsession) hidle [] [.loopEnded m] ?_ ?_ ?_
  · intro course loops hp
    rw [List.append_nil]
    exact hp.endLoop hloop
  · simp [Happening.isCourse]
  · simp [Happening.isLoop]

/-- The event loop panics. -/
theorem panicLoop (h : Told g c n) {m : SessionId} (hloop : c.duty.looping? = some m)
    (reason : String) :
    Told g ((c.cutOff.tell (.logged (.loopPanicked reason) none)).post .supervisorPanicked) n := by
  have hactive : c.duty.isActive = true := Duty.isActive_of_looping? hloop
  have hcut : c.duty.afterCut = .cut c.duty.call? := Duty.afterCut_of_isActive hactive
  refine h.go rfl (.inr ?_) ?_ [] [.logged (.loopPanicked reason) none] ?_ ?_ ?_
  · exact congrArg Duty.session? hcut
  · exact congrArg Duty.isIdle hcut
  · intro course loops hp
    rw [List.append_nil]
    change Present g c.duty.afterCut course _
    rw [hcut]
    exact hp.panicked hactive reason
  · simp [Happening.isCourse]
  · simp [Happening.isLoop, Message.isLoopPanic]

theorem decide (h : Told g c n) (t : Termination) : Told g (c.decide t) n := by
  have hk : Told g { c with coordinator := c.coordinator.conclude t } n := h.keep rfl rfl rfl rfl
  exact (hk.tell (.terminated t) rfl rfl).cutOff

theorem step (h : Told g c n) (hs : Step g c c') : ∃ n', Told g c' n' := by
  cases hs with
  | quiet => exact ⟨n, h⟩
  | look seen => exact ⟨n, h.tell _ rfl rfl⟩
  | signals | ignoreSignals => exact ⟨n, h.keep rfl rfl rfl rfl⟩
  | pass time => exact ⟨n, h.keep rfl rfl rfl rfl⟩
  | fire a =>
    refine ⟨n, h.keep rfl rfl ?_ ?_⟩
    · simp [Conduct.fire, Happening.isCourse]
    · simp [Conduct.fire, Happening.isLoop]
  | decide t => exact ⟨n, h.decide t⟩
  | firstSignal s b =>
    refine ⟨n, h.keep rfl rfl ?_ ?_⟩
    · simp [Happening.isCourse]
    · simp [Happening.isLoop]
  | secondSignal s b =>
    have hsignals : Told g (c.setSignals b) n := h.keep rfl rfl rfl rfl
    exact ⟨n, (hsignals.tell (.signalTaken s) rfl rfl).decide _⟩
  | beginStop hduty =>
    refine ⟨n, h.go rfl (.inr rfl) rfl [.callBegan .stop] [] ?_ ?_ ?_⟩
    · intro course loops hp
      rw [hduty] at hp
      cases hp
      exact .stopping
    · simp [Happening.isCourse]
    · simp [Happening.isLoop]
  | beginSession hduty => exact ⟨n, (h.tell (.checked true) rfl rfl).beginSession hduty⟩
  | added m timer ok hduty hok =>
    refine ⟨n, h.go rfl (.inl (by rw [hduty]; rfl)) rfl
      [.callEnded .add (.returned ok), .stateChanged m .activating .running]
      [.loopStarted m g.deviceId] ?_ ?_ ?_⟩
    · intro course loops hp
      rw [hduty] at hp
      cases hp
      exact .serving m ok false hok
    · simp [Happening.isCourse]
    · simp [Happening.isLoop]
  | skipped m timer hduty hskip =>
    refine ⟨n, h.go rfl (.inl (by rw [hduty]; rfl)) rfl [.callEnded .add (.returned false)] []
      ?_ ?_ ?_⟩
    · intro course loops hp
      rw [hduty] at hp
      cases hp
      exact .skipping m hskip
    · simp [Happening.isCourse]
    · simp [Happening.isLoop]
  | addPanicked m timer reason hduty =>
    refine ⟨n, h.go rfl (.inl (by rw [hduty]; rfl)) rfl [.callEnded .add (.panicked reason)] []
      ?_ ?_ ?_⟩
    · intro course loops hp
      rw [hduty] at hp
      cases hp
      exact .stranded m timer reason
    · simp [Happening.isCourse]
    · simp [Happening.isLoop]
  | skipStopped m hduty => exact ⟨n + 1, h.endSkipped hduty⟩
  | skipEnded m hduty =>
    exact ⟨n + 1, (h.tell (.checked false) rfl rfl).endSkipped hduty⟩
  | beginRemoval m isOver hduty =>
    refine ⟨n, h.go rfl (.inl (by rw [hduty]; rfl)) rfl
      [.stateChanged m .running .removalRequested, .stateChanged m .removalRequested .removing,
        .callBegan .remove] [] ?_ ?_ ?_⟩
    · intro course loops hp
      rw [hduty] at hp
      rw [List.append_nil]
      cases hp with
      | serving _ ok _ hok => exact .removing m _ ok isOver hok
    · simp [Happening.isCourse]
    · simp [Happening.isLoop]
  | driverRemoved m timer isOver hduty =>
    refine ⟨n, h.go rfl (.inl (by rw [hduty]; rfl)) rfl [.callEnded .remove (.returned true)] []
      ?_ ?_ ?_⟩
    · intro course loops hp
      rw [hduty] at hp
      rw [List.append_nil]
      cases hp with
      | removing _ _ ok _ hok => exact .removed m timer ok isOver hok
    · simp [Happening.isCourse]
    · simp [Happening.isLoop]
  | removalFailed m timer isOver r hduty hr =>
    refine ⟨n, h.go rfl (.inl (by rw [hduty]; rfl)) rfl
      [.callEnded .remove r, .stateChanged m .removing .aborted] [] ?_ ?_ ?_⟩
    · intro course loops hp
      rw [hduty] at hp
      rw [List.append_nil]
      cases hp with
      | removing _ _ ok _ hok => exact .failed m timer ok isOver hok r hr
    · simp [Happening.isCourse]
    · simp [Happening.isLoop]
  | sessionEnded m timer hduty => exact ⟨n + 1, h.endServed hduty⟩
  | loopEnded m hloop => exact ⟨n, h.endLoop hloop⟩
  | loopPanicked m reason hloop => exact ⟨n, h.panicLoop hloop reason⟩
  | stopped r hduty =>
    refine ⟨n, h.go rfl (.inr rfl) rfl [.callEnded .stop r] [] ?_ ?_ ?_⟩
    · intro course loops hp
      rw [hduty] at hp
      cases hp
      exact .finished r
    · simp [Happening.isCourse]
    · simp [Happening.isLoop]
  | lateEnd k r hduty =>
    refine ⟨n, h.go rfl (.inr rfl) rfl [.callEnded k r] [] ?_ ?_ ?_⟩
    · intro course loops hp
      rw [hduty] at hp
      rw [List.append_nil]
      exact hp.late r
    · simp [Happening.isCourse]
    · simp [Happening.isLoop]

end Told

/-- In every run the course is a past and a present. -/
theorem Reached.told (h : Reached g c) : ∃ n, Told g c n := by
  induction h with
  | begun b =>
    refine ⟨0, ⟨[], [], [], [], .none, .idle, rfl, rfl⟩, ?_, ?_⟩
    · exact fun _ => rfl
    · rintro _ ⟨⟩
  | refused b r =>
    refine ⟨0, ⟨[], [], [], [], .none, .refused r, rfl, rfl⟩, ?_, ?_⟩
    · rintro ⟨⟩
    · rintro _ ⟨⟩
  | step hr hs ih =>
    obtain ⟨n, h⟩ := ih
    exact h.step hs

end Conduct

end Hotplug
