import Hotplug.Proofs.Scene.Company
import Hotplug.Proofs.Steering

/-!
# Sessions follow appearances

A session begins when a look has shown the device, and the next one only after a look has shown
that it was gone.  No session begins once the stop flag is up.

* `Before` — what held whenever something came.
* `Scene.Warrants` — what a reason to quit goes back to.
* `Scene.Evident` — the reasons of sessions, and the waits between sessions, have such evidence.
* `Supervision.one_session_per_appearance` — so it is in every run.
-/

namespace Hotplug

open Scene (Act Step)

/-! ## What held when something came -/

/-- Whenever `x` came, `Q` held of the time and of all that had come before. -/
def Before (x : Happening) (Q : Nat → List (Nat × Happening) → Prop)
    (hs : List (Nat × Happening)) : Prop :=
  ∀ newer older t, hs = newer ++ (t, x) :: older → Q t older

namespace Before

variable {x : Happening} {Q : Nat → List (Nat × Happening) → Prop}
  {hs hs' : List (Nat × Happening)}

theorem nil : Before x Q [] := by
  intro newer older t heq
  simp at heq

theorem cons_iff {t : Nat} {y : Happening} :
    Before x Q ((t, y) :: hs) ↔ (y = x → Q t hs) ∧ Before x Q hs := by
  constructor
  · intro h
    constructor
    · rintro rfl
      exact h [] hs t rfl
    · intro newer older t' heq
      exact h ((t, y) :: newer) older t' (by rw [heq]; rfl)
  · rintro ⟨hnew, hold⟩ newer older t' heq
    cases newer with
    | nil =>
      obtain ⟨he, rfl⟩ := List.cons_eq_cons.1 heq
      obtain ⟨rfl, rfl⟩ := Prod.mk.inj he
      exact hnew rfl
    | cons e newer =>
      obtain ⟨-, rfl⟩ := List.cons_eq_cons.1 heq
      exact hold newer older t' rfl

/-- It stays so as long as `x` does not come. -/
theorem adds (h : Before x Q hs) {p : Happening → Bool} (hp : p x = false)
    (hadds : Adds p hs hs') : Before x Q hs' := by
  obtain ⟨new, rfl, hnew⟩ := hadds
  induction new with
  | nil => exact h
  | cons e new ih =>
    have hne : e.2 ≠ x := by
      rintro rfl
      have := hnew e (by simp)
      rw [hp] at this
      cases this
    rw [List.cons_append, cons_iff]
    exact ⟨fun heq => absurd heq hne, ih fun d hd => hnew d (by simp [hd])⟩

end Before

/-- What has happened since an end came after it. -/
theorem Since.mem_of_append {ends : Happening → Prop} {h : Happening} {t : Nat}
    {between older : List (Nat × Happening)} {e : Nat × Happening}
    (hsince : Since ends h t (between ++ e :: older)) (he : ends e.2) (hne : e.2 ≠ h) :
    (t, h) ∈ between := by
  induction between with
  | nil => exact absurd hsince (not_since_of_ends he hne)
  | cons d between ih =>
    rw [List.cons_append, since_cons] at hsince
    rcases hsince with rfl | ⟨-, hsince⟩
    · exact List.mem_cons_self
    · exact List.mem_cons_of_mem _ (ih hsince)

/-! ## Evidence -/

/-- Whether a happening is a look for the device. -/
def Happening.IsLook (h : Happening) : Prop :=
  ∃ b, h = .checked b

/-- Whether a happening is not that a session begins to add the driver. -/
def Happening.isLater : Happening → Bool
  | callBegan .add => false
  | _ => true

/-- Whether a happening is neither that a session begins to add the driver nor that the stop
flag goes up. -/
def Happening.isPlain : Happening → Bool
  | stopRaised => false
  | h => h.isLater

theorem Happening.isLater_of_isPlain (h : Happening) (hh : h.isPlain = true) :
    h.isLater = true := by
  cases h <;> first | exact hh | rfl

theorem Happening.not_isLook_stateChanged (n : SessionId) (a b : SessionState) :
    ¬ (stateChanged n a b).IsLook := by
  rintro ⟨_, h⟩
  cases h

theorem Happening.not_isLook_timerArmed (id : TimerId) (t : Termination) :
    ¬ (timerArmed id t).IsLook := by
  rintro ⟨_, h⟩
  cases h

/-- Since the last session began, a look has shown that the device was gone. -/
def Gone (hs : List (Nat × Happening)) : Prop :=
  ∃ t, Since (· = .callBegan .add) (.checked false) t hs

theorem Gone.adds {hs hs' : List (Nat × Happening)} (h : Gone hs)
    (hadds : Adds Happening.isLater hs hs') : Gone hs' := by
  obtain ⟨t, hsince⟩ := h
  refine ⟨t, hadds.since_of ?_ hsince⟩
  rintro _ hlater rfl
  cases hlater

/-- What holds as a session begins to add the driver, of the time and of all that has come
before. -/
structure Timely (t : Nat) (hs : List (Nat × Happening)) : Prop where
  present : Since Happening.IsLook (.checked true) t hs
  gone : (∃ t', (t', .callBegan .add) ∈ hs) → Gone hs
  calm : ∀ t', (t', .stopRaised) ∉ hs

namespace Scene

/-- What a reason to quit goes back to: a look that did not show the device, or the stop
flag. -/
def Warrants (f : Scene) : QuitReason → Prop
  | .deviceRemoved => Gone f.outline
  | .shutdown => f.coordinator.stop.isRaised = true

/-- Whether the supervisor is between two sessions. -/
def IsIdle (f : Scene) : Prop :=
  f.cycle = .deciding ∨ ∃ wait, f.cycle = .waiting wait

/-- Whoever quits has a reason for it, and no session begins without the device having gone
since the last one. -/
structure Evident (f : Scene) : Prop where
  raised : f.coordinator.stop.isRaised = true ↔ ∃ t, (t, .stopRaised) ∈ f.outline
  reason : ∀ s ∈ f.session, ∀ r ∈ s.quit.reason, f.Warrants r
  idle : f.IsIdle → (∃ t, (t, .callBegan .add) ∈ f.outline) → ∃ r, f.Warrants r
  begun : Before (.callBegan .add) Timely f.outline

variable {f f' : Scene}

theorem session_cancelCycle {s : Session} (hs : s ∈ f.cancelCycle.session) : s ∈ f.session := by
  unfold cancelCycle at hs
  split at hs
  · cases hs
  · exact hs

theorem isIdle_of_cancelCycle (h : f.cancelCycle.IsIdle) : f.IsIdle := by
  unfold cancelCycle at h
  split at h
  · rcases h with hc | ⟨wait, hc⟩
    · cases hc
    · cases hc
  · exact h

theorem not_isIdle_of_session (hord : f.toFrame.Orderly) {s : Session}
    (hs : f.session = some s) : ¬ f.IsIdle := by
  have hc : f.cycle = .inSession := hord.cycle_eq hs
  rintro (hidle | ⟨wait, hidle⟩)
  · rw [hc] at hidle
    cases hidle
  · rw [hc] at hidle
    cases hidle

/-- A warrant lasts until the next session begins. -/
theorem Warrants.last {r : QuitReason} (h : f.Warrants r)
    (hadds : Adds Happening.isLater f.outline f'.outline)
    (hstop : f.coordinator.stop.isRaised = true → f'.coordinator.stop.isRaised = true) :
    f'.Warrants r := by
  cases r with
  | deviceRemoved => exact Gone.adds h hadds
  | shutdown => exact hstop h

theorem Warrants.keep {r : QuitReason} (h : f.Warrants r)
    (hadds : Adds Happening.isPlain f.outline f'.outline)
    (hstop : f'.coordinator.stop.isRaised = f.coordinator.stop.isRaised) : f'.Warrants r :=
  h.last (hadds.mono Happening.isLater_of_isPlain) (fun hraised => hstop.trans hraised)

namespace Evident

/-- The evidence stays, as long as no session begins and the stop flag does not go up. -/
theorem keep (h : f.Evident) (hadds : Adds Happening.isPlain f.outline f'.outline)
    (hstop : f'.coordinator.stop.isRaised = f.coordinator.stop.isRaised)
    (hreason : ∀ s ∈ f'.session, ∀ r ∈ s.quit.reason, f'.Warrants r)
    (hidle : f'.IsIdle → f.IsIdle ∨ ∃ r, f'.Warrants r) : f'.Evident where
  raised := by
    rw [hstop, h.raised]
    exact exists_congr fun t => (hadds.mem rfl).symm
  reason := hreason
  idle hi := by
    rintro ⟨t, hmem⟩
    rcases hidle hi with hi | hwarrant
    · obtain ⟨r, hr⟩ := h.idle hi ⟨t, (hadds.mem rfl).1 hmem⟩
      exact ⟨r, hr.keep hadds hstop⟩
    · exact hwarrant
  begun := h.begun.adds rfl hadds

/-- The supervisor goes on without a new reason. -/
theorem go (h : f.Evident) (hadds : Adds Happening.isPlain f.outline f'.outline)
    (hstop : f'.coordinator.stop.isRaised = f.coordinator.stop.isRaised)
    (hsession : ∀ s' ∈ f'.session, (∃ s ∈ f.session, s'.quit = s.quit) ∨ s'.quit.reason = none)
    (hidle : f'.IsIdle → f.IsIdle ∨ ∃ r, f'.Warrants r) : f'.Evident := by
  refine h.keep hadds hstop ?_ hidle
  intro s' hs' r hr
  rcases hsession s' hs' with ⟨s, hs, hquit⟩ | hnone
  · rw [hquit] at hr
    exact (h.reason s hs r hr).keep hadds hstop
  · rw [hnone] at hr
    cases hr

/-- The session under way goes on without a new reason. -/
theorem goOn (h : f.Evident) (hord : f.toFrame.Orderly)
    (hadds : Adds Happening.isPlain f.outline f'.outline)
    (hstop : f'.coordinator.stop.isRaised = f.coordinator.stop.isRaised)
    (hcycle : f'.cycle = f.cycle) {s s' : Session} (hs : f.session = some s)
    (hs' : f'.session = some s') (hquit : s'.quit = s.quit ∨ s'.quit.reason = none) :
    f'.Evident := by
  refine h.go hadds hstop ?_ ?_
  · intro t ht
    rw [hs'] at ht
    obtain rfl := Option.some.inj ht
    exact hquit.imp_left fun heq => ⟨s, hs, heq⟩
  · intro hi
    have hnot := not_isIdle_of_session hord hs
    unfold IsIdle at hi hnot
    rw [hcycle] at hi
    exact absurd hi hnot

/-- The run goes on as it was, apart from the coordinator. -/
theorem stay (h : f.Evident) (hadds : Adds Happening.isPlain f.outline f'.outline)
    (hstop : f'.coordinator.stop.isRaised = f.coordinator.stop.isRaised)
    (hsession : f'.session = f.session) (hcycle : f'.cycle = f.cycle) : f'.Evident := by
  refine h.go hadds hstop ?_ ?_
  · rw [hsession]
    exact fun s hs => .inl ⟨s, hs, rfl⟩
  · unfold IsIdle
    rw [hcycle]
    exact .inl

theorem cancelCycle (h : f.Evident) : f.cancelCycle.Evident := by
  have hstop : f.cancelCycle.coordinator.stop.isRaised = f.coordinator.stop.isRaised := by
    unfold Scene.cancelCycle
    split <;> rfl
  refine h.go ?_ hstop ?_ ?_
  · rw [outline_cancelCycle]
    exact Adds.refl _
  · exact fun s hs => .inl ⟨s, session_cancelCycle hs, rfl⟩
  · exact fun hi => .inl (isIdle_of_cancelCycle hi)

theorem decide (h : f.Evident) (t : Termination) : (f.decide t).Evident := by
  have hsame : ({ f with coordinator := f.coordinator.conclude t : Scene }.tell
      (.terminated t)).Evident := h.stay ((Adds.refl _).cons rfl) rfl rfl rfl
  exact hsame.cancelCycle

/-- The first signal raises the stop flag. -/
theorem raiseStop (h : f.Evident)
    (hraised : f'.coordinator.stop.isRaised = true) (hmem : ∃ t, (t, .stopRaised) ∈ f'.outline)
    (hadds : Adds Happening.isLater f.outline f'.outline) (hsession : f'.session = f.session) :
    f'.Evident where
  raised := iff_of_true hraised hmem
  reason := by
    rw [hsession]
    exact fun s hs r hr => (h.reason s hs r hr).last hadds fun _ => hraised
  idle _ _ := ⟨.shutdown, hraised⟩
  begun := h.begun.adds rfl hadds

/-- A session ends for a reason. -/
theorem endSession (h : f.Evident) (s : Session) {r : QuitReason} (hr : f.Warrants r) :
    (f.endSession s).Evident := by
  have hadds : Adds Happening.isPlain f.outline (f.endSession s).outline :=
    (Adds.refl _).cons rfl
  refine h.go hadds rfl ?_ ?_
  · intro t ht
    cases ht
  · exact fun _ => .inr ⟨r, hr.keep hadds rfl⟩

/-- A task raises a reason that it has. -/
theorem raiseQuit (h : f.Evident) (hord : f.toFrame.Orderly) (haccomp : f.Accompanied)
    {child : Child} (hchild : child ∈ f.children) {r : QuitReason} (hr : f.Warrants r) :
    (f.raiseQuit child r).Evident := by
  have hadds : Adds Happening.isPlain f.outline (f.raiseQuit child r).outline := Adds.refl _
  cases hs : f.session with
  | none =>
    rw [haccomp.alone hs] at hchild
    cases hchild
  | some s =>
    have hbeside := haccomp.beside s hs
    have hid : s.id = child.session := (hbeside.session_eq hchild).symm
    refine h.keep hadds rfl ?_ ?_
    · intro s' hs' r' hr'
      obtain rfl : { s with quit := s.quit.spend child.trigger r } = s' := by
        simpa [Scene.raiseQuit, hs, hid] using hs'
      rw [QuitRequest.spend_eq (hbeside.holds hchild)] at hr'
      cases hreason : s.quit.reason with
      | none =>
        obtain rfl : r = r' := by simpa [hreason] using hr'
        exact hr.keep hadds rfl
      | some r'' =>
        obtain rfl : r'' = r' := by simpa [hreason] using hr'
        exact (h.reason s hs _ hreason).keep hadds rfl
    · exact fun hi => absurd (show f.IsIdle from hi) (not_isIdle_of_session hord hs)

/-- A session begins: the device was seen, and has been gone since the last session. -/
theorem beginSession (h : f.Evident) (hi : f.IsIdle)
    (hdown : f.coordinator.stop.isRaised = false) :
    ((f.tell (.checked true)).startSession).Evident := by
  have hcalm : ∀ t, (t, .stopRaised) ∉ f.outline := by
    intro t hmem
    rw [h.raised.2 ⟨t, hmem⟩] at hdown
    cases hdown
  have hopen : Adds Happening.isPlain f.outline
      ((f.now, .timerArmed f.coordinator.timers.made .driverActivationTimeout) ::
        (f.now, .stateChanged (f.count + 1) .inactive .activating) ::
          (f.now, .checked true) :: f.outline) :=
    (((Adds.refl _).cons rfl).cons rfl).cons rfl
  refine ⟨?_, ?_, ?_, ?_⟩
  · refine h.raised.trans (exists_congr fun t => ?_)
    rw [outline_startSession, List.mem_cons]
    constructor
    · exact fun hmem => .inr ((hopen.mem rfl).2 hmem)
    · rintro (heq | hmem)
      · cases heq
      · exact (hopen.mem rfl).1 hmem
  · rintro s ⟨rfl⟩ r hr
    cases hr
  · rintro (hc | ⟨wait, hc⟩)
    · cases hc
    · cases hc
  · rw [outline_startSession]
    refine Before.cons_iff.2 ⟨fun _ => ?_, h.begun.adds rfl hopen⟩
    refine ⟨?_, ?_, fun t hmem => hcalm t ((hopen.mem rfl).1 hmem)⟩
    · -- The look that shows the device comes right before the session.
      refine (since_cons _).2 (.inr ⟨Happening.not_isLook_timerArmed _ _, ?_⟩)
      refine (since_cons _).2 (.inr ⟨Happening.not_isLook_stateChanged _ _ _, ?_⟩)
      exact (since_cons _).2 (.inl rfl)
    · rintro ⟨t, hmem⟩
      obtain ⟨r, hr⟩ := h.idle hi ⟨t, (hopen.mem rfl).1 hmem⟩
      cases r with
      | deviceRemoved => exact Gone.adds hr (hopen.mono Happening.isLater_of_isPlain)
      | shutdown =>
        rw [show f.coordinator.stop.isRaised = true from hr] at hdown
        cases hdown

end Evident

/-- A supervisor at work is asked to stop only by the flag. -/
theorem isRaised_of_isActive {f : Scene} (hsteer : f.conduct.Steered)
    (hactive : f.duty.isActive = true) (hover : f.coordinator.stop.isOver = true) :
    f.coordinator.stop.isRaised = true := by
  have hheld : f.coordinator.stop.isHeld = true := hsteer.held (hsteer.running hactive)
  simpa [StopFlag.isOver, hheld] using hover

/-- A session under way is asked to stop only by the flag. -/
theorem isRaised_of_isOver {f : Scene} (hord : f.toFrame.Orderly) (hsteer : f.conduct.Steered)
    {s : Session} (hs : f.session = some s) (hover : f.coordinator.stop.isOver = true) :
    f.coordinator.stop.isRaised = true :=
  isRaised_of_isActive hsteer (hord.isActive hs) hover

theorem isRaised_of_not_isOver {f : Scene} (hover : f.coordinator.stop.isOver = false) :
    f.coordinator.stop.isRaised = false := by
  have hboth : f.coordinator.stop.isRaised = false ∧ f.coordinator.stop.isHeld = true := by
    simpa [StopFlag.isOver] using hover
  exact hboth.1

theorem Evident.act (h : f.Evident) (hord : f.toFrame.Orderly) (hsteer : f.conduct.Steered)
    (haccomp : f.Accompanied) {m : Move} (hs : f.Act m f') : f'.Evident := by
  cases hs with
  | fire a => exact h.stay (Conduct.adds_post ((Adds.refl _).cons rfl) _ rfl) rfl rfl rfl
  | decide t => exact h.decide t
  | firstSignal s b hphase =>
    have hdown : f.coordinator.stop.isRaised = false := (hsteer.calm hphase).1
    refine h.raiseStop rfl ⟨f.now, ?_⟩ ?_ rfl
    · simp [Conduct.raiseStop, Conduct.tell, Conduct.setSignals, Frame.conduct, hdown]
    · exact (Conduct.adds_raiseStop (c := (f.conduct.setSignals b).tell (.signalTaken s))
        ((Adds.refl _).cons rfl) rfl).cons rfl
  | secondSignal s b =>
    have hsame : ((f.put (f.conduct.setSignals b)).tell (.signalTaken s)).Evident :=
      h.stay ((Adds.refl _).cons rfl) rfl rfl rfl
    exact hsame.decide _
  | ignoreSignals => exact h.stay (Adds.refl _) rfl rfl rfl
  | beginStop hc =>
    refine h.go ((Adds.refl _).cons rfl) rfl (fun s hs => .inl ⟨s, hs, rfl⟩) ?_
    rintro (hc' | ⟨wait, hc'⟩)
    · cases hc'
    · cases hc'
  | beginWaiting hc =>
    exact h.go (Adds.refl _) rfl (fun s hs => .inl ⟨s, hs, rfl⟩) (fun _ => .inl (.inl hc))
  | keepWaiting wait hc =>
    exact h.go ((Adds.refl _).cons rfl) rfl (fun s hs => .inl ⟨s, hs, rfl⟩)
      (fun _ => .inl (.inr ⟨wait, hc⟩))
  | beginSession wait hc hstop hdue hseen =>
    have hdesired : wait.desired = true := hord.waiting wait hc
    rw [hseen, hdesired]
    exact h.beginSession (.inr ⟨wait, hc⟩) (isRaised_of_not_isOver hstop)
  | loopWent s executor p p' hs =>
    exact h.goOn hord (Adds.refl _) rfl rfl hs rfl (.inl rfl)
  | loopEnded s executor p hs =>
    exact h.goOn hord ((Adds.refl _).cons rfl) rfl rfl hs rfl (.inl rfl)
  | loopPanicked s executor p reason hs =>
    refine h.go ?_ rfl ?_ ?_
    · exact Conduct.adds_post ((Adds.refl _).cons rfl) _ rfl
    · intro t ht
      cases ht
    · rintro (hc | ⟨wait, hc⟩)
      · cases hc
      · cases hc
  | skipStopped s wait hs hst hstop =>
    exact h.endSession s (r := .shutdown) (isRaised_of_isOver hord hsteer hs hstop)
  | beginRemoval s loop r hs =>
    rw [requestRemoval_eq]
    exact h.goOn hord ((((Adds.refl _).cons rfl).cons rfl |>.cons rfl).cons rfl) rfl rfl hs rfl
      (.inl rfl)
  | sessionEnded s timer hs hst =>
    have hdrop : (f.dropTimer timer).Evident := h.stay (Adds.refl _) rfl rfl rfl
    obtain ⟨r, hr⟩ := (haccomp.beside s hs).exists_reason hst (by rintro ⟨⟩)
    exact hdrop.endSession s (hdrop.reason s hs r hr)
  | keepSkipping s wait hs =>
    exact h.goOn hord ((Adds.refl _).cons rfl) rfl rfl hs rfl (.inl rfl)
  | skipEnded s wait hs hst hdue hseen =>
    have hdesired : wait.desired = false := hord.skipping s hs wait hst
    have htell : (f.tell (.checked f.sees)).Evident :=
      h.stay ((Adds.refl _).cons rfl) rfl rfl rfl
    refine htell.endSession s (r := .deviceRemoved) ⟨f.now, (since_cons _).2 (.inl ?_)⟩
    rw [hseen, hdesired]
  | stopForwarded child hchild htask hstop =>
    cases hs : f.session with
    | none => rw [haccomp.alone hs] at hchild; cases hchild
    | some s =>
      exact h.raiseQuit hord haccomp hchild (isRaised_of_isOver hord hsteer hs hstop)
  | keepWatching child wait =>
    exact h.stay ((Adds.refl _).cons rfl) rfl rfl rfl
  | removalSeen child wait hchild htask hdue hseen =>
    have htell : (f.tell (.checked f.sees)).Evident :=
      h.stay ((Adds.refl _).cons rfl) rfl rfl rfl
    have hord' : (f.tell (.checked f.sees)).toFrame.Orderly :=
      hord.congr rfl rfl rfl rfl rfl rfl
    refine htell.raiseQuit hord' (haccomp.congr rfl rfl) hchild
      ⟨f.now, (since_cons _).2 (.inl ?_)⟩
    cases hs : f.session with
    | none =>
      rw [haccomp.alone hs] at hchild
      cases hchild
    | some s => rw [hseen, (haccomp.beside s hs).desired hchild htask]
  | added s timer call ok hs =>
    exact h.goOn hord (((Adds.refl _).cons rfl).cons rfl |>.cons rfl) rfl rfl hs rfl (.inr rfl)
  | skipped s timer call hs | addPanicked s timer call reason hs =>
    exact h.goOn hord ((Adds.refl _).cons rfl) rfl rfl hs rfl (.inl rfl)
  | driverRemoved s timer loop call hs =>
    exact h.goOn hord ((Adds.refl _).cons rfl) rfl rfl hs rfl (.inl rfl)
  | removalFailed s timer loop call hs =>
    exact h.goOn hord (((Adds.refl _).cons rfl).cons rfl) rfl rfl hs rfl (.inl rfl)
  | stopped call hc =>
    refine h.go (Conduct.adds_post ((Adds.refl _).cons rfl) _ rfl) rfl
      (fun s hs => .inl ⟨s, hs, rfl⟩) ?_
    rintro (hc' | ⟨wait, hc'⟩)
    · cases hc'
    · cases hc'
  | lateEnd call => exact h.stay ((Adds.refl _).cons rfl) rfl rfl rfl

theorem Evident.step (h : f.Evident) (hord : f.toFrame.Orderly) (hsteer : f.conduct.Steered)
    (haccomp : f.Accompanied) {o : Occurrence} (hs : f.Step o f') : f'.Evident := by
  cases hs with
  | stay => exact h
  | files | signal | closeSignals | pass => exact h.stay (Adds.refl _) rfl rfl rfl
  | act hact => exact h.act hord hsteer haccomp hact

/-- A panic is told of. -/
theorem mem_outline_panicLoop (f : Scene) (reason : String) :
    (f.now, .logged (.loopPanicked reason) none) ∈ (f.panicLoop reason).outline := by
  have hadds : Adds (fun _ => true) ((f.now, .logged (.loopPanicked reason) none) :: f.outline)
      (f.panicLoop reason).outline :=
    Conduct.adds_post (c := ((f.abandonSession .panicked).tell
      (.logged (.loopPanicked reason) none)).conduct) (Adds.refl _) _ rfl
  obtain ⟨new, heq, -⟩ := hadds
  rw [heq]
  simp

/-! ## Looks -/

/-- The device is gone when there is no such endpoint.  No other fault counts. -/
theorem sees_eq_false_iff :
    f.sees = false ↔ f.files.stat f.setup.device.path = .error .notFound := by
  unfold sees Sighting.of
  split
  · rename_i hstat
    simp [Sighting.isPresent, hstat]
  · rename_i hstat
    simp [Sighting.isPresent, hstat]
  · rename_i fault hnot hstat
    have hne : fault ≠ .notFound := by
      rintro rfl
      exact hnot rfl
    simp [Sighting.isPresent, hstat, hne]

end Scene

/-- Whether a happening is not a look for the device. -/
def Happening.isBlind : Happening → Bool
  | checked _ => false
  | _ => true

namespace Scene

variable {f f' : Scene}

/-- A move looks for the device once at most, and sees what the files show. -/
theorem Act.looks {m : Move} (hs : f.Act m f') :
    Adds Happening.isBlind f.outline f'.outline ∨
      Adds Happening.isBlind ((f.now, .checked f.sees) :: f.outline) f'.outline := by
  cases hs with
  | fire a => exact .inl (Conduct.adds_post ((Adds.refl _).cons rfl) _ rfl)
  | decide t =>
    rw [outline_decide]
    exact .inl ((Adds.refl _).cons rfl)
  | firstSignal s b =>
    exact .inl ((Conduct.adds_raiseStop (c := (f.conduct.setSignals b).tell (.signalTaken s))
      ((Adds.refl _).cons rfl) rfl).cons rfl)
  | secondSignal s b =>
    rw [outline_decide]
    exact .inl (((Adds.refl _).cons rfl).cons rfl)
  | ignoreSignals | beginWaiting | loopWent | stopForwarded => exact .inl (Adds.refl _)
  | beginStop | loopEnded | skipStopped | sessionEnded | skipped | addPanicked | driverRemoved
  | lateEnd => exact .inl ((Adds.refl _).cons rfl)
  | loopPanicked => exact .inl (Conduct.adds_post ((Adds.refl _).cons rfl) _ rfl)
  | beginRemoval =>
    rw [outline_requestRemoval]
    exact .inl ((((Adds.refl _).cons rfl).cons rfl |>.cons rfl).cons rfl)
  | added => exact .inl (((Adds.refl _).cons rfl).cons rfl |>.cons rfl)
  | removalFailed => exact .inl (((Adds.refl _).cons rfl).cons rfl)
  | stopped => exact .inl (Conduct.adds_post ((Adds.refl _).cons rfl) _ rfl)
  | keepWaiting | keepSkipping | keepWatching | removalSeen => exact .inr (Adds.refl _)
  | beginSession => exact .inr (((Adds.refl _).cons rfl).cons rfl |>.cons rfl)
  | skipEnded => exact .inr ((Adds.refl _).cons rfl)

/-- What has been seen was seen just now, unless it was seen before. -/
theorem Step.looks {o : Occurrence} (hs : f.Step o f') {t : Nat} {b : Bool}
    (hmem : (t, .checked b) ∈ f'.outline) :
    (t, .checked b) ∈ f.outline ∨ t = f.now ∧ b = f.sees := by
  cases hs with
  | stay | files | signal | closeSignals | pass => exact .inl hmem
  | act hact =>
    rcases hact.looks with hadds | hadds
    · exact .inl ((hadds.mem rfl).1 hmem)
    · rcases List.mem_cons.1 ((hadds.mem rfl).1 hmem) with heq | hold
      · obtain ⟨rfl, hb⟩ := Prod.mk.inj heq
        exact .inr ⟨rfl, Happening.checked.inj hb⟩
      · exact .inl hold

/-- Whatever happens, what has happened stays. -/
theorem Step.outline_suffix {o : Occurrence} (hs : f.Step o f') : f.outline <:+ f'.outline := by
  cases hs with
  | act hact =>
    rcases hact.looks with ⟨new, heq, -⟩ | ⟨new, heq, -⟩
    · rw [heq]
      exact List.suffix_append _ _
    · rw [heq]
      exact (List.suffix_cons _ _).trans (List.suffix_append _ _)
  | _ => exact List.suffix_refl _

end Scene

/-! ## Runs -/

namespace Supervision

variable {L : EventLoop} (s : Supervision L)

/-- The happenings of a run so far, newest first. -/
def history (os : List Occurrence) : List (Nat × Happening) :=
  (s.after os).chronicle.happenings

/-- How the sessions of a run go with the presence of the device. -/
structure OnePerAppearance (os : List Occurrence) : Prop where
  /-- A call to add the driver begins as a look shows the device. -/
  present : ∀ newer older t, s.history os = newer ++ (t, .callBegan .add) :: older →
    Since Happening.IsLook (.checked true) t older
  /-- Between two such calls a look has shown that the device was gone. -/
  absent : ∀ newer between older t t', s.history os =
      newer ++ (t', .callBegan .add) :: (between ++ (t, .callBegan .add) :: older) →
    ∃ t'', (t'', .checked false) ∈ between
  /-- No such call begins once the stop flag is up. -/
  calm : ∀ newer older t, s.history os = newer ++ (t, .callBegan .add) :: older →
    ∀ t', (t', .stopRaised) ∉ older
  raised : (s.after os).coordinator.stop.isRaised = true ↔ ∃ t, (t, .stopRaised) ∈ s.history os
  /-- A look sees what asking for the endpoint shows at that time. -/
  looks : ∀ t b, (t, .checked b) ∈ s.history os →
    ∃ before o after, os = before ++ o :: after ∧ (s.after before).now = t ∧
      (b = false ↔ (s.after before).files.stat s.settings.deviceId.path = .error .notFound)

theorem setup_after (os : List Occurrence) : (s.after os).setup = s.setup :=
  (s.after_induction (P := fun _ => True) (fun _ _ _ _ => trivial) trivial os).1

theorem steered_after (os : List Occurrence) : (s.after os).scene.conduct.Steered :=
  (s.reached_after os).steered

theorem evident_after (os : List Occurrence) : (s.after os).scene.Evident := by
  refine s.scene_induction (P := fun _ f => f.Evident) ?_
    (fun os _ _ hs h => h.step (s.orderly_after os) (s.steered_after os)
      (s.accompanied_after os) hs) os
  have hout : s.start.scene.outline = [(0, .managerStarting s.settings.managerOptions)] :=
    congrArg Frame.outline s.frame_start
  have hdown : s.start.scene.coordinator.stop.isRaised = false := by
    have hk : s.start.scene.coordinator = _ := congrArg Frame.coordinator s.frame_start
    rw [hk]
    cases s.refusal? <;> rfl
  refine ⟨?_, ?_, ?_, ?_⟩
  · rw [hdown, hout]
    simp
  · rw [s.session_start]
    rintro _ ⟨⟩
  · rw [hout]
    simp
  · rw [hout]
    exact Before.cons_iff.2 ⟨by rintro ⟨⟩, Before.nil⟩

/-- Whatever was seen in a run, the files have shown at that time. -/
theorem looks_after (os : List Occurrence) (t : Nat) (b : Bool)
    (hmem : (t, .checked b) ∈ (s.after os).scene.outline) :
    ∃ before o after, os = before ++ o :: after ∧ (s.after before).now = t ∧
      (s.after before).scene.sees = b := by
  refine s.scene_induction (P := fun os f => ∀ t b, (t, .checked b) ∈ f.outline →
    ∃ before o after, os = before ++ o :: after ∧ (s.after before).now = t ∧
      (s.after before).scene.sees = b) ?_ ?_ os t b hmem
  · intro t b hmem
    have hout : s.start.scene.outline = [(0, .managerStarting s.settings.managerOptions)] :=
      congrArg Frame.outline s.frame_start
    rw [hout] at hmem
    simp at hmem
  · intro os o f hs ih t b hmem
    rcases hs.looks hmem with hold | ⟨rfl, rfl⟩
    · obtain ⟨before, o', after, rfl, hnow, hsees⟩ := ih t b hold
      exact ⟨before, o', after ++ [o], by simp, hnow, hsees⟩
    · exact ⟨os, o, [], rfl, rfl, rfl⟩

/-- **Sessions follow appearances.**  Every call to add the driver begins as a look shows the
device; between two of them a look has shown that it was gone, whether the first session was
served or skipped; and none begins once the stop flag is up. -/
theorem one_session_per_appearance (os : List Occurrence) : s.OnePerAppearance os := by
  have hevident := s.evident_after os
  have htimely : ∀ newer older t, s.history os = newer ++ (t, .callBegan .add) :: older →
      Timely t (outlineOf older) := by
    intro newer older t heq
    refine hevident.begun (outlineOf newer) (outlineOf older) t ?_
    change outlineOf (s.history os) = _
    rw [heq]
    unfold outlineOf
    rw [List.filter_append, List.filter_cons_of_pos (by rfl)]
  refine ⟨?_, ?_, ?_, ?_, ?_⟩
  · intro newer older t heq
    refine (since_outlineOf rfl ?_).1 (htimely newer older t heq).present
    rintro _ ⟨b, rfl⟩
    rfl
  · intro newer between older t t' heq
    have hadd : (t, .callBegan .add) ∈ outlineOf (between ++ (t, .callBegan .add) :: older) :=
      (mem_outlineOf rfl).2 (by simp)
    obtain ⟨t'', hsince⟩ := (htimely newer _ t' heq).gone ⟨t, hadd⟩
    refine ⟨t'', ?_⟩
    refine Since.mem_of_append ((since_outlineOf rfl ?_).1 hsince) rfl (by rintro ⟨⟩)
    rintro _ rfl
    rfl
  · intro newer older t heq t' hmem
    exact (htimely newer older t heq).calm t' ((mem_outlineOf rfl).2 hmem)
  · exact hevident.raised.trans (exists_congr fun t => mem_outlineOf rfl)
  · intro t b hmem
    obtain ⟨before, o, after, heq, hnow, rfl⟩ := s.looks_after os t b ((mem_outlineOf rfl).2 hmem)
    refine ⟨before, o, after, heq, hnow, Scene.sees_eq_false_iff.trans ?_⟩
    have hdevice : (s.after before).scene.setup.device = s.settings.deviceId :=
      congrArg Setup.device (s.setup_after before)
    rw [hdevice]
    rfl

end Supervision

end Hotplug
