import Hotplug.Proofs.Reach
import Hotplug.Proofs.Scene.Steps

/-!
# A session and the tasks beside it

As long as nobody has asked a running session to quit, a removal watcher and a stop forwarder
stand beside it, and nobody else ever does.

* `Supervision.scene_induction` — what every step preserves holds in the whole run.
* `crew` — the watcher and the forwarder that are still at work.
* `Session.Beside` — how a session goes with the tasks beside it.
* `Scene.Accompanied`, `Supervision.accompanied_after` — so it is in every run.
-/

namespace Hotplug

open Scene (Act Step)

/-! ## Runs as scenes -/

namespace Supervision

variable {L : EventLoop} (s : Supervision L)

/-- Whatever happens in a run is a step of its scene. -/
theorem step_after (os : List Occurrence) (o : Occurrence) :
    (s.after os).scene.Step o (s.after (os ++ [o])).scene := by
  rw [after_concat]
  exact scene_occur (s.orderly_after os) o

/-- What holds of the scene at some time, and is preserved by whatever happens, goes on to
hold. -/
theorem scene_induction_from {P : List Occurrence → Scene → Prop} {os : List Occurrence}
    (hstep : ∀ os o f, (s.after os).scene.Step o f → P os (s.after os).scene → P (os ++ [o]) f)
    (h : P os (s.after os).scene) (ps : List Occurrence) :
    P (os ++ ps) (s.after (os ++ ps)).scene :=
  induction_from (P := fun os => P os (s.after os).scene)
    (fun os o => hstep os o _ (s.step_after os o)) h ps

/-- What holds of the scene at the start of a run, and is preserved by whatever happens, holds
in the whole run. -/
theorem scene_induction {P : List Occurrence → Scene → Prop} (hstart : P [] s.start.scene)
    (hstep : ∀ os o f, (s.after os).scene.Step o f → P os (s.after os).scene → P (os ++ [o]) f)
    (os : List Occurrence) : P os (s.after os).scene :=
  (s.scene_induction_from hstep hstart os :)

/-- Nobody is there at the start of a run. -/
theorem children_start : s.start.scene.children = [] := by
  change (World.launch s.setup s.loop s.files s.signalCapacity).children = []
  unfold World.launch
  dsimp only
  split <;> rfl

theorem session_start : s.start.scene.session = none :=
  congrArg Frame.session s.frame_start

end Supervision

/-! ## The tasks beside a session -/

/-- Whether the event loop of a session has begun. -/
def Stage.isRunning : Stage → Bool
  | running _ _ => true
  | _ => false

/-- The tasks beside session `n`: its watcher as long as it waits, and its forwarder as long as
it has nothing to forward. -/
def crew (n : SessionId) (watch : Option PresenceWait) (forwards : Bool) : List Child :=
  (watch.map fun wait => ⟨n, 1, .watchRemoval wait⟩).toList ++
    if forwards then [⟨n, 2, .forwardStop⟩] else []

section Crew

variable {n : SessionId} {watch : Option PresenceWait} {forwards : Bool} {child : Child}

/-- One of the crew is the watcher or the forwarder. -/
theorem mem_crew :
    child ∈ crew n watch forwards ↔
      (∃ wait, watch = some wait ∧ child = ⟨n, 1, .watchRemoval wait⟩) ∨
        forwards = true ∧ child = ⟨n, 2, .forwardStop⟩ := by
  unfold crew
  cases watch with
  | none => cases forwards <;> simp
  | some wait => cases forwards <;> simp

theorem session_of_mem_crew (h : child ∈ crew n watch forwards) : child.session = n := by
  rcases mem_crew.1 h with ⟨wait, -, rfl⟩ | ⟨-, rfl⟩
  · rfl
  · rfl

theorem watcher_of_mem_crew {wait : PresenceWait} (h : child ∈ crew n watch forwards)
    (htask : child.task = .watchRemoval wait) :
    watch = some wait ∧ child = ⟨n, 1, .watchRemoval wait⟩ := by
  rcases mem_crew.1 h with ⟨wait', hwatch, rfl⟩ | ⟨-, rfl⟩
  · cases htask
    exact ⟨hwatch, rfl⟩
  · cases htask

/-- Without its session, nobody of a crew is left. -/
theorem filter_crew_session :
    (crew n watch forwards).filter (·.session ≠ n) = [] := by
  rw [List.filter_eq_nil_iff]
  intro child hchild
  simp [session_of_mem_crew hchild]

theorem filter_crew_watcher (wait : PresenceWait) :
    (crew n (some wait) forwards).filter (· ≠ (⟨n, 1, .watchRemoval wait⟩ : Child)) =
      crew n none forwards := by
  unfold crew
  cases forwards <;> simp

theorem filter_crew_forwarder :
    (crew n watch true).filter (· ≠ (⟨n, 2, .forwardStop⟩ : Child)) = crew n watch false := by
  unfold crew
  cases watch <;> simp

theorem map_crew_watcher (wait wait' : PresenceWait) :
    ((crew n (some wait) forwards).map fun other =>
      if other = (⟨n, 1, .watchRemoval wait⟩ : Child) then ⟨n, 1, .watchRemoval wait'⟩ else other) =
        crew n (some wait') forwards := by
  unfold crew
  cases forwards <;> simp

end Crew

/-- A trigger that is held raises a reason, unless there is one, and is given up. -/
theorem QuitRequest.spend_eq {q : QuitRequest} {i : Nat} (h : q.holds i = true)
    (r : QuitReason) :
    q.spend i r =
      { q with reason := some (q.reason.getD r), held := q.held.set i false } := by
  have hraise : (q.raise i r).elim q (·.2) = { q with reason := some (q.reason.getD r) } := by
    unfold QuitRequest.raise
    rw [if_pos h]
    cases q with
    | mk reason held listener => cases reason <;> rfl
  have hdrop : ({ q with reason := some (q.reason.getD r) } : QuitRequest).drop i =
      some { q with reason := some (q.reason.getD r), held := q.held.set i false } := if_pos h
  unfold QuitRequest.spend
  dsimp only
  rw [hraise, hdrop]
  rfl

namespace Session

/-- How a session goes with the tasks beside it.  Each of them holds one of the triggers of the
quit request; both stand beside a running session that nobody has asked to quit. -/
inductive Beside (s : Session) : List Child → Prop where
  /-- The event loop has not begun. -/
  | early (hstage : s.stage.isRunning = false) (hquit : s.quit = .fresh) : Beside s []
  | running (executor : Executor) (loop : LoopPhase) (watch : Option PresenceWait)
      (forwards : Bool) (hst : s.stage = .running executor loop)
      (hheld : s.quit.held = [true, watch.isSome, forwards])
      (hdesired : ∀ wait ∈ watch, wait.desired = false)
      (hcalm : s.quit.reason = none →
        watch.isSome = true ∧ forwards = true ∧ executor = .listening) :
      Beside s (crew s.id watch forwards)

namespace Beside

variable {s s' : Session} {children : List Child}

/-- Nobody stands beside a session whose event loop has not begun. -/
theorem eq_nil (h : s.Beside children) (hstage : s.stage.isRunning = false) :
    children = [] ∧ s.quit = .fresh := by
  cases h with
  | early _ hquit => exact ⟨rfl, hquit⟩
  | running executor loop watch forwards hst =>
    rw [hst] at hstage
    cases hstage

/-- Everybody beside a session belongs to it. -/
theorem session_eq (h : s.Beside children) {child : Child} (hchild : child ∈ children) :
    child.session = s.id := by
  cases h with
  | early => cases hchild
  | running => exact session_of_mem_crew hchild

theorem filter_session (h : s.Beside children) :
    children.filter (·.session ≠ s.id) = [] := by
  cases h with
  | early => rfl
  | running => exact filter_crew_session

/-- The session goes on, and its quit request stays as it is. -/
theorem go (h : s.Beside children) {executor executor' : Executor} {loop loop' : LoopPhase}
    (hst : s.stage = .running executor loop) (hst' : s'.stage = .running executor' loop')
    (hid : s'.id = s.id) (hquit : s'.quit = s.quit)
    (hlistening : executor = .listening → s.quit.reason = none → executor' = .listening) :
    s'.Beside children := by
  cases h with
  | early hstage =>
    rw [hst] at hstage
    cases hstage
  | running e l watch forwards hstage hheld hdesired hcalm =>
    obtain ⟨rfl, rfl⟩ : executor = e ∧ loop = l := by simpa [hst] using hstage
    rw [← hid]
    refine .running executor' loop' watch forwards hst' (by rw [hquit, hheld]) hdesired ?_
    intro hreason
    rw [hquit] at hreason
    obtain ⟨hwatch, hforwards, hlisten⟩ := hcalm hreason
    exact ⟨hwatch, hforwards, hlistening hlisten hreason⟩

/-- The session goes on before its event loop has begun. -/
theorem wait (h : s.Beside children) (hstage : s.stage.isRunning = false)
    (hstage' : s'.stage.isRunning = false) (hquit : s'.quit = s.quit) : s'.Beside children := by
  obtain ⟨rfl, hfresh⟩ := h.eq_nil hstage
  exact .early hstage' (hquit.trans hfresh)

/-- The watcher looks again later. -/
theorem keepWatching (h : s.Beside children) {child : Child} {wait wait' : PresenceWait}
    (hchild : child ∈ children) (htask : child.task = .watchRemoval wait)
    (hsame : wait'.desired = wait.desired) :
    s.Beside (children.map fun other =>
      if other = child then { child with task := .watchRemoval wait' } else other) := by
  cases h with
  | early => cases hchild
  | running executor loop watch forwards hst hheld hdesired hcalm =>
    obtain ⟨rfl, rfl⟩ := watcher_of_mem_crew hchild htask
    rw [map_crew_watcher]
    refine .running executor loop (some wait') forwards hst hheld ?_ hcalm
    intro later hlater
    obtain rfl := Option.some.inj hlater
    exact hsame.trans (hdesired wait rfl)

/-- Every watcher waits for the device to go away. -/
theorem desired (h : s.Beside children) {child : Child} {wait : PresenceWait}
    (hchild : child ∈ children) (htask : child.task = .watchRemoval wait) :
    wait.desired = false := by
  cases h with
  | early => cases hchild
  | running executor loop watch forwards hst hheld hdesired hcalm =>
    obtain ⟨hwatch, -⟩ := watcher_of_mem_crew hchild htask
    exact hdesired wait hwatch

/-- A forwarder stands beside a running session that nobody has asked to quit. -/
theorem forwarder_mem (h : s.Beside children) (hrunning : s.stage.isRunning = true)
    (hreason : s.quit.reason = none) : ⟨s.id, 2, .forwardStop⟩ ∈ children := by
  cases h with
  | early hstage =>
    rw [hstage] at hrunning
    cases hrunning
  | running executor loop watch forwards hst hheld hdesired hcalm =>
    exact mem_crew.2 (.inr ⟨(hcalm hreason).2.1, rfl⟩)

/-- A watcher stands beside a running session that nobody has asked to quit. -/
theorem watcher_mem (h : s.Beside children) (hrunning : s.stage.isRunning = true)
    (hreason : s.quit.reason = none) : ∃ wait, ⟨s.id, 1, .watchRemoval wait⟩ ∈ children := by
  cases h with
  | early hstage =>
    rw [hstage] at hrunning
    cases hrunning
  | running executor loop watch forwards hst hheld hdesired hcalm =>
    obtain ⟨wait, hwait⟩ := Option.isSome_iff_exists.1 (hcalm hreason).1
    exact ⟨wait, mem_crew.2 (.inl ⟨wait, hwait, rfl⟩)⟩

/-- A session that has begun to remove its driver was asked to quit. -/
theorem exists_reason (h : s.Beside children) {executor : Executor} {loop : LoopPhase}
    (hst : s.stage = .running executor loop) (hexecutor : executor ≠ .listening) :
    ∃ r, s.quit.reason = some r := by
  cases h with
  | early hstage =>
    rw [hst] at hstage
    cases hstage
  | running e l watch forwards hst' hheld hdesired hcalm =>
    obtain ⟨rfl, rfl⟩ : executor = e ∧ loop = l := by simpa [hst] using hst'
    refine Option.ne_none_iff_exists'.1 fun hnone => ?_
    obtain ⟨-, -, hlisten⟩ := hcalm hnone
    exact hexecutor hlisten

/-- A task holds its trigger as long as it is there. -/
theorem holds (h : s.Beside children) {child : Child} (hchild : child ∈ children) :
    s.quit.holds child.trigger = true := by
  cases h with
  | early => cases hchild
  | running executor loop watch forwards hst hheld =>
    unfold QuitRequest.holds
    rw [hheld]
    rcases mem_crew.1 hchild with ⟨wait, rfl, rfl⟩ | ⟨rfl, rfl⟩
    · rfl
    · rfl

/-- A task asks the session to quit, and leaves. -/
theorem raiseQuit (h : s.Beside children) {child : Child} (hchild : child ∈ children)
    (r : QuitReason) :
    ({ s with quit := s.quit.spend child.trigger r } : Session).Beside
      (children.filter (· ≠ child)) := by
  have hspend := QuitRequest.spend_eq (h.holds hchild) r
  cases h with
  | early => cases hchild
  | running executor loop watch forwards hst hheld hdesired hcalm =>
    rw [hspend, hheld]
    rcases mem_crew.1 hchild with ⟨wait, rfl, rfl⟩ | ⟨rfl, rfl⟩
    · rw [filter_crew_watcher]
      exact .running executor loop none forwards hst rfl (by simp) (by simp)
    · rw [filter_crew_forwarder]
      exact .running executor loop watch false hst rfl hdesired (by simp)

/-- As nobody drops its trigger without a reason, a listener learns the reason and nothing
else. -/
theorem answer?_eq (h : s.Beside children) : s.quit.answer? = s.quit.reason.map some := by
  have hfirst : s.quit.held.head? = some true := by
    cases h with
    | early hstage hquit =>
      rw [hquit]
      rfl
    | running executor loop watch forwards hst hheld =>
      rw [hheld]
      rfl
  have hheld : s.quit.isReleased = false := by
    unfold QuitRequest.isReleased
    cases hlist : s.quit.held with
    | nil => simp [hlist] at hfirst
    | cons first rest =>
      obtain rfl : first = true := by simpa [hlist] using hfirst
      simp
  unfold QuitRequest.answer?
  cases s.quit.reason <;> simp [hheld]

end Beside

end Session

/-! ## Scenes -/

namespace Scene

/-- Whoever is there stands beside the session under way. -/
structure Accompanied (f : Scene) : Prop where
  alone : f.session = none → f.children = []
  beside : ∀ s ∈ f.session, s.Beside f.children

namespace Accompanied

variable {f f' : Scene}

theorem congr (h : f.Accompanied) (hsession : f'.session = f.session)
    (hchildren : f'.children = f.children) : f'.Accompanied where
  alone := by
    rw [hsession, hchildren]
    exact h.alone
  beside := by
    rw [hsession, hchildren]
    exact h.beside

theorem of_some {s : Session} (hs : f.session = some s) (h : s.Beside f.children) :
    f.Accompanied where
  alone hnone := by
    rw [hs] at hnone
    cases hnone
  beside t ht := by
    rw [hs] at ht
    obtain rfl := Option.some.inj ht
    exact h

theorem of_none (hs : f.session = none) (hchildren : f.children = []) : f.Accompanied where
  alone _ := hchildren
  beside t ht := by
    rw [hs] at ht
    cases ht

/-- Everybody leaves with a session that ends or is cut off. -/
theorem childrenAfterCut (h : f.Accompanied) : f.childrenAfterCut = [] := by
  unfold Scene.childrenAfterCut
  cases hs : f.session with
  | none => exact h.alone hs
  | some s => exact (h.beside s hs).filter_session

theorem cancelCycle (h : f.Accompanied) : f.cancelCycle.Accompanied := by
  unfold Scene.cancelCycle
  split
  · exact .of_none rfl h.childrenAfterCut
  · exact h

theorem decide (h : f.Accompanied) (t : Termination) : (f.decide t).Accompanied := by
  have hsame : ({ f with coordinator := f.coordinator.conclude t : Scene }.tell
      (.terminated t)).Accompanied := h.congr rfl rfl
  exact hsame.cancelCycle

theorem endSession (h : f.Accompanied) {s : Session} (hs : f.session = some s) :
    (f.endSession s).Accompanied :=
  .of_none rfl (h.beside s hs).filter_session

/-- The session goes on. -/
theorem go (h : f.Accompanied) {s s' : Session} (hs : f.session = some s)
    (hs' : f'.session = some s') (hchildren : f'.children = f.children)
    {executor executor' : Executor} {loop loop' : LoopPhase}
    (hst : s.stage = .running executor loop) (hst' : s'.stage = .running executor' loop')
    (hid : s'.id = s.id) (hquit : s'.quit = s.quit)
    (hlistening : executor = .listening → s.quit.reason = none → executor' = .listening) :
    f'.Accompanied := by
  refine .of_some hs' ?_
  rw [hchildren]
  exact (h.beside s hs).go hst hst' hid hquit hlistening

/-- A task asks the session to quit, and leaves. -/
theorem raiseQuit (h : f.Accompanied) {child : Child} (hchild : child ∈ f.children)
    (r : QuitReason) : (f.raiseQuit child r).Accompanied := by
  cases hs : f.session with
  | none =>
    rw [h.alone hs] at hchild
    cases hchild
  | some s =>
    have hbeside := h.beside s hs
    have hid : s.id = child.session := (hbeside.session_eq hchild).symm
    refine .of_some (s := { s with quit := s.quit.spend child.trigger r }) ?_
      (hbeside.raiseQuit hchild r)
    simp [Scene.raiseQuit, hs, hid]

theorem act (h : f.Accompanied) (hord : f.toFrame.Orderly) {m : Move} (hs : f.Act m f') :
    f'.Accompanied := by
  cases hs with
  | fire | firstSignal => exact h.congr rfl rfl
  | decide t => exact h.decide t
  | secondSignal s b =>
    have hsame : ((f.put (f.conduct.setSignals b)).tell (.signalTaken s)).Accompanied :=
      h.congr rfl rfl
    exact hsame.decide _
  | ignoreSignals | beginStop | beginWaiting | keepWaiting => exact h.congr rfl rfl
  | beginSession wait hc =>
    have hnone : f.session = none := hord.session_eq_none (by rw [hc]; rintro ⟨⟩)
    refine .of_some (s := f.nextSession) rfl ?_
    have hchildren : (f.tell (.checked f.sees)).startSession.children = [] := h.alone hnone
    rw [hchildren]
    exact .early rfl rfl
  | loopWent s executor p p' hs hst =>
    exact h.go hs rfl rfl hst rfl rfl rfl (fun hlisten _ => hlisten)
  | loopEnded s executor p hs hst =>
    exact h.go hs rfl rfl hst rfl rfl rfl (fun hlisten _ => hlisten)
  | loopPanicked => exact .of_none rfl h.childrenAfterCut
  | skipStopped s wait hs => exact h.endSession hs
  | beginRemoval s loop r hs hst hr =>
    refine h.go hs (f.session_requestRemoval s loop) (f.children_requestRemoval s loop) hst rfl rfl
      rfl ?_
    -- A session that removes its driver was asked to quit.
    intro _ hreason
    rw [(h.beside s hs).answer?_eq, hreason] at hr
    cases hr
  | sessionEnded s timer hs =>
    have hdrop : (f.dropTimer timer).Accompanied := h.congr rfl rfl
    exact hdrop.endSession hs
  | keepSkipping s wait hs hst =>
    refine .of_some rfl ((h.beside s hs).wait ?_ rfl rfl)
    rw [hst]
    rfl
  | skipEnded s wait hs =>
    have htell : (f.tell (.checked f.sees)).Accompanied := h.congr rfl rfl
    exact htell.endSession hs
  | stopForwarded child hchild => exact h.raiseQuit hchild _
  | keepWatching child wait hchild htask =>
    cases hs : f.session with
    | none =>
      rw [h.alone hs] at hchild
      cases hchild
    | some s => exact .of_some hs ((h.beside s hs).keepWatching hchild htask rfl)
  | removalSeen child wait hchild =>
    have htell : (f.tell (.checked f.sees)).Accompanied := h.congr rfl rfl
    exact htell.raiseQuit hchild _
  | added s timer call ok hs hst =>
    have hstage : s.stage.isRunning = false := by
      rw [hst]
      rfl
    obtain ⟨hchildren, -⟩ := (h.beside s hs).eq_nil hstage
    refine .of_some (s := ({ s with activatedAt := some f.now } : Session).looped) rfl ?_
    have hcrew : (((f.endCall call).dropTimer timer).runLoop
        { s with activatedAt := some f.now }).children =
          crew s.id (some (.start false f.now)) true := congrArg (· ++ _) hchildren
    rw [hcrew]
    refine .running .listening .active (some (.start false f.now)) true rfl rfl ?_ ?_
    · rintro wait ⟨rfl⟩
      rfl
    · exact fun _ => ⟨rfl, rfl, rfl⟩
  | skipped s timer call hs hst | addPanicked s timer call reason hs hst =>
    refine .of_some rfl ((h.beside s hs).wait ?_ rfl rfl)
    rw [hst]
    rfl
  | driverRemoved s timer loop call hs hst | removalFailed s timer loop call hs hst =>
    exact h.go hs rfl rfl hst rfl rfl rfl (by rintro ⟨⟩)
  | stopped | lateEnd => exact h.congr rfl rfl

theorem step (h : f.Accompanied) (hord : f.toFrame.Orderly) {o : Occurrence}
    (hs : f.Step o f') : f'.Accompanied := by
  cases hs with
  | stay => exact h
  | files | signal | closeSignals | pass => exact h.congr rfl rfl
  | act hact => exact h.act hord hact

end Accompanied

end Scene

/-- In every run whoever is there stands beside the session under way. -/
theorem Supervision.accompanied_after {L : EventLoop} (s : Supervision L) (os : List Occurrence) :
    (s.after os).scene.Accompanied :=
  s.scene_induction (P := fun _ f => f.Accompanied) (.of_none s.session_start s.children_start)
    (fun os _ _ hs h => h.step (s.orderly_after os) hs) os

end Hotplug
