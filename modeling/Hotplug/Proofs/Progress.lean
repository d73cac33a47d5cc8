import Hotplug.Proofs.Closing
import Mathlib.Algebra.Order.BigOperators.Group.List
import Mathlib.Algebra.Order.Ring.Nat

/-!
# Progress

A run on its way to its end does not stay at one moment for ever, as long as its event loop does
not: whatever else moves leaves less to do at that moment.

* `Scene.work` — how much there is to do at most, until the run ends or time passes.
* `Scene.Act.work_lt` — every move but those of the event loop lessens it.
-/

namespace Hotplug

open Scene (Act Step)

/-! ## Looks -/

/-- What a task beside a session has to do: to look, and to end. -/
def Child.load (now : Nat) (child : Child) : Nat :=
  if (child.dueLook? now).isSome then 2 else 1

/-- Whether a session has to look. -/
def Stage.load (now : Nat) : Stage → Nat
  | skipping wait => if wait.due ≤ now then 1 else 0
  | _ => 0

/-- How many turns a session takes to its end. -/
def Stage.distance : Stage → Nat
  | activating _ => 5
  | running .listening _ => 4
  | running (.removing _) _ => 3
  | running (.removed _) _ => 2
  | skipping _ => 2
  | stranded _ | running (.failed _) _ => 0

/-- How many turns the supervisor's own loop takes to its end, without those of its session. -/
def CyclePhase.distance : CyclePhase → Nat
  | deciding | waiting _ | inSession => 3
  | stopping => 2
  | finished => 1
  | refused _ | attended | cancelled | panicked => 0

/-- Whether the coordinator may have to find that no signal can come any more. -/
def Coordinator.load (k : Coordinator) : Nat :=
  if k.signalsOpen then 1 else 0

theorem Child.load_pos (now : Nat) (child : Child) : 0 < child.load now := by
  unfold load
  split <;> omega

namespace Scene

variable {f f' : Scene} {t time : Nat}

/-! ## The work at one moment -/

/-- How many turns there are to the end. -/
def distance (f : Scene) : Nat :=
  f.cycle.distance + f.stage?.elim 0 (·.distance)

/-- What there is to do beside these turns. -/
def load (f : Scene) : Nat :=
  f.coordinator.load + f.stage?.elim 0 (·.load f.now) + (f.children.map (·.load f.now)).sum

/-- How much there is to do, at most, until the run ends or time passes.  A turn brings up to
three things to do with it. -/
def work (f : Scene) : Nat :=
  4 * f.distance + f.load

theorem work_lt_of_distance (hd : f'.distance < f.distance) (hl : f'.load ≤ f.load + 3) :
    f'.work < f.work := by
  unfold work
  omega

theorem work_lt_of_load (hd : f'.distance = f.distance) (hl : f'.load < f.load) :
    f'.work < f.work := by
  unfold work
  omega

theorem distance_of_session {s : Session} (hs : f.session = some s) :
    f.distance = f.cycle.distance + s.stage.distance := by
  simp [distance, stage?, hs]

theorem load_of_session {s : Session} (hs : f.session = some s) :
    f.load = f.coordinator.load + s.stage.load f.now + (f.children.map (·.load f.now)).sum := by
  simp [load, stage?, hs]

/-- The session turns to another stage. -/
theorem work_lt_of_turn {s s' : Session} (hs : f.session = some s) (hs' : f'.session = some s')
    (hnow : f'.now = f.now) (hcycle : f'.cycle = f.cycle) (hchildren : f'.children = f.children)
    (hpolls : f'.coordinator.load = f.coordinator.load)
    (hd : s'.stage.distance < s.stage.distance) (hl : s'.stage.load f.now ≤ 1) :
    f'.work < f.work := by
  refine work_lt_of_distance ?_ ?_
  · rw [distance_of_session hs, distance_of_session hs', hcycle]
    omega
  · rw [load_of_session hs, load_of_session hs', hnow, hchildren, hpolls]
    omega

/-- The session ends. -/
theorem work_lt_of_leave {s : Session} (hs : f.session = some s) (hs' : f'.session = none)
    (hnow : f'.now = f.now) (hcycle : f'.cycle = .deciding) (hbefore : f.cycle = .inSession)
    (hpolls : f'.coordinator.load = f.coordinator.load) (hd : 0 < s.stage.distance)
    {p : Child → Bool} (hchildren : f'.children = f.children.filter p) : f'.work < f.work := by
  refine work_lt_of_distance ?_ ?_
  · rw [distance_of_session hs, hbefore]
    simp only [distance, stage?, hs', hcycle, CyclePhase.distance, Option.map_none,
      Option.elim_none]
    omega
  · have hle : ((f.children.filter p).map (·.load f.now)).sum ≤
        (f.children.map (·.load f.now)).sum :=
      (List.filter_sublist.map _).sum_le_sum fun _ _ => Nat.zero_le _
    rw [load_of_session hs]
    simp only [load, stage?, hs', hnow, hchildren, hpolls, Option.map_none, Option.elim_none]
    omega

/-- Somebody beside the session asks it to quit, and leaves. -/
theorem work_raiseQuit_lt {child : Child} (hchild : child ∈ f.children) (r : QuitReason) :
    (f.raiseQuit child r).work < f.work := by
  have hstage : (f.raiseQuit child r).stage? = f.stage? := stage_raiseQuit f child r
  refine work_lt_of_load ?_ ?_
  · unfold distance
    rw [hstage]
    rfl
  · have hlt : ((f.children.filter (· ≠ child)).map (·.load f.now)).sum <
        (f.children.map (·.load f.now)).sum := by
      have hall := List.sum_map_filter_add_sum_map_filter_not (· ≠ child)
        (fun c : Child => c.load f.now) f.children
      have hmem : child.load f.now ∈
          (f.children.filter fun c => ¬ c ≠ child).map (·.load f.now) :=
        List.mem_map_of_mem (by simp [hchild])
      have hone := List.single_le_sum (fun _ _ => Nat.zero_le _) _ hmem
      have hpos := child.load_pos f.now
      omega
    unfold load
    rw [hstage]
    exact Nat.add_lt_add_left hlt _

/-- What the event loop does is no work. -/
theorem work_of_running {s s' : Session} {executor : Executor} {p p' : LoopPhase}
    (hs : f.session = some s) (hst : s.stage = .running executor p) (hs' : f'.session = some s')
    (hst' : s'.stage = .running executor p') (hnow : f'.now = f.now) (hcycle : f'.cycle = f.cycle)
    (hchildren : f'.children = f.children) (hpolls : f'.coordinator.load = f.coordinator.load) :
    f'.work = f.work := by
  have hd : s'.stage.distance = s.stage.distance := by
    rw [hst, hst']
    cases executor <;> rfl
  have hl : s'.stage.load f.now = s.stage.load f.now := by
    rw [hst, hst']
    rfl
  unfold work
  rw [distance_of_session hs, distance_of_session hs', load_of_session hs, load_of_session hs',
    hnow, hcycle, hchildren, hpolls, hd, hl]

/-- A move of the event loop leaves as much to do as there was. -/
theorem Act.work_eq (hhealthy : f'.Healthy) (hs : f.Act .eventLoop f') : f'.work = f.work := by
  cases hs with
  | loopWent s executor p p' hs hst | loopEnded s executor p hs hst =>
    exact work_of_running hs hst rfl rfl rfl rfl rfl rfl
  | loopPanicked s executor p reason =>
    exact absurd (mem_outline_panicLoop f reason) (hhealthy.noPanic f.now reason none)

/-- Any other move leaves less to do. -/
theorem Act.work_lt (h : f.Closing t time) {g : Settings} (hord : f.toFrame.Orderly)
    (hreached : f.conduct.Reached g) (htime : time < t + g.shutdown.gracePeriod)
    (hpoll : 0 < f.setup.pollInterval) (hhealthy : f'.Healthy) {m : Move} (hs : f.Act m f')
    (hm : m ≠ .eventLoop) (hrun : f'.coordinator.isRunning = true) : f'.work < f.work := by
  have hsteer := hreached.steered
  have hup := h.isRaised hsteer
  have hover : f.coordinator.stop.isOver = true := by simp [StopFlag.isOver, hup]
  obtain ⟨grace, hphase⟩ := h.phase
  -- Whoever looks in vain does not look again at this moment.
  have hlater : ∀ wait, ¬ (f.later wait).due ≤ f.now := by
    intro wait hle
    have hle : f.now + f.setup.pollInterval ≤ f.now := hle
    omega
  cases hs with
  | fire a ha hdue =>
    have hlt := h.sound.lt_deadline hord hsteer (fun a => h.lt_grace hreached.caused htime) ha
    omega
  | decide x | secondSignal => simp [Coordinator.isRunning, phase_decide] at hrun
  | firstSignal s b hawaiting =>
    rw [hphase] at hawaiting
    cases hawaiting
  | ignoreSignals _ hopen =>
    have hless : f.coordinator.ignoreSignals.load < f.coordinator.load := by
      simp [Coordinator.load, Coordinator.ignoreSignals, hopen]
    exact work_lt_of_load rfl (Nat.add_lt_add_right (Nat.add_lt_add_right hless _) _)
  | beginStop hc =>
    have hidle : f.cycle.distance = 3 ∧ f.cycle ≠ .inSession := by
      rcases hc with ⟨hc, -⟩ | ⟨⟨wait, hc⟩, -⟩
      · simp [hc, CyclePhase.distance]
      · simp [hc, CyclePhase.distance]
    obtain ⟨hd, hc⟩ := hidle
    have hstage : f.stage? = none := by simp [stage?, hord.session_eq_none hc]
    refine work_lt_of_distance ?_ (Nat.le_add_right _ 3)
    unfold distance
    rw [show ({ f with cycle := .stopping : Scene }.beginCall .stop).stage? = none from hstage,
      hstage, hd]
    exact Nat.lt_succ_self 2
  | beginWaiting hc hstop =>
    rw [hup] at hstop
    cases hstop
  | keepWaiting wait hc hstop | beginSession wait hc hstop =>
    rw [hover] at hstop
    cases hstop
  | loopWent | loopEnded | loopPanicked => exact absurd rfl hm
  | skipStopped s _ hs hst | skipEnded s _ hs hst | sessionEnded s _ hs hst =>
    exact work_lt_of_leave hs rfl rfl rfl (hord.cycle_eq hs) rfl (by simp [hst, Stage.distance]) rfl
  | beginRemoval s loop r hs hst =>
    refine work_lt_of_turn hs (f.session_requestRemoval s loop) (f.now_requestRemoval s loop)
      (f.cycle_requestRemoval s loop) (f.children_requestRemoval s loop) ?_ ?_
      (by simp [Stage.load])
    · rw [f.coordinator_requestRemoval]
      rfl
    · simp [hst, Stage.distance]
  | keepSkipping s wait hs hst hdue =>
    have hs' : ((f.tell (.checked f.sees)).setSession
        { s with stage := .skipping (f.later wait) }).session =
      some { s with stage := .skipping (f.later wait) } := rfl
    refine work_lt_of_load ?_ ?_
    · rw [distance_of_session hs, distance_of_session hs', hst]
      rfl
    · rw [load_of_session hs, load_of_session hs', hst]
      change f.coordinator.load + Stage.load f.now (.skipping (f.later wait)) +
        (f.children.map (·.load f.now)).sum < _
      simp [Stage.load, hdue, hlater wait]
  | stopForwarded child hchild => exact work_raiseQuit_lt hchild _
  | removalSeen child wait hchild =>
    have hlook : (f.tell (.checked f.sees)).work = f.work := rfl
    rw [← hlook]
    exact work_raiseQuit_lt (f := f.tell (.checked f.sees)) hchild _
  | keepWatching child wait hchild htask hdue =>
    have hless : ({ child with task := .watchRemoval (f.later wait) } : Child).load f.now <
        child.load f.now := by
      simp [Child.load, Child.dueLook?, htask, hdue, hlater wait]
    refine work_lt_of_load rfl (Nat.add_lt_add_left ?_ _)
    change ((f.children.map _).map fun c : Child => c.load f.now).sum < _
    rw [List.map_map]
    refine List.sum_lt_sum _ _ (fun other _ => ?_) ⟨child, hchild, ?_⟩
    · dsimp only [Function.comp_apply]
      split
      · rw [‹other = child›]
        exact Nat.le_of_lt hless
      · exact Nat.le_refl _
    · simpa using hless
  | added s timer call ok hs hst =>
    have hs' : (((f.endCall call).dropTimer timer).runLoop
        { s with activatedAt := some f.now }).session =
      some ({ s with activatedAt := some f.now } : Session).looped := rfl
    refine work_lt_of_distance ?_ ?_
    · rw [distance_of_session hs, distance_of_session hs', hst]
      exact Nat.lt_succ_self _
    · rw [load_of_session hs, load_of_session hs', hst]
      change f.coordinator.load + _ +
        ((f.children ++ [_, _]).map fun c : Child => c.load f.now).sum ≤ _
      simp [Stage.load, Child.load, Child.dueLook?, Session.looped, PresenceWait.start, endCall,
        tell, dropTimer, Nat.add_assoc]
  | skipped s timer call hs hst =>
    refine work_lt_of_turn hs rfl rfl rfl rfl rfl ?_ ?_
    · simp [hst, Stage.distance]
    · simp [Stage.load, PresenceWait.start]
  | addPanicked s timer call reason hs hst hend hkind hresult =>
    exact absurd hresult (h.sound.not_panicked hend hkind reason)
  | driverRemoved s timer loop call hs hst =>
    refine work_lt_of_turn hs rfl rfl rfl rfl rfl ?_ (by simp [Stage.load])
    simp [hst, Stage.distance]
  | removalFailed s timer loop call hs hst hend hkind hresult =>
    exact absurd (h.sound.removes hend hkind) hresult
  | stopped call hc =>
    refine work_lt_of_distance ?_ (Nat.le_add_right _ 3)
    unfold distance
    rw [hc]
    exact Nat.add_lt_add_right (Nat.lt_succ_self 1) _
  | lateEnd call hc => exact absurd hc h.sound.not_cut

end Scene

end Hotplug
