import Hotplug.Proofs.Scene.Moves
import Hotplug.Proofs.Steps

/-!
# Whatever happens is a step of the scene

* `act_endCall` — a call ends.
* `act_attempt` — one of the moves.
* `rests_of_mayPass` — time passes only while nobody but the event loop has anything to do.
* `scene_occur` — whatever happens in an orderly world is a step of its scene.
-/

namespace Hotplug

open Scene (Act CanEnd Rests Step)

variable {L : EventLoop} {w w' : World L}

/-! ## The ends of calls -/

section Calls

variable {v : World L} {s : Session} {timer : TimerId} {loop : LoopPhase} {call : Call}

theorem act_activated (hs : w.session = some s) (hst : s.stage = .activating timer)
    (hend : w.scene.CanEnd call) (hk : call.kind = .add) (ok : Bool)
    (hr : call.result = .returned ok) (hv : v.scene = w.scene.endCall call) :
    Act w.scene .endCall (v.activated s timer ok).scene := by
  let u : World L := (v.cancelTimer timer .driverActivationTimeout).write
    (·.measure fun m => { m with sessionsStarted := m.sessionsStarted + 1 })
  have hu : u.scene = (w.scene.endCall call).dropTimer timer := by
    rw [← hv]
    exact World.scene_cancelTimer v timer .driverActivationTimeout
  have hnow : u.now = w.now := congrArg (fun f : Scene => f.now) hu
  have hsettings : u.setup.settings = w.setup.settings :=
    congrArg (fun f : Scene => f.setup.settings) hu
  have hrun : ∀ x : World L, x.scene = u.scene →
      (x.runLoop { s with activatedAt := some u.now }).scene =
        ((w.scene.endCall call).dropTimer timer).runLoop { s with activatedAt := some w.now } := by
    intro x hx
    rw [World.scene_runLoop, hx, hu, hnow]
  cases ok with
  | true =>
    exact (Act.added s timer call true hs hst hend hk hr (.inl rfl)).cast (hrun u rfl)
  | false =>
    unfold World.activated
    simp only [Bool.false_eq_true, if_false]
    split
    next hpolicy =>
      rw [hsettings] at hpolicy
      refine (Act.added s timer call false hs hst hend hk hr (.inr hpolicy)).cast ?_
      exact hrun _ (World.scene_log u _ _ rfl)
    next hpolicy =>
      rw [hsettings] at hpolicy
      refine (Act.skipped s timer call hs hst hend hk hr hpolicy).cast ?_
      rw [World.scene_setSession, World.scene_log u _ _ rfl, hu, hnow]
      rfl

theorem act_addEnded (hs : w.session = some s) (hst : s.stage = .activating timer)
    (hend : w.scene.CanEnd call) (hk : call.kind = .add)
    (hv : v.scene = w.scene.endCall call) :
    Act w.scene .endCall (v.addEnded call.result).scene := by
  have hs' : v.session = some s := (congrArg (fun f : Scene => f.session) hv).trans hs
  unfold World.addEnded
  simp only [hs', hst]
  cases hr : call.result with
  | returned ok =>
    refine act_activated hs hst hend hk ok hr ?_
    rw [← hv]
    exact World.scene_eq _ (World.frame_congr v rfl rfl rfl rfl hs'.symm rfl rfl rfl) rfl rfl rfl
  | panicked reason =>
    refine (Act.addPanicked s timer call reason hs hst hend hk hr).cast ?_
    rw [World.scene_setSession, World.scene_log _ _ _ rfl, ← hv]
    rfl

theorem act_removeEnded (hs : w.session = some s)
    (hst : s.stage = .running (.removing timer) loop) (hend : w.scene.CanEnd call)
    (hk : call.kind = .remove) (hv : v.scene = w.scene.endCall call) :
    Act w.scene .endCall (v.removeEnded call.result).scene := by
  have hs' : v.session = some s := (congrArg (fun f : Scene => f.session) hv).trans hs
  have hfailed : ∀ (u : World L) (m : Message), u.scene = v.scene → m.isLoopPanic = false →
      call.result ≠ .returned true →
        Act w.scene .endCall (u.removalFailed s timer loop m).scene := by
    intro u m hu hm hr
    refine (Act.removalFailed s timer loop call hs hst hend hk hr).cast ?_
    unfold World.removalFailed
    rw [World.scene_transition, World.scene_log _ _ _ hm, hu, hv]
  unfold World.removeEnded
  simp only [hs', hst]
  cases hr : call.result with
  | returned ok =>
    cases ok with
    | true =>
      refine (Act.driverRemoved s timer loop call hs hst hend hk hr).cast ?_
      rw [← hv]
      rfl
    | false =>
      refine hfailed _ _ (World.scene_eq _ ?_ rfl rfl rfl) rfl (by simp [hr])
      exact World.frame_congr v rfl rfl rfl rfl hs'.symm rfl rfl rfl
  | panicked reason => exact hfailed _ _ rfl rfl (by simp [hr])

theorem act_stopEnded (hc : w.cycle = .stopping) (hend : w.scene.CanEnd call)
    (hk : call.kind = .stop) (hv : v.scene = w.scene.endCall call) :
    Act w.scene .endCall (v.stopEnded call.result).scene := by
  have hc' : v.dropManager.cycle = .stopping :=
    (congrArg (fun f : Scene => f.cycle) hv).trans hc
  -- Whatever is logged meanwhile, the run is asked to end as completed.
  have hpost : ∀ u : World L, u.scene = v.scene →
      ({ ({ u with
          coordinator := (u.coordinator.post u.chronicle .completed).1
          chronicle := (u.coordinator.post u.chronicle .completed).2 } : World L).dropConsumers with
        cycle := .finished } : World L).scene =
        { (w.scene.endCall call).put ((w.scene.endCall call).conduct.post .completed) with
          cycle := .finished } := by
    intro u hu
    have hconduct := Coordinator.conduct_post u.coordinator u.chronicle .completed u.frame.duty
      u.sessionCount
    have hput := World.scene_put u (congrArg Conduct.now hconduct)
      (congrArg Conduct.coordinator hconduct) (congrArg Conduct.outline hconduct)
    have hdrop := (World.scene_dropConsumers _).trans hput
    have hsame : u.scene.put (u.scene.conduct.post .completed) =
        (w.scene.endCall call).put ((w.scene.endCall call).conduct.post .completed) := by
      rw [hu, hv]
    exact congrArg (fun f : Scene => { f with cycle := CyclePhase.finished }) (hdrop.trans hsame)
  refine (Act.stopped call hc hend hk).cast ?_
  unfold World.stopEnded
  simp only [hc']
  cases call.result with
  | returned ok => exact hpost v.dropManager rfl
  | panicked reason =>
    exact hpost (v.dropManager.write (·.log (.stopPanicked reason)))
      (World.scene_log v.dropManager _ none rfl)

end Calls

theorem act_endCall (h : w.frame.Orderly) (hw : w.endCall? = some w') :
    Act w.scene .endCall w'.scene := by
  obtain ⟨call, hfind, rfl⟩ := Option.map_eq_some_iff.1 hw
  have hmem : call ∈ w.frame.calls := List.mem_of_find?_eq_some hfind
  obtain ⟨hcalls, hd⟩ := h.call_eq hmem
  have hover : call.isOver w.now = true := by simpa using List.find?_some hfind
  have hend : w.scene.CanEnd call := ⟨hcalls, hover⟩
  dsimp only
  generalize hv : World.write { w with calls := w.calls.erase call }
    (·.record (.callEnded call.kind call.result)) = v
  have hv' : v.scene = w.scene.endCall call := by
    rw [← hv]
    exact World.scene_record _ _ rfl
  cases hs : w.session with
  | none =>
    have hs' : v.session = none := (congrArg (fun f : Scene => f.session) hv').trans hs
    obtain ⟨hk, hc⟩ | hcut := h.duty_of_call hs hd
    · rw [hk]
      exact act_stopEnded hc hend hk hv'
    · have hc := h.cycle_of_cut hcut
      have hend' : v.dropManager.cycle = w.cycle := congrArg (fun f : Scene => f.cycle) hv'
      have hlate : Act w.scene .endCall v.dropManager.scene :=
        (Act.lateEnd call hc hend).cast hv'
      cases hk : call.kind with
      | add => simpa [World.addEnded, hs'] using hlate
      | remove => simpa [World.removeEnded, hs'] using hlate
      | stop =>
        rcases hc with hc | hc
        · simpa [World.stopEnded, hend'.trans hc] using hlate
        · simpa [World.stopEnded, hend'.trans hc] using hlate
  | some s =>
    have hds : s.duty.call? = some call.kind := by
      rw [← h.duty_eq hs]
      exact hd
    cases hk : call.kind with
    | add =>
      obtain ⟨timer, hst⟩ := s.stage_of_adding (hds.trans (congrArg some hk))
      exact act_addEnded hs hst hend hk hv'
    | remove =>
      obtain ⟨timer, loop, hst⟩ := s.stage_of_removing (hds.trans (congrArg some hk))
      exact act_removeEnded hs hst hend hk hv'
    | stop => exact absurd (hds.trans (congrArg some hk)) s.call?_duty_ne_stop

/-! ## Every move -/

theorem act_attempt (h : w.frame.Orderly) {m : Move} (hw : w.attempt m = some w') :
    Act w.scene m w'.scene := by
  cases m with
  | fireTimer => exact act_fireTimer hw
  | decide => exact act_decide h hw
  | takeSignal => exact act_takeSignal h hw
  | cycle => exact act_cycle hw
  | eventLoop => exact act_eventLoop h hw
  | session => exact act_session h hw
  | skip => exact act_skip h hw
  | forwardStop => exact act_forwardStop hw
  | watchRemoval => exact act_watchRemoval hw
  | endCall => exact act_endCall h hw

/-! ## Time -/

/-- Time passes at most up to the next moment at which anything happens by itself. -/
theorem le_due_of_mayPass {time due : Nat} (hw : w.mayPass time = true) (hdue : due ∈ w.dues)
    (hlt : w.now < due) : time ≤ due := by
  simp only [World.mayPass, Bool.and_eq_true] at hw
  obtain ⟨-, hnext⟩ := hw
  have hmem : due ∈ w.dues.filter (w.now < ·) := by
    rw [List.mem_filter]
    exact ⟨hdue, by simpa using hlt⟩
  cases hmin : w.nextDue? with
  | none =>
    rw [World.nextDue?, List.min?_eq_none_iff] at hmin
    rw [hmin] at hmem
    cases hmem
  | some first =>
    have hle : time ≤ first := by simpa [hmin] using hnext
    exact Nat.le_trans hle ((List.min?_eq_some_iff.1 hmin).2 _ hmem)

theorem attempt_eq_none (hw : w.next? = none) (m : Move) : w.attempt m = none :=
  List.findSome?_eq_none_iff.1 hw m (by cases m <;> decide)

theorem waits_of_mayPass {time : Nat} (hw : w.mayPass time = true) (hnext : w.next? = none)
    {wait : PresenceWait} (hc : w.cycle = .waiting wait) :
    w.coordinator.stop.isOver = false ∧ w.now < wait.due ∧ time ≤ wait.due := by
  have hcycle : w.cycle? = none := attempt_eq_none hnext .cycle
  unfold World.cycle? at hcycle
  simp only [hc] at hcycle
  split at hcycle
  · cases hcycle
  · rename_i hover
    split at hcycle
    · split at hcycle <;> cases hcycle
    · rename_i hdue
      have hlt : w.now < wait.due := Nat.lt_of_not_le hdue
      refine ⟨eq_false_of_ne_true hover, hlt, le_due_of_mayPass hw ?_ hlt⟩
      simp [World.dues, World.cycleDue?, hc]

theorem skips_of_mayPass {time : Nat} (hw : w.mayPass time = true) (hnext : w.next? = none)
    {s : Session} {wait : PresenceWait} (hs : w.session = some s) (hst : s.stage = .skipping wait) :
    w.coordinator.stop.isOver = false ∧ w.now < wait.due ∧ time ≤ wait.due := by
  have hsession : w.session? = none := attempt_eq_none hnext .session
  have hskip : w.skip? = none := attempt_eq_none hnext .skip
  have hover : w.coordinator.stop.isOver = false := by
    simpa [World.session?, hs, hst] using hsession
  have hlt : w.now < wait.due := by
    unfold World.skip? at hskip
    simp only [hs, hst] at hskip
    split at hskip
    · split at hskip <;> cases hskip
    · exact Nat.lt_of_not_le ‹_›
  refine ⟨hover, hlt, le_due_of_mayPass hw ?_ hlt⟩
  simp [World.dues, World.sessionDue?, hs, hst]

theorem watches_of_mayPass {time : Nat} (hw : w.mayPass time = true) (hnext : w.next? = none)
    {child : Child} (hchild : child ∈ w.children) {wait : PresenceWait}
    (htask : child.task = .watchRemoval wait) : w.now < wait.due ∧ time ≤ wait.due := by
  have hwatch : w.watchRemoval? = none := attempt_eq_none hnext .watchRemoval
  have hnone := List.findSome?_eq_none_iff.1 (Option.map_eq_none_iff.1 hwatch) child hchild
  have hlt : w.now < wait.due := by
    simp only [Child.dueLook?, htask] at hnone
    split at hnone
    · cases hnone
    · exact Nat.lt_of_not_le ‹_›
  refine ⟨hlt, le_due_of_mayPass hw ?_ hlt⟩
  simp only [World.dues, List.mem_append, List.mem_filterMap]
  exact .inl (.inr ⟨child, hchild, by simp [World.childDue?, htask]⟩)

theorem endless_of_mayPass {time : Nat} (hw : w.mayPass time = true) (hnext : w.next? = none)
    {call : Call} (hcall : call ∈ w.calls) {e : Nat} (he : call.ends = some e) :
    w.now < e ∧ time ≤ e := by
  have hendCall : w.endCall? = none := attempt_eq_none hnext .endCall
  have hnone := List.find?_eq_none.1 (Option.map_eq_none_iff.1 hendCall) call hcall
  have hlt : w.now < e := by
    simpa [Call.isOver, he] using hnone
  refine ⟨hlt, le_due_of_mayPass hw ?_ hlt⟩
  simp only [World.dues, List.mem_append, List.mem_filterMap]
  exact .inr ⟨call, hcall, he⟩

/-- Time passes only while nobody but the event loop has anything to do. -/
theorem rests_of_mayPass {time : Nat} (hw : w.mayPass time = true) : w.scene.Rests time := by
  have hpass := hw
  simp only [World.mayPass, Bool.and_eq_true, Option.isNone_iff_eq_none, decide_eq_true_eq] at hpass
  obtain ⟨⟨hnext, hle⟩, -⟩ := hpass
  have hsession : w.session? = none := attempt_eq_none hnext .session
  refine ⟨hle, ?_, posted_eq_nil_of_next?_eq_none hnext, ?_, ?_,
    fun _ hc => waits_of_mayPass hw hnext hc,
    fun _ _ hs hst => skips_of_mayPass hw hnext hs hst, ?_, ?_, ?_,
    fun _ hchild _ htask => watches_of_mayPass hw hnext hchild htask,
    fun _ hcall _ he => endless_of_mayPass hw hnext hcall he⟩
  · intro a ha
    exact ⟨lt_deadline_of_next?_eq_none hnext a ha, le_deadline_of_mayPass hw a ha⟩
  · have htake : w.takeSignal? = none := attempt_eq_none hnext .takeSignal
    exact Coordinator.takeSignal?_eq_none.1 (Option.map_eq_none_iff.1 htake)
  · intro hc
    have hcycle : w.cycle? = none := attempt_eq_none hnext .cycle
    have hc' : w.cycle = .deciding := hc
    simp only [World.cycle?, hc'] at hcycle
    split at hcycle <;> cases hcycle
  · intro s loop hs hst
    have hs' : w.session = some s := hs
    simpa [World.session?, hs', hst] using hsession
  · intro s timer hs hst
    have hs' : w.session = some s := hs
    simp [World.session?, hs', hst] at hsession
  · intro hover child hchild htask
    have hforward : w.forwardStop? = none := attempt_eq_none hnext .forwardStop
    have hover' : w.coordinator.stop.isOver = true := hover
    unfold World.forwardStop? at hforward
    rw [if_pos hover'] at hforward
    have hnone := List.find?_eq_none.1 (Option.map_eq_none_iff.1 hforward) child hchild
    simp [htask] at hnone

/-! ## Whatever happens -/

theorem scene_notify (ns : List Notification) : (w.notify ns).2.scene = w.scene := by
  refine World.scene_eq _ (frame_notify ns) ?_ ?_ ?_
  · unfold World.notify
    split <;> rfl
  · unfold World.notify
    split <;> rfl
  · unfold World.notify
    split <;> rfl

/-- Nobody raises a reason to quit who has nothing to do. -/
theorem raises?_eq_none {m : Move} (hw : w.attempt m = none) (n : SessionId) :
    w.scene.raises? n (.move m) = none := by
  cases m with
  | watchRemoval =>
    refine if_neg ?_
    rintro ⟨⟨child, hchild, -, hdue⟩, -⟩
    have hnone := List.findSome?_eq_none_iff.1 (Option.map_eq_none_iff.1 hw) child hchild
    have hnone' : child.dueLook? w.scene.now = none := hnone
    rw [hnone'] at hdue
    cases hdue
  | forwardStop =>
    refine if_neg ?_
    rintro ⟨⟨child, hchild, -, htask⟩, hraised⟩
    have hraised' : w.coordinator.stop.isRaised = true := hraised
    have hover : w.coordinator.stop.isOver = true := by simp [StopFlag.isOver, hraised']
    have hforward : w.forwardStop? = none := hw
    unfold World.forwardStop? at hforward
    rw [if_pos hover] at hforward
    have hnone := List.find?_eq_none.1 (Option.map_eq_none_iff.1 hforward) child hchild
    simp [htask] at hnone
  | _ => rfl

/-- Whatever happens in an orderly world is a step of its scene. -/
theorem scene_occur (h : w.frame.Orderly) (o : Occurrence) :
    Step w.scene o (w.occur o).scene := by
  cases o with
  | move m =>
    cases hw : w.attempt m with
    | none => simpa [World.occur, hw] using Step.stay (.move m) (raises?_eq_none hw)
    | some w' => simpa [World.occur, hw] using Step.act (act_attempt h hw)
  | pass time =>
    by_cases hp : w.mayPass time = true
    · simp only [World.occur, hp, if_true]
      exact .pass time (rests_of_mayPass hp)
    · simpa [World.occur, hp] using
        Step.stay (f := w.scene) (.pass time) (fun _ => rfl)
  | signal s => exact .signal s _
  | closeSignals => exact .closeSignals _
  | notify ns =>
    have hscene : (w.occur (.notify ns)).scene = w.scene := scene_notify ns
    rw [hscene]
    exact .stay _ fun _ => rfl
  | detach => exact .stay _ fun _ => rfl
  | files t => exact .files t

end Hotplug
