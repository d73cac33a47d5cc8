import Hotplug.Proofs.Steps.Coordinator

/-!
# The ends of library calls

* `leads_addEnded`, `leads_removeEnded`, `leads_stopEnded` — a call ends that the supervisor
  waits for.
* `leads_lateEnd` — a call ends that nobody waits for any more.
* `leads_endCall` — all of them together.
-/

namespace Hotplug

open Conduct (Step)

open Hotplug.Frame (Leads)

variable {L : EventLoop} {w w' : World L}

section Calls

/-- The frame as the only call has ended. -/
def Frame.ended (f : Frame) (k : CallKind) (r : CallResult) : Frame :=
  { f with outline := (f.now, .callEnded k r) :: f.outline, calls := [] }

variable {s : Session} {timer : TimerId} {v : World L}

theorem Session.duty_of_activating (hst : s.stage = .activating timer) :
    s.duty = .adding s.id timer := by
  unfold Session.duty
  rw [hst]

theorem Session.duty_of_removing {loop : LoopPhase}
    (hst : s.stage = .running (.removing timer) loop) :
    s.duty = .removing s.id timer loop.isReturned := by
  unfold Session.duty
  rw [hst]

/-- A driver that is added, or that is not missed, lets the event loop run. -/
theorem leads_runLoop (h : w.frame.Orderly) (hs : w.session = some s)
    (hst : s.stage = .activating timer) (ok : Bool)
    (hok : ok = true ∨ w.setup.settings.driver.onActivationFailure = .proceed)
    {s' : Session} (hid : s'.id = s.id)
    (hstate : s'.state = s.state)
    (hv : v.frame = { w.frame.ended .add (.returned ok) with
      coordinator := { w.coordinator with timers := w.coordinator.timers.drop timer } }) :
    Leads w.frame (v.runLoop s').frame := by
  have hc := h.cycle_eq hs
  have hduty : w.frame.conduct.duty = .adding s.id timer :=
    (h.duty_eq hs).trans (s.duty_of_activating hst)
  have hnow : v.now = w.now := congrArg Frame.now hv
  have hsetup : v.setup = w.setup := congrArg Frame.setup hv
  have hact : s'.state = .activating := by
    rw [hstate, h.session_state s hs, hst]
    rfl
  have hlooped : s'.looped.duty = .serving s.id false := by
    rw [← hid]
    rfl
  rw [World.frame_runLoop, hv, hnow, hsetup, hact, hid]
  refine ⟨rfl, rfl, h.within rfl hc rfl (hid.trans (h.session_id s hs)) rfl
    (by simp [Session.looped]) rfl (by rw [hlooped]; rfl), ?_⟩
  refine (Step.added w.frame.conduct s.id timer ok hduty hok).cast ?_
  simp [Frame.conduct, Conduct.serve, Conduct.turn, Conduct.tell, Conduct.disarm,
    Conduct.setTimers, Frame.duty, Frame.ended, hc, hlooped]
  simp [World.frame, World.now, Setup.device]

theorem leads_activated (h : w.frame.Orderly) (hs : w.session = some s)
    (hst : s.stage = .activating timer) (ok : Bool)
    (hv : v.frame = w.frame.ended .add (.returned ok)) :
    Leads w.frame (v.activated s timer ok).frame := by
  let v' : World L := (v.cancelTimer timer .driverActivationTimeout).write
    (·.measure fun m => { m with sessionsStarted := m.sessionsStarted + 1 })
  have hk : v.coordinator = w.coordinator := congrArg Frame.coordinator hv
  have hv' : v'.frame = { w.frame.ended .add (.returned ok) with
      coordinator := { w.coordinator with timers := w.coordinator.timers.drop timer } } := by
    have hcancel := World.frame_cancelTimer v timer .driverActivationTimeout
    rw [hv, hk] at hcancel
    exact (World.frame_congr _ rfl rfl rfl rfl rfl rfl rfl rfl).trans hcancel
  have hsettings : v'.setup.settings = w.setup.settings :=
    congrArg (fun f : Frame => f.setup.settings) hv'
  let s' : Session := { s with activatedAt := some v'.now }
  cases ok with
  | true => exact leads_runLoop h hs hst true (.inl rfl) rfl rfl hv'
  | false =>
    unfold World.activated
    simp only [Bool.false_eq_true, if_false]
    split
    next hpolicy =>
      rw [hsettings] at hpolicy
      refine leads_runLoop h hs hst false (.inr hpolicy) rfl rfl ?_
      exact (World.frame_log _ _ _ rfl).trans hv'
    next hpolicy =>
      rw [hsettings] at hpolicy
      have hc := h.cycle_eq hs
      have hduty : w.frame.conduct.duty = .adding s.id timer :=
        (h.duty_eq hs).trans (s.duty_of_activating hst)
      have hstate : s.state = .activating := by
        rw [h.session_state s hs, hst]
        rfl
      change Leads w.frame
        ((v'.write (·.log .activationFailedSkipping s'.id)).setSession
          { s' with stage := .skipping (.start false v'.now) }).frame
      rw [World.frame_setSession, World.frame_log _ _ _ rfl, hv']
      refine ⟨rfl, rfl, h.within rfl hc rfl (h.session_id s hs) hstate ?_ rfl rfl, ?_⟩
      · rintro _ ⟨rfl⟩
        rfl
      · refine (Step.skipped w.frame.conduct s.id timer hduty hpolicy).cast ?_
        simp [Frame.conduct, Conduct.turn, Conduct.tell, Conduct.disarm, Conduct.setTimers,
          Frame.duty, Frame.ended, hc, Session.duty, s']
        simp [World.frame, World.now]

theorem leads_addEnded (h : w.frame.Orderly) (hs : w.session = some s)
    (hst : s.stage = .activating timer) (r : CallResult)
    (hv : v.frame = w.frame.ended .add r) : Leads w.frame (v.addEnded r).frame := by
  have hs' : v.session = some s := (congrArg Frame.session hv).trans hs
  unfold World.addEnded
  simp only [hs', hst]
  cases r with
  | returned ok =>
    refine leads_activated h hs hst ok ?_
    rw [← hv]
    exact World.frame_congr v rfl rfl rfl rfl hs'.symm rfl rfl rfl
  | panicked reason =>
    have hc := h.cycle_eq hs
    have hduty : w.frame.conduct.duty = .adding s.id timer :=
      (h.duty_eq hs).trans (s.duty_of_activating hst)
    have hstate : s.state = .activating := by
      rw [h.session_state s hs, hst]
      rfl
    dsimp only
    rw [World.frame_setSession, World.frame_log _ _ _ rfl, World.frame_dropManager, hv]
    refine ⟨rfl, rfl, h.within rfl hc rfl (h.session_id s hs) hstate (by simp) rfl rfl, ?_⟩
    refine (Step.addPanicked w.frame.conduct s.id timer reason hduty).cast ?_
    simp [Frame.conduct, Conduct.turn, Conduct.tell, Frame.duty, Frame.ended, hc, Session.duty]

theorem leads_removalFailed (h : w.frame.Orderly) (hs : w.session = some s) {loop : LoopPhase}
    (hst : s.stage = .running (.removing timer) loop) (r : CallResult)
    (hr : r ≠ .returned true)
    (hv : v.frame = w.frame.ended .remove r) (m : Message) (hm : m.isLoopPanic = false) :
    Leads w.frame (v.removalFailed s timer loop m).frame := by
  have hc := h.cycle_eq hs
  have hduty : w.frame.conduct.duty = .removing s.id timer loop.isReturned :=
    (h.duty_eq hs).trans (s.duty_of_removing hst)
  have hnow : v.now = w.now := congrArg Frame.now hv
  have hstate : s.state = .removing := by
    rw [h.session_state s hs, hst]
    rfl
  rw [World.frame_removalFailed _ _ _ _ _ hm, hv, hnow, hstate]
  refine ⟨rfl, rfl, h.within rfl hc rfl (h.session_id s hs) rfl (by simp) rfl rfl, ?_⟩
  refine (Step.removalFailed w.frame.conduct s.id timer loop.isReturned r hduty hr).cast ?_
  simp [Frame.conduct, Conduct.turn, Conduct.tell, Frame.duty, Frame.ended, hc, Session.duty]

theorem leads_removeEnded (h : w.frame.Orderly) (hs : w.session = some s) {loop : LoopPhase}
    (hst : s.stage = .running (.removing timer) loop) (r : CallResult)
    (hv : v.frame = w.frame.ended .remove r) :
    Leads w.frame (v.removeEnded r).frame := by
  have hs' : v.session = some s := (congrArg Frame.session hv).trans hs
  have hheld : ({ v with session := some s, manager := .held } : World L).frame =
      w.frame.ended .remove r := by
    rw [← hv]
    exact World.frame_congr v rfl rfl rfl rfl hs'.symm rfl rfl rfl
  unfold World.removeEnded
  simp only [hs', hst]
  cases r with
  | returned ok =>
    cases ok with
    | true =>
      have hc := h.cycle_eq hs
      have hduty : w.frame.conduct.duty = .removing s.id timer loop.isReturned :=
        (h.duty_eq hs).trans (s.duty_of_removing hst)
      have hstate : s.state = .removing := by
        rw [h.session_state s hs, hst]
        rfl
      dsimp only
      rw [World.frame_setSession, hheld]
      refine ⟨rfl, rfl, h.within rfl hc rfl (h.session_id s hs) hstate (by simp) rfl rfl, ?_⟩
      refine (Step.driverRemoved w.frame.conduct s.id timer loop.isReturned hduty).cast ?_
      simp [Frame.conduct, Conduct.turn, Conduct.tell, Frame.duty, Frame.ended, hc, Session.duty]
    | false => exact leads_removalFailed h hs hst _ (by simp) hheld _ rfl
  | panicked reason => exact leads_removalFailed h hs hst _ (by simp) hv _ rfl

/-- The supervisor's own loop comes to its end. -/
theorem leads_finish (h : w.frame.Orderly) (hc : w.cycle = .stopping) (r : CallResult)
    (hv : v.frame = w.frame.ended .stop r) {k : Coordinator}
    {c : Chronicle} (hpost : v.coordinator.post v.chronicle .completed = (k, c)) :
    Leads w.frame
      ({ ({ v with coordinator := k, chronicle := c } : World L).dropConsumers with
        cycle := .finished } : World L).frame := by
  have hk : v.coordinator = w.coordinator := congrArg Frame.coordinator hv
  have hsession : w.session = none := h.session_eq_none (by simp [World.frame, hc])
  have hduty : w.frame.conduct.duty = .stopping := by
    simp [Frame.conduct, Frame.duty, World.frame, hc]
  have hf : ({ ({ v with coordinator := k, chronicle := c } : World L).dropConsumers with
      cycle := .finished } : World L).frame =
        { w.frame.ended .stop r with
          now := c.now, outline := c.outline, coordinator := k, cycle := .finished } := by
    refine (congrArg (fun f : Frame => { f with cycle := CyclePhase.finished })
      (World.frame_dropConsumers _)).trans ?_
    rw [← hv]
    rfl
  have hgrace : k.gracePeriod = w.coordinator.gracePeriod := by
    rw [← hk, ← Coordinator.gracePeriod_post v.coordinator v.chronicle .completed, hpost]
  have hnow : v.chronicle.now = w.now := congrArg Frame.now hv
  have hc' : c.now = w.now := by
    rw [← hnow, ← Coordinator.now_post v.coordinator v.chronicle .completed, hpost]
  have hconduct := Coordinator.conduct_post v.coordinator v.chronicle .completed .finished
    w.sessionCount
  rw [hpost] at hconduct
  rw [hf]
  refine ⟨rfl, hc', h.between rfl (by simp) (by simp) (by simp) hsession hgrace rfl, ?_⟩
  refine (Step.stopped w.frame.conduct r hduty).cast (Eq.trans ?_ hconduct.symm)
  have hout : v.chronicle.outline = (w.now, .callEnded .stop r) :: w.frame.outline :=
    congrArg Frame.outline hv
  rw [Conduct.turn_post, hk, hout, hnow]
  exact congrArg (Conduct.post · .completed) rfl

theorem leads_stopEnded (h : w.frame.Orderly) (hc : w.cycle = .stopping) (r : CallResult)
    (hv : v.frame = w.frame.ended .stop r) :
    Leads w.frame (v.stopEnded r).frame := by
  have hc' : v.dropManager.cycle = .stopping := (congrArg Frame.cycle hv).trans hc
  unfold World.stopEnded
  simp only [hc']
  cases r with
  | returned ok => exact leads_finish (v := v.dropManager) h hc _ hv rfl
  | panicked reason =>
    refine leads_finish (v := v.dropManager.write (·.log (.stopPanicked reason))) h hc
      (.panicked reason) ?_ rfl
    exact (World.frame_log _ _ _ rfl).trans hv

/-- Nobody waits for a call that is busy after the supervisor's own loop was cut off. -/
theorem leads_lateEnd (h : w.frame.Orderly) {k : CallKind} (hd : w.frame.duty = .cut (some k))
    (r : CallResult) (hv : v.frame = w.frame.ended k r) : Leads w.frame v.frame := by
  have hc := h.cycle_of_cut hd
  have hsession : w.session = none := h.session_eq_none_of_duty (by rw [hd]; rfl)
  have hd' : (w.frame.ended k r).duty = .cut none := by
    unfold Frame.duty Frame.ended
    rcases hc with hc | hc <;> simp [hc]
  rw [hv]
  refine ⟨rfl, rfl, h.between rfl ?_ ?_ ?_ hsession rfl (by rw [hd']; rfl), ?_⟩
  · rcases hc with hc | hc <;> simp [Frame.ended, hc]
  · rcases hc with hc | hc <;> simp [Frame.ended, hc]
  · rcases hc with hc | hc <;> simp [Frame.ended, hc]
  · refine (Step.lateEnd w.frame.conduct k r hd).cast ?_
    simp [Frame.conduct, Conduct.turn, Conduct.tell, hd']
    simp [Frame.ended]

end Calls

theorem leads_endCall (h : w.frame.Orderly) (hw : w.endCall? = some w') :
    Leads w.frame w'.frame := by
  obtain ⟨call, hfind, rfl⟩ := Option.map_eq_some_iff.1 hw
  have hmem : call ∈ w.frame.calls := List.mem_of_find?_eq_some hfind
  obtain ⟨hcalls, hd⟩ := h.call_eq hmem
  dsimp only
  generalize hv : World.write { w with calls := w.calls.erase call }
    (·.record (.callEnded call.kind call.result)) = v
  have hv' : v.frame = w.frame.ended call.kind call.result := by
    have hw : w.calls = [call] := hcalls
    rw [← hv, World.frame_record _ _ rfl]
    simp [Frame.ended, World.frame, World.now, hw]
  cases hs : w.session with
  | none =>
    have hs' : v.session = none := (congrArg Frame.session hv').trans hs
    obtain ⟨hk, hc⟩ | hcut := h.duty_of_call hs hd
    · rw [hk] at hv' ⊢
      exact leads_stopEnded h hc _ hv'
    · have hend : v.dropManager.cycle = w.cycle := congrArg Frame.cycle hv'
      have hgone : ∀ u : World L, u.frame = v.frame → Leads w.frame u.frame := by
        intro u hu
        exact leads_lateEnd h hcut call.result (hu.trans hv')
      apply hgone
      cases hk : call.kind with
      | add => simp [World.addEnded, hs']
      | remove => simp [World.removeEnded, hs']
      | stop =>
        rcases h.cycle_of_cut hcut with hc | hc
        · simp [World.stopEnded, hend.trans hc]
        · simp [World.stopEnded, hend.trans hc]
  | some s =>
    have hds : s.duty.call? = some call.kind := by
      rw [← h.duty_eq hs]
      exact hd
    cases hk : call.kind with
    | add =>
      rw [hk] at hv' hds
      obtain ⟨timer, hst⟩ := s.stage_of_adding hds
      exact leads_addEnded h hs hst _ hv'
    | remove =>
      rw [hk] at hv' hds
      obtain ⟨timer, loop, hst⟩ := s.stage_of_removing hds
      exact leads_removeEnded h hs hst _ hv'
    | stop => exact absurd (hds.trans (congrArg some hk)) s.call?_duty_ne_stop

end Hotplug
