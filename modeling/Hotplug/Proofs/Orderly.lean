import Hotplug.Proofs.Frame

/-!
# Orderly frames

How an orderly frame goes one step of its conduct, and stays orderly.

* `Frame.Orderly.congr`, `between`, `within` — what keeps a frame orderly.
* `Frame.Orderly.call_eq`, `duty_of_call` — the only busy call is the one of the duty.
* `Frame.Orderly.cut` — the supervisor's own loop is cut off.
* `Frame.Leads` — a frame goes one step and stays orderly.
-/

namespace Hotplug

open Conduct (Step)

theorem Conduct.Step.cast {g : Settings} {c d d' : Conduct} (h : Step g c d) (heq : d = d') :
    Step g c d' :=
  heq ▸ h

theorem Conduct.turn_post (c : Conduct) (t : Termination) (d : Duty) :
    (c.post t).turn d = (c.turn d).post t := by
  unfold Conduct.post Conduct.turn
  cases c.coordinator.isListening <;> simp

theorem Session.isActive_duty (s : Session) : s.duty.isActive = true := by
  unfold Session.duty
  split <;> rfl

theorem Session.session?_duty (s : Session) : s.duty.session? = some s.id := by
  unfold Session.duty
  split <;> rfl

theorem Session.stage_of_adding (s : Session) (h : s.duty.call? = some .add) :
    ∃ timer, s.stage = .activating timer := by
  unfold Session.duty at h
  split at h <;> first | exact ⟨_, ‹_›⟩ | cases h

theorem Session.stage_of_removing (s : Session) (h : s.duty.call? = some .remove) :
    ∃ timer loop, s.stage = .running (.removing timer) loop := by
  unfold Session.duty at h
  split at h <;> first | exact ⟨_, _, ‹_›⟩ | cases h

/-- No session calls the library to stop. -/
theorem Session.call?_duty_ne_stop (s : Session) : s.duty.call? ≠ some .stop := by
  unfold Session.duty
  split <;> simp [Duty.call?]

/-! ## Orderly frames -/

namespace Frame

variable {f f' : Frame}

/-- An orderly frame becomes another one in one step of the conduct, and no time passes. -/
structure Leads (f f' : Frame) : Prop where
  setup : f'.setup = f.setup
  now : f'.now = f.now
  orderly : f'.Orderly
  step : Conduct.Step f.setup.settings f.conduct f'.conduct

theorem Leads.refl (h : f.Orderly) : Leads f f :=
  ⟨rfl, rfl, h, .quiet _⟩

namespace Orderly

/-- The session under way decides what the supervisor is at. -/
theorem duty_eq (h : f.Orderly) {s : Session} (hs : f.session = some s) : f.duty = s.duty := by
  have hc : f.cycle = .inSession := h.session_iff.1 (by simp [hs])
  simp [duty, hc, hs]

theorem cycle_eq (h : f.Orderly) {s : Session} (hs : f.session = some s) :
    f.cycle = .inSession :=
  h.session_iff.1 (by simp [hs])

/-- The supervisor is at work as long as a session is under way. -/
theorem isActive (h : f.Orderly) {s : Session} (hs : f.session = some s) :
    f.duty.isActive = true := by
  rw [h.duty_eq hs]
  exact s.isActive_duty

theorem session_eq_none (h : f.Orderly) (hc : f.cycle ≠ .inSession) : f.session = none := by
  cases hs : f.session with
  | none => rfl
  | some s => exact absurd (h.cycle_eq hs) hc

theorem exists_session (h : f.Orderly) (hc : f.cycle = .inSession) :
    ∃ s, f.session = some s :=
  Option.ne_none_iff_exists'.1 (h.session_iff.2 hc)

theorem session_eq_none_of_duty (h : f.Orderly) (hd : f.duty.session? = none) :
    f.session = none := by
  cases hs : f.session with
  | none => rfl
  | some s =>
    rw [h.duty_eq hs, s.session?_duty] at hd
    cases hd

theorem cycle_of_cut (h : f.Orderly) {call : Option CallKind} (hd : f.duty = .cut call) :
    f.cycle = .cancelled ∨ f.cycle = .panicked := by
  cases hc : f.cycle with
  | cancelled => exact .inl rfl
  | panicked => exact .inr rfl
  | inSession =>
    obtain ⟨s, hs⟩ := h.exists_session hc
    have hactive := h.isActive hs
    rw [hd] at hactive
    cases hactive
  | refused | attended | deciding | waiting | stopping | finished => simp [duty, hc] at hd

/-- No call is busy unless the duty has one. -/
theorem calls_eq_nil (h : f.Orderly) (hd : f.duty.call? = none) : f.calls = [] := by
  have hcalls := h.calls
  rw [hd] at hcalls
  exact List.map_eq_nil_iff.1 hcalls

/-- A call that begins as no other is busy is the only one. -/
theorem calls_concat (h : f.Orderly) (hd : f.duty.call? = none) (call : Call) :
    f.calls ++ [call] = [call] := by
  rw [h.calls_eq_nil hd]
  rfl

/-- A busy call is the only one, and the one that the duty has. -/
theorem call_eq (h : f.Orderly) {call : Call} (hm : call ∈ f.calls) :
    f.calls = [call] ∧ f.duty.call? = some call.kind := by
  have hcalls := h.calls
  cases hd : f.duty.call? with
  | none =>
    rw [h.calls_eq_nil hd] at hm
    cases hm
  | some k =>
    rw [hd] at hcalls
    obtain ⟨a, hl, rfl⟩ := List.map_eq_singleton_iff.1 hcalls
    rw [hl] at hm
    obtain rfl := List.mem_singleton.1 hm
    exact ⟨hl, rfl⟩

/-- A call outside of a session is to stop the manager, or nobody waits for it any more. -/
theorem duty_of_call (h : f.Orderly) (hs : f.session = none) {k : CallKind}
    (hd : f.duty.call? = some k) : k = .stop ∧ f.cycle = .stopping ∨ f.duty = .cut (some k) := by
  cases hc : f.cycle with
  | stopping => exact .inl ⟨by simpa [duty, hc, Duty.call?, eq_comm] using hd, rfl⟩
  | cancelled | panicked => exact .inr (by simpa [duty, hc, Duty.call?] using hd)
  | inSession => exact absurd hs (h.session_iff.2 hc)
  | refused | attended | deciding | waiting | finished => simp [duty, hc, Duty.call?] at hd

/-- An orderly frame stays orderly when the coordinator or the outline changes. -/
theorem congr (h : f.Orderly) (hsetup : f'.setup = f.setup) (hcycle : f'.cycle = f.cycle)
    (hsession : f'.session = f.session) (hcount : f'.count = f.count)
    (hcalls : f'.calls = f.calls) (hg : f'.coordinator.gracePeriod = f.coordinator.gracePeriod) :
    f'.Orderly := by
  have hd : f'.duty = f.duty := by simp only [duty, hcycle, hsession, hcalls]
  constructor
  · rw [hsetup]; exact h.supervised
  · rw [hcycle]; exact h.notAttended
  · rw [hg, hsetup]; exact h.grace
  · rw [hsession, hcycle]; exact h.session_iff
  · rw [hsession, hcount]; exact h.session_id
  · rw [hsession]; exact h.session_state
  · rw [hcycle]; exact h.waiting
  · rw [hsession]; exact h.skipping
  · rw [hcalls, hd]; exact h.calls

/-- A frame between two sessions is orderly. -/
theorem between (h : f.Orderly) (hsetup : f'.setup = f.setup) (hc : f'.cycle ≠ .inSession)
    (ha : f'.cycle ≠ .attended) (hwait : ∀ wait, f'.cycle = .waiting wait → wait.desired = true)
    (hs : f'.session = none)
    (hg : f'.coordinator.gracePeriod = f.coordinator.gracePeriod)
    (hcalls : f'.calls.map (·.kind) = f'.duty.call?.toList) : f'.Orderly where
  supervised := by rw [hsetup]; exact h.supervised
  notAttended := ha
  grace := by rw [hg, hsetup]; exact h.grace
  session_iff := by simp [hs, hc]
  session_id := by simp [hs]
  session_state := by simp [hs]
  waiting := hwait
  skipping := by simp [hs]
  calls := hcalls

/-- A frame within a session is orderly. -/
theorem within (h : f.Orderly) (hsetup : f'.setup = f.setup) (hc : f'.cycle = .inSession)
    {s : Session} (hs : f'.session = some s) (hid : s.id = f'.count)
    (hstate : s.state = s.stage.state)
    (hskip : ∀ wait, s.stage = .skipping wait → wait.desired = false)
    (hg : f'.coordinator.gracePeriod = f.coordinator.gracePeriod)
    (hcalls : f'.calls.map (·.kind) = s.duty.call?.toList) : f'.Orderly where
  supervised := by rw [hsetup]; exact h.supervised
  notAttended := by simp [hc]
  grace := by rw [hg, hsetup]; exact h.grace
  session_iff := by simp [hs, hc]
  session_id := by simpa [hs] using hid
  session_state := by simpa [hs] using hstate
  waiting := by simp [hc]
  skipping := by simpa [hs] using hskip
  calls := by simpa [duty, hc, hs] using hcalls

end Orderly

/-- The frame once the supervisor's own loop is cut off. -/
def cut (f : Frame) (cycle : CyclePhase) : Frame :=
  { f with
    cycle := cycle
    session := none
    coordinator := { f.coordinator with timers := f.timersAfterCut } }

theorem Orderly.timer?_duty (h : f.Orderly) :
    f.duty.timer? = f.session.bind (·.stage.timer?) := by
  cases hs : f.session with
  | none =>
    have hc : f.cycle ≠ .inSession := fun hc => h.session_iff.2 hc hs
    unfold duty
    split <;> first | rfl | contradiction
  | some s =>
    rw [h.duty_eq hs, Option.bind_some]
    unfold Session.duty
    split <;> rename_i hst <;> rw [hst] <;> rfl

theorem Orderly.head?_calls (h : f.Orderly) : f.calls.head?.map (·.kind) = f.duty.call? := by
  rw [← List.head?_map, h.calls]
  cases f.duty.call? <;> rfl

/-- Cutting an orderly frame off is what it is to the conduct. -/
theorem Orderly.cut (h : f.Orderly) (ha : f.duty.isActive = true) {cycle : CyclePhase}
    (hc : cycle = .cancelled ∨ cycle = .panicked) :
    (f.cut cycle).Orderly ∧ (f.cut cycle).conduct = f.conduct.cutOff := by
  have hd : (f.cut cycle).duty = .cut f.duty.call? := by
    rw [← h.head?_calls]
    rcases hc with rfl | rfl <;> rfl
  have hcalls : (f.cut cycle).calls.map (·.kind) = (f.cut cycle).duty.call?.toList := by
    rw [hd]
    exact h.calls
  refine ⟨?_, ?_⟩
  · rcases hc with rfl | rfl
    · exact h.between rfl (by simp [Frame.cut]) (by simp [Frame.cut]) (by simp [Frame.cut]) rfl rfl
        hcalls
    · exact h.between rfl (by simp [Frame.cut]) (by simp [Frame.cut]) (by simp [Frame.cut]) rfl rfl
        hcalls
  · have ht := h.timer?_duty
    have hcut : f.duty.afterCut = .cut f.duty.call? := Duty.afterCut_of_isActive ha
    simp only [conduct, hd, Conduct.cutOff, hcut, Conduct.disarmDuty, Conduct.turn]
    simp only [Frame.cut, timersAfterCut, ← ht]
    cases f.duty.timer? <;> rfl

/-- A change of the session that its duty does not show does not matter to the conduct. -/
theorem Orderly.setSession (h : f.Orderly) {s t : Session} (hs : f.session = some s)
    (hid : t.id = s.id) (hstate : t.state = s.state) (hst : t.stage.state = s.stage.state)
    (hskip : ∀ wait, t.stage = .skipping wait → wait.desired = false) (hd : t.duty = s.duty) :
    ({ f with session := some t } : Frame).Orderly ∧
      ({ f with session := some t } : Frame).conduct = f.conduct := by
  have hc := h.cycle_eq hs
  refine ⟨h.within rfl hc rfl ?_ ?_ hskip rfl ?_, ?_⟩
  · rw [hid]; exact h.session_id s hs
  · rw [hstate, hst]; exact h.session_state s hs
  · rw [hd, ← h.duty_eq hs]; exact h.calls
  · simp [conduct, duty, hc, hs, hd]

theorem Leads.of_conduct_eq (hsetup : f'.setup = f.setup) (hord : f'.Orderly)
    (hconduct : f'.conduct = f.conduct) : Leads f f' :=
  ⟨hsetup, congrArg Conduct.now hconduct, hord, (Step.quiet _).cast hconduct.symm⟩

end Frame

end Hotplug
