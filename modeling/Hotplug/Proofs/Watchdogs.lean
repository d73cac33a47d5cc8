import Hotplug.Proofs.Deadlines
import Hotplug.Proofs.Causes
import Hotplug.Proofs.StateMachine
import Mathlib.Data.List.Nodup

/-!
# Watchdogs

Every operation that may hang has one timer, and no timer outlives its operation.

* `Guard.start` — what the operation under a timer begins with.
* `Conduct.Alarmed` — a timer is armed, or has fired at this moment.
* `Conduct.Watched` — the timer of every operation that is not done is armed or has just fired.
* `World.Watches` — there is one timer that asks for a termination at a certain time.
* `Supervision.watchdogs_armed` — there is one for every operation under way, and no other.
-/

namespace Hotplug

/-- What the operation of session `n` under a timer begins with. -/
def Guard.start (n : SessionId) : Guard → Happening
  | activation => .callBegan .add
  | removal => .stateChanged n .removalRequested .removing

theorem Guard.termination_injective {p p' : Guard} (h : p.termination = p'.termination) :
    p = p' := by
  cases p <;> cases p' <;> first | rfl | cases h

theorem Guard.start_mem_beginnings (n : SessionId) (id : TimerId) (p : Guard) :
    p.start n ∈ p.beginnings n id := by
  cases p <;> simp [start, beginnings, entry, call]

/-- An operation of one kind does not begin as one of another kind does. -/
theorem Guard.start_inj {p p' : Guard} {n n' : SessionId} (h : p.start n = p'.start n') :
    p = p' := by
  cases p <;> cases p' <;> first | rfl | cases h

/-- Whether an operation that a timer watches over begins, or a signal comes. -/
def Happening.isOpening : Happening → Bool
  | callBegan .add | stateChanged _ _ .removing | signalTaken _ => true
  | _ => false

theorem Guard.isOpening_start (p : Guard) (n : SessionId) : (!(p.start n).isOpening) = false := by
  cases p <;> rfl

theorem Happening.isSignal_of_not_isOpening (h : Happening) (hh : (!h.isOpening) = true) :
    h.isSignal = false := by
  cases h <;> first | rfl | cases hh

/-- Whether the supervisor's own loop was cut off. -/
def Duty.isCut : Duty → Bool
  | cut _ => true
  | _ => false

theorem Duty.isActive_of_guard? {d : Duty} {p : Guard} {n : SessionId} {id : TimerId}
    (h : d.guard? = some (p, n, id)) : d.isActive = true := by
  cases d <;> first | rfl | cases h

/-- A supervisor that stops the manager comes to its end. -/
theorem Duty.isEnding_of_call? {d : Duty} (hcut : d.isCut = false) (h : d.call? = some .stop) :
    d.isEnding = true := by
  cases d with
  | stopping => rfl
  | cut => cases hcut
  | _ => cases h

theorem Duty.isCut_of_isActive {d : Duty} (h : d.isActive = true) : d.isCut = false := by
  cases d <;> first | rfl | cases h

theorem Duty.isCut_afterCut {d : Duty} (h : d.isActive = true) : d.afterCut.isCut = true := by
  rw [afterCut_of_isActive h]
  rfl

namespace Conduct

variable {g : Settings} {c c' : Conduct}

/-- The timer `id` is armed to ask for `x` at the deadline, or the deadline has come and it has
just asked for it. -/
def Alarmed (c : Conduct) (id : TimerId) (x : Termination) (deadline : Nat) : Prop :=
  (∃ a ∈ c.armed, a.id = id ∧ a.deadline = deadline) ∨
    c.now = deadline ∧ (c.now, .timerFired id x) ∈ c.outline ∧ c.coordinator.posted ≠ [] ∧
      ∀ a ∈ c.armed, a.id ≠ id

theorem armed_cutOff_sublist (c : Conduct) : c.cutOff.armed.Sublist c.armed := by
  change (c.duty.timer?.elim c.coordinator.timers c.coordinator.timers.drop).armed.Sublist _
  cases c.duty.timer? with
  | none => exact List.Sublist.refl _
  | some id => exact List.filter_sublist

/-- Whatever is not done in time has a timer. -/
structure Watched (g : Settings) (c : Conduct) : Prop where
  distinct : (c.armed.map (·.id)).Nodup
  operation : c.duty.isCut = false → ∀ p n t,
    Since (p.IsDone n) (p.start n) t c.outline →
      ∃ m id, c.duty.guard? = some (p, m, id) ∧ p.start m = p.start n ∧
        c.Alarmed id p.termination (t + p.timeout g)
  grace : ∀ id, c.coordinator.phase = .stopping id → ∀ t ∈ signalTimes c.outline,
    c.Alarmed id .shutdownTimeout (t + g.shutdown.gracePeriod) ∧ (t, .stopRaised) ∈ c.outline

namespace Watched

/-- No two armed timers have the same number. -/
theorem eq_of_id_eq (h : Watched g c) {a b : AbortTimer} (ha : a ∈ c.armed) (hb : b ∈ c.armed)
    (hid : a.id = b.id) : a = b :=
  List.inj_on_of_nodup_map h.distinct ha hb hid

/-- No operation begins. -/
theorem go (h : Watched g c) (hnow : c'.now = c.now)
    (hphase : c'.coordinator.phase = c.coordinator.phase)
    (hposted : c.coordinator.posted ≠ [] → c'.coordinator.posted ≠ [])
    (hadds : Adds (!·.isOpening) c.outline c'.outline)
    (hcut : c'.duty.isCut = false → c.duty.isCut = false)
    (hdistinct : (c'.armed.map (·.id)).Nodup)
    (hguard : c'.duty.isCut = false → ∀ p n t m id,
      Since (p.IsDone n) (p.start n) t c'.outline → p.start m = p.start n →
        c.duty.guard? = some (p, m, id) →
          c'.duty.guard? = some (p, m, id) ∧ ∀ a, a.id = id → (a ∈ c'.armed ↔ a ∈ c.armed))
    (hgrace : ∀ id, c.coordinator.phase = .stopping id →
      ∀ a, a.id = id → (a ∈ c'.armed ↔ a ∈ c.armed)) : Watched g c' := by
  have hmem : ∀ e ∈ c.outline, e ∈ c'.outline := by
    obtain ⟨new, heq, -⟩ := hadds
    rw [heq]
    exact fun e he => List.mem_append_right _ he
  have halarmed : ∀ id x deadline, (∀ a, a.id = id → (a ∈ c'.armed ↔ a ∈ c.armed)) →
      c.Alarmed id x deadline → c'.Alarmed id x deadline := by
    rintro id x deadline hsame (⟨a, ha, hid, hdl⟩ | ⟨hdl, hfired, hp, hnone⟩)
    · exact .inl ⟨a, (hsame a hid).2 ha, hid, hdl⟩
    · refine .inr ⟨hnow.trans hdl, hnow ▸ hmem _ hfired, hposted hp, fun a ha hid => ?_⟩
      exact hnone a ((hsame a hid).1 ha) hid
  refine ⟨hdistinct, fun ha p n t hsince => ?_, ?_⟩
  · have hold := hadds.since (p.isOpening_start n) hsince
    obtain ⟨m, id, hid, hstart, halarm⟩ := h.operation (hcut ha) p n t hold
    obtain ⟨hid', hsame⟩ := hguard ha p n t m id hsince hstart hid
    exact ⟨m, id, hid', hstart, halarmed _ _ _ hsame halarm⟩
  · rw [hphase, hadds.signalTimes Happening.isSignal_of_not_isOpening]
    intro id hid t ht
    obtain ⟨halarm, hraised⟩ := h.grace id hid t ht
    exact ⟨halarmed _ _ _ (hgrace id hid) halarm, hmem _ hraised⟩

/-- The timers and what they watch over stay as they are. -/
theorem keep (h : Watched g c) (hnow : c'.now = c.now)
    (hphase : c'.coordinator.phase = c.coordinator.phase)
    (hposted : c.coordinator.posted ≠ [] → c'.coordinator.posted ≠ [])
    (hadds : Adds (!·.isOpening) c.outline c'.outline)
    (hcut : c'.duty.isCut = false → c.duty.isCut = false)
    (hguard : c'.duty.guard? = c.duty.guard?) (harmed : c'.armed = c.armed) : Watched g c' := by
  refine h.go hnow hphase hposted hadds hcut (by rw [harmed]; exact h.distinct) ?_ ?_
  · intro _ p n t m id _ _ hid
    rw [hguard, harmed]
    exact ⟨hid, fun _ _ => Iff.rfl⟩
  · intro _ _ a _
    rw [harmed]

/-- The operation under way is done, and its timer is disarmed. -/
theorem release (h : Watched g c) (hsteer : c.Steered) (hnow : c'.now = c.now)
    (hphase : c'.coordinator.phase = c.coordinator.phase)
    (hposted : c'.coordinator.posted = c.coordinator.posted)
    (hadds : Adds (!·.isOpening) c.outline c'.outline)
    {p : Guard} {m : SessionId} {id : TimerId} (hguard : c.duty.guard? = some (p, m, id))
    (hdone : ∀ n t, p.start m = p.start n → ¬ Since (p.IsDone n) (p.start n) t c'.outline)
    (harmed : c'.armed = (c.coordinator.timers.drop id).armed) : Watched g c' := by
  have hcut := Duty.isCut_of_isActive (Duty.isActive_of_guard? hguard)
  refine h.go hnow hphase (fun hp => hposted ▸ hp) hadds (fun _ => hcut) ?_ ?_ ?_
  · rw [harmed]
    exact h.distinct.sublist (List.filter_sublist.map _)
  · intro _ p' n' t m' id' hsince hstart hid'
    obtain ⟨rfl, rfl, rfl⟩ : p = p' ∧ m = m' ∧ id = id' := by simpa [hguard] using hid'
    exact absurd hsince (hdone n' t hstart)
  · intro grace hgrace a haid
    rw [harmed, mem_armed_drop]
    refine and_iff_left ?_
    rintro rfl
    exact (hsteer.timer _ (Duty.timer?_of_guard? hguard)).2 (haid ▸ hgrace)

/-- An operation begins under a new timer. -/
theorem begin (h : Watched g c) (hsteer : c.Steered) (hnow : c'.now = c.now)
    (hphase : c'.coordinator.phase = c.coordinator.phase)
    (hposted : c'.coordinator.posted = c.coordinator.posted)
    (hcut : c.duty.isCut = false) (hold : c.duty.guard? = none)
    {p : Guard} {n : SessionId} (hguard : c'.duty.guard? = some (p, n, c.nextTimer))
    {hs : List (Nat × Happening)} (hbefore : Adds (!·.isOpening) c.outline hs)
    (hafter : Adds (!·.isOpening) ((c.now, p.start n) :: hs) c'.outline)
    {a : AbortTimer} (harmed : c'.armed = c.armed ++ [a]) (haid : a.id = c.nextTimer)
    (hdeadline : a.deadline = c.now + p.timeout g) : Watched g c' := by
  have hstart : (p.start n).isSignal = false := by cases p <;> rfl
  have hsignals : signalTimes c'.outline = signalTimes c.outline := by
    rw [hafter.signalTimes Happening.isSignal_of_not_isOpening, signalTimes_cons, hstart,
      ← hbefore.signalTimes Happening.isSignal_of_not_isOpening]
    rfl
  have hmem : ∀ e ∈ c.outline, e ∈ c'.outline := by
    obtain ⟨new, rfl, -⟩ := hbefore
    obtain ⟨new', heq, -⟩ := hafter
    rw [heq]
    exact fun e he => List.mem_append_right _ (.tail _ (List.mem_append_right _ he))
  refine ⟨?_, fun _ p' n' t hsince => ?_, ?_⟩
  · rw [harmed, List.map_append, List.map_singleton, List.nodup_append]
    refine ⟨h.distinct, List.pairwise_singleton _ _, ?_⟩
    intro id hid id' hid'
    obtain ⟨b, hb, rfl⟩ := List.mem_map.1 hid
    rw [List.mem_singleton.1 hid', haid]
    exact Nat.ne_of_lt (hsteer.id_lt hb)
  · rcases (since_cons _).1 (hafter.since (p'.isOpening_start n') hsince) with heq | ⟨-, hsince⟩
    · obtain ⟨rfl, hstart⟩ := Prod.mk.inj heq
      obtain rfl := Guard.start_inj hstart
      exact ⟨n, c.nextTimer, hguard, hstart, .inl ⟨a, by simp [harmed], haid, hdeadline⟩⟩
    · have hearlier := hbefore.since (p'.isOpening_start n') hsince
      obtain ⟨m, id, hid, -⟩ := h.operation hcut p' n' t hearlier
      rw [hold] at hid
      cases hid
  · rw [hphase, hsignals]
    intro id hid t ht
    obtain ⟨halarm, hraised⟩ := h.grace id hid t ht
    refine ⟨?_, hmem _ hraised⟩
    rcases halarm with ⟨b, hb, hbid, hdl⟩ | ⟨hdl, hfired, hp, hnone⟩
    · exact .inl ⟨b, by simp [harmed, hb], hbid, hdl⟩
    · refine .inr ⟨hnow.trans hdl, hnow ▸ hmem _ hfired, hposted ▸ hp, ?_⟩
      rw [harmed]
      intro b hb
      rcases List.mem_append.1 hb with hb | hb
      · exact hnone b hb
      · rw [List.mem_singleton.1 hb, haid]
        exact (Nat.ne_of_lt (hsteer.warned id hid).1).symm

/-- A timer fires. -/
theorem fire (h : Watched g c) (hsteer : c.Steered) (hcaused : c.Caused g) {a : AbortTimer}
    (ha : a ∈ c.armed) (hdue : a.deadline ≤ c.now) : Watched g (c.fire a) := by
  have hrun : c.coordinator.isRunning = true := hsteer.isRunning_of_mem ha
  have hnow : c.now = a.deadline := Nat.le_antisymm (hcaused.prompt a ha) hdue
  have hposted : (c.fire a).coordinator.posted ≠ [] := by
    rw [show (c.fire a).coordinator.posted = c.coordinator.posted ++ [a.termination] from
      posted_post hrun _]
    simp
  have hout : (c.fire a).outline =
      (c.now, .terminationPosted a.termination) :: (c.now, .timerFired a.id a.termination) ::
        c.outline :=
    if_pos (Coordinator.isListening_of_isRunning hrun)
  have harmed : ∀ b, b ∈ (c.fire a).armed ↔ b ∈ c.armed ∧ b.id ≠ a.id := fun b => mem_armed_drop
  have halarmed : ∀ id x deadline, (a.id = id → a.termination = x) → c.Alarmed id x deadline →
      (c.fire a).Alarmed id x deadline := by
    intro id x deadline hterm halarm
    by_cases hid : a.id = id
    · -- It is the timer that fires.
      rcases halarm with ⟨b, hb, hbid, hdl⟩ | ⟨-, -, -, hnone⟩
      · obtain rfl : b = a := h.eq_of_id_eq hb ha (hbid.trans hid.symm)
        refine .inr ⟨hnow.trans hdl, ?_, hposted, fun x hx => hid ▸ ((harmed x).1 hx).2⟩
        rw [hout, ← hterm hid, ← hid]
        exact .tail _ (.head _)
      · exact absurd hid (hnone a ha)
    · rcases halarm with ⟨b, hb, hbid, hdl⟩ | ⟨hdl, hfired, -, hnone⟩
      · refine .inl ⟨b, (harmed b).2 ⟨hb, ?_⟩, hbid, hdl⟩
        rw [hbid]
        exact fun heq => hid heq.symm
      · refine .inr ⟨hdl, ?_, hposted, fun x hx => hnone x ((harmed x).1 hx).1⟩
        rw [hout]
        exact .tail _ (.tail _ hfired)
  have hadds : Adds (!·.isOpening) c.outline (c.fire a).outline :=
    adds_post ((Adds.refl _).cons rfl) _ rfl
  refine ⟨h.distinct.sublist (List.filter_sublist.map _), fun hcut p n t hsince => ?_, ?_⟩
  · have hold := hadds.since (p.isOpening_start n) hsince
    obtain ⟨m, id, hid, hstart, halarm⟩ := h.operation hcut p n t hold
    refine ⟨m, id, hid, hstart, halarmed _ _ _ (fun haid => ?_) halarm⟩
    obtain ⟨t₀, -, htimer⟩ := hcaused.guarded p m id hid
    exact (htimer a ha haid).1
  · rw [hadds.signalTimes Happening.isSignal_of_not_isOpening]
    intro id hid t ht
    obtain ⟨halarm, hraised⟩ := h.grace id hid t ht
    refine ⟨halarmed _ _ _ (fun haid => (hcaused.grace id hid a ha haid).1) halarm, ?_⟩
    rw [hout]
    exact .tail _ (.tail _ hraised)

/-- An operation is under way only as long as the supervisor's own loop is. -/
theorem isActive_of_since (h : Watched g c) (hcut : c.duty.isCut = false) {p : Guard}
    {n : SessionId} {t : Nat} (hsince : Since (p.IsDone n) (p.start n) t c.outline) :
    c.duty.isActive = true := by
  obtain ⟨m, id, hid, -⟩ := h.operation hcut p n t hsince
  exact Duty.isActive_of_guard? hid

/-- The coordinator decides: no operation is under way any more, and no timer is armed. -/
theorem decide (t : Termination)
    (howned : ∀ a ∈ c.armed, c.coordinator.phase = .stopping a.id ∨ c.duty.timer? = some a.id)
    (hopen : c.duty.isCut = false → ∀ p n t, Since (Guard.IsDone n p) (p.start n) t c.outline →
      c.duty.isActive = true) : Watched g (c.decide t) where
  distinct := by
    rw [Steered.armed_decide t howned]
    exact List.nodup_nil
  operation hcut p n t' hsince := by
    have hduty : (c.decide t).duty = c.duty.afterCut := rfl
    have hactive : ¬ c.duty.isActive = true := by
      intro hactive
      rw [hduty, Duty.isCut_afterCut hactive] at hcut
      cases hcut
    rw [hduty, Duty.afterCut_of_not_isActive hactive] at hcut
    have hadds : Adds (!·.isOpening) c.outline (c.decide t).outline := (Adds.refl _).cons rfl
    exact absurd (hopen hcut p n t' (hadds.since (p.isOpening_start n) hsince)) hactive
  grace _ hid := by cases hid

/-- A signal is no operation, and begins none. -/
theorem since_of_signal {p : Guard} {n : SessionId} {t : Nat} {s : Signal}
    (h : Since (p.IsDone n) (p.start n) t ((c.now, .signalTaken s) :: c.outline)) :
    Since (p.IsDone n) (p.start n) t c.outline := by
  rcases (since_cons _).1 h with heq | ⟨-, hsince⟩
  · cases p <;> cases (Prod.mk.inj heq).2
  · exact hsince

/-- The first signal comes, and the grace timer is armed. -/
theorem firstSignal (h : Watched g c) (hsteer : c.Steered) (s : Signal) (b : SignalBuffer)
    (hphase : c.coordinator.phase = .awaitingSignal) :
    Watched g
      ((((c.setSignals b).tell (.signalTaken s)).raiseStop.arm g.shutdown.gracePeriod
        .shutdownTimeout).awaitEnd c.nextTimer) := by
  obtain ⟨hdown, hcalm⟩ := hsteer.calm hphase
  let a : AbortTimer :=
    ⟨c.nextTimer, c.now + g.shutdown.gracePeriod, g.shutdown.gracePeriod, .shutdownTimeout⟩
  let c₁ : Conduct := ((c.setSignals b).tell (.signalTaken s)).raiseStop
  have hout : (c₁.arm g.shutdown.gracePeriod .shutdownTimeout).outline =
      (c.now, .timerArmed c.nextTimer .shutdownTimeout) :: (c.now, .stopRaised) ::
        (c.now, .signalTaken s) :: c.outline := by
    have hraised : c₁.outline = (c.now, .stopRaised) :: (c.now, .signalTaken s) :: c.outline :=
      if_neg (by simp [Conduct.tell, setSignals, hdown])
    rw [outline_arm, hraised]
    rfl
  have harmed : (c₁.arm g.shutdown.gracePeriod .shutdownTimeout).armed = c.armed ++ [a] := rfl
  have hnew : ∀ b ∈ c.armed, b.id ≠ c.nextTimer := fun b hb => Nat.ne_of_lt (hsteer.id_lt hb)
  refine ⟨?_, fun hcut p n t hsince => ?_, ?_⟩
  · change ((c₁.arm g.shutdown.gracePeriod .shutdownTimeout).armed.map (·.id)).Nodup
    rw [harmed, List.map_append, List.map_singleton, List.nodup_append]
    refine ⟨h.distinct, List.pairwise_singleton _ _, ?_⟩
    intro id hid id' hid'
    obtain ⟨b, hb, rfl⟩ := List.mem_map.1 hid
    rw [List.mem_singleton.1 hid']
    exact hnew b hb
  · have hold : Since (p.IsDone n) (p.start n) t c.outline := by
      have hadds : Adds (fun x => !x.isOpening || x.isSignal) c.outline
          (c₁.arm g.shutdown.gracePeriod .shutdownTimeout).outline := by
        rw [hout]
        exact (((Adds.refl _).cons rfl).cons rfl).cons rfl
      exact hadds.since (by cases p <;> rfl) hsince
    obtain ⟨m, id, hid, hstart, halarm⟩ := h.operation hcut p n t hold
    refine ⟨m, id, hid, hstart, ?_⟩
    rcases halarm with ⟨b, hb, hbid, hdl⟩ | ⟨hdl, hfired, hposted, hnone⟩
    · exact .inl ⟨b, List.mem_append_left _ hb, hbid, hdl⟩
    · refine .inr ⟨hdl, ?_, hposted, fun b hb => ?_⟩
      · change (c.now, _) ∈ (c₁.arm g.shutdown.gracePeriod .shutdownTimeout).outline
        rw [hout]
        exact .tail _ (.tail _ (.tail _ hfired))
      · rcases List.mem_append.1 (harmed ▸ hb) with hb | hb
        · exact hnone b hb
        · rw [List.mem_singleton.1 hb]
          exact (Nat.ne_of_lt (hsteer.timer id (Duty.timer?_of_guard? hid)).1).symm
  · rintro id ⟨⟩ t ht
    change t ∈ signalTimes (c₁.arm g.shutdown.gracePeriod .shutdownTimeout).outline at ht
    have hsignals : signalTimes (c₁.arm g.shutdown.gracePeriod .shutdownTimeout).outline =
        [c.now] := by
      rw [hout]
      exact congrArg (c.now :: ·) hcalm
    rw [hsignals] at ht
    obtain rfl := List.mem_singleton.1 ht
    refine ⟨.inl ⟨a, List.mem_append_right _ (List.mem_singleton.2 rfl), rfl, rfl⟩, ?_⟩
    change (c.now, .stopRaised) ∈ (c₁.arm g.shutdown.gracePeriod .shutdownTimeout).outline
    rw [hout]
    exact .tail _ (.head _)

theorem step (h : Watched g c) (hsteer : c.Steered) (hcaused : c.Caused g) (hs : Step g c c') :
    Watched g c' := by
  cases hs with
  | quiet => exact h
  | signals | ignoreSignals => exact h.keep rfl rfl id (Adds.refl _) id rfl rfl
  | look => exact h.keep rfl rfl id ((Adds.refl _).cons rfl) id rfl rfl
  | pass time hle hposted =>
    -- Nothing is posted, so every timer that is needed is armed.
    have halarmed : ∀ id x deadline, c.coordinator.isRunning = true → c.Alarmed id x deadline →
        ({ c with now := time } : Conduct).Alarmed id x deadline := by
      rintro id x deadline hrun (harmed | ⟨-, -, hp, -⟩)
      · exact .inl harmed
      · exact absurd (hposted hrun) hp
    refine ⟨h.distinct, fun hcut p n t hsince => ?_, fun id hid t ht => ?_⟩
    · obtain ⟨m, id, hid, hstart, halarm⟩ := h.operation hcut p n t hsince
      have hrun := hsteer.running (Duty.isActive_of_guard? hid)
      exact ⟨m, id, hid, hstart, halarmed _ _ _ hrun halarm⟩
    · obtain ⟨halarm, hraised⟩ := h.grace id hid t ht
      have hphase : c.coordinator.phase = .stopping id := hid
      exact ⟨halarmed _ _ _ (by simp [Coordinator.isRunning, hphase]) halarm, hraised⟩
  | fire a ha hdue => exact h.fire hsteer hcaused ha hdue
  | decide t => exact .decide t hsteer.owned fun hcut p n t => h.isActive_of_since hcut
  | firstSignal s b hphase => exact h.firstSignal hsteer s b hphase
  | secondSignal s b =>
    refine .decide (c := (c.setSignals b).tell (.signalTaken s)) _ hsteer.owned ?_
    exact fun hcut p n t hsince => h.isActive_of_since hcut (since_of_signal hsince)
  | beginStop hduty =>
    exact h.keep rfl rfl id ((Adds.refl _).cons rfl) (fun _ => by rw [hduty]; rfl)
      (by rw [hduty]; rfl) rfl
  | beginSession hduty =>
    exact h.begin hsteer rfl rfl rfl (by rw [hduty]; rfl) (by rw [hduty]; rfl) (p := .activation)
      (n := c.count + 1) rfl (((Adds.refl _).cons rfl).cons rfl |>.cons rfl) (Adds.refl _) rfl rfl
      rfl
  | added n timer ok hduty =>
    refine h.release hsteer rfl rfl rfl (((Adds.refl _).cons rfl).cons rfl |>.cons rfl)
      (p := .activation) (m := n) (by rw [hduty]; rfl) (fun m t _ => ?_) rfl
    refine not_since_cons (by rintro ⟨⟩) (not_since_cons (by rintro ⟨⟩) ?_)
    exact not_since_of_ends ⟨ok, rfl⟩ (by rintro ⟨⟩)
  | skipped n timer hduty =>
    refine h.release hsteer rfl rfl rfl ((Adds.refl _).cons rfl)
      (p := .activation) (m := n) (by rw [hduty]; rfl) (fun m t _ => ?_) rfl
    exact not_since_of_ends ⟨false, rfl⟩ (by rintro ⟨⟩)
  | addPanicked n timer reason hduty =>
    exact h.keep rfl rfl id ((Adds.refl _).cons rfl) (fun _ => by rw [hduty]; rfl)
      (by rw [hduty]; rfl) rfl
  | skipStopped n hduty =>
    exact h.keep rfl rfl id ((Adds.refl _).cons rfl) (fun _ => by rw [hduty]; rfl)
      (by rw [hduty]; rfl) rfl
  | skipEnded n hduty =>
    exact h.keep rfl rfl id (((Adds.refl _).cons rfl).cons rfl) (fun _ => by rw [hduty]; rfl)
      (by rw [hduty]; rfl) rfl
  | beginRemoval n isOver hduty =>
    exact h.begin hsteer rfl rfl rfl (by rw [hduty]; rfl) (by rw [hduty]; rfl) (p := .removal)
      (n := n) rfl (((Adds.refl _).cons rfl).cons rfl) ((Adds.refl _).cons rfl) rfl rfl rfl
  | driverRemoved n timer isOver hduty =>
    exact h.keep rfl rfl id ((Adds.refl _).cons rfl) (fun _ => by rw [hduty]; rfl)
      (by rw [hduty]; rfl) rfl
  | removalFailed n timer isOver r hduty =>
    exact h.keep rfl rfl id (((Adds.refl _).cons rfl).cons rfl) (fun _ => by rw [hduty]; rfl)
      (by rw [hduty]; rfl) rfl
  | sessionEnded n timer hduty =>
    refine h.release hsteer rfl rfl rfl ((Adds.refl _).cons rfl)
      (p := .removal) (m := n) (by rw [hduty]; rfl) ?_ rfl
    rintro m t ⟨⟩
    exact not_since_of_ends ⟨.removing, rfl⟩ (by rintro ⟨⟩)
  | loopEnded n hloop =>
    exact h.keep rfl rfl id ((Adds.refl _).cons rfl)
      (fun _ => Duty.isCut_of_isActive (Duty.isActive_of_looping? hloop))
      (Duty.guard?_afterLoop _) rfl
  | loopPanicked n reason hloop =>
    have hrun : c.coordinator.isRunning = true :=
      hsteer.running (Duty.isActive_of_looping? hloop)
    have hcut : ¬ c.duty.afterCut.isCut = false := by
      rw [Duty.isCut_afterCut (Duty.isActive_of_looping? hloop)]
      exact Bool.noConfusion
    refine h.go rfl rfl (fun _ => ?_) (adds_post ((Adds.refl _).cons rfl) _ rfl)
      (fun hc => absurd hc hcut) ?_ (fun hc => absurd hc hcut) ?_
    · rw [posted_post (c := c.cutOff.tell (.logged (.loopPanicked reason) none)) hrun]
      simp
    · exact h.distinct.sublist (c.armed_cutOff_sublist.map _)
    · intro id hid a haid
      refine mem_armed_cutOff.trans (and_iff_left fun htimer => ?_)
      exact (hsteer.timer _ htimer).2 (haid ▸ hid)
  | stopped r hduty =>
    have hrun : c.coordinator.isRunning = true := hsteer.running (by rw [hduty]; rfl)
    refine h.keep rfl rfl (fun _ => ?_) (adds_post ((Adds.refl _).cons rfl) _ rfl)
      (fun _ => by rw [hduty]; rfl) (by rw [hduty]; rfl) rfl
    change ((c.tell (.callEnded .stop r)).post .completed).coordinator.posted ≠ []
    rw [posted_post (c := c.tell (.callEnded .stop r)) hrun]
    simp
  | lateEnd k r hduty =>
    exact h.keep rfl rfl id ((Adds.refl _).cons rfl) (by rintro ⟨⟩) (by rw [hduty]; rfl) rfl

end Watched

theorem Reached.watched (h : Reached g c) : Watched g c := by
  induction h with
  | begun b | refused b r =>
    refine ⟨List.nodup_nil, fun _ p n t hsince => ?_, fun _ _ t ht => by cases ht⟩
    refine absurd hsince (not_since_cons ?_ not_since_nil)
    cases p <;> rintro ⟨⟩
  | step hr hs ih => exact ih.step hr.steered hr.caused hs

/-! ## The timers that ask for one termination -/

/-- The timers that are armed to ask for `x`. -/
def armedFor (c : Conduct) (x : Termination) : List AbortTimer :=
  c.armed.filter (·.termination = x)

theorem mem_armedFor {x : Termination} {a : AbortTimer} :
    a ∈ c.armedFor x ↔ a ∈ c.armed ∧ a.termination = x := by
  simp [armedFor]

/-- One timer is armed to ask for `x`, with this deadline, or at the deadline itself it has just
done so. -/
def Watches (c : Conduct) (x : Termination) (deadline : Nat) : Prop :=
  (c.armedFor x).map (·.deadline) = [deadline] ∨
    c.now = deadline ∧ c.armedFor x = [] ∧ ∃ id, (deadline, .timerFired id x) ∈ c.outline

/-- A timer that is alarmed is the only one if all that ask for the same have its number. -/
theorem Alarmed.watches {id : TimerId} {x : Termination} {deadline : Nat}
    (h : c.Alarmed id x deadline) (hdistinct : (c.armed.map (·.id)).Nodup)
    (hid : ∀ a ∈ c.armed, a.termination = x ↔ a.id = id) : c.Watches x deadline := by
  rcases h with ⟨a, ha, haid, hdl⟩ | ⟨hnow, hfired, -, hnone⟩
  · refine .inl ?_
    have hsame : c.armedFor x = c.armed.filter (· == a) := by
      refine List.filter_congr fun b hb => ?_
      rw [Bool.eq_iff_iff, decide_eq_true_iff, beq_iff_eq, hid b hb, ← haid]
      exact ⟨List.inj_on_of_nodup_map hdistinct hb ha, congrArg _⟩
    have hcount : c.armed.count a = 1 := List.count_eq_one_of_mem hdistinct.of_map ha
    rw [hsame, List.filter_beq, hcount, ← hdl]
    rfl
  · refine .inr ⟨hnow, List.filter_eq_nil_iff.2 fun b hb hterm => ?_, id, hnow ▸ hfired⟩
    exact hnone b hb ((hid b hb).1 (by simpa using hterm))

/-- A timer that asks for what an operation is worth watches over one. -/
theorem Caused.guard?_of_mem_armedFor (h : Caused g c) (hsteer : c.Steered) {p : Guard}
    {a : AbortTimer} (ha : a ∈ c.armedFor p.termination) :
    ∃ n id, c.duty.guard? = some (p, n, id) := by
  obtain ⟨ha, hterm⟩ := mem_armedFor.1 ha
  rcases h.termination_of_mem hsteer ha with ⟨-, hx⟩ | ⟨p', n, hguard, hx⟩
  · exact absurd (hterm.symm.trans hx) p.termination_ne_shutdownTimeout
  · obtain rfl := Guard.termination_injective (hterm.symm.trans hx)
    exact ⟨n, a.id, hguard⟩

/-- As long as the stop flag is down, no timer watches over the end of the run. -/
theorem Caused.armedFor_shutdownTimeout (h : Caused g c) (hsteer : c.Steered)
    (hdown : c.coordinator.stop.isRaised = false) : c.armedFor .shutdownTimeout = [] := by
  refine List.eq_nil_iff_forall_not_mem.2 fun a ha => ?_
  obtain ⟨ha, hterm⟩ := mem_armedFor.1 ha
  rcases h.termination_of_mem hsteer ha with ⟨hp, -⟩ | ⟨p, n, -, hx⟩
  · rw [hsteer.raised a.id hp] at hdown
    cases hdown
  · exact p.termination_ne_shutdownTimeout (hx.symm.trans hterm)

/-- The supervisor comes to its end only once the stop flag is up. -/
theorem Steered.isRaised_of_isEnding (h : c.Steered) (hrun : c.coordinator.isRunning = true)
    (hend : c.duty.isEnding = true) : c.coordinator.stop.isRaised = true := by
  cases hp : c.coordinator.phase with
  | awaitingSignal => exact absurd hp (h.ending hend)
  | stopping grace => exact h.raised grace hp
  | _ => simp [Coordinator.isRunning, hp] at hrun

/-- While the coordinator runs and the supervisor's own loop is not cut off, every operation that
is not done is watched over. -/
theorem Watched.operation_watches (h : Watched g c) (hcaused : c.Caused g) (hsteer : c.Steered)
    (hcut : c.duty.isCut = false) {p : Guard} {n : SessionId} {t : Nat}
    (hsince : Since (p.IsDone n) (p.start n) t c.outline) :
    c.Watches p.termination (t + p.timeout g) := by
  obtain ⟨m, id, hguard, -, halarm⟩ := h.operation hcut p n t hsince
  exact halarm.watches h.distinct fun a ha => hcaused.termination_eq_iff hsteer hguard ha

/-- Once the stop flag is up, the end of the run is watched over. -/
theorem Watched.grace_watches (h : Watched g c) (hcaused : c.Caused g) (hsteer : c.Steered)
    (hrun : c.coordinator.isRunning = true) (hstop : c.coordinator.stop.isRaised = true) :
    ∃ t, signalTimes c.outline = [t] ∧ (t, .stopRaised) ∈ c.outline ∧
      c.Watches .shutdownTimeout (t + g.shutdown.gracePeriod) := by
  cases hphase : c.coordinator.phase with
  | awaitingSignal =>
    rw [(hsteer.calm hphase).1] at hstop
    cases hstop
  | stopping grace =>
    obtain ⟨-, t, hsignals⟩ := hsteer.warned grace hphase
    obtain ⟨halarm, hraised⟩ := h.grace grace hphase t (by simp [hsignals])
    refine ⟨t, hsignals, hraised, halarm.watches h.distinct fun a ha => ?_⟩
    refine ⟨fun hterm => ?_, fun haid => (hcaused.grace grace hphase a ha haid).1⟩
    rcases hcaused.termination_of_mem hsteer ha with ⟨hid, -⟩ | ⟨p, m, -, hp⟩
    · exact (CoordinatorPhase.stopping.inj (hphase.symm.trans hid)).symm
    · exact absurd (hp.symm.trans hterm) p.termination_ne_shutdownTimeout
  | _ => simp [Coordinator.isRunning, hphase] at hrun

end Conduct

/-! ## Scenes -/

namespace Scene

variable {f f' : Scene}

/-- The supervisor's own loop is cancelled only as the coordinator stops running. -/
def CancelsLast (f : Scene) : Prop :=
  f.cycle = .cancelled → f.coordinator.isRunning = false

namespace CancelsLast

theorem decide (t : Termination) : (f.decide t).CancelsLast := by
  intro _
  have hcoordinator : (f.decide t).coordinator.isRunning =
      (f.coordinator.conclude t).isRunning := by
    unfold Scene.decide Scene.cancelCycle
    split <;> rfl
  exact hcoordinator

theorem act (h : f.CancelsLast) {m : Move} (hs : f.Act m f') : f'.CancelsLast := by
  cases hs with
  | decide | secondSignal => exact .decide _
  | firstSignal s b hphase =>
    intro hc
    have hrun := h hc
    simp [Coordinator.isRunning, hphase] at hrun
  | beginRemoval s loop =>
    unfold CancelsLast
    rw [f.cycle_requestRemoval, f.coordinator_requestRemoval]
    exact h
  | fire | ignoreSignals | loopWent | loopEnded | keepSkipping | stopForwarded | keepWatching
  | removalSeen | skipped | addPanicked | driverRemoved | removalFailed | lateEnd | added => exact h
  | skipStopped | sessionEnded | skipEnded | beginStop | beginWaiting | keepWaiting | beginSession
  | loopPanicked | stopped => rintro ⟨⟩

theorem step (h : f.CancelsLast) {o : Occurrence} (hs : f.Step o f') : f'.CancelsLast := by
  cases hs with
  | stay | files | signal | closeSignals | pass => exact h
  | act hact => exact h.act hact

end CancelsLast

end Scene

/-! ## Worlds -/

namespace World

variable {L : EventLoop} (w : World L)

/-- The armed timers that ask for `x`. -/
def timersFor (x : Termination) : List AbortTimer :=
  w.coordinator.timers.armed.filter (·.termination = x)

/-- One timer is armed to ask for `x`, with this deadline, or at the deadline itself it has just
done so. -/
def Watches (x : Termination) (deadline : Nat) : Prop :=
  (w.timersFor x).map (·.deadline) = [deadline] ∨
    w.now = deadline ∧ w.timersFor x = [] ∧
      ∃ id, (deadline, .timerFired id x) ∈ w.chronicle.happenings

/-- Every operation under way has its timer, and nobody else has one. -/
structure WatchedOver : Prop where
  /-- From the call to add the driver until it returns, and from the state of removing until that
  of being removed, one timer watches over the session. -/
  operation : ∀ p n t, Since (Guard.IsDone n p) (p.start n) t w.chronicle.happenings →
    w.Watches p.termination (t + p.timeout w.setup.settings)
  /-- At no other time does a timer watch over it. -/
  only : ∀ p, w.timersFor (Guard.termination p) ≠ [] →
    ∃ n t, Since (Guard.IsDone n p) (p.start n) t w.chronicle.happenings
  /-- Once the stop flag is up, one timer watches over the end of the run. -/
  raised : w.coordinator.stop.isRaised = true →
    ∃ t, signalTimes w.chronicle.happenings = [t] ∧ (t, .stopRaised) ∈ w.chronicle.happenings ∧
      w.Watches .shutdownTimeout (t + w.setup.settings.shutdown.gracePeriod)
  /-- Before, none does. -/
  calm : w.coordinator.stop.isRaised = false → w.timersFor .shutdownTimeout = []
  /-- The manager is asked to stop only once the stop flag is up. -/
  stop : ∀ call ∈ w.calls, call.kind = .stop → w.coordinator.stop.isRaised = true
  /-- Every task stands beside the session under way. -/
  children : ∀ child ∈ w.children, ∃ x ∈ w.session, child.session = x.id
  /-- Where every session is either still to come or removed, no task and no timer of any is
  left. -/
  idle : (∀ n, stateOf (storyOf n w.chronicle.happenings) ∈ [.inactive, .removed]) →
    w.children = [] ∧ ∀ p, w.timersFor (Guard.termination p) = []

variable {w}

theorem Watches.of_conduct {x : Termination} {deadline : Nat}
    (h : w.frame.conduct.Watches x deadline) : w.Watches x deadline := by
  rcases h with harmed | ⟨hnow, hnone, id, hfired⟩
  · exact .inl harmed
  · exact .inr ⟨hnow, hnone, id, (mem_outlineOf rfl).1 hfired⟩

end World

/-- A session under way is neither still to come nor removed. -/
theorem Stage.state_not_mem (s : Stage) : s.state ∉ [.inactive, .removed] := by
  cases s with
  | running executor loop => cases executor <;> simp [state]
  | _ => simp [state]

theorem Guard.isOutline_start (p : Guard) (n : SessionId) : (p.start n).isOutline = true := by
  cases p <;> rfl

namespace Supervision

variable {L : EventLoop} (s : Supervision L)

theorem cancelsLast_after (os : List Occurrence) : (s.after os).scene.CancelsLast := by
  refine s.scene_induction (P := fun _ f => f.CancelsLast) (fun hc => ?_)
    (fun _ _ _ hs h => h.step hs) os
  have hcycle : s.start.scene.cycle = _ := congrArg Frame.cycle s.frame_start
  rw [hcycle] at hc
  cases hr : s.refusal? <;> simp [hr] at hc

/-- Where every session is either still to come or removed, none is under way. -/
theorem session_eq_none_of_stateOf (os : List Occurrence)
    (h : ∀ n, stateOf (storyOf n (s.history os)) ∈ [.inactive, .removed]) :
    (s.after os).session = none := by
  refine Option.eq_none_iff_forall_not_mem.2 fun x hx => ?_
  have hstate := (s.orderly_after os).session_state x hx
  have hmem := h x.id
  rw [Session.stateOf_eq hstate (s.recalls_after os hx), hstate] at hmem
  exact x.stage.state_not_mem hmem

/-- The supervisor's own loop is cut off only as it panics, or as the run returns. -/
theorem isCut_duty (os : List Occurrence) (hreturn : (s.after os).outcome? = none)
    (hpanic : (s.after os).cycle ≠ .panicked) : (s.after os).frame.duty.isCut = false := by
  cases hduty : (s.after os).frame.duty with
  | cut call =>
    rcases (s.orderly_after os).cycle_of_cut hduty with hc | hc
    · have hrun := World.isRunning_of_outcome? (s.steered_after os) hreturn
      exact absurd hrun (Bool.eq_false_iff.1 (s.cancelsLast_after os hc))
    · exact absurd hc hpanic
  | _ => rfl

/-- **Watchdogs.**  As long as a run has not returned and its event loop has not panicked, every
operation that may hang has exactly one timer, with the deadline that the settings give to it, and
nothing else has one. -/
theorem watchdogs_armed (os : List Occurrence) (hreturn : (s.after os).outcome? = none)
    (hpanic : (s.after os).cycle ≠ .panicked) : (s.after os).WatchedOver := by
  have hreached := s.reached_after os
  have hsteer := hreached.steered
  have hcaused := hreached.caused
  have hwatched := hreached.watched
  have hord := s.orderly_after os
  have hcut := s.isCut_duty os hreturn hpanic
  have hrun := World.isRunning_of_outcome? hsteer hreturn
  have hsetup : (s.after os).setup.settings = s.settings :=
    congrArg Setup.settings (s.setup_after os)
  have hsince : ∀ p n t, Since (Guard.IsDone n p) (p.start n) t
      (outlineOf (s.after os).chronicle.happenings) ↔
        Since (Guard.IsDone n p) (p.start n) t (s.after os).chronicle.happenings :=
    fun p n t => since_outlineOf (p.isOutline_start n) (p.isOutline_of_isDone n)
  constructor
  · intro p n t h
    rw [hsetup]
    exact .of_conduct (hwatched.operation_watches hcaused hsteer hcut ((hsince p n t).2 h))
  · intro p h
    obtain ⟨a, ha⟩ := List.exists_mem_of_ne_nil _ h
    obtain ⟨n, id, hguard⟩ := hcaused.guard?_of_mem_armedFor hsteer ha
    obtain ⟨t, hbegin, -⟩ := hcaused.guarded p n id hguard
    exact ⟨n, t, (hsince p n t).1 (hbegin _ (p.start_mem_beginnings n id))⟩
  · intro h
    obtain ⟨t, hsignals, hmem, hwatches⟩ := hwatched.grace_watches hcaused hsteer hrun h
    rw [hsetup]
    refine ⟨t, ?_, (mem_outlineOf rfl).1 hmem, .of_conduct hwatches⟩
    rw [← signalTimes_outlineOf]
    exact hsignals
  · exact fun hdown => hcaused.armedFor_shutdownTimeout hsteer hdown
  · intro call hcall hkind
    have hduty := (hord.call_eq hcall).2
    rw [hkind] at hduty
    exact hsteer.isRaised_of_isEnding hrun (Duty.isEnding_of_call? hcut hduty)
  · intro child hchild
    have hacc := s.accompanied_after os
    cases hs : (s.after os).session with
    | none =>
      rw [show (s.after os).children = [] from hacc.alone hs] at hchild
      cases hchild
    | some x => exact ⟨x, rfl, (hacc.beside x hs).session_eq hchild⟩
  · intro h
    have hnone : (s.after os).session = none := s.session_eq_none_of_stateOf os h
    refine ⟨(s.accompanied_after os).alone hnone, fun p => ?_⟩
    refine List.eq_nil_iff_forall_not_mem.2 fun a ha => ?_
    obtain ⟨n, id, hguard⟩ := hcaused.guard?_of_mem_armedFor hsteer ha
    have hnobody : (s.after os).frame.duty.timer? = none := by
      rw [hord.timer?_duty, show (s.after os).frame.session = none from hnone]
      rfl
    cases (Duty.timer?_of_guard? hguard).symm.trans hnobody

/-- A driver is being added as a signal comes, and both timers are armed. -/
theorem watchdogs_armed_hanging :
    ((hanging.after hangingCourse).outcome? = none ∧
      (hanging.after hangingCourse).cycle ≠ .panicked) ∧
      (hanging.after hangingCourse).WatchedOver ∧
        ((hanging.after hangingCourse).timersFor .driverActivationTimeout).map (·.deadline) =
            [hanging.settings.driver.activationTimeout] ∧
          ((hanging.after hangingCourse).timersFor .shutdownTimeout).map (·.deadline) = [30 + 50] :=
  ⟨⟨rfl, by decide +kernel⟩, watchdogs_armed hanging hangingCourse rfl (by decide +kernel),
    by decide +kernel, by decide +kernel⟩

end Supervision

end Hotplug
