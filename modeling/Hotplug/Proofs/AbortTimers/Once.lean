import Hotplug.Proofs.AbortTimers.Desk

/-!
# Abort timers fire once or not at all

A timer at a desk is held by those who armed it until they cancel or drop it.  If its deadline comes
before that, it fires, then and only then; otherwise it never does.

* `ShutdownDesk.Holds`, `ShutdownDesk.Lacks` — a timer before and after it was disarmed.
* `ShutdownDesk.Reliable` — what can be relied on, in whatever order things happen.
* `ShutdownDesk.fires_once_or_never` — when a timer fires.
-/

namespace Hotplug.ShutdownDesk

variable {s u : ShutdownDesk} {o : DeskOp} {j : Nat} {a : AbortTimer}

/-! ## What is kept -/

theorem timer?_append {x : Option (TimerId × Termination)} (h : u.timers = s.timers ++ [x])
    (i : Nat) : u.timer? i = if i = s.timers.length then x else s.timer? i := by
  simp only [timer?, h, List.getD_eq_getElem?_getD]
  split
  · next heq => simp [heq]
  · next hne =>
    by_cases hlt : i < s.timers.length
    · rw [List.getElem?_append_left hlt]
    · rw [List.getElem?_eq_none (Nat.le_of_not_lt hlt), List.getElem?_eq_none]
      rw [List.length_append, List.length_singleton]
      omega

theorem timer?_set (h : u.timers = s.timers.set j none) (i : Nat) :
    u.timer? i = if i = j then none else s.timer? i := by
  simp only [timer?, h, List.getD_eq_getElem?_getD]
  split
  · next heq =>
    rw [heq, List.getElem?_set_self']
    cases s.timers[j]? <;> rfl
  · next hne => rw [List.getElem?_set_ne (Ne.symm hne)]

theorem lt_length_of_timer? {x : TimerId × Termination} (h : s.timer? j = some x) :
    j < s.timers.length := by
  by_contra hge
  rw [timer?, List.getD_eq_getElem?_getD, List.getElem?_eq_none (Nat.le_of_not_lt hge)] at h
  cases h

/-- What holds at a desk at any time. -/
structure Kept (s : ShutdownDesk) : Prop where
  coordinator : s.coordinator.Kept s.chronicle
  known : ∀ i id t, s.timer? i = some (id, t) → id < s.coordinator.timers.made
  distinct : ∀ i k id t t', s.timer? i = some (id, t) → s.timer? k = some (id, t') → i = k

namespace Kept

theorem fresh (gracePeriod capacity : Nat) : (fresh gracePeriod capacity).Kept where
  coordinator :=
    { numbered := by simp [ShutdownDesk.fresh]
      distinct := by simp [ShutdownDesk.fresh]
      punctual := by simp [ShutdownDesk.fresh]
      spent := by simp [ShutdownDesk.fresh]
      grace := by simp [ShutdownDesk.fresh]
      known := by simp [ShutdownDesk.fresh, Hotplug.firings]
      hasFired := by simp [ShutdownDesk.fresh, Hotplug.firings, Timers.hasFired]
      posted := by simp [ShutdownDesk.fresh]
      counted := by simp [ShutdownDesk.fresh, firedIn, Tally.count]
      answered := by simp [ShutdownDesk.fresh, Requested] }
  known := by simp [ShutdownDesk.fresh, timer?]
  distinct := by simp [ShutdownDesk.fresh, timer?]

theorem step (h : s.Kept) (hs : s.Step o u) : u.Kept := by
  cases hs with
  | stay => exact h
  | course u _ hcourse htimers =>
    have hsame : ∀ i, u.timer? i = s.timer? i := fun i => by rw [timer?, timer?, htimers]
    refine ⟨hcourse.kept h.coordinator, fun i id t hi => ?_, fun i k id t t' hi hk => ?_⟩
    · exact Nat.lt_of_lt_of_le (h.known i id t (hsame i ▸ hi)) hcourse.made_le
    · exact h.distinct i k id t t' (hsame i ▸ hi) (hsame k ▸ hk)
  | arm u delay t _ hmoves hmade htimers =>
    have hcourse : Coordinator.Course s.state u.state := .single hmoves
    refine ⟨hcourse.kept h.coordinator, fun i id t hi => ?_, fun i k id t t' hi hk => ?_⟩
    · rw [hmade]
      rw [timer?_append htimers] at hi
      split at hi
      · obtain ⟨rfl, -⟩ := Prod.mk.inj (Option.some.inj hi)
        exact Nat.lt_succ_self _
      · exact Nat.lt_succ_of_lt (h.known i id t hi)
    · rw [timer?_append htimers] at hi hk
      -- the new number is none of those that were known
      split at hi <;> split at hk
      · next hi' hk' => exact hi'.trans hk'.symm
      · obtain ⟨rfl, -⟩ := Prod.mk.inj (Option.some.inj hi)
        exact absurd (h.known k _ _ hk) (Nat.lt_irrefl _)
      · obtain ⟨rfl, -⟩ := Prod.mk.inj (Option.some.inj hk)
        exact absurd (h.known i _ _ hi) (Nat.lt_irrefl _)
      · exact h.distinct i k id t t' hi hk
  | disarm u j id t _ hheld hchange htimers =>
    have hstill : ∀ i x, u.timer? i = some x → s.timer? i = some x := by
      intro i x hi
      rw [timer?_set htimers] at hi
      split at hi
      · cases hi
      · exact hi
    refine ⟨h.coordinator.change hchange, fun i id t hi => ?_, fun i k id t t' hi hk => ?_⟩
    · exact Nat.lt_of_lt_of_le (h.known i id t (hstill i _ hi)) hchange.made_le
    · exact h.distinct i k id t t' (hstill i _ hi) (hstill k _ hk)

theorem follow (h : s.Kept) (os : List DeskOp) : (s.follow os).Kept := by
  induction os generalizing s with
  | nil => exact h
  | cons o os ih => exact ih (h.step (s.step_occur o))

end Kept

/-- Those who armed a timer still have it. -/
structure Holds (s : ShutdownDesk) (j : Nat) (a : AbortTimer) : Prop where
  held : s.timer? j = some (a.id, a.termination)
  runs : a.Runs s.state

/-- Those who armed a timer have disarmed it, before or after it fired. -/
structure Lacks (s : ShutdownDesk) (j : Nat) (a : AbortTimer) : Prop where
  lost : s.timer? j = none
  made : j < s.timers.length
  off : s.coordinator.timers.IsOff a.id

theorem Holds.step (hk : s.Kept) (h : s.Holds j a) (hs : s.Step o u)
    (hspared : o.disarms j = false) : u.Holds j a := by
  cases hs with
  | stay => exact h
  | course u _ hcourse htimers =>
    refine ⟨?_, h.runs.course hk.coordinator hcourse⟩
    rw [timer?, htimers]
    exact h.held
  | arm u delay t _ hmoves hmade htimers =>
    refine ⟨?_, h.runs.course hk.coordinator (.single hmoves)⟩
    rw [timer?_append htimers, if_neg (Nat.ne_of_lt (lt_length_of_timer? h.held))]
    exact h.held
  | disarm u i id t hdisarms hheld hchange htimers =>
    have hne : j ≠ i := by
      rintro rfl
      rw [hspared] at hdisarms
      cases hdisarms
    refine ⟨?_, h.runs.change hk.coordinator hchange fun _ heq => ?_⟩
    · rw [timer?_set htimers, if_neg hne]
      exact h.held
    · rw [Option.some.inj heq] at hheld
      exact hne (hk.distinct j i _ _ _ h.held hheld)

theorem DeskOp.eq_of_disarms {i : Nat} (hi : o.disarms i = true) (hj : o.disarms j = true) :
    i = j := by
  unfold DeskOp.disarms at hi hj
  split at hi
  · exact (of_decide_eq_true hi).symm.trans (of_decide_eq_true hj)
  · exact (of_decide_eq_true hi).symm.trans (of_decide_eq_true hj)
  · cases hi

theorem Holds.disarm (hk : s.Kept) (h : s.Holds j a) (hs : s.Step o u)
    (hdisarms : o.disarms j = true) : u.Lacks j a ∧ u.firings a.id = s.firings a.id := by
  cases hs with
  | course u hspared => simp [hspared j] at hdisarms
  | stay hspared =>
    have hheld := h.held
    rw [hspared j hdisarms] at hheld
    cases hheld
  | arm u delay t hspared => simp [hspared j] at hdisarms
  | disarm u i id t hdisarms' hheld hchange htimers =>
    obtain rfl := DeskOp.eq_of_disarms hdisarms' hdisarms
    rw [h.held, Option.some.injEq, Prod.mk.injEq] at hheld
    obtain ⟨rfl, -⟩ := hheld
    have hlost : u.timer? i = none := by rw [timer?_set htimers, if_pos rfl]
    have hmade : i < u.timers.length := by
      rw [htimers, List.length_set]
      exact lt_length_of_timer? h.held
    -- it is disarmed before it fires, or has fired and there is nothing left to disarm
    rcases h.runs with hticks | ⟨-, hoff, -⟩
    · obtain ⟨hoff, hsilent⟩ := hticks.disarm hk.coordinator hchange
      exact ⟨⟨hlost, hmade, hoff⟩, hsilent.trans (hk.coordinator.spent a hticks.armed).symm⟩
    · obtain ⟨hoff', hsame⟩ := hoff.change hchange
      exact ⟨⟨hlost, hmade, hoff'⟩, hsame⟩

theorem Lacks.step (h : s.Lacks j a) (hs : s.Step o u) :
    u.Lacks j a ∧ u.firings a.id = s.firings a.id := by
  cases hs with
  | stay => exact ⟨h, rfl⟩
  | course u _ hcourse htimers =>
    obtain ⟨hoff, hsame⟩ := hcourse.isOff h.off
    refine ⟨⟨?_, ?_, hoff⟩, hsame⟩
    · rw [timer?, htimers]
      exact h.lost
    · rw [htimers]
      exact h.made
  | arm u delay t _ hmoves hmade htimers =>
    have hcourse : Coordinator.Course s.state u.state := .single hmoves
    obtain ⟨hoff, hsame⟩ := hcourse.isOff h.off
    refine ⟨⟨?_, ?_, hoff⟩, hsame⟩
    · rw [timer?_append htimers, if_neg (Nat.ne_of_lt h.made)]
      exact h.lost
    · rw [htimers, List.length_append]
      exact Nat.lt_add_right _ h.made
  | disarm u i id t _ _ hchange htimers =>
    obtain ⟨hoff, hsame⟩ := h.off.change hchange
    refine ⟨⟨?_, ?_, hoff⟩, hsame⟩
    · rw [timer?_set htimers, h.lost, ite_self]
    · rw [htimers, List.length_set]
      exact h.made

theorem follow_append (s : ShutdownDesk) (os os' : List DeskOp) :
    s.follow (os ++ os') = (s.follow os).follow os' :=
  List.foldl_append

theorem Holds.follow (hk : s.Kept) (h : s.Holds j a) (os : List DeskOp)
    (hspared : ∀ o ∈ os, o.disarms j = false) : (s.follow os).Holds j a := by
  induction os generalizing s with
  | nil => exact h
  | cons o os ih =>
    have hs := s.step_occur o
    exact ih (hk.step hs) (h.step hk hs (hspared o (by simp))) fun o' ho' =>
      hspared o' (List.mem_cons_of_mem o ho')

theorem Lacks.follow (h : s.Lacks j a) (os : List DeskOp) :
    (s.follow os).Lacks j a ∧ (s.follow os).firings a.id = s.firings a.id := by
  induction os generalizing s with
  | nil => exact ⟨h, rfl⟩
  | cons o os ih =>
    obtain ⟨hlacks, hsame⟩ := h.step (s.step_occur o)
    obtain ⟨hlater, hsame'⟩ := ih hlacks
    exact ⟨hlater, hsame'.trans hsame⟩

/-- Once a timer is disarmed, nothing brings it to fire or takes back that it has fired. -/
theorem Holds.follow_disarm (hk : s.Kept) (h : s.Holds j a) (hdisarms : o.disarms j = true)
    (os : List DeskOp) :
    (s.follow (o :: os)).Lacks j a ∧ (s.follow (o :: os)).firings a.id = s.firings a.id := by
  obtain ⟨hlacks, hsame⟩ := h.disarm hk (s.step_occur o) hdisarms
  obtain ⟨hlater, hsame'⟩ := hlacks.follow os
  exact ⟨hlater, hsame'.trans hsame⟩

/-- A timer that was armed is held, or somebody who held it has disarmed it. -/
theorem Holds.cases_follow (hk : s.Kept) (h : s.Holds j a) (os : List DeskOp) :
    (s.follow os).Holds j a ∧ (∀ o ∈ os, o.disarms j = false) ∨
      ∃ before o after, os = before ++ o :: after ∧ o.disarms j = true ∧
        (s.follow before).Kept ∧ (s.follow before).Holds j a := by
  induction os generalizing s with
  | nil => exact .inl ⟨h, List.forall_mem_nil _⟩
  | cons o os ih =>
    have hs := s.step_occur o
    cases hdisarms : o.disarms j with
    | true => exact .inr ⟨[], o, os, rfl, hdisarms, hk, h⟩
    | false =>
      rcases ih (hk.step hs) (h.step hk hs hdisarms) with
        ⟨hheld, hspared⟩ | ⟨before, o', after, rfl, hdisarms', hk', h'⟩
      · exact .inl ⟨hheld, List.forall_mem_cons.2 ⟨hdisarms, hspared⟩⟩
      · exact .inr ⟨o :: before, o', after, rfl, hdisarms', hk', h'⟩

/-! ## When a timer fires -/

/-- The timer that is armed next. -/
def nextTimer (s : ShutdownDesk) (delay : Nat) (t : Termination) : AbortTimer :=
  ⟨s.coordinator.timers.made, s.now + delay, delay, t⟩

theorem holds_of_arm {r : ShutdownDesk} {i delay : Nat} {t : Termination} (hk : r.Kept)
    (harm : r.arm i delay t = some (j, s)) : s.Kept ∧ s.Holds j (r.nextTimer delay t) := by
  have hs : r.Step (.act (.arm i delay t)) s := by
    have hact : r.act (.arm i delay t) = s := by
      change (r.arm i delay t).elim r (·.2) = s
      rw [harm]
      rfl
    exact hact ▸ r.step_act (.arm i delay t)
  unfold arm at harm
  split at harm
  · obtain ⟨rfl, rfl⟩ := Prod.mk.inj (Option.some.inj harm)
    refine ⟨hk.step hs, ?_, .inl ⟨List.mem_append_right _ (List.mem_singleton_self _), ?_⟩⟩
    · exact (timer?_append rfl _).trans (if_pos rfl)
    · exact fun g hg => Nat.ne_of_lt (hk.coordinator.grace g hg)
  · cases harm

theorem Holds.firings_cases (hk : s.Kept) (h : s.Holds j a) :
    s.firings a.id = [] ∧ s.now ≤ a.deadline ∨
      s.firings a.id = [(a.deadline, a.termination)] ∧ a.deadline ≤ s.now := by
  rcases h.runs with hticks | ⟨hpast, -, hfired⟩
  · exact .inl ⟨hk.coordinator.spent a hticks.armed, hk.coordinator.punctual a hticks.armed⟩
  · exact .inr ⟨hfired, hpast⟩

/-- Where nothing is due, a timer that is held has fired just if its deadline has come. -/
theorem Holds.firings_of_prompt (hk : s.Kept) (h : s.Holds j a)
    (hprompt : ∀ b ∈ s.coordinator.timers.armed, s.now < b.deadline) :
    s.firings a.id = if a.deadline ≤ s.now then [(a.deadline, a.termination)] else [] := by
  rcases h.runs with hticks | ⟨hpast, -, hfired⟩
  · rw [if_neg (Nat.not_le_of_lt (hprompt a hticks.armed))]
    exact hk.coordinator.spent a hticks.armed
  · exact hfired.trans (if_pos hpast).symm

theorem follow_orderly_cons (s : ShutdownDesk) (b : DeskAct) (duration : Nat)
    (steps : List (DeskAct × Nat)) :
    s.follow (orderly ((b, duration) :: steps)) =
      s.follow (.act b :: .wait duration :: orderly steps) := rfl

/-- If all that is due is done before anybody does anything, a timer fires just if its deadline
comes while it is held. -/
theorem Holds.firings_orderly (hk : s.Kept) (h : s.Holds j a)
    (hprompt : ∀ b ∈ s.coordinator.timers.armed, s.now < b.deadline)
    (steps : List (DeskAct × Nat)) :
    (s.follow (orderly steps)).firings a.id =
      if a.deadline ≤ s.heldUntil j steps then [(a.deadline, a.termination)] else [] := by
  induction steps generalizing s with
  | nil => exact h.firings_of_prompt hk hprompt
  | cons x steps ih =>
    obtain ⟨b, duration⟩ := x
    cases hdisarms : (DeskOp.act b).disarms j with
    | true =>
      have huntil : s.heldUntil j ((b, duration) :: steps) = s.now := by simp [heldUntil, hdisarms]
      rw [huntil, follow_orderly_cons, (h.follow_disarm hk hdisarms _).2]
      exact h.firings_of_prompt hk hprompt
    | false =>
      have huntil : s.heldUntil j ((b, duration) :: steps) =
          ((s.act b).wait duration).heldUntil j steps := by simp [heldUntil, hdisarms]
      have hact := s.step_occur (.act b)
      have hwait := (s.act b).step_occur (.wait duration)
      rw [huntil]
      exact ih ((hk.step hact).step hwait)
        ((h.step hk hact hdisarms).step (hk.step hact) hwait rfl)
        ((s.act b).arrives_wait duration).prompt

/-- What can be relied on about a timer after `os` have happened since it was armed, in whatever
order. -/
structure Reliable (s : ShutdownDesk) (j : Nat) (a : AbortTimer) (os : List DeskOp) : Prop where
  /-- It has fired once and at its deadline, or not at all. -/
  once : (s.follow os).firings a.id = [] ∨
    (s.follow os).firings a.id = [(a.deadline, a.termination)]
  early : (s.follow os).now < a.deadline → (s.follow os).firings a.id = []
  late : (∀ o ∈ os, o.disarms j = false) → a.deadline < (s.follow os).now →
    (s.follow os).firings a.id = [(a.deadline, a.termination)]
  /-- To disarm it, before or after, does not take back that it has fired; and it fires no more. -/
  final : ∀ before o after, os = before ++ o :: after → o.disarms j = true →
    (s.follow os).firings a.id = (s.follow before).firings a.id
  /-- Those who hold it see it as fired just if it has fired. -/
  live : (∀ o ∈ os, o.disarms j = false) → ((s.follow os).hasFired? j).isSome = true
  hasFired : ∀ b, (s.follow os).hasFired? j = some b →
    (b = true ↔ (s.follow os).firings a.id ≠ [])
  /-- Every timer has made its request as it fired, and as long as there is somebody to take them
  no request is withdrawn. -/
  requested : Requested (s.follow os).coordinator.isListening (s.follow os).chronicle.happenings
  standing : (s.follow os).coordinator.isListening = true → (s.follow os).coordinator.posted =
    gather Happening.posted? (s.follow os).chronicle.happenings
  /-- Every timer that has fired for a reason was counted. -/
  counted : ∀ t, Tally.count t (s.follow os).chronicle.metrics.aborts =
    (firedIn t (s.follow os).chronicle.happenings).length
  /-- To disarm another timer changes nothing for this one. -/
  apart : ∀ o k, o.disarms k = true → k ≠ j →
    let u := (s.follow os).occur o
    u.timer? j = (s.follow os).timer? j ∧ u.firings a.id = (s.follow os).firings a.id ∧
      (a ∈ u.coordinator.timers.armed ↔ a ∈ (s.follow os).coordinator.timers.armed)

theorem Step.le_now (hs : s.Step o u) : s.now ≤ u.now := by
  cases hs with
  | stay => exact Nat.le_refl _
  | course u _ hcourse => exact hcourse.le_now
  | arm u delay t _ hmoves =>
    have hcourse : Coordinator.Course s.state u.state := .single hmoves
    exact hcourse.le_now
  | disarm u i id t _ _ hchange => exact hchange.le_now

theorem le_now_follow (s : ShutdownDesk) (os : List DeskOp) : s.now ≤ (s.follow os).now := by
  induction os generalizing s with
  | nil => exact Nat.le_refl _
  | cons o os ih => exact Nat.le_trans (s.step_occur o).le_now (ih (s.occur o))

theorem Holds.holds_or_lacks (hk : s.Kept) (h : s.Holds j a) (os : List DeskOp) :
    (s.follow os).Holds j a ∨ (s.follow os).Lacks j a := by
  rcases h.cases_follow hk os with ⟨hheld, -⟩ | ⟨before, o, after, rfl, hdisarms, hk', h'⟩
  · exact .inl hheld
  · rw [follow_append]
    exact .inr (h'.follow_disarm hk' hdisarms after).1

theorem Holds.firings_follow (hk : s.Kept) (h : s.Holds j a) (os : List DeskOp) :
    (s.follow os).firings a.id = [] ∨
      (s.follow os).firings a.id = [(a.deadline, a.termination)] ∧
        a.deadline ≤ (s.follow os).now := by
  rcases h.cases_follow hk os with ⟨hheld, -⟩ | ⟨before, o, after, rfl, hdisarms, hk', h'⟩
  · exact (hheld.firings_cases (hk.follow os)).imp_left (·.1)
  · have hlater := (s.follow before).le_now_follow (o :: after)
    rw [follow_append, (h'.follow_disarm hk' hdisarms after).2]
    exact (h'.firings_cases hk').imp (·.1) fun h => ⟨h.1, Nat.le_trans h.2 hlater⟩

/-- A timer that was disarmed once has no more to do with what happens. -/
theorem Holds.firings_disarmed (hk : s.Kept) (h : s.Holds j a) (before : List DeskOp)
    (hdisarms : o.disarms j = true) (after : List DeskOp) :
    (s.follow (before ++ o :: after)).firings a.id = (s.follow before).firings a.id := by
  rw [follow_append]
  rcases h.holds_or_lacks hk before with h' | h'
  · exact (h'.follow_disarm (hk.follow before) hdisarms after).2
  · exact (h'.follow (o :: after)).2

/-- To disarm one timer changes nothing for another one. -/
theorem Step.apart {k : Nat} (hk : s.Kept) (h : s.Holds j a ∨ s.Lacks j a) (hs : s.Step o u)
    (hdisarms : o.disarms k = true) (hne : k ≠ j) :
    u.timer? j = s.timer? j ∧ u.firings a.id = s.firings a.id ∧
      (a ∈ u.coordinator.timers.armed ↔ a ∈ s.coordinator.timers.armed) := by
  cases hs with
  | stay => exact ⟨rfl, rfl, .rfl⟩
  | course u hspared => simp [hspared k] at hdisarms
  | arm u delay t hspared => simp [hspared k] at hdisarms
  | disarm u i id t hdisarms' hheld hchange htimers =>
    obtain rfl := DeskOp.eq_of_disarms hdisarms' hdisarms
    obtain ⟨hgoes, hdropped⟩ : s.coordinator.Goes s.chronicle u.coordinator u.chronicle ∧
        u.coordinator.timers = s.coordinator.timers.drop id := by
      cases hchange with
      | disarm id k' d hgoes htimers => exact ⟨hgoes, htimers⟩
    refine ⟨?_, hgoes.mute.adds.firings, ?_⟩
    · rw [timer?_set htimers, if_neg hne.symm]
    · rw [hdropped, Timers.drop, List.mem_filter, and_iff_left_iff_imp]
      intro ha
      rcases h with h | h
      · have hother : a.id ≠ id := by
          rintro rfl
          exact hne (hk.distinct i j _ _ _ hheld h.held)
        simpa using hother
      · exact absurd rfl (h.off.off a ha)

theorem reliable (hk : s.Kept) (h : s.Holds j a) (os : List DeskOp) : s.Reliable j a os := by
  have hkept := hk.follow os
  have hfirings := h.firings_follow hk os
  constructor
  case once => exact hfirings.imp_right (·.1)
  case early =>
    intro hearly
    rcases hfirings with hnone | ⟨-, hpast⟩
    · exact hnone
    · exact absurd hpast (Nat.not_le_of_lt hearly)
  case late =>
    intro hspared hlate
    rcases (h.follow hk os hspared).firings_cases hkept with ⟨-, hle⟩ | ⟨hfired, -⟩
    · exact absurd hlate (Nat.not_lt_of_le hle)
    · exact hfired
  case final =>
    rintro before o after rfl hdisarms
    exact h.firings_disarmed hk before hdisarms after
  case live =>
    intro hspared
    simp [hasFired?, (h.follow hk os hspared).held]
  case hasFired =>
    intro b hb
    rcases h.holds_or_lacks hk os with h' | h'
    · rw [hasFired?, h'.held] at hb
      rw [← Option.some.inj hb]
      exact hkept.coordinator.hasFired a.id
    · rw [hasFired?, h'.lost] at hb
      cases hb
  case requested => exact hkept.coordinator.answered
  case standing => exact hkept.coordinator.posted
  case counted => exact hkept.coordinator.counted
  case apart =>
    exact fun o k hdisarms hne =>
      ((s.follow os).step_occur o).apart hkept (h.holds_or_lacks hk os) hdisarms hne

/-- **An abort timer fires once or not at all.**  However many timers are armed, cancelled and
dropped beside one coordinator while time passes, a timer fires at its deadline if it is held until
then, and never otherwise. -/
theorem fires_once_or_never (gracePeriod capacity : Nat) (before : List DeskOp) (i delay : Nat)
    (t : Termination) {r s : ShutdownDesk} (hr : (fresh gracePeriod capacity).follow before = r)
    (harm : r.arm i delay t = some (j, s)) :
    (∀ duration steps, ((s.wait duration).follow (orderly steps)).firings (r.nextTimer delay t).id =
      if r.now + delay ≤ (s.wait duration).heldUntil j steps then [(r.now + delay, t)] else []) ∧
    ∀ os, s.Reliable j (r.nextTimer delay t) os := by
  have hkept : r.Kept := hr ▸ (Kept.fresh gracePeriod capacity).follow before
  obtain ⟨hk, hholds⟩ := holds_of_arm hkept harm
  refine ⟨fun duration steps => ?_, reliable hk hholds⟩
  have hwait := s.step_occur (.wait duration)
  exact (hholds.step hk hwait rfl).firings_orderly (hk.step hwait) (s.arrives_wait duration).prompt
    steps

/-- A desk at the time 5, with a timer that fires at 50. -/
def attended : ShutdownDesk :=
  (fresh 500 2).follow [.act .subscribe, .act .run, .act (.signal [.interrupt]),
    .act (.arm 0 50 .driverActivationTimeout), .wait 5]

/-- Another timer, which is cancelled at its deadline, or just before. -/
theorem fires_once_or_never_attended :
    attended.arm 0 45 .driverRemovalTimeout =
        some (1, attended.act (.arm 0 45 .driverRemovalTimeout)) ∧
      ((attended.act (.arm 0 45 .driverRemovalTimeout)).follow
        (.wait 45 :: orderly [(.cancel 1, 9)])).firings 2 = [(50, .driverRemovalTimeout)] ∧
      ((attended.act (.arm 0 45 .driverRemovalTimeout)).follow
        (.wait 44 :: orderly [(.cancel 1, 9)])).firings 2 = [] := by
  have harm : attended.arm 0 45 .driverRemovalTimeout =
      some (1, attended.act (.arm 0 45 .driverRemovalTimeout)) := by rfl
  obtain ⟨hfirings, -⟩ := fires_once_or_never 500 2 _ 0 45 .driverRemovalTimeout rfl harm
  exact ⟨harm, hfirings 45 [(.cancel 1, 9)], hfirings 44 [(.cancel 1, 9)]⟩

end Hotplug.ShutdownDesk
