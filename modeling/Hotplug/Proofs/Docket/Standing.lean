import Hotplug.Proofs.Docket

/-!
# The phases of a coordinator, by its docket

In each of its phases a coordinator has dealt with some of what its docket keeps, and whatever is
left came just now.  So nothing can have ended its run before now.

* `Docket.mem_candidates`, `Docket.mem_outcomes` — what may end a run, and what does.
* `Docket.Fresh` — what came just now.
* `Idle`, `Awaiting`, `Stopping`, `Concluded` — the phases, with what each of them has to do with
  the docket.
* `Standing.step` — every run stays in one of them.
-/

namespace Hotplug

/-! ## Candidates -/

namespace Docket

variable {d : Docket} {gracePeriod start now time : Nat} {t : Termination}

theorem mem_candidates (hbegun : d.begun = some start) :
    (time, t) ∈ d.candidates gracePeriod ↔
      (∃ x, d.posts[0]? = some x ∧ time = max start x.1 ∧ t = x.2) ∨
      (∃ x, d.arrivals[0]? = some x ∧ time = max start x.1 + gracePeriod ∧ t = .shutdownTimeout) ∨
      (∃ x, d.arrivals[1]? = some x ∧ time = max start x.1 ∧ t = .repeatedSignal) := by
  simp only [candidates, hbegun, List.mem_append, Option.mem_toList,
    Option.map_eq_some_iff, Prod.mk.injEq, or_assoc, @eq_comm _ time, @eq_comm _ t]

theorem mem_outcomes : (time, t) ∈ d.outcomes gracePeriod ↔
    (time, t) ∈ d.candidates gracePeriod ∧ ∀ x ∈ d.candidates gracePeriod, time ≤ x.1 := by
  simp [outcomes]

/-- Nothing that others have done lies in the future. -/
structure Past (d : Docket) (now : Nat) : Prop where
  begun : ∀ t ∈ d.begun, t ≤ now
  posts : ∀ x ∈ d.posts, x.1 ≤ now
  arrivals : ∀ x ∈ d.arrivals, x.1 ≤ now

namespace Past

theorem mono (h : d.Past now) (hle : now ≤ time) : d.Past time where
  begun t ht := Nat.le_trans (h.begun t ht) hle
  posts x hx := Nat.le_trans (h.posts x hx) hle
  arrivals x hx := Nat.le_trans (h.arrivals x hx) hle

theorem post (h : d.Past now) (t : Termination) : (d.post now t).Past now where
  begun := h.begun
  posts x hx := by
    rcases List.mem_append.1 hx with hold | hnew
    · exact h.posts x hold
    · simp [List.mem_singleton.1 hnew]
  arrivals := h.arrivals

theorem send (h : d.Past now) (s : Signal) (o : Offered) : (d.send now s o).Past now := by
  cases o with
  | queued =>
    refine ⟨h.begun, h.posts, fun x hx => ?_⟩
    rcases List.mem_append.1 hx with hold | hnew
    · exact h.arrivals x hold
    · simp [List.mem_singleton.1 hnew]
  | coalesced => exact ⟨h.begun, h.posts, h.arrivals⟩
  | unread | unsendable => exact h

end Past

/-- Whatever of these things came before now came before the beginning, which is now. -/
def Fresh {α : Type} (start now : Nat) (xs : List (Nat × α)) : Prop :=
  ∀ x ∈ xs, now ≤ max start x.1

theorem Fresh.concat {α : Type} {xs : List (Nat × α)} (h : Fresh start now xs) (a : α) :
    Fresh start now (xs ++ [(now, a)]) := by
  intro x hx
  rcases List.mem_append.1 hx with hold | hnew
  · exact h x hold
  · obtain rfl := List.mem_singleton.1 hnew
    exact Nat.le_max_right _ _

/-- What came just now counts from now. -/
theorem Past.max_eq (h : d.Past now) (hbegun : d.begun = some start) (hle : time ≤ now)
    (hfresh : now ≤ max start time) : max start time = now := by
  have hstart := h.begun start (by simp [hbegun])
  omega

/-- Nothing can have ended a run of which all that could end it came just now. -/
theorem le_candidates (hbegun : d.begun = some start)
    (hposts : Fresh start now d.posts)
    (hgrace : ∀ x, d.arrivals[0]? = some x → now ≤ max start x.1 + gracePeriod)
    (hsecond : ∀ x, d.arrivals[1]? = some x → now ≤ max start x.1) :
    ∀ x ∈ d.candidates gracePeriod, now ≤ x.1 := by
  rintro ⟨time, t⟩ hmem
  rcases (mem_candidates hbegun).1 hmem with ⟨x, hx, rfl, -⟩ | ⟨x, hx, rfl, -⟩ | ⟨x, hx, rfl, -⟩
  · exact hposts x (List.mem_of_getElem? hx)
  · exact hgrace x hx
  · exact hsecond x hx

/-- What is posted later takes no outcome away. -/
theorem mem_outcomes_post (h : (time, t) ∈ d.outcomes gracePeriod) (hle : time ≤ now)
    (u : Termination) : (time, t) ∈ (d.post now u).outcomes gracePeriod := by
  rw [mem_outcomes] at h ⊢
  cases hbegun : d.begun with
  | none => simp [candidates, hbegun] at h
  | some start =>
    have hpost : (d.post now u).begun = some start := hbegun
    cases hposts : d.posts with
    | cons x rest =>
      have hsame : (d.post now u).candidates gracePeriod = d.candidates gracePeriod := by
        simp [candidates, post, hbegun, hposts]
      rwa [hsame]
    | nil =>
      have hmore : ∀ x, x ∈ (d.post now u).candidates gracePeriod ↔
          x = (max start now, u) ∨ x ∈ d.candidates gracePeriod := by
        simp [candidates, post, hbegun, hposts]
      refine ⟨(hmore _).2 (.inr h.1), fun x hx => ?_⟩
      rcases (hmore x).1 hx with rfl | hold
      · exact Nat.le_trans hle (Nat.le_max_right _ _)
      · exact h.2 x hold

end Docket

/-! ## The phases of a run -/

namespace ShutdownRun

variable {r v : ShutdownRun} {start deadline time : Nat} {t : Termination} {first : Nat × Signal}
  {rest : List (Nat × Signal)}

/-- Nothing was taken yet: whatever others have sent waits. -/
structure Untouched (r : ShutdownRun) : Prop where
  posted : r.coordinator.posted = r.docket.posts.map (·.2)
  waiting : r.coordinator.signals.waiting = r.docket.arrivals.map (·.2)
  armed : r.coordinator.timers.armed = []
  untold : terminationsOf r.chronicle.happenings = []

/-- The coordinator is not run yet. -/
structure Idle (r : ShutdownRun) : Prop extends Untouched r where
  phase : r.coordinator.phase = .idle
  begun : r.docket.begun = none

/-- The coordinator awaits the first signal, and whatever waits for it came just now. -/
structure Awaiting (r : ShutdownRun) (start : Nat) : Prop extends Untouched r where
  phase : r.coordinator.phase = .awaitingSignal
  begun : r.docket.begun = some start
  posts : Docket.Fresh start r.now r.docket.posts
  arrivals : Docket.Fresh start r.now r.docket.arrivals

/-- The grace timer is armed, or it has fired just now. -/
inductive Graced (r : ShutdownRun) (deadline : Nat) : Prop
  | armed (a : AbortTimer) (hphase : r.coordinator.phase = .stopping a.id)
      (harmed : r.coordinator.timers.armed = [a]) (hdeadline : a.deadline = deadline)
      (htermination : a.termination = .shutdownTimeout) (hle : r.now ≤ deadline)
      (hposted : r.coordinator.posted = r.docket.posts.map (·.2))
  | fired (grace : TimerId) (hphase : r.coordinator.phase = .stopping grace)
      (harmed : r.coordinator.timers.armed = []) (hnow : r.now = deadline)
      (t : Termination) (later : List Termination) (hposted : r.coordinator.posted = t :: later)
      (hcause : t = .shutdownTimeout ∨ ∃ x, r.docket.posts[0]? = some x ∧ t = x.2)

/-- The coordinator has taken the first signal, and whatever else waits for it came just now. -/
structure Stopping (r : ShutdownRun) (start : Nat) (first : Nat × Signal)
    (rest : List (Nat × Signal)) : Prop where
  begun : r.docket.begun = some start
  posts : Docket.Fresh start r.now r.docket.posts
  arrivals : r.docket.arrivals = first :: rest
  waiting : r.coordinator.signals.waiting = rest.map (·.2)
  fresh : Docket.Fresh start r.now rest
  untold : terminationsOf r.chronicle.happenings = []
  graced : r.Graced (max start first.1 + r.coordinator.gracePeriod)

/-- The coordinator has decided on an outcome, at its time. -/
structure Concluded (r : ShutdownRun) (time : Nat) (t : Termination) : Prop where
  phase : r.coordinator.phase = .decided t
  told : terminationsOf r.chronicle.happenings = [(time, .terminated t)]
  outcome : (time, t) ∈ r.docket.outcomes r.coordinator.gracePeriod
  past : time ≤ r.now
  unread : r.coordinator.signals.isRead = false
  armed : r.coordinator.timers.armed = []

/-- The phase in which a run is. -/
inductive Standing (r : ShutdownRun) : Prop
  | idle (h : r.Idle)
  | awaiting (start : Nat) (h : r.Awaiting start)
  | stopping (start : Nat) (first : Nat × Signal) (rest : List (Nat × Signal))
      (h : r.Stopping start first rest)
  | concluded (time : Nat) (t : Termination) (h : r.Concluded time t)

/-! ## Steps -/

theorem terminationsOf_aside {c d : Chronicle} (hc : c.Aside d) :
    terminationsOf d.happenings = terminationsOf c.happenings := by
  apply hc.adds_untold.terminationsOf
  simp

theorem terminationsOf_record {c : Chronicle} {x : Happening} (hx : x.isTermination = false) :
    terminationsOf (c.record x).happenings = terminationsOf c.happenings := by
  simp [terminationsOf, Chronicle.record, hx]

theorem terminationsOf_terminated {c : Chronicle} (h : terminationsOf c.happenings = [])
    (t : Termination) :
    terminationsOf (c.record (.terminated t)).happenings = [(c.now, .terminated t)] := by
  have hcons : terminationsOf (c.record (.terminated t)).happenings =
      (c.now, .terminated t) :: terminationsOf c.happenings := by
    simp [terminationsOf, Chronicle.record, Happening.isTermination]
  rw [hcons, h]

/-- No incident lies in the future. -/
theorem past_step (h : r.docket.Past r.now) (hs : r.Step v) : v.docket.Past v.now := by
  have haside : ∀ {c : Chronicle}, r.chronicle.Aside c → r.now ≤ c.now := by
    intro c hc
    exact Nat.le_of_eq hc.now.symm
  cases hs with
  | stay | close | decide | ignoreSignals => exact h
  | trigger c hidle hc =>
    have hold := h.mono (haside hc)
    exact ⟨hold.begun, hold.posts, hold.arrivals⟩
  | run => exact ⟨by simp [now], h.posts, h.arrivals⟩
  | post t => exact h.post t
  | ignore t c hlistening hc => exact (h.post t).mono (haside hc)
  | queue s => exact h.send s .queued
  | coalesce s c hread hfull hc => exact (h.send s .coalesced).mono (haside hc)
  | pass time hrests hle => exact h.mono hle
  | fire a fired c harmed hdue hlistening hc =>
    have hold : r.docket.Past c.now := h.mono (haside hc)
    exact hold
  | expire a fired c harmed hlistening hc => exact h.mono (haside hc)
  | first s rest c hphase hwaiting hc | second s rest grace c hphase hwaiting hc =>
    exact h.mono (Nat.le_of_eq hc.now.symm)

namespace Untouched

theorem aside (h : r.Untouched) {c : Chronicle} (hc : r.chronicle.Aside c) :
    terminationsOf c.happenings = [] :=
  (terminationsOf_aside hc).trans h.untold

/-- A termination is posted. -/
theorem posted_concat (h : r.Untouched) (t : Termination) :
    r.coordinator.posted ++ [t] = (r.docket.post r.now t).posts.map (·.2) := by
  simp [Docket.post, h.posted]

/-- A signal gets into the buffer. -/
theorem waiting_concat (h : r.Untouched) (s : Signal) :
    r.coordinator.signals.waiting ++ [s] =
      (r.docket.send r.now s .queued).arrivals.map (·.2) := by
  simp [Docket.send, h.waiting]

end Untouched

/-- Before it is run, the coordinator lets everything wait. -/
theorem Idle.step (h : r.Idle) (hs : r.Step v) : v.Standing := by
  have hlistening : r.coordinator.isListening = true := by
    simp [Coordinator.isListening, h.phase]
  cases hs with
  | stay => exact .idle h
  | trigger c hidle hc =>
    exact .idle ⟨⟨h.posted, h.waiting, h.armed, h.aside hc⟩, h.phase, h.begun⟩
  | run =>
    refine .awaiting r.now ⟨⟨h.posted, h.waiting, h.armed, h.untold⟩, rfl, rfl, ?_, ?_⟩
    · exact fun x _ => Nat.le_max_left _ _
    · exact fun x _ => Nat.le_max_left _ _
  | post t =>
    refine .idle ⟨⟨h.posted_concat t, h.waiting, h.armed, ?_⟩, h.phase, h.begun⟩
    exact (terminationsOf_record rfl).trans h.untold
  | queue s =>
    exact .idle ⟨⟨h.posted, h.waiting_concat s, h.armed, h.untold⟩, h.phase, h.begun⟩
  | coalesce s c hread hfull hc =>
    exact .idle ⟨⟨h.posted, h.waiting, h.armed, h.aside hc⟩, h.phase, h.begun⟩
  | close => exact .idle ⟨⟨h.posted, h.waiting, h.armed, h.untold⟩, h.phase, h.begun⟩
  | pass => exact .idle ⟨⟨h.posted, h.waiting, h.armed, h.untold⟩, h.phase, h.begun⟩
  | ignore t c hignored | expire a fired c harmed hignored =>
    rw [hlistening] at hignored
    cases hignored
  | fire a fired c harmed =>
    rw [h.armed] at harmed
    cases harmed
  | decide t later hrun | ignoreSignals hrun =>
    rw [Coordinator.isRunning, h.phase] at hrun
    cases hrun
  | first s later c hphase | second s later grace c hphase =>
    rw [h.phase] at hphase
    cases hphase

namespace Awaiting

theorem isRunning (h : r.Awaiting start) : r.coordinator.isRunning = true := by
  simp [Coordinator.isRunning, h.phase]

/-- At rest, nothing was sent yet. -/
theorem nothing_left (h : r.Awaiting start) (hattentive : r.Attentive) (hrests : r.rests = true) :
    r.docket.posts = [] ∧ r.docket.arrivals = [] := by
  constructor
  · simpa [h.posted] using posted_of_rests hrests h.isRunning
  · simpa [h.waiting] using waiting_of_rests hattentive hrests h.isRunning

theorem le_candidates (h : r.Awaiting start) {gracePeriod : Nat} :
    ∀ x ∈ r.docket.candidates gracePeriod, r.now ≤ x.1 := by
  apply Docket.le_candidates h.begun h.posts
  · intro x hx
    exact Nat.le_add_right_of_le (h.arrivals x (List.mem_of_getElem? hx))
  · intro x hx
    exact h.arrivals x (List.mem_of_getElem? hx)

/-- The first termination that was posted is an outcome now. -/
theorem outcome (h : r.Awaiting start) (hpast : r.docket.Past r.now) {t : Termination}
    {later : List Termination} (hposted : r.coordinator.posted = t :: later) (gracePeriod : Nat) :
    (r.now, t) ∈ r.docket.outcomes gracePeriod := by
  rw [h.posted] at hposted
  obtain ⟨x, others, hposts, rfl, -⟩ := List.map_eq_cons_iff.1 hposted
  have hmem : x ∈ r.docket.posts := by
    simp [hposts]
  have hnow := hpast.max_eq h.begun (hpast.posts x hmem) (h.posts x hmem)
  refine Docket.mem_outcomes.2 ⟨?_, h.le_candidates⟩
  exact (Docket.mem_candidates h.begun).2 (.inl ⟨x, by simp [hposts], hnow.symm, rfl⟩)

/-- The first signal is taken as it comes. -/
theorem takeFirst (h : r.Awaiting start) (hpast : r.docket.Past r.now) {s : Signal}
    {later : List Signal} (hwaiting : r.coordinator.signals.waiting = s :: later) :
    ∃ first rest, r.docket.arrivals = first :: rest ∧ later = rest.map (·.2) ∧
      max start first.1 = r.now := by
  rw [h.waiting] at hwaiting
  obtain ⟨first, rest, harrivals, -, hlater⟩ := List.map_eq_cons_iff.1 hwaiting
  have hmem : first ∈ r.docket.arrivals := by
    simp [harrivals]
  have hnow := hpast.max_eq h.begun (hpast.arrivals first hmem) (h.arrivals first hmem)
  exact ⟨first, rest, harrivals, hlater.symm, hnow⟩

theorem step (h : r.Awaiting start) (hpast : r.docket.Past r.now) (hattentive : r.Attentive)
    (hs : r.Step v) : v.Standing := by
  have hlistening := Coordinator.isListening_of_isRunning h.isRunning
  cases hs with
  | stay => exact .awaiting start h
  | trigger c hidle | run hidle =>
    rw [h.phase] at hidle
    cases hidle
  | post t =>
    refine .awaiting start ⟨⟨h.posted_concat t, h.waiting, h.armed, ?_⟩, h.phase, h.begun,
      h.posts.concat t, h.arrivals⟩
    exact (terminationsOf_record rfl).trans h.untold
  | queue s =>
    exact .awaiting start ⟨⟨h.posted, h.waiting_concat s, h.armed, h.untold⟩, h.phase, h.begun,
      h.posts, h.arrivals.concat s⟩
  | coalesce s c hread hfull hc =>
    have hnow : c.now = r.now := hc.now
    refine .awaiting start ⟨⟨h.posted, h.waiting, h.armed, h.aside hc⟩, h.phase, h.begun, ?_, ?_⟩
    · exact hnow ▸ h.posts
    · exact hnow ▸ h.arrivals
  | close | ignoreSignals =>
    exact .awaiting start ⟨⟨h.posted, h.waiting, h.armed, h.untold⟩, h.phase, h.begun, h.posts,
      h.arrivals⟩
  | pass time hrests =>
    obtain ⟨hposts, harrivals⟩ := h.nothing_left hattentive hrests
    refine .awaiting start ⟨⟨h.posted, h.waiting, h.armed, h.untold⟩, h.phase, h.begun, ?_, ?_⟩
    · simp [hposts, Docket.Fresh]
    · simp [harrivals, Docket.Fresh]
  | ignore t c hignored | expire a fired c harmed hignored =>
    rw [hlistening] at hignored
    cases hignored
  | fire a fired c harmed =>
    rw [h.armed] at harmed
    cases harmed
  | decide t later _ hposted =>
    refine .concluded r.now t ⟨rfl, terminationsOf_terminated h.untold t,
      h.outcome hpast hposted _, Nat.le_refl _, rfl, ?_⟩
    simp [Coordinator.conclude, h.phase, h.armed]
  | first s later c hphase hwaiting hc =>
    obtain ⟨first, rest, harrivals, rfl, hfirst⟩ := h.takeFirst hpast hwaiting
    have hnow : c.now = r.now := hc.now
    refine .stopping start first rest ⟨h.begun, hnow ▸ h.posts, harrivals, rfl, ?_, ?_, ?_⟩
    · intro x hx
      have hmem : x ∈ r.docket.arrivals := by
        simp [harrivals, hx]
      exact hnow ▸ h.arrivals x hmem
    · exact ((terminationsOf_aside hc).trans (terminationsOf_record rfl)).trans h.untold
    · let a : AbortTimer := ⟨r.coordinator.timers.made, r.now + r.coordinator.gracePeriod,
        r.coordinator.gracePeriod, .shutdownTimeout⟩
      refine .armed a rfl (by simp [h.armed, a]) (by simp [hfirst, a]) rfl ?_ h.posted
      change c.now ≤ _
      rw [hnow, hfirst]
      exact Nat.le_add_right _ _
  | second s later grace c hphase =>
    rw [h.phase] at hphase
    cases hphase

end Awaiting

namespace Graced

theorem congr (h : r.Graced deadline) (hphase : v.coordinator.phase = r.coordinator.phase)
    (harmed : v.coordinator.timers.armed = r.coordinator.timers.armed)
    (hposted : v.coordinator.posted = r.coordinator.posted)
    (hposts : v.docket.posts = r.docket.posts) (hnow : v.now = r.now) : v.Graced deadline := by
  cases h with
  | armed a hstopping hone hdeadline htermination hle hqueue =>
    exact .armed a (hphase.trans hstopping) (harmed.trans hone) hdeadline htermination
      (Nat.le_trans (Nat.le_of_eq hnow) hle) (by rw [hposted, hqueue, hposts])
  | fired grace hstopping hnone hdue t later hqueue hcause =>
    exact .fired grace (hphase.trans hstopping) (harmed.trans hnone) (hnow.trans hdue) t later
      (hposted.trans hqueue) (by rwa [hposts])

/-- A termination that is posted comes after those that were posted before. -/
theorem post (h : r.Graced deadline) (hphase : v.coordinator.phase = r.coordinator.phase)
    (harmed : v.coordinator.timers.armed = r.coordinator.timers.armed) {t : Termination}
    (hposted : v.coordinator.posted = r.coordinator.posted ++ [t])
    (hposts : v.docket.posts = r.docket.posts ++ [(r.now, t)]) (hnow : v.now = r.now) :
    v.Graced deadline := by
  cases h with
  | armed a hstopping hone hdeadline htermination hle hqueue =>
    exact .armed a (hphase.trans hstopping) (harmed.trans hone) hdeadline htermination
      (Nat.le_trans (Nat.le_of_eq hnow) hle) (by simp [hposted, hqueue, hposts])
  | fired grace hstopping hnone hdue u later hqueue hcause =>
    refine .fired grace (hphase.trans hstopping) (harmed.trans hnone) (hnow.trans hdue) u
      (later ++ [t]) (by simp [hposted, hqueue]) (hcause.imp_right ?_)
    rintro ⟨x, hx, hu⟩
    exact ⟨x, by rw [hposts, List.getElem?_append_left (List.getElem?_eq_some_iff.1 hx).1, hx], hu⟩

/-- The grace timer fires at its deadline. -/
theorem fire (h : r.Graced deadline) {a : AbortTimer} (harmed : a ∈ r.coordinator.timers.armed)
    (hdue : a.deadline ≤ r.now) (hphase : v.coordinator.phase = r.coordinator.phase)
    (hdrop : v.coordinator.timers.armed = (r.coordinator.timers.drop a.id).armed)
    (hposted : v.coordinator.posted = r.coordinator.posted ++ [a.termination])
    (hposts : v.docket.posts = r.docket.posts) (hnow : v.now = r.now) : v.Graced deadline := by
  cases h with
  | fired grace hstopping hnone =>
    rw [hnone] at harmed
    cases harmed
  | armed b hstopping hone hdeadline htermination hle hqueue =>
    rw [hone] at harmed
    obtain rfl := List.mem_singleton.1 harmed
    have hdue' : v.now = deadline := by
      omega
    have hnone : v.coordinator.timers.armed = [] := by
      rw [hdrop, Timers.drop, hone]
      simp
    rw [htermination, hqueue] at hposted
    cases hold : r.docket.posts with
    | nil =>
      rw [hold] at hposted
      exact .fired a.id (hphase.trans hstopping) hnone hdue' _ [] hposted (.inl rfl)
    | cons x others =>
      rw [hold] at hposted
      exact .fired a.id (hphase.trans hstopping) hnone hdue' x.2 _ hposted
        (.inr ⟨x, by rw [hposts, hold]; rfl, rfl⟩)

/-- Once the coordinator has decided, no timer is armed. -/
theorem armed_conclude (h : r.Graced deadline) (t : Termination) :
    (r.coordinator.conclude t).timers.armed = [] := by
  cases h with
  | armed a hphase harmed => simp [Coordinator.conclude, hphase, Timers.drop, harmed]
  | fired grace hphase harmed => simp [Coordinator.conclude, hphase, Timers.drop, harmed]

end Graced

namespace Stopping

theorem le_candidates (h : r.Stopping start first rest) :
    ∀ x ∈ r.docket.candidates r.coordinator.gracePeriod, r.now ≤ x.1 := by
  apply Docket.le_candidates h.begun h.posts
  · intro x hx
    obtain rfl : first = x := by simpa [h.arrivals] using hx
    cases h.graced with
    | armed a hphase harmed hdeadline htermination hle => exact hle
    | fired grace hphase harmed hnow => exact Nat.le_of_eq hnow
  · intro x hx
    have hmem : x ∈ rest := by
      rw [h.arrivals, List.getElem?_cons_succ] at hx
      exact List.mem_of_getElem? hx
    exact h.fresh x hmem

theorem exists_phase (h : r.Stopping start first rest) :
    ∃ grace, r.coordinator.phase = .stopping grace := by
  cases h.graced with
  | armed a hphase | fired a hphase => exact ⟨_, hphase⟩

theorem isRunning (h : r.Stopping start first rest) : r.coordinator.isRunning = true := by
  obtain ⟨grace, hphase⟩ := h.exists_phase
  simp [Coordinator.isRunning, hphase]

/-- At rest, only the grace timer is left. -/
theorem nothing_left (h : r.Stopping start first rest) (hattentive : r.Attentive)
    (hrests : r.rests = true) :
    r.docket.posts = [] ∧ rest = [] ∧ ∃ a : AbortTimer, r.coordinator.phase = .stopping a.id ∧
      r.coordinator.timers.armed = [a] ∧ a.termination = .shutdownTimeout ∧
      a.deadline = max start first.1 + r.coordinator.gracePeriod := by
  have hposted := posted_of_rests hrests h.isRunning
  have hrest : rest = [] := by
    simpa [h.waiting] using waiting_of_rests hattentive hrests h.isRunning
  cases h.graced with
  | fired grace hphase hnone hnow t later hqueue =>
    rw [hqueue] at hposted
    cases hposted
  | armed a hphase hone hdeadline htermination hle hqueue =>
    have hposts : r.docket.posts = [] := by
      simpa [hqueue] using hposted
    exact ⟨hposts, hrest, a, hphase, hone, htermination, hdeadline⟩

/-- What the coordinator finds posted is an outcome now. -/
theorem outcome_posted (h : r.Stopping start first rest) (hpast : r.docket.Past r.now)
    {t : Termination} {later : List Termination} (hposted : r.coordinator.posted = t :: later) :
    (r.now, t) ∈ r.docket.outcomes r.coordinator.gracePeriod := by
  refine Docket.mem_outcomes.2 ⟨(Docket.mem_candidates h.begun).2 ?_, h.le_candidates⟩
  have hfirst : ∀ x, r.docket.posts[0]? = some x → t = x.2 →
      ∃ x, r.docket.posts[0]? = some x ∧ r.now = max start x.1 ∧ t = x.2 := by
    intro x hx ht
    have hmem := List.mem_of_getElem? hx
    exact ⟨x, hx, (hpast.max_eq h.begun (hpast.posts x hmem) (h.posts x hmem)).symm, ht⟩
  cases h.graced with
  | armed a hphase harmed hdeadline htermination hle hposts =>
    rw [hposts] at hposted
    obtain ⟨x, others, heq, ht, -⟩ := List.map_eq_cons_iff.1 hposted
    exact .inl (hfirst x (by simp [heq]) ht.symm)
  | fired grace hphase harmed hnow u others hposts hcause =>
    obtain ⟨rfl, -⟩ := List.cons_eq_cons.1 (hposted.symm.trans hposts)
    rcases hcause with rfl | ⟨x, hx, ht⟩
    · exact .inr (.inl ⟨first, by simp [h.arrivals], hnow, rfl⟩)
    · exact .inl (hfirst x hx ht)

/-- The second signal is taken as it comes. -/
theorem outcome_second (h : r.Stopping start first rest) (hpast : r.docket.Past r.now)
    {s : Signal} {later : List Signal} (hwaiting : r.coordinator.signals.waiting = s :: later) :
    (r.now, .repeatedSignal) ∈ r.docket.outcomes r.coordinator.gracePeriod := by
  rw [h.waiting] at hwaiting
  obtain ⟨x, others, hrest, -, -⟩ := List.map_eq_cons_iff.1 hwaiting
  have hmem : x ∈ r.docket.arrivals := by
    simp [h.arrivals, hrest]
  have hnow := hpast.max_eq h.begun (hpast.arrivals x hmem) (h.fresh x (by simp [hrest]))
  refine Docket.mem_outcomes.2 ⟨(Docket.mem_candidates h.begun).2 ?_, h.le_candidates⟩
  exact .inr (.inr ⟨x, by simp [h.arrivals, hrest], hnow.symm, rfl⟩)

theorem step (h : r.Stopping start first rest) (hpast : r.docket.Past r.now)
    (hattentive : r.Attentive) (hs : r.Step v) : v.Standing := by
  obtain ⟨grace, hphase⟩ := h.exists_phase
  have hlistening := Coordinator.isListening_of_isRunning h.isRunning
  cases hs with
  | stay => exact .stopping start first rest h
  | trigger c hidle | run hidle =>
    rw [hphase] at hidle
    cases hidle
  | post t =>
    refine .stopping start first rest ⟨h.begun, h.posts.concat t, h.arrivals, h.waiting, h.fresh,
      ?_, h.graced.post rfl rfl rfl rfl rfl⟩
    exact (terminationsOf_record rfl).trans h.untold
  | queue s =>
    refine .stopping start first (rest ++ [(r.now, s)]) ⟨h.begun, h.posts, ?_, ?_,
      h.fresh.concat s, h.untold, h.graced.congr rfl rfl rfl rfl rfl⟩
    · simp [Docket.send, h.arrivals]
    · simp [h.waiting]
  | coalesce s c hread hfull hc =>
    have hnow : c.now = r.now := hc.now
    exact .stopping start first rest ⟨h.begun, hnow ▸ h.posts, h.arrivals, h.waiting,
      hnow ▸ h.fresh, (terminationsOf_aside hc).trans h.untold,
      h.graced.congr rfl rfl rfl rfl hnow⟩
  | close | ignoreSignals =>
    exact .stopping start first rest ⟨h.begun, h.posts, h.arrivals, h.waiting, h.fresh, h.untold,
      h.graced.congr rfl rfl rfl rfl rfl⟩
  | pass time hrests hle hdue =>
    obtain ⟨hposts, hrest, a, hstopping, hone, htermination, hdeadline⟩ :=
      h.nothing_left hattentive hrests
    have hlast : time ≤ a.deadline := hdue a (by simp [hone])
    have hposted := posted_of_rests hrests h.isRunning
    refine .stopping start first rest ⟨h.begun, ?_, h.arrivals, h.waiting, ?_, h.untold,
      .armed a hstopping hone hdeadline htermination (hdeadline ▸ hlast) ?_⟩
    · simp [hposts, Docket.Fresh]
    · simp [hrest, Docket.Fresh]
    · simp [hposted, hposts]
  | ignore t c hignored | expire a fired c harmed hignored =>
    rw [hlistening] at hignored
    cases hignored
  | fire a fired c harmed hdue _ hc =>
    have hnow : c.now = r.now := hc.now
    have hposts : Docket.Fresh start c.now r.docket.posts := hnow ▸ h.posts
    have hfresh : Docket.Fresh start c.now rest := hnow ▸ h.fresh
    refine .stopping start first rest ⟨h.begun, hposts, h.arrivals, h.waiting, hfresh, ?_,
      h.graced.fire harmed hdue rfl rfl rfl rfl hnow⟩
    exact (terminationsOf_record rfl).trans ((terminationsOf_aside hc).trans h.untold)
  | decide t later _ hposted =>
    exact .concluded r.now t ⟨rfl, terminationsOf_terminated h.untold t,
      h.outcome_posted hpast hposted, Nat.le_refl _, rfl, h.graced.armed_conclude t⟩
  | first s later c hfirst hwaiting hc =>
    rw [hphase] at hfirst
    cases hfirst
  | second s later grace c _ hwaiting hc =>
    have hnow : c.now = r.now := hc.now
    have huntold : terminationsOf c.happenings = [] :=
      ((terminationsOf_aside hc).trans (terminationsOf_record rfl)).trans h.untold
    have houtcome := h.outcome_second hpast hwaiting
    rw [← hnow] at houtcome
    exact .concluded c.now .repeatedSignal ⟨rfl, terminationsOf_terminated huntold _, houtcome,
      Nat.le_refl _, rfl, h.graced.armed_conclude _⟩

end Stopping

/-- Once it has decided, the coordinator does nothing any more. -/
theorem Concluded.step (h : r.Concluded time t) (hs : r.Step v) : v.Concluded time t := by
  have hlistening : r.coordinator.isListening = false := by
    simp [Coordinator.isListening, h.phase]
  cases hs with
  | stay => exact h
  | trigger c hidle | run hidle =>
    rw [h.phase] at hidle
    cases hidle
  | post u hheard | fire a fired c harmed hdue hheard =>
    rw [hlistening] at hheard
    cases hheard
  | ignore u c _ hc =>
    have hnow : c.now = r.now := hc.now
    exact ⟨h.phase, (terminationsOf_aside hc).trans h.told,
      Docket.mem_outcomes_post h.outcome h.past u, hnow ▸ h.past, h.unread, h.armed⟩
  | queue s hread | coalesce s c hread =>
    rw [h.unread] at hread
    cases hread
  | close => exact ⟨h.phase, h.told, h.outcome, h.past, h.unread, h.armed⟩
  | pass later hrests hle =>
    exact ⟨h.phase, h.told, h.outcome, Nat.le_trans h.past hle, h.unread, h.armed⟩
  | expire a fired c harmed =>
    rw [h.armed] at harmed
    cases harmed
  | decide u later hrun | ignoreSignals hrun =>
    rw [Coordinator.isRunning, h.phase] at hrun
    cases hrun
  | first s later c hphase | second s later grace c hphase =>
    rw [h.phase] at hphase
    cases hphase

theorem Standing.step (h : r.Standing) (hpast : r.docket.Past r.now) (hattentive : r.Attentive)
    (hs : r.Step v) : v.Standing := by
  cases h with
  | idle h => exact h.step hs
  | awaiting start h => exact h.step hpast hattentive hs
  | stopping start first rest h => exact h.step hpast hattentive hs
  | concluded time t h => exact .concluded time t (h.step hs)

end ShutdownRun

end Hotplug
