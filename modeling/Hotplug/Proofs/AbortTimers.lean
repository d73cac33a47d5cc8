import Hotplug.Proofs.Metrics.Upkeep
import Hotplug.Proofs.Tallies
import Hotplug.Proofs.Traffic.Ledger
import Mathlib.Data.List.Nodup

/-!
# The timers of one coordinator

Any number of timers beside one coordinator, whatever happens to it.  A timer that is armed fires
at its deadline, or is disarmed and never fires; nothing but that changes how it stands.

The subject is the abort timers of the lifecycle component, whoever armed them.

* `firings` — when a timer fired, and what for.
* `Coordinator.Change` — everything that can become of a coordinator and its timers at once.
* `Coordinator.Kept` — what holds at any time: each timer that fired has fired once, was counted
  and has made its request.
* `AbortTimer.Ticks`, `Timers.IsOff` — a timer that will fire, and one that will not any more.
-/

namespace Hotplug

/-! ## What happenings tell of timers -/

namespace Happening

/-- Whether a happening is that a timer fires or that somebody posts a termination. -/
def isDemand : Happening → Bool
  | timerFired .. | terminationPosted _ => true
  | _ => false

/-- The termination that somebody posts. -/
def posted? : Happening → Option Termination
  | terminationPosted t => some t
  | _ => none

/-- What a timer fires for. -/
def firing? (id : TimerId) : Happening → Option Termination
  | timerFired n t => if n = id then some t else none
  | _ => none

end Happening

/-- When a timer fired and what for, the latest first. -/
def firings (id : TimerId) (hs : List (Nat × Happening)) : List (Nat × Termination) :=
  hs.filterMap fun e => (e.2.firing? id).map (e.1, ·)

/-- Every timer that fired has made its request at once.  It was posted, unless nobody is left who
would take it. -/
def Requested (isListening : Bool) (hs : List (Nat × Happening)) : Prop :=
  ∀ newer older time id t, hs = newer ++ (time, .timerFired id t) :: older →
    ∃ later e, newer = later ++ [e] ∧ (e = (time, .terminationPosted t) ∨
      isListening = false ∧ e = (time, .logged (.terminationIgnored t) none))

section Lists

variable {hs hs' : List (Nat × Happening)} {id : TimerId} {e : Nat × Happening}

theorem firings_cons :
    firings id (e :: hs) = ((e.2.firing? id).map (e.1, ·)).toList ++ firings id hs := by
  cases h : e.2.firing? id <;> simp [firings, h]

theorem firings_cons_of_not (he : e.2.isDemand = false) : firings id (e :: hs) = firings id hs := by
  obtain ⟨time, x⟩ := e
  rw [firings_cons]
  cases x <;> first | rfl | cases he

theorem Adds.firings (h : Adds (fun x => !x.isDemand) hs hs') :
    firings id hs' = firings id hs := by
  obtain ⟨new, rfl, hnew⟩ := h
  induction new with
  | nil => rfl
  | cons e new ih =>
    rw [List.cons_append, firings_cons_of_not (by simpa using hnew e (by simp))]
    exact ih fun x hx => hnew x (by simp [hx])

theorem Requested.mono {before after : Bool} (h : Requested before hs)
    (hgone : before = false → after = false) : Requested after hs := by
  intro newer older time id t heq
  obtain ⟨later, e, hlater, hposted | ⟨hbefore, hignored⟩⟩ := h newer older time id t heq
  · exact ⟨later, e, hlater, .inl hposted⟩
  · exact ⟨later, e, hlater, .inr ⟨hgone hbefore, hignored⟩⟩

theorem Requested.cons {isListening : Bool} (h : Requested isListening hs)
    (he : ∀ id t, e.2 ≠ .timerFired id t) : Requested isListening (e :: hs) := by
  intro newer older time id t heq
  cases newer with
  | nil =>
    obtain ⟨rfl, -⟩ := List.cons_eq_cons.1 heq
    exact absurd rfl (he id t)
  | cons e' newer =>
    obtain ⟨rfl, hrest⟩ := List.cons_eq_cons.1 heq
    obtain ⟨later, e', rfl, hanswer⟩ := h newer older time id t hrest
    exact ⟨e :: later, e', rfl, hanswer⟩

theorem Requested.adds {isListening : Bool} (h : Requested isListening hs)
    (hadds : Adds (fun x => !x.isDemand) hs hs') : Requested isListening hs' := by
  obtain ⟨new, rfl, hnew⟩ := hadds
  induction new with
  | nil => exact h
  | cons e new ih =>
    refine (ih fun x hx => hnew x (by simp [hx])).cons fun id t heq => ?_
    have := hnew e (by simp)
    simp [heq, Happening.isDemand] at this

/-- A timer fires and makes its request. -/
theorem Requested.fire {isListening : Bool} {time : Nat} {t : Termination}
    (h : Requested isListening hs) (he : e = (time, .terminationPosted t) ∨
      isListening = false ∧ e = (time, .logged (.terminationIgnored t) none)) :
    Requested isListening (e :: (time, .timerFired id t) :: hs) := by
  intro newer older time' id' t' heq
  cases newer with
  | nil =>
    obtain ⟨rfl, -⟩ := List.cons_eq_cons.1 heq
    simp at he
  | cons e' newer =>
    obtain ⟨rfl, hrest⟩ := List.cons_eq_cons.1 heq
    cases newer with
    | nil =>
      obtain ⟨hfiring, -⟩ := List.cons_eq_cons.1 hrest
      obtain ⟨rfl, hx⟩ := Prod.mk.inj hfiring
      obtain ⟨-, rfl⟩ := Happening.timerFired.inj hx
      exact ⟨[], e, rfl, he⟩
    | cons e' newer =>
      obtain ⟨rfl, hearlier⟩ := List.cons_eq_cons.1 hrest
      obtain ⟨later, e', rfl, hanswer⟩ := h newer older time' id' t' hearlier
      exact ⟨e :: (time, .timerFired id t) :: later, e', rfl, hanswer⟩

end Lists

/-! ## Everything that can become of a coordinator -/

/-- What a chronicle goes on to while no timer fires and nobody posts anything. -/
structure Chronicle.Mute (c d : Chronicle) : Prop where
  now : d.now = c.now
  aborts : d.metrics.aborts = c.metrics.aborts
  adds : Adds (fun x => !x.isDemand) c.happenings d.happenings

namespace Chronicle.Mute

variable {c d : Chronicle}

theorem refl (c : Chronicle) : c.Mute c :=
  ⟨rfl, rfl, Adds.refl _⟩

theorem record (h : c.Mute d) {x : Happening} (hx : x.isDemand = false) : c.Mute (d.record x) where
  now := h.now
  aborts := h.aborts
  adds := h.adds.cons (by simp [hx])

theorem log (h : c.Mute d) (m : Message) : c.Mute (d.log m) :=
  h.record rfl

end Chronicle.Mute

namespace Coordinator

variable {k k' : Coordinator} {c d : Chronicle} {id : TimerId}

/-- A timer fires and makes its request. -/
def expire (k : Coordinator) (c : Chronicle) (a : AbortTimer) : Coordinator × Chronicle :=
  { k with timers := (k.timers.fire c a).1 }.post (k.timers.fire c a).2 a.termination

theorem post_of_listening {t : Termination} (h : k.isListening = true) :
    k.post c t = ({ k with posted := k.posted ++ [t] }, c.record (.terminationPosted t)) :=
  if_pos h

theorem post_of_gone {t : Termination} (h : k.isListening = false) :
    k.post c t = (k, c.log (.terminationIgnored t)) :=
  if_neg (by simp [h])

theorem timers_post (k : Coordinator) (c : Chronicle) (t : Termination) :
    (k.post c t).1.timers = k.timers := by
  unfold post
  split <;> rfl

theorem phase_post (k : Coordinator) (c : Chronicle) (t : Termination) :
    (k.post c t).1.phase = k.phase := by
  unfold post
  split <;> rfl

theorem firings_post (k : Coordinator) (c : Chronicle) (t : Termination) (id : TimerId) :
    firings id (k.post c t).2.happenings = firings id c.happenings := by
  unfold post
  split <;> exact firings_cons

section Expire

variable (k c) (a : AbortTimer)

theorem timers_expire : (k.expire c a).1.timers =
    { k.timers.drop a.id with fired := a.id :: k.timers.fired } := by
  unfold expire post
  split <;> rfl

theorem phase_expire : (k.expire c a).1.phase = k.phase := by
  unfold expire post
  split <;> rfl

theorem now_expire : (k.expire c a).2.now = c.now := by
  unfold expire post
  split <;> rfl

theorem aborts_expire :
    (k.expire c a).2.metrics.aborts = Tally.bump a.termination c.metrics.aborts := by
  unfold expire post
  split <;> rfl

theorem happenings_expire : (k.expire c a).2.happenings =
    (c.now, if k.isListening then .terminationPosted a.termination
      else .logged (.terminationIgnored a.termination) none) ::
    (c.now, .timerFired a.id a.termination) ::
    (c.now, .logged (.timerFired a.termination a.delay) none) :: c.happenings := by
  cases h : k.isListening with
  | true => rw [expire, post_of_listening (by exact h)]; rfl
  | false => rw [expire, post_of_gone (by exact h)]; rfl

theorem posted_expire (h : k.isListening = true) :
    (k.expire c a).1.posted = k.posted ++ [a.termination] := by
  rw [expire, post_of_listening (by exact h)]

theorem firedIn_expire (t : Termination) : firedIn t (k.expire c a).2.happenings =
    (if a.termination = t then [a.id] else []) ++ firedIn t c.happenings := by
  rw [happenings_expire, firedIn_cons, firedIn_cons, firedIn_cons]
  cases k.isListening <;> by_cases ht : a.termination = t <;> simp [Happening.fired?, ht]

theorem firings_expire (id : TimerId) : firings id (k.expire c a).2.happenings =
    if a.id = id then (c.now, a.termination) :: firings id c.happenings
    else firings id c.happenings := by
  rw [happenings_expire, firings_cons, firings_cons, firings_cons]
  cases k.isListening <;> by_cases hid : a.id = id <;> simp [Happening.firing?, hid]

theorem hasFired_expire (id : TimerId) : (k.expire c a).1.timers.hasFired id = true ↔
    id = a.id ∨ k.timers.hasFired id = true := by
  rw [timers_expire]
  simp [Timers.hasFired]

end Expire

/-- What becomes of a coordinator while no timer fires and nobody posts anything. -/
structure Goes (k : Coordinator) (c : Chronicle) (k' : Coordinator) (d : Chronicle) : Prop where
  mute : c.Mute d
  /-- Requests stay where they are for as long as there is somebody to take them. -/
  posted : k'.isListening = true → k.isListening = true ∧ k'.posted = k.posted

theorem Goes.mute_only (h : c.Mute d) : k.Goes c k d :=
  ⟨h, fun hlistening => ⟨hlistening, rfl⟩⟩

/-- Everything that can become of a coordinator and its timers at once, with the timer that is
disarmed, if one is. -/
inductive Change (k : Coordinator) (c : Chronicle) :
    Option TimerId → Coordinator → Chronicle → Prop
  | pass (time : Nat) (hle : c.now ≤ time) (hdue : ∀ a ∈ k.timers.armed, time ≤ a.deadline) :
      Change k c none k { c with now := time }
  | post (t : Termination) : Change k c none (k.post c t).1 (k.post c t).2
  | fire (a : AbortTimer) (hdue : k.timers.due? c.now = some a) :
      Change k c none (k.expire c a).1 (k.expire c a).2
  | arm (k' : Coordinator) (d : Chronicle) (delay : Nat) (t : Termination)
      (hgoes : k.Goes c k' d) (htimers : k'.timers = (k.timers.arm c delay t).2.1)
      (hgrace : k'.phase = k.phase ∨ k'.phase = .stopping k.timers.made) :
      Change k c none k' d
  | disarm (id : TimerId) (k' : Coordinator) (d : Chronicle) (hgoes : k.Goes c k' d)
      (htimers : k'.timers = k.timers.drop id)
      (hgrace : ∀ g, k'.phase = .stopping g → k.phase = .stopping g) :
      Change k c (some id) k' d
  | keep (k' : Coordinator) (d : Chronicle) (hgoes : k.Goes c k' d)
      (htimers : k'.timers = k.timers)
      (hgrace : ∀ g, k'.phase = .stopping g → k.phase = .stopping g) :
      Change k c none k' d

/-! ## What holds at any time -/

/-- What holds of the timers of a coordinator at any time. -/
structure Kept (k : Coordinator) (c : Chronicle) : Prop where
  numbered : ∀ a ∈ k.timers.armed, a.id < k.timers.made
  distinct : (k.timers.armed.map (·.id)).Nodup
  /-- No armed timer has missed its deadline. -/
  punctual : ∀ a ∈ k.timers.armed, c.now ≤ a.deadline
  spent : ∀ a ∈ k.timers.armed, firings a.id c.happenings = []
  grace : ∀ g, k.phase = .stopping g → g < k.timers.made
  known : ∀ id, firings id c.happenings ≠ [] → id < k.timers.made
  hasFired : ∀ id, k.timers.hasFired id = true ↔ firings id c.happenings ≠ []
  /-- The queue has everything that was ever posted. -/
  posted : k.isListening = true → k.posted = gather Happening.posted? c.happenings
  counted : ∀ t, Tally.count t c.metrics.aborts = (firedIn t c.happenings).length
  answered : Requested k.isListening c.happenings

theorem posted?_of_not_isDemand (x : Happening) (hx : (!x.isDemand) = true) :
    x.posted? = none := by
  cases x <;> first | rfl | cases hx

theorem fired?_of_not_isDemand (t : Termination) (x : Happening) (hx : (!x.isDemand) = true) :
    x.fired? t = none := by
  cases x <;> first | rfl | cases hx

/-- While no timer fires and nobody posts anything, only the armed timers need a look. -/
theorem Kept.goes (h : k.Kept c) (hgoes : k.Goes c k' d)
    (hfired : k'.timers.fired = k.timers.fired) (hmade : k.timers.made ≤ k'.timers.made)
    (hgrace : ∀ g, k'.phase = .stopping g → g < k'.timers.made)
    (hdistinct : (k'.timers.armed.map (·.id)).Nodup)
    (harmed : ∀ a ∈ k'.timers.armed, a.id < k'.timers.made ∧ c.now ≤ a.deadline ∧
      firings a.id c.happenings = []) : k'.Kept d := by
  have hfirings : ∀ id, firings id d.happenings = firings id c.happenings := fun id =>
    hgoes.mute.adds.firings
  refine
    { numbered := fun a ha => (harmed a ha).1
      distinct := hdistinct
      punctual := fun a ha => hgoes.mute.now ▸ (harmed a ha).2.1
      spent := fun a ha => (hfirings a.id).trans (harmed a ha).2.2
      grace := hgrace
      known := fun id hid => Nat.lt_of_lt_of_le (h.known id (hfirings id ▸ hid)) hmade
      hasFired := fun id => ?_
      posted := fun hlistening => ?_
      counted := fun t => ?_
      answered := ?_ }
  · rw [hfirings, ← h.hasFired, Timers.hasFired, Timers.hasFired, hfired]
  · obtain ⟨hbefore, heq⟩ := hgoes.posted hlistening
    rw [heq, h.posted hbefore, hgoes.mute.adds.gather posted?_of_not_isDemand]
  · rw [hgoes.mute.aborts, h.counted, hgoes.mute.adds.firedIn (fired?_of_not_isDemand t)]
  · refine (h.answered.adds hgoes.mute.adds).mono fun hgone => ?_
    exact eq_false_of_ne_true fun hlistening => by simp [(hgoes.posted hlistening).1] at hgone

theorem Kept.keep (h : k.Kept c) (hgoes : k.Goes c k' d) (htimers : k'.timers = k.timers)
    (hgrace : ∀ g, k'.phase = .stopping g → k.phase = .stopping g) : k'.Kept d := by
  apply h.goes hgoes (by rw [htimers]) (Nat.le_of_eq (by rw [htimers]))
  · exact fun g hg => htimers ▸ h.grace g (hgrace g hg)
  · exact htimers ▸ h.distinct
  · rw [htimers]
    exact fun a ha => ⟨h.numbered a ha, h.punctual a ha, h.spent a ha⟩

theorem Kept.post (h : k.Kept c) (t : Termination) : (k.post c t).1.Kept (k.post c t).2 := by
  cases hlistening : k.isListening with
  | true =>
    have hsame := k.firings_post c t
    rw [post_of_listening hlistening] at hsame ⊢
    exact
      { h with
        spent := fun a ha => (hsame a.id).trans (h.spent a ha)
        known := fun id hid => h.known id (hsame id ▸ hid)
        hasFired := fun id => by rw [hsame]; exact h.hasFired id
        posted := fun _ => by
          rw [Chronicle.record, gather_cons, ← h.posted hlistening]
          rfl
        answered := h.answered.cons (by simp) }
  | false =>
    rw [post_of_gone hlistening]
    exact h.keep (Goes.mute_only ((Chronicle.Mute.refl c).log (.terminationIgnored t))) rfl
      fun _ => id

theorem Kept.expire (h : k.Kept c) {a : AbortTimer} (ha : a ∈ k.timers.armed) :
    (k.expire c a).1.Kept (k.expire c a).2 := by
  have hmem : ∀ b, b ∈ (k.expire c a).1.timers.armed → b ∈ k.timers.armed ∧ b.id ≠ a.id := by
    intro b hb
    simpa [timers_expire, Timers.drop] using hb
  have hlistening : (k.expire c a).1.isListening = k.isListening := by
    rw [isListening, phase_expire, isListening]
  have hfirings := firings_expire k c a
  have hmade : (k.expire c a).1.timers.made = k.timers.made := by rw [timers_expire]; rfl
  constructor
  case numbered => exact fun b hb => hmade ▸ h.numbered b (hmem b hb).1
  case distinct =>
    rw [timers_expire]
    exact h.distinct.sublist (List.filter_sublist.map _)
  case punctual => exact fun b hb => (now_expire k c a).symm ▸ h.punctual b (hmem b hb).1
  case spent =>
    intro b hb
    rw [hfirings, if_neg fun heq => (hmem b hb).2 heq.symm]
    exact h.spent b (hmem b hb).1
  case grace =>
    rw [phase_expire, hmade]
    exact h.grace
  case known =>
    intro id hid
    rw [hmade]
    by_cases heq : a.id = id
    · exact heq ▸ h.numbered a ha
    · rw [hfirings, if_neg heq] at hid
      exact h.known id hid
  case hasFired =>
    intro id
    rw [hasFired_expire, hfirings, h.hasFired]
    by_cases heq : a.id = id
    · simp [heq]
    · simp [heq, Ne.symm heq]
  case posted =>
    intro hup
    rw [hlistening] at hup
    rw [posted_expire k c a hup, happenings_expire, h.posted hup, hup]
    simp [Happening.posted?]
  case counted =>
    intro t
    rw [aborts_expire, Tally.count_bump, h.counted, firedIn_expire]
    split <;> simp
  case answered =>
    rw [hlistening, happenings_expire]
    refine (h.answered.cons (by simp)).fire ?_
    cases k.isListening <;> simp

theorem Kept.arm {delay : Nat} {t : Termination} (h : k.Kept c) (hgoes : k.Goes c k' d)
    (htimers : k'.timers = (k.timers.arm c delay t).2.1)
    (hgrace : k'.phase = k.phase ∨ k'.phase = .stopping k.timers.made) : k'.Kept d := by
  have hmade : k'.timers.made = k.timers.made + 1 := by rw [htimers]; rfl
  have harmed : k'.timers.armed =
      k.timers.armed ++ [⟨k.timers.made, c.now + delay, delay, t⟩] := by rw [htimers]; rfl
  have hunknown : firings k.timers.made c.happenings = [] := by
    by_contra hfired
    exact Nat.lt_irrefl _ (h.known _ hfired)
  have hlt : ∀ id < k.timers.made, id < k'.timers.made := fun id hid =>
    hmade ▸ Nat.lt_succ_of_lt hid
  have hnew : k.timers.made < k'.timers.made := hmade ▸ Nat.lt_succ_self _
  apply h.goes hgoes (by rw [htimers]; rfl) (Nat.le_of_lt hnew)
  · intro g hg
    rcases hgrace with hsame | harms
    · exact hlt g (h.grace g (hsame ▸ hg))
    · rw [harms] at hg
      cases hg
      exact hnew
  · rw [harmed, List.map_append, List.nodup_append]
    refine ⟨h.distinct, List.nodup_singleton _, ?_⟩
    rintro x hx y hy rfl
    obtain ⟨a, ha, rfl⟩ := List.mem_map.1 hx
    exact Nat.ne_of_lt (h.numbered a ha) (List.mem_singleton.1 hy)
  · intro a ha
    rw [harmed, List.mem_append, List.mem_singleton] at ha
    rcases ha with ha | rfl
    · exact ⟨hlt a.id (h.numbered a ha), h.punctual a ha, h.spent a ha⟩
    · exact ⟨hnew, Nat.le_add_right _ _, hunknown⟩

theorem Kept.disarm (h : k.Kept c) (hgoes : k.Goes c k' d) (htimers : k'.timers = k.timers.drop id)
    (hgrace : ∀ g, k'.phase = .stopping g → k.phase = .stopping g) : k'.Kept d := by
  apply h.goes hgoes (by rw [htimers]; rfl) (Nat.le_of_eq (by rw [htimers]; rfl))
  · exact fun g hg => htimers ▸ h.grace g (hgrace g hg)
  · rw [htimers]
    exact h.distinct.sublist (List.filter_sublist.map _)
  · intro a ha
    have hmem : a ∈ k.timers.armed := by
      rw [htimers] at ha
      exact (List.mem_filter.1 ha).1
    exact ⟨htimers ▸ h.numbered a hmem, h.punctual a hmem, h.spent a hmem⟩

variable {shed : Option TimerId}

/-- Whatever happens, that is kept. -/
theorem Kept.change (h : k.Kept c) (hs : k.Change c shed k' d) : k'.Kept d := by
  cases hs with
  | pass time hle hdue => exact { h with punctual := hdue }
  | post t => exact h.post t
  | fire a hdue => exact h.expire (Timers.due?_eq_some hdue).1
  | arm k' d delay t hgoes htimers hgrace => exact h.arm hgoes htimers hgrace
  | disarm id k' d hgoes htimers hgrace => exact h.disarm hgoes htimers hgrace
  | keep k' d hgoes htimers hgrace => exact h.keep hgoes htimers hgrace

theorem Change.le_now (hs : k.Change c shed k' d) : c.now ≤ d.now := by
  cases hs with
  | pass time hle => exact hle
  | post t => exact Nat.le_of_eq (now_post k c t).symm
  | fire a => exact Nat.le_of_eq (now_expire k c a).symm
  | arm k' d delay t hgoes => exact Nat.le_of_eq hgoes.mute.now.symm
  | disarm id k' d hgoes => exact Nat.le_of_eq hgoes.mute.now.symm
  | keep k' d hgoes => exact Nat.le_of_eq hgoes.mute.now.symm

theorem Change.made_le (hs : k.Change c shed k' d) : k.timers.made ≤ k'.timers.made := by
  cases hs with
  | pass time => exact Nat.le_refl _
  | post t => exact Nat.le_of_eq (congrArg Timers.made (timers_post k c t)).symm
  | fire a => exact Nat.le_of_eq (congrArg Timers.made (timers_expire k c a)).symm
  | arm k' d delay t hgoes htimers => exact htimers ▸ Nat.le_succ k.timers.made
  | disarm id k' d hgoes htimers => exact Nat.le_of_eq (congrArg Timers.made htimers).symm
  | keep k' d hgoes htimers => exact Nat.le_of_eq (congrArg Timers.made htimers).symm

end Coordinator

/-! ## How a timer stands -/

/-- A timer was made and is not armed any more. -/
structure Timers.IsOff (ts : Timers) (id : TimerId) : Prop where
  off : ∀ a ∈ ts.armed, a.id ≠ id
  made : id < ts.made

/-- A timer is armed, and it is not the coordinator that has it. -/
structure AbortTimer.Ticks (a : AbortTimer) (k : Coordinator) : Prop where
  armed : a ∈ k.timers.armed
  given : ∀ g, k.phase = .stopping g → g ≠ a.id

section Laws

variable {k k' : Coordinator} {c d : Chronicle} {shed : Option TimerId} {a : AbortTimer}
  {id : TimerId}

/-- A timer that is off stays off, and does not fire. -/
theorem Timers.IsOff.change (h : k.timers.IsOff id) (hs : k.Change c shed k' d) :
    k'.timers.IsOff id ∧ firings id d.happenings = firings id c.happenings := by
  cases hs with
  | pass time => exact ⟨h, rfl⟩
  | post t =>
    rw [Coordinator.timers_post]
    exact ⟨h, k.firings_post c t id⟩
  | fire a hdue =>
    have hne := h.off a (Timers.due?_eq_some hdue).1
    rw [Coordinator.timers_expire, Coordinator.firings_expire, if_neg hne]
    exact ⟨⟨fun b hb => h.off b (List.mem_filter.1 hb).1, h.made⟩, rfl⟩
  | arm k' d delay t hgoes htimers =>
    refine ⟨⟨fun b hb => ?_, ?_⟩, hgoes.mute.adds.firings⟩
    · rw [htimers] at hb
      rcases List.mem_append.1 hb with hb | hb
      · exact h.off b hb
      · rw [List.mem_singleton.1 hb]
        exact Nat.ne_of_gt h.made
    · rw [htimers]
      exact Nat.lt_succ_of_lt h.made
  | disarm id k' d hgoes htimers =>
    rw [htimers]
    exact ⟨⟨fun b hb => h.off b (List.mem_filter.1 hb).1, h.made⟩, hgoes.mute.adds.firings⟩
  | keep k' d hgoes htimers =>
    rw [htimers]
    exact ⟨h, hgoes.mute.adds.firings⟩

/-- A timer that is disarmed is off, and has not fired. -/
theorem AbortTimer.Ticks.disarm (hk : k.Kept c) (h : a.Ticks k)
    (hs : k.Change c (some a.id) k' d) :
    k'.timers.IsOff a.id ∧ firings a.id d.happenings = [] := by
  cases hs with
  | disarm id k' d hgoes htimers =>
    rw [htimers, hgoes.mute.adds.firings]
    exact ⟨⟨fun b hb => by simpa using (List.mem_filter.1 hb).2, hk.numbered a h.armed⟩,
      hk.spent a h.armed⟩

/-- A timer that is not disarmed goes on ticking, or it fires: at its deadline and just once. -/
theorem AbortTimer.Ticks.change (hk : k.Kept c) (h : a.Ticks k) (hs : k.Change c shed k' d)
    (hshed : shed ≠ some a.id) :
    a.Ticks k' ∨ d.now = a.deadline ∧ k'.timers.IsOff a.id ∧
      firings a.id d.happenings = [(a.deadline, a.termination)] := by
  cases hs with
  | pass time => exact .inl h
  | post t =>
    refine .inl ⟨?_, ?_⟩
    · rw [Coordinator.timers_post]
      exact h.armed
    · rw [Coordinator.phase_post]
      exact h.given
  | fire b hdue =>
    obtain ⟨hb, hle⟩ := Timers.due?_eq_some hdue
    by_cases heq : b.id = a.id
    · -- it fires no earlier than it is due, and time has not passed its deadline
      obtain rfl : b = a := List.inj_on_of_nodup_map hk.distinct hb h.armed heq
      have hnow : c.now = b.deadline := Nat.le_antisymm (hk.punctual b hb) hle
      refine .inr ⟨?_, ⟨fun x hx => ?_, ?_⟩, ?_⟩
      · rw [Coordinator.now_expire, hnow]
      · rw [Coordinator.timers_expire] at hx
        simpa using (List.mem_filter.1 hx).2
      · rw [Coordinator.timers_expire]
        exact hk.numbered b hb
      · rw [Coordinator.firings_expire, if_pos rfl, hk.spent b hb, hnow]
    · refine .inl ⟨?_, ?_⟩
      · rw [Coordinator.timers_expire]
        exact List.mem_filter.2 ⟨h.armed, by simpa using Ne.symm heq⟩
      · rw [Coordinator.phase_expire]
        exact h.given
  | arm k' d delay t hgoes htimers hgrace =>
    refine .inl ⟨?_, fun g hg => ?_⟩
    · rw [htimers]
      exact List.mem_append_left _ h.armed
    · rcases hgrace with hsame | hnew
      · exact h.given g (hsame ▸ hg)
      · rw [hnew] at hg
        cases hg
        exact Nat.ne_of_gt (hk.numbered a h.armed)
  | disarm id k' d hgoes htimers hgrace =>
    refine .inl ⟨?_, fun g hg => h.given g (hgrace g hg)⟩
    rw [htimers]
    exact List.mem_filter.2 ⟨h.armed, by simpa using fun heq : a.id = id => hshed (heq ▸ rfl)⟩
  | keep k' d hgoes htimers hgrace =>
    exact .inl ⟨htimers ▸ h.armed, fun g hg => h.given g (hgrace g hg)⟩

end Laws

end Hotplug
