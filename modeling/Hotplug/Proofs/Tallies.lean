import Hotplug.Proofs.Graceful
import Hotplug.Proofs.Story

/-!
# What can be counted in a run

The sessions to which the call to add the driver came back, the sessions that were removed, and the
timers that fired, as the happenings of a run show them.

* `startedIn`, `removedIn`, `firedIn` — these sessions and timers.
* `Counts` — how many there are of something.
* `Conduct.InTurn` — every session that was started is removed before the next one begins.
* `Conduct.Spent` — no timer fires twice, and none asks for anything without having fired.
-/

namespace Hotplug

/-! ## What is counted -/

namespace Happening

/-- Whether a happening is that the call to add the driver returns. -/
def isReturn : Happening → Bool
  | callEnded .add (.returned _) => true
  | _ => false

/-- The session that is removed. -/
def removedSession? : Happening → Option SessionId
  | stateChanged n _ .removed => some n
  | _ => none

/-- The timer that fires for a reason. -/
def fired? (x : Termination) : Happening → Option TimerId
  | timerFired id t => if t = x then some id else none
  | _ => none

/-- Whether a happening neither counts for a session nor ends the run. -/
def isAside (x : Happening) : Bool :=
  !x.isReturn && x.removedSession?.isNone && !x.isEnd

end Happening

/-- The sessions to which the call to add the driver came back, while nothing had ended the run, the
latest first.  A call belongs to the latest session that has begun. -/
def startedIn : List (Nat × Happening) → List SessionId
  | [] => []
  | e :: hs =>
    if e.2.isReturn && hs.all (!·.2.isEnd) then begunIn hs :: startedIn hs else startedIn hs

/-- The sessions that were removed, the latest first. -/
def removedIn (hs : List (Nat × Happening)) : List SessionId :=
  hs.filterMap (·.2.removedSession?)

/-- The timers that fired for a reason, the latest first. -/
def firedIn (x : Termination) (hs : List (Nat × Happening)) : List TimerId :=
  hs.filterMap (·.2.fired? x)

section Lists

variable {hs hs' : List (Nat × Happening)}

theorem startedIn_cons_of_not (e : Nat × Happening) (he : e.2.isReturn = false) :
    startedIn (e :: hs) = startedIn hs := by
  simp [startedIn, he]

theorem startedIn_cons_of_return {e : Nat × Happening} (he : e.2.isReturn = true)
    (hgoing : ∀ d ∈ hs, d.2.isEnd = false) : startedIn (e :: hs) = begunIn hs :: startedIn hs := by
  have hall : hs.all (!·.2.isEnd) = true := by simpa using hgoing
  simp [startedIn, he, hall]

/-- What comes back after the end of a run counts for nothing. -/
theorem startedIn_cons_of_ended (e : Nat × Happening) (hended : ∃ d ∈ hs, d.2.isEnd = true) :
    startedIn (e :: hs) = startedIn hs := by
  have hall : hs.all (!·.2.isEnd) = false := by simpa using hended
  simp [startedIn, hall]

/-- What is picked of one more happening comes first. -/
theorem filterMap_happenings_cons {α : Type} (pick : Happening → Option α) (e : Nat × Happening) :
    (e :: hs).filterMap (pick ·.2) = (pick e.2).toList ++ hs.filterMap (pick ·.2) := by
  cases h : pick e.2 <;> simp [h]

theorem removedIn_cons (e : Nat × Happening) :
    removedIn (e :: hs) = e.2.removedSession?.toList ++ removedIn hs :=
  filterMap_happenings_cons _ e

theorem firedIn_cons (x : Termination) (e : Nat × Happening) :
    firedIn x (e :: hs) = (e.2.fired? x).toList ++ firedIn x hs :=
  filterMap_happenings_cons _ e

namespace Adds

variable {p : Happening → Bool}

theorem startedIn (h : Adds p hs hs') (hp : ∀ x, p x = true → x.isReturn = false) :
    startedIn hs' = startedIn hs := by
  obtain ⟨new, rfl, hnew⟩ := h
  induction new with
  | nil => rfl
  | cons e new ih =>
    rw [List.cons_append, startedIn_cons_of_not e (hp _ (hnew e (by simp)))]
    exact ih fun d hd => hnew d (by simp [hd])

/-- What is not picked adds nothing. -/
theorem filterMap {α : Type} {pick : Happening → Option α} (h : Adds p hs hs')
    (hp : ∀ x, p x = true → pick x = none) :
    hs'.filterMap (pick ·.2) = hs.filterMap (pick ·.2) := by
  obtain ⟨new, rfl, hnew⟩ := h
  have hnone : new.filterMap (pick ·.2) = [] :=
    List.filterMap_eq_nil_iff.2 fun e he => hp _ (hnew e he)
  rw [List.filterMap_append, hnone, List.nil_append]

theorem removedIn (h : Adds p hs hs') (hp : ∀ x, p x = true → x.removedSession? = none) :
    removedIn hs' = removedIn hs :=
  h.filterMap hp

theorem firedIn {x : Termination} (h : Adds p hs hs')
    (hp : ∀ y, p y = true → y.fired? x = none) : firedIn x hs' = firedIn x hs :=
  h.filterMap hp

end Adds

end Lists

/-! ## How many there are -/

/-- There are just `k` numbers with the property `p`. -/
def Counts (p : Nat → Prop) (k : Nat) : Prop :=
  ∃ ns : List Nat, ns.Nodup ∧ (∀ n, n ∈ ns ↔ p n) ∧ ns.length = k

/-- The call to add the driver came back to session `n`, while nothing had ended the run.  A call
belongs to the latest session that has begun. -/
def Started (hs : List (Nat × Happening)) (n : SessionId) : Prop :=
  ∃ newer older t ok, hs = newer ++ (t, .callEnded .add (.returned ok)) :: older ∧
    begunIn older = n ∧ ∀ e ∈ older, e.2.isEnd = false

/-- Session `n` was removed. -/
def Removed (hs : List (Nat × Happening)) (n : SessionId) : Prop :=
  ∃ t a, (t, .stateChanged n a .removed) ∈ hs

/-- Timer `id` fired for the reason `x`. -/
def Fired (x : Termination) (hs : List (Nat × Happening)) (id : TimerId) : Prop :=
  ∃ t, (t, .timerFired id x) ∈ hs

section Members

variable {hs : List (Nat × Happening)} {n : Nat}

theorem Happening.isReturn_iff {x : Happening} :
    x.isReturn = true ↔ ∃ ok, x = .callEnded .add (.returned ok) := by
  constructor
  · intro h
    cases x with
    | callEnded k r =>
      cases k <;> cases r <;> first | exact ⟨_, rfl⟩ | cases h
    | _ => cases h
  · rintro ⟨ok, rfl⟩
    rfl

theorem started_cons {e : Nat × Happening} :
    Started (e :: hs) n ↔
      e.2.isReturn = true ∧ begunIn hs = n ∧ (∀ d ∈ hs, d.2.isEnd = false) ∨ Started hs n := by
  constructor
  · rintro ⟨newer, older, t, ok, heq, hn, hgoing⟩
    cases newer with
    | nil =>
      obtain ⟨rfl, rfl⟩ := List.cons_eq_cons.1 heq
      exact .inl ⟨rfl, hn, hgoing⟩
    | cons d newer =>
      obtain ⟨rfl, rfl⟩ := List.cons_eq_cons.1 heq
      exact .inr ⟨newer, older, t, ok, rfl, hn, hgoing⟩
  · rintro (⟨hreturn, hn, hgoing⟩ | ⟨newer, older, t, ok, rfl, hn, hgoing⟩)
    · obtain ⟨t, x⟩ := e
      obtain ⟨ok, rfl⟩ := Happening.isReturn_iff.1 hreturn
      exact ⟨[], hs, t, ok, rfl, hn, hgoing⟩
    · exact ⟨e :: newer, older, t, ok, rfl, hn, hgoing⟩

theorem mem_startedIn : n ∈ startedIn hs ↔ Started hs n := by
  induction hs with
  | nil => simp [startedIn, Started]
  | cons e hs ih =>
    rw [started_cons, ← ih]
    by_cases hreturn : e.2.isReturn = true
    · by_cases hgoing : ∀ d ∈ hs, d.2.isEnd = false
      · rw [startedIn_cons_of_return hreturn hgoing, List.mem_cons]
        exact or_congr_left ⟨fun hn => ⟨hreturn, hn.symm, hgoing⟩, fun h => h.2.1.symm⟩
      · rw [startedIn_cons_of_ended e (by simpa using hgoing)]
        exact (or_iff_right fun h => hgoing h.2.2).symm
    · rw [startedIn_cons_of_not e (eq_false_of_ne_true hreturn)]
      exact (or_iff_right fun h => hreturn h.1).symm

theorem mem_removedIn : n ∈ removedIn hs ↔ Removed hs n := by
  unfold removedIn Removed
  rw [List.mem_filterMap]
  constructor
  · rintro ⟨⟨t, x⟩, hmem, hx⟩
    cases x with
    | stateChanged m a b =>
      cases b with
      | removed =>
        obtain rfl := Option.some.inj hx
        exact ⟨t, a, hmem⟩
      | _ => cases hx
    | _ => cases hx
  · rintro ⟨t, a, hmem⟩
    exact ⟨_, hmem, rfl⟩

theorem mem_firedIn {x : Termination} : n ∈ firedIn x hs ↔ Fired x hs n := by
  unfold firedIn Fired
  rw [List.mem_filterMap]
  constructor
  · rintro ⟨⟨t, y⟩, hmem, hy⟩
    cases y with
    | timerFired id z =>
      obtain ⟨rfl, hid⟩ := Option.ite_none_right_eq_some.1 hy
      obtain rfl := Option.some.inj hid
      exact ⟨t, hmem⟩
    | _ => cases hy
  · rintro ⟨t, hmem⟩
    exact ⟨_, hmem, if_pos rfl⟩

end Members

/-! ## The outline has all that counts -/

section Outline

variable (hs : List (Nat × Happening))

theorem Happening.isOutline_of_isEnd (x : Happening) (hx : x.isEnd = true) :
    x.isOutline = true := by
  cases x <;> first | exact hx | rfl

theorem Happening.isOutline_of_isReturn (x : Happening) (hx : x.isReturn = true) :
    x.isOutline = true := by
  obtain ⟨ok, rfl⟩ := isReturn_iff.1 hx
  rfl

theorem all_going_outlineOf :
    (outlineOf hs).all (!·.2.isEnd) = hs.all (!·.2.isEnd) := by
  unfold outlineOf
  rw [List.all_filter]
  congr 1
  funext e
  by_cases hend : e.2.isEnd = true
  · simp [hend, e.2.isOutline_of_isEnd hend]
  · simp [hend]

theorem startedIn_outlineOf : startedIn (outlineOf hs) = startedIn hs := by
  induction hs with
  | nil => rfl
  | cons e hs ih =>
    by_cases he : e.2.isOutline = true
    · rw [outlineOf_cons_of_pos he, startedIn, startedIn, all_going_outlineOf, begunIn_outlineOf,
        ih]
    · have hnot : e.2.isReturn = false :=
        eq_false_of_ne_true fun hx => he (e.2.isOutline_of_isReturn hx)
      rw [outlineOf_cons_of_neg he, ih, startedIn_cons_of_not e hnot]

/-- What is picked from the outline only is picked there. -/
theorem filterMap_outlineOf {α : Type} {pick : Happening → Option α}
    (hpick : ∀ x, x.isOutline = false → pick x = none) :
    (outlineOf hs).filterMap (pick ·.2) = hs.filterMap (pick ·.2) := by
  unfold outlineOf
  rw [List.filterMap_filter]
  congr 1
  funext e
  cases hout : e.2.isOutline with
  | true => rfl
  | false => exact (hpick _ hout).symm

theorem removedIn_outlineOf : removedIn (outlineOf hs) = removedIn hs :=
  filterMap_outlineOf hs fun x hx => by cases x <;> first | rfl | cases hx

theorem firedIn_outlineOf (x : Termination) : firedIn x (outlineOf hs) = firedIn x hs :=
  filterMap_outlineOf hs fun y hy => by cases y <;> first | rfl | cases hy

end Outline

/-! ## Sessions come in turn -/

namespace Duty

/-- The session that was started and has not been removed. -/
def started? : Duty → Option SessionId
  | skipping n | serving n _ | removing n _ _ | removed n _ _ | failed n _ _ => some n
  | _ => none

theorem ne_cut_of_isActive {d : Duty} (h : d.isActive = true) (call : Option CallKind) :
    d ≠ .cut call := by
  rintro rfl
  cases h

theorem started?_of_adding {d : Duty} {n : SessionId} {id : TimerId} (h : d = .adding n id) :
    d.started? = none := by
  rw [h]
  rfl

@[simp] theorem started?_afterLoop (d : Duty) : d.afterLoop.started? = d.started? := by
  cases d <;> rfl

@[simp] theorem isActive_afterLoop (d : Duty) : d.afterLoop.isActive = d.isActive := by
  cases d <;> rfl

theorem afterLoop_ne_adding {d : Duty} {n : SessionId} (h : d.looping? = some n) (m : SessionId)
    (id : TimerId) : d.afterLoop ≠ .adding m id := by
  cases d <;> first | cases h | rintro ⟨⟩

theorem isActive_of_started? {d : Duty} {n : SessionId} (h : d.started? = some n) :
    d.isActive = true := by
  cases d <;> first | rfl | cases h

end Duty

theorem Happening.isAside_iff {x : Happening} :
    x.isAside = true ↔ x.isReturn = false ∧ x.removedSession? = none ∧ x.isEnd = false := by
  simp [isAside, and_assoc]

namespace Conduct

variable {g : Settings} {c c' : Conduct}

/-- Every session that was started is removed before the next one begins. -/
structure InTurn (c : Conduct) : Prop where
  going : c.duty.isActive = true → ∀ e ∈ c.outline, e.2.isEnd = false
  ended : ∀ call, c.duty = .cut call → ∃ e ∈ c.outline, e.2.isEnd = true
  /-- All that were started are removed, but for the one that is under way or was cut off. -/
  balance : ∃ left : Option SessionId,
    startedIn c.outline = left.toList ++ removedIn c.outline ∧
      ((∀ call, c.duty ≠ .cut call) → left = c.duty.started?)
  order : (startedIn c.outline).Pairwise (· > ·)
  bound : ∀ n ∈ startedIn c.outline, n ≤ c.count
  adding : ∀ n id, c.duty = .adding n id → n = c.count ∧ ∀ m ∈ startedIn c.outline, m < n

namespace InTurn

/-- Nothing happens that counts. -/
theorem go (h : c.InTurn) (hadds : Adds Happening.isAside c.outline c'.outline)
    (hcount : c.count ≤ c'.count) (hactive : c'.duty.isActive = true → c.duty.isActive = true)
    (hcut : ∀ call, c'.duty = .cut call → ∃ call, c.duty = .cut call)
    (hstarted : (∀ call, c'.duty ≠ .cut call) →
      (∀ call, c.duty ≠ .cut call) ∧ c'.duty.started? = c.duty.started?)
    (hadding : ∀ n id, c'.duty = .adding n id →
      n = c'.count ∧ ∀ m ∈ startedIn c.outline, m < n) : c'.InTurn := by
  have hsame : startedIn c'.outline = startedIn c.outline :=
    hadds.startedIn fun x hx => (Happening.isAside_iff.1 hx).1
  have hremoved : removedIn c'.outline = removedIn c.outline :=
    hadds.removedIn fun x hx => (Happening.isAside_iff.1 hx).2.1
  obtain ⟨new, hout, hnew⟩ := hadds
  constructor
  · intro hd e he
    rw [hout] at he
    rcases List.mem_append.1 he with he | he
    · exact (Happening.isAside_iff.1 (hnew e he)).2.2
    · exact h.going (hactive hd) e he
  · intro call hd
    obtain ⟨call', hd'⟩ := hcut call hd
    obtain ⟨e, he, hend⟩ := h.ended call' hd'
    exact ⟨e, by rw [hout]; exact List.mem_append_right _ he, hend⟩
  · rw [hsame, hremoved]
    obtain ⟨left, heq, hleft⟩ := h.balance
    exact ⟨left, heq, fun hd => (hleft (hstarted hd).1).trans (hstarted hd).2.symm⟩
  · rw [hsame]
    exact h.order
  · rw [hsame]
    exact fun n hn => Nat.le_trans (h.bound n hn) hcount
  · rw [hsame]
    exact hadding

/-- Nothing happens that counts, and the supervisor stays at its duty. -/
theorem keep (h : c.InTurn) (hadds : Adds Happening.isAside c.outline c'.outline)
    (hcount : c'.count = c.count) (hduty : c'.duty = c.duty) : c'.InTurn := by
  refine h.go hadds (Nat.le_of_eq hcount.symm) ?_ ?_ ?_ ?_ <;> rw [hduty]
  · exact id
  · exact fun call hd => ⟨call, hd⟩
  · exact fun hd => ⟨hd, rfl⟩
  · rw [hcount]
    exact h.adding

/-- The supervisor turns to another duty of the same session, or of none. -/
theorem turn (h : c.InTurn) (hadds : Adds Happening.isAside c.outline c'.outline)
    (hcount : c'.count = c.count) (hactive : c.duty.isActive = true)
    (hcut : ∀ call, c'.duty ≠ .cut call) (hstarted : c'.duty.started? = c.duty.started?)
    (hadding : ∀ n id, c'.duty ≠ .adding n id) : c'.InTurn :=
  h.go hadds (Nat.le_of_eq hcount.symm) (fun _ => hactive) (fun call hd => absurd hd (hcut call))
    (fun _ => ⟨Duty.ne_cut_of_isActive hactive, hstarted⟩)
    fun n id hd => absurd hd (hadding n id)

/-- The run ends, and the supervisor's own loop is cut off if it is under way. -/
theorem cut (h : c.InTurn) (hduty : c'.duty = c.duty.afterCut) (hcount : c'.count = c.count)
    (hadds : Adds (fun x => !x.isReturn && x.removedSession?.isNone) c.outline c'.outline)
    (hend : ∃ e ∈ c'.outline, e.2.isEnd = true) : c'.InTurn := by
  have hsame : startedIn c'.outline = startedIn c.outline :=
    hadds.startedIn fun x hx => by simp_all
  have hremoved : removedIn c'.outline = removedIn c.outline :=
    hadds.removedIn fun x hx => by simp_all
  constructor
  · intro hd
    rw [hduty, Duty.isActive_afterCut] at hd
    cases hd
  · exact fun _ _ => hend
  · rw [hsame, hremoved, hduty]
    obtain ⟨left, heq, hleft⟩ := h.balance
    refine ⟨left, heq, fun hd => ?_⟩
    by_cases hactive : c.duty.isActive = true
    · exact absurd (Duty.afterCut_of_isActive hactive) (hd _)
    · rw [Duty.afterCut_of_not_isActive hactive] at hd ⊢
      exact hleft hd
  · rw [hsame]
    exact h.order
  · rw [hsame, hcount]
    exact h.bound
  · intro n id hd
    have hpassive := Duty.isActive_afterCut c.duty
    rw [← hduty, hd] at hpassive
    cases hpassive

/-- The call to add the driver comes back to its session. -/
theorem start (h : c.InTurn) (hbegun : begunIn c.outline = c.count) {n : SessionId} {id : TimerId}
    (hduty : c.duty = .adding n id) {e : Nat × Happening} (he : e.2.isReturn = true)
    (hadds : Adds Happening.isAside (e :: c.outline) c'.outline) (hcount : c'.count = c.count)
    (hstarted : c'.duty.started? = some n) : c'.InTurn := by
  obtain ⟨hn, hlt⟩ := h.adding n id hduty
  have hactive : c.duty.isActive = true := by rw [hduty]; rfl
  have hgoing := h.going hactive
  have hactive' := Duty.isActive_of_started? hstarted
  have hnew : startedIn c'.outline = n :: startedIn c.outline := by
    rw [hadds.startedIn fun x hx => (Happening.isAside_iff.1 hx).1,
      startedIn_cons_of_return he hgoing, hbegun, hn]
  obtain ⟨ok, hreturn⟩ := Happening.isReturn_iff.1 he
  have hremoved : removedIn c'.outline = removedIn c.outline := by
    rw [hadds.removedIn fun x hx => (Happening.isAside_iff.1 hx).2.1, removedIn_cons, hreturn]
    rfl
  constructor
  · intro _ d hd
    obtain ⟨new, hout, hnew⟩ := hadds
    rw [hout] at hd
    rcases List.mem_append.1 hd with hd | hd
    · exact (Happening.isAside_iff.1 (hnew d hd)).2.2
    · rcases List.mem_cons.1 hd with rfl | hd
      · rw [hreturn]
        rfl
      · exact hgoing d hd
  · exact fun call hd => absurd hd (Duty.ne_cut_of_isActive hactive' call)
  · obtain ⟨left, heq, hleft⟩ := h.balance
    have hnone : left = none :=
      (hleft (Duty.ne_cut_of_isActive hactive)).trans (Duty.started?_of_adding hduty)
    refine ⟨some n, ?_, fun _ => hstarted.symm⟩
    rw [hnew, hremoved, heq, hnone]
    rfl
  · rw [hnew]
    exact List.pairwise_cons.2 ⟨hlt, h.order⟩
  · rw [hnew, hcount]
    intro m hm
    rcases List.mem_cons.1 hm with rfl | hm
    · exact Nat.le_of_eq hn
    · exact h.bound m hm
  · intro m id' hd
    rw [Duty.started?_of_adding hd] at hstarted
    cases hstarted

/-- A session is removed. -/
theorem remove (h : c.InTurn) {n : SessionId} (hstarted : c.duty.started? = some n)
    {t : Nat} {a : SessionState} {mid : List (Nat × Happening)}
    (hadds : Adds Happening.isAside c.outline mid)
    (hout : c'.outline = (t, .stateChanged n a .removed) :: mid) (hcount : c'.count = c.count)
    (hduty : c'.duty = .idle) : c'.InTurn := by
  have hactive := Duty.isActive_of_started? hstarted
  have hsame : startedIn c'.outline = startedIn c.outline := by
    rw [hout, startedIn_cons_of_not _ rfl]
    exact hadds.startedIn fun x hx => (Happening.isAside_iff.1 hx).1
  have hremoved : removedIn c'.outline = n :: removedIn c.outline := by
    rw [hout, removedIn_cons]
    exact congrArg (n :: ·) (hadds.removedIn fun x hx => (Happening.isAside_iff.1 hx).2.1)
  constructor
  · intro _ d hd
    obtain ⟨new, rfl, hnew⟩ := hadds
    rw [hout] at hd
    rcases List.mem_cons.1 hd with rfl | hd
    · rfl
    · rcases List.mem_append.1 hd with hd | hd
      · exact (Happening.isAside_iff.1 (hnew d hd)).2.2
      · exact h.going hactive d hd
  · rw [hduty]
    rintro call ⟨⟩
  · rw [hsame, hremoved, hduty]
    obtain ⟨left, heq, hleft⟩ := h.balance
    refine ⟨none, ?_, fun _ => rfl⟩
    rw [heq, (hleft (Duty.ne_cut_of_isActive hactive)).trans hstarted]
    rfl
  · rw [hsame]
    exact h.order
  · rw [hsame, hcount]
    exact h.bound
  · rw [hduty]
    rintro m id ⟨⟩

/-- A call ends that nobody waits for any more. -/
theorem late (h : c.InTurn) {k : CallKind} (r : CallResult) (hduty : c.duty = .cut (some k)) :
    ((c.tell (.callEnded k r)).turn (.cut none)).InTurn := by
  have hended := h.ended _ hduty
  have hsame : startedIn ((c.now, .callEnded k r) :: c.outline) = startedIn c.outline :=
    startedIn_cons_of_ended _ hended
  constructor
  · rintro ⟨⟩
  · intro _ _
    obtain ⟨e, he, hend⟩ := hended
    exact ⟨e, List.mem_cons_of_mem _ he, hend⟩
  · obtain ⟨left, heq, -⟩ := h.balance
    exact ⟨left, hsame.trans heq, fun hd => absurd rfl (hd none)⟩
  · exact hsame ▸ h.order
  · exact hsame ▸ h.bound
  · rintro n id ⟨⟩

theorem step (h : c.InTurn) (hbegun : begunIn c.outline = c.count) (hs : Step g c c') :
    c'.InTurn := by
  cases hs with
  | quiet => exact h
  | look seen => exact h.keep ((Adds.refl _).cons rfl) rfl rfl
  | signals | ignoreSignals | pass => exact h.keep (Adds.refl _) rfl rfl
  | fire a => exact h.keep (adds_post ((Adds.refl _).cons rfl) _ rfl) rfl rfl
  | decide t =>
    exact h.cut rfl rfl ((Adds.refl _).cons rfl) ⟨_, List.mem_cons_self, rfl⟩
  | firstSignal s b =>
    exact h.keep ((adds_raiseStop (c := (c.setSignals b).tell (.signalTaken s))
      ((Adds.refl _).cons rfl) rfl).cons rfl) rfl rfl
  | secondSignal s b =>
    exact h.cut rfl rfl (((Adds.refl _).cons rfl).cons rfl) ⟨_, List.mem_cons_self, rfl⟩
  | beginStop hduty =>
    exact h.turn ((Adds.refl _).cons rfl) rfl (by rw [hduty]; rfl) (by rintro _ ⟨⟩)
      (by rw [hduty]; rfl) (by rintro _ _ ⟨⟩)
  | beginSession hduty =>
    refine h.go ((((Adds.refl _).cons rfl).cons rfl |>.cons rfl).cons rfl) (Nat.le_succ _)
      (fun _ => by rw [hduty]; rfl) (by rintro _ ⟨⟩) (fun _ => ?_) ?_
    · rw [hduty]
      exact ⟨by rintro _ ⟨⟩, rfl⟩
    · rintro n id ⟨⟩
      exact ⟨rfl, fun m hm => Nat.lt_succ_of_le (h.bound m hm)⟩
  | added n timer ok hduty =>
    exact h.start hbegun hduty (e := (c.now, .callEnded .add (.returned ok))) rfl
      (((Adds.refl _).cons rfl).cons rfl) rfl rfl
  | skipped n timer hduty =>
    exact h.start hbegun hduty (e := (c.now, .callEnded .add (.returned false))) rfl
      (Adds.refl _) rfl rfl
  | addPanicked n timer reason hduty =>
    exact h.turn ((Adds.refl _).cons rfl) rfl (by rw [hduty]; rfl) (by rintro _ ⟨⟩)
      (by rw [hduty]; rfl) (by rintro _ _ ⟨⟩)
  | skipStopped n hduty =>
    exact h.remove (by rw [hduty]; rfl) (Adds.refl _) rfl rfl rfl
  | skipEnded n hduty =>
    exact h.remove (by rw [hduty]; rfl) ((Adds.refl _).cons rfl) rfl rfl rfl
  | beginRemoval n isOver hduty =>
    exact h.turn ((((Adds.refl _).cons rfl).cons rfl |>.cons rfl).cons rfl) rfl
      (by rw [hduty]; rfl) (by rintro _ ⟨⟩) (by rw [hduty]; rfl) (by rintro _ _ ⟨⟩)
  | driverRemoved n timer isOver hduty =>
    exact h.turn ((Adds.refl _).cons rfl) rfl (by rw [hduty]; rfl) (by rintro _ ⟨⟩)
      (by rw [hduty]; rfl) (by rintro _ _ ⟨⟩)
  | removalFailed n timer isOver r hduty =>
    exact h.turn (((Adds.refl _).cons rfl).cons rfl) rfl (by rw [hduty]; rfl) (by rintro _ ⟨⟩)
      (by rw [hduty]; rfl) (by rintro _ _ ⟨⟩)
  | sessionEnded n timer hduty =>
    exact h.remove (by rw [hduty]; rfl) (Adds.refl _) rfl rfl rfl
  | loopEnded n hloop =>
    have hactive := Duty.isActive_of_looping? hloop
    refine h.turn ((Adds.refl _).cons rfl) rfl hactive
      (Duty.ne_cut_of_isActive ((Duty.isActive_afterLoop _).trans hactive))
      (Duty.started?_afterLoop _) ?_
    exact fun m id => Duty.afterLoop_ne_adding hloop m id
  | loopPanicked n reason hloop =>
    refine h.cut rfl rfl (adds_post ((Adds.refl _).cons rfl) _ rfl) ?_
    obtain ⟨new, hout, -⟩ := adds_post (p := fun _ => true)
      (c := c.cutOff.tell (.logged (.loopPanicked reason) none)) (Adds.refl _)
      .supervisorPanicked rfl
    exact ⟨_, hout ▸ List.mem_append_right _ List.mem_cons_self, rfl⟩
  | stopped r hduty =>
    exact h.turn (adds_post ((Adds.refl _).cons rfl) _ rfl) rfl (by rw [hduty]; rfl)
      (by rintro _ ⟨⟩) (by rw [hduty]; rfl) (by rintro _ _ ⟨⟩)
  | lateEnd k r hduty => exact h.late r hduty

end InTurn

theorem Reached.inTurn (h : Reached g c) : c.InTurn := by
  induction h with
  | begun b | refused b r =>
    refine ⟨?_, ?_, ⟨none, rfl, fun _ => rfl⟩, .nil, ?_, ?_⟩
    · intro _ e he
      obtain rfl := List.mem_singleton.1 he
      rfl
    · rintro call ⟨⟩
    · rintro n ⟨⟩
    · rintro n id ⟨⟩
  | step hr hs ih => exact ih.step hr.narrated.begun hs

/-- No session is started or removed twice. -/
theorem InTurn.nodup (h : c.InTurn) :
    (startedIn c.outline).Nodup ∧ (removedIn c.outline).Nodup := by
  have hstarted : (startedIn c.outline).Nodup := h.order.imp Nat.ne_of_gt
  obtain ⟨left, heq, -⟩ := h.balance
  refine ⟨hstarted, ?_⟩
  rw [heq] at hstarted
  exact (List.nodup_append.1 hstarted).2.1

/-- At most one session that was started is not removed. -/
theorem InTurn.length_le (h : c.InTurn) :
    (removedIn c.outline).length ≤ (startedIn c.outline).length ∧
      (startedIn c.outline).length ≤ (removedIn c.outline).length + 1 := by
  obtain ⟨left, heq, -⟩ := h.balance
  rw [heq, List.length_append]
  cases left with
  | none => simp
  | some n => simp [Nat.add_comm]

/-- Between two sessions all that were started are removed. -/
theorem InTurn.eq_of_started? (h : c.InTurn) (hcut : ∀ call, c.duty ≠ .cut call)
    (hnone : c.duty.started? = none) : startedIn c.outline = removedIn c.outline := by
  obtain ⟨left, heq, hleft⟩ := h.balance
  rw [heq, (hleft hcut).trans hnone]
  rfl

end Conduct

/-! ## Timers fire once -/

theorem Happening.fired?_of_not_isFiring (x : Termination) (y : Happening)
    (hy : (!y.isFiring) = true) : y.fired? x = none := by
  cases y <;> first | rfl | cases hy

/-- Whether it is for a timer to ask for a termination. -/
def Termination.isTimeout : Termination → Bool
  | shutdownTimeout | driverRemovalTimeout | driverActivationTimeout => true
  | _ => false

namespace Conduct

variable {g : Settings} {c c' : Conduct}

theorem mem_posted_post {t x : Termination} (hx : x ∈ (c.post t).coordinator.posted) :
    x ∈ c.coordinator.posted ∨ x = t := by
  change x ∈ (if _ then _ else _) at hx
  split at hx
  · simpa using hx
  · exact .inl hx

theorem mem_armed_arm {delay : Nat} {t : Termination} {a : AbortTimer}
    (ha : a ∈ (c.arm delay t).armed) : a ∈ c.armed ∨ a.id = c.nextTimer := by
  rcases List.mem_append.1 ha with ha | ha
  · exact .inl ha
  · rw [List.mem_singleton.1 ha]
    exact .inr rfl

theorem nextTimer_cutOff (c : Conduct) : c.cutOff.nextTimer = c.nextTimer := by
  change (c.duty.timer?.elim c.coordinator.timers c.coordinator.timers.drop).made = _
  cases c.duty.timer? <;> rfl

theorem nextTimer_decide (c : Conduct) (x : Termination) :
    (c.decide x).nextTimer = c.nextTimer := by
  refine (nextTimer_cutOff _).trans ?_
  change (c.coordinator.conclude x).timers.made = c.coordinator.timers.made
  unfold Coordinator.conclude
  dsimp only
  split <;> rfl

/-- No timer fires twice, and no timer asks for anything without having fired. -/
structure Spent (c : Conduct) : Prop where
  once : ∀ x, (firedIn x c.outline).Nodup
  spent : ∀ x, ∀ id ∈ firedIn x c.outline, id < c.nextTimer ∧ ∀ a ∈ c.armed, a.id ≠ id
  posted : ∀ x ∈ c.coordinator.posted, x.isTimeout = true → firedIn x c.outline ≠ []
  decided : ∀ x, c.coordinator.phase = .decided x → x.isTimeout = true → firedIn x c.outline ≠ []

namespace Spent

/-- No timer fires. -/
theorem go (h : c.Spent) (hadds : Adds (fun x => !x.isFiring) c.outline c'.outline)
    (hnext : c.nextTimer ≤ c'.nextTimer)
    (harmed : ∀ a ∈ c'.armed, a ∈ c.armed ∨ c.nextTimer ≤ a.id)
    (hposted : ∀ x ∈ c'.coordinator.posted, x ∈ c.coordinator.posted ∨ x.isTimeout = false)
    (hdecided : ∀ x, c'.coordinator.phase = .decided x →
      c.coordinator.phase = .decided x ∨ x ∈ c.coordinator.posted ∨ x.isTimeout = false) :
    c'.Spent := by
  have hsame : ∀ x, firedIn x c'.outline = firedIn x c.outline :=
    fun x => hadds.firedIn fun y => y.fired?_of_not_isFiring x
  constructor
  · intro x
    rw [hsame]
    exact h.once x
  · intro x id hid
    rw [hsame] at hid
    obtain ⟨hlt, hne⟩ := h.spent x id hid
    refine ⟨Nat.lt_of_lt_of_le hlt hnext, fun a ha => ?_⟩
    rcases harmed a ha with ha | ha
    · exact hne a ha
    · exact (Nat.ne_of_lt (Nat.lt_of_lt_of_le hlt ha)).symm
  · intro x hx htimeout
    rw [hsame]
    rcases hposted x hx with hx | hx
    · exact h.posted x hx htimeout
    · rw [hx] at htimeout
      cases htimeout
  · intro x hx htimeout
    rw [hsame]
    rcases hdecided x hx with hx | hx | hx
    · exact h.decided x hx htimeout
    · exact h.posted x hx htimeout
    · rw [hx] at htimeout
      cases htimeout

/-- Nothing is asked for, and no timer is armed. -/
theorem keep (h : c.Spent) (hadds : Adds (fun x => !x.isFiring) c.outline c'.outline)
    (hnext : c'.nextTimer = c.nextTimer) (harmed : ∀ a ∈ c'.armed, a ∈ c.armed)
    (hposted : c'.coordinator.posted = c.coordinator.posted)
    (hphase : c'.coordinator.phase = c.coordinator.phase) : c'.Spent := by
  refine h.go hadds (Nat.le_of_eq hnext.symm) (fun a ha => .inl (harmed a ha)) ?_ ?_
  · rw [hposted]
    exact fun x hx => .inl hx
  · rw [hphase]
    exact fun x hx => .inl hx

/-- Another timer is armed. -/
theorem arm (h : c.Spent) (hadds : Adds (fun x => !x.isFiring) c.outline c'.outline)
    (hnext : c'.nextTimer = c.nextTimer + 1)
    (harmed : ∀ a ∈ c'.armed, a ∈ c.armed ∨ a.id = c.nextTimer)
    (hposted : c'.coordinator.posted = c.coordinator.posted)
    (hdecided : ∀ x, c'.coordinator.phase = .decided x → c.coordinator.phase = .decided x) :
    c'.Spent := by
  refine h.go hadds (hnext ▸ Nat.le_succ _) ?_ ?_ fun x hx => .inl (hdecided x hx)
  · exact fun a ha => (harmed a ha).imp_right fun hid => Nat.le_of_eq hid.symm
  · rw [hposted]
    exact fun x hx => .inl hx

/-- Somebody other than a timer asks for a termination. -/
theorem post (h : c.Spent) {x : Termination} (hx : x.isTimeout = false) : (c.post x).Spent := by
  refine h.go (adds_post (Adds.refl _) _ rfl) (Nat.le_refl _) (fun a ha => .inl ha) ?_
    fun y hy => .inl hy
  intro y hy
  rcases mem_posted_post hy with hy | rfl
  · exact .inl hy
  · exact .inr hx

/-- The coordinator decides as it was asked to, or as no timer asks for. -/
theorem decide (h : c.Spent)
    (howned : ∀ a ∈ c.armed, c.coordinator.phase = .stopping a.id ∨ c.duty.timer? = some a.id)
    {x : Termination} (hx : x ∈ c.coordinator.posted ∨ x.isTimeout = false) :
    (c.decide x).Spent := by
  refine h.go ((Adds.refl _).cons rfl) (Nat.le_of_eq (nextTimer_decide c x).symm) ?_ ?_ ?_
  · intro a ha
    rw [Steered.armed_decide x howned] at ha
    cases ha
  · rintro y ⟨⟩
  · intro y hy
    obtain rfl : x = y := CoordinatorPhase.decided.inj hy
    exact .inr hx

/-- A timer fires, and asks for its termination. -/
theorem fire (h : c.Spent) (hsteer : c.Steered) {a : AbortTimer} (ha : a ∈ c.armed) :
    (c.fire a).Spent := by
  have hfired : ∀ x, firedIn x (c.fire a).outline =
      if a.termination = x then a.id :: firedIn x c.outline else firedIn x c.outline := by
    intro x
    have hadds : Adds (fun y => !y.isFiring)
        ((c.now, .timerFired a.id a.termination) :: c.outline) (c.fire a).outline :=
      adds_post (c := (c.setTimers _).tell (.timerFired a.id a.termination)) (Adds.refl _) _ rfl
    rw [hadds.firedIn fun y => y.fired?_of_not_isFiring x, firedIn_cons, Happening.fired?]
    split <;> rfl
  have harmed : ∀ b ∈ (c.fire a).armed, b ∈ c.armed ∧ b.id ≠ a.id := fun b hb => mem_armed_drop.1 hb
  have hold : ∀ x, firedIn x c.outline ≠ [] → firedIn x (c.fire a).outline ≠ [] := by
    intro x hx
    rw [hfired]
    split
    · exact List.cons_ne_nil _ _
    · exact hx
  constructor
  · intro x
    rw [hfired]
    split
    · exact List.nodup_cons.2 ⟨fun hmem => (h.spent x a.id hmem).2 a ha rfl, h.once x⟩
    · exact h.once x
  · intro x id hid
    rw [hfired] at hid
    have hcases : id = a.id ∨ id ∈ firedIn x c.outline := by
      split at hid
      · exact List.mem_cons.1 hid
      · exact .inr hid
    rcases hcases with rfl | hid
    · exact ⟨hsteer.id_lt ha, fun b hb => (harmed b hb).2⟩
    · exact ⟨(h.spent x id hid).1, fun b hb => (h.spent x id hid).2 b (harmed b hb).1⟩
  · intro x hx htimeout
    rcases mem_posted_post hx with hx | rfl
    · exact hold x (h.posted x hx htimeout)
    · rw [hfired, if_pos rfl]
      exact List.cons_ne_nil _ _
  · exact fun x hx htimeout => hold x (h.decided x hx htimeout)

theorem step (h : c.Spent) (hsteer : c.Steered) (hs : Step g c c') : c'.Spent := by
  cases hs with
  | quiet => exact h
  | look | beginStop | addPanicked | skipStopped | driverRemoved | loopEnded | lateEnd =>
    exact h.keep ((Adds.refl _).cons rfl) rfl (fun _ ha => ha) rfl rfl
  | signals | ignoreSignals | pass => exact h.keep (Adds.refl _) rfl (fun _ ha => ha) rfl rfl
  | fire a ha => exact h.fire hsteer ha
  | decide t rest hrun hposted => exact h.decide hsteer.owned (.inl (by simp [hposted]))
  | firstSignal s b =>
    refine h.arm ?_ rfl (fun a ha => ?_) rfl (by rintro x ⟨⟩)
    · exact (adds_raiseStop (c := (c.setSignals b).tell (.signalTaken s))
        ((Adds.refl _).cons rfl) rfl).cons rfl
    · exact mem_armed_arm ha
  | secondSignal s b =>
    have htold : ((c.setSignals b).tell (.signalTaken s)).Spent :=
      h.keep ((Adds.refl _).cons rfl) rfl (fun _ ha => ha) rfl rfl
    exact htold.decide hsteer.owned (.inr rfl)
  | beginSession =>
    exact h.arm ((((Adds.refl _).cons rfl).cons rfl |>.cons rfl).cons rfl) rfl
      (fun a ha => mem_armed_arm ha) rfl fun _ hx => hx
  | added =>
    exact h.keep (((Adds.refl _).cons rfl).cons rfl |>.cons rfl) rfl
      (fun a ha => (mem_armed_drop.1 ha).1) rfl rfl
  | skipped | sessionEnded =>
    exact h.keep ((Adds.refl _).cons rfl) rfl (fun a ha => (mem_armed_drop.1 ha).1) rfl rfl
  | skipEnded | removalFailed =>
    exact h.keep (((Adds.refl _).cons rfl).cons rfl) rfl (fun _ ha => ha) rfl rfl
  | beginRemoval =>
    exact h.arm ((((Adds.refl _).cons rfl).cons rfl |>.cons rfl).cons rfl) rfl
      (fun a ha => mem_armed_arm ha) rfl fun _ hx => hx
  | loopPanicked n reason =>
    have htold : (c.cutOff.tell (.logged (.loopPanicked reason) none)).Spent :=
      h.keep ((Adds.refl _).cons rfl) (nextTimer_cutOff c) (fun a ha => (mem_armed_cutOff.1 ha).1)
        rfl rfl
    exact htold.post rfl
  | stopped r =>
    have htold : (c.tell (.callEnded .stop r)).Spent :=
      h.keep ((Adds.refl _).cons rfl) rfl (fun _ ha => ha) rfl rfl
    have hposted := htold.post (x := .completed) rfl
    exact ⟨hposted.once, hposted.spent, hposted.posted, hposted.decided⟩

end Spent

theorem Reached.spent (h : Reached g c) : c.Spent := by
  induction h with
  | begun b | refused b r =>
    refine ⟨fun _ => .nil, ?_, ?_, ?_⟩
    · rintro x id ⟨⟩
    · rintro x ⟨⟩
    · rintro x ⟨⟩
  | step hr hs ih => exact ih.step hr.steered hs

end Conduct

end Hotplug
