import Hotplug.Session.Quit

/-!
# The first raise is the one that counts

A quit request whose triggers are raised, cloned and dropped in any order, while its listener
waits step by step: it looks at the reason, and if there is none it waits until that has changed or
all triggers are gone.

The subject is the quit request of the session component.

* `Attendant.poll` — a step of the listener.
* `QuitOp`, `QuitRun.occur` — what can happen to a request, and what becomes of it.
* `QuitRun.Kept` — what holds of a request at any time.
* `QuitRun.first_raise_counts` — no raise but the first is recorded, and that one is not lost.
-/

namespace Hotplug

/-! ## The listener -/

/-- How far the listener has come. -/
inductive Attendant where
  /-- It is about to look at the reason. -/
  | looking
  /-- It waits for a change since the version that it has seen. -/
  | watching (seen : Nat)
  /-- It has its answer. -/
  | resolved (answer : Option QuitReason)
  deriving DecidableEq, Repr, Inhabited

/-- A step of the listener, at the version that a request has.  A change counts even if all
triggers are gone. -/
def Attendant.poll (q : QuitRequest) (version : Nat) : Attendant → Attendant
  | .looking =>
    match q.reason with
    | some r => .resolved (some r)
    | none => .watching version
  | .watching seen =>
    if version ≠ seen then .looking
    else if q.isReleased then .resolved none
    else .watching seen
  | .resolved a => .resolved a

/-- How far a listener is from its answer after a raise. -/
def Attendant.distance : Attendant → Nat
  | .watching _ => 2
  | .looking => 1
  | .resolved _ => 0

/-- The answer that a listener has, if it has one. -/
def Attendant.answer? : Attendant → Option (Option QuitReason)
  | .resolved a => some a
  | _ => none

/-! ## Runs -/

/-- One thing that can happen to a quit request. -/
inductive QuitOp where
  /-- Somebody raises a reason. -/
  | raise (i : Nat) (r : QuitReason)
  /-- Somebody makes another trigger. -/
  | clone (i : Nat)
  /-- Somebody gives a trigger up. -/
  | drop (i : Nat)
  /-- Somebody begins to listen. -/
  | listen
  /-- The listener is given up before it was used. -/
  | dropListener
  /-- The listener goes a step. -/
  | poll
  deriving DecidableEq, Repr, Inhabited

/-- A quit request, how far its listener has come, and what was raised so far. -/
structure QuitRun where
  request : QuitRequest := .fresh
  attendant : Attendant := .looking
  /-- The reasons that were raised, the oldest first, and what was answered. -/
  raises : List (QuitReason × Bool) := []
  deriving DecidableEq, Repr, Inhabited

namespace QuitRun

/-- How often the reason has changed. -/
def version (x : QuitRun) : Nat :=
  x.raises.countP (·.2)

/-- What becomes of a request.  What cannot happen leaves it as it is. -/
def occur (x : QuitRun) : QuitOp → QuitRun
  | .raise i r =>
    (x.request.raise i r).elim x fun (isFirst, q) =>
      { x with request := q, raises := x.raises ++ [(r, isFirst)] }
  | .clone i => (x.request.clone i).elim x fun (_, q) => { x with request := q }
  | .drop i => (x.request.drop i).elim x fun q => { x with request := q }
  | .listen => x.request.listen.elim x fun q => { x with request := q }
  | .dropListener => x.request.dropListener.elim x fun q => { x with request := q }
  | .poll =>
    if x.request.listener = .listening then
      { x with attendant := x.attendant.poll x.request x.version }
    else x

/-- What becomes of a request as several things happen. -/
def follow (x : QuitRun) (os : List QuitOp) : QuitRun :=
  os.foldl occur x

@[simp] theorem follow_nil (x : QuitRun) : x.follow [] = x := rfl

@[simp] theorem follow_cons (x : QuitRun) (o : QuitOp) (os : List QuitOp) :
    x.follow (o :: os) = (x.occur o).follow os := rfl

variable {x y : QuitRun}

/-- Everything that can become of a request at once. -/
inductive Step (x : QuitRun) : QuitRun → Prop
  | stay : Step x x
  | first (i : Nat) (r : QuitReason) (hheld : x.request.holds i = true)
      (hnone : x.request.reason = none) :
      Step x { x with
        request := { x.request with reason := some r }, raises := x.raises ++ [(r, true)] }
  | again (i : Nat) (r s : QuitReason) (hheld : x.request.holds i = true)
      (hsome : x.request.reason = some s) :
      Step x { x with raises := x.raises ++ [(r, false)] }
  | clone (i : Nat) (hheld : x.request.holds i = true) :
      Step x { x with request := { x.request with held := x.request.held ++ [true] } }
  | drop (i : Nat) (hheld : x.request.holds i = true) :
      Step x { x with request := { x.request with held := x.request.held.set i false } }
  | attend (l : Listener) (hidle : x.request.listener = .idle) :
      Step x { x with request := { x.request with listener := l } }
  | poll (hlistening : x.request.listener = .listening) :
      Step x { x with attendant := x.attendant.poll x.request x.version }

theorem step_occur (x : QuitRun) (o : QuitOp) : x.Step (x.occur o) := by
  cases o with
  | raise i r =>
    by_cases hheld : x.request.holds i = true
    · cases hreason : x.request.reason with
      | none => simpa [occur, QuitRequest.raise, hheld, hreason] using Step.first i r hheld hreason
      | some s =>
        simpa [occur, QuitRequest.raise, hheld, hreason] using Step.again i r s hheld hreason
    · simpa [occur, QuitRequest.raise, hheld] using Step.stay
  | clone i =>
    by_cases hheld : x.request.holds i = true
    · simpa [occur, QuitRequest.clone, hheld] using Step.clone i hheld
    · simpa [occur, QuitRequest.clone, hheld] using Step.stay
  | drop i =>
    by_cases hheld : x.request.holds i = true
    · simpa [occur, QuitRequest.drop, hheld] using Step.drop i hheld
    · simpa [occur, QuitRequest.drop, hheld] using Step.stay
  | listen =>
    by_cases hidle : x.request.listener = .idle
    · simpa [occur, QuitRequest.listen, hidle] using Step.attend .listening hidle
    · simpa [occur, QuitRequest.listen, hidle] using Step.stay
  | dropListener =>
    by_cases hidle : x.request.listener = .idle
    · simpa [occur, QuitRequest.dropListener, hidle] using Step.attend .dropped hidle
    · simpa [occur, QuitRequest.dropListener, hidle] using Step.stay
  | poll =>
    by_cases hlistening : x.request.listener = .listening
    · simpa [occur, hlistening] using Step.poll hlistening
    · simpa [occur, hlistening] using Step.stay

/-- What every step preserves holds from then on. -/
theorem follow_induction {P : QuitRun → Prop} (hstep : ∀ x y, x.Step y → P x → P y)
    (hx : P x) (os : List QuitOp) : P (x.follow os) := by
  induction os generalizing x with
  | nil => exact hx
  | cons o os ih =>
    apply ih
    exact hstep x (x.occur o) (x.step_occur o) hx

/-! ## What is kept -/

/-- The reason that was raised first. -/
def first? (x : QuitRun) : Option QuitReason :=
  x.raises.head?.map (·.1)

/-- What holds of a request at any time. -/
structure Kept (x : QuitRun) : Prop where
  reason : x.request.reason = x.first?
  answered : ∀ k a, x.raises[k]? = some a → (a.2 = true ↔ k = 0)
  seen : ∀ seen, x.attendant = .watching seen → seen = 0
  resolved : ∀ r, x.attendant = .resolved (some r) → x.request.reason = some r
  released : x.attendant = .resolved none →
    x.request.reason = none ∧ x.request.isReleased = true

/-- A trigger is held, or all are gone. -/
theorem not_isReleased_of_holds {q : QuitRequest} {i : Nat} (hheld : q.holds i = true) :
    q.isReleased = false := by
  have hmem : true ∈ q.held := by
    rw [QuitRequest.holds, List.getD_eq_getElem?_getD] at hheld
    cases hget : q.held[i]? with
    | none => simp [hget] at hheld
    | some b =>
      obtain rfl : b = true := by simpa [hget] using hheld
      exact List.mem_of_getElem? hget
  simpa [QuitRequest.isReleased] using hmem

theorem first?_eq_none : x.first? = none ↔ x.raises = [] := by
  simp [first?]

namespace Kept

theorem version_eq_zero (h : x.Kept) : x.version = 0 ↔ x.raises = [] := by
  constructor
  · intro hzero
    cases hraises : x.raises with
    | nil => rfl
    | cons a rest =>
      have hfirst : a.2 = true := (h.answered 0 a (by simp [hraises])).2 rfl
      simp [version, hraises, hfirst] at hzero
  · intro hnil
    simp [version, hnil]

/-- The first raise is made. -/
theorem first (h : x.Kept) {i : Nat} (r : QuitReason) (hheld : x.request.holds i = true)
    (hnone : x.request.reason = none) :
    Kept { x with
      request := { x.request with reason := some r }, raises := x.raises ++ [(r, true)] } := by
  have hnil : x.raises = [] := by
    rw [← first?_eq_none, ← h.reason, hnone]
  constructor
  · simp [first?, hnil]
  · intro k a ha
    rw [hnil, List.nil_append] at ha
    obtain ⟨rfl, rfl⟩ : k = 0 ∧ a = (r, true) := by
      cases k <;> simp_all
    simp
  · exact h.seen
  · intro s hs
    have hreason := h.resolved s hs
    rw [hnone] at hreason
    cases hreason
  · intro hresolved
    have hreleased := (h.released hresolved).2
    rw [not_isReleased_of_holds hheld] at hreleased
    cases hreleased

/-- Another raise is made, in vain. -/
theorem again (h : x.Kept) (r : QuitReason) {s : QuitReason}
    (hsome : x.request.reason = some s) : Kept { x with raises := x.raises ++ [(r, false)] } := by
  cases hraises : x.raises with
  | nil =>
    have hreason := h.reason
    rw [first?_eq_none.2 hraises, hsome] at hreason
    cases hreason
  | cons a rest =>
    constructor
    · have hreason := h.reason
      simpa [first?, hraises] using hreason
    · intro k b hb
      by_cases hk : k < (a :: rest).length
      · rw [List.getElem?_append_left hk, ← hraises] at hb
        exact h.answered k b hb
      · rw [List.getElem?_append_right (Nat.le_of_not_lt hk)] at hb
        obtain rfl : b = (r, false) := by
          cases hindex : k - (a :: rest).length <;> simp_all
        rw [List.length_cons] at hk
        simp
        omega
    · exact h.seen
    · exact h.resolved
    · exact h.released

/-- The listener goes a step. -/
theorem poll (h : x.Kept) : Kept { x with attendant := x.attendant.poll x.request x.version } := by
  have hzero : x.request.reason = none → x.version = 0 := by
    intro hnone
    rw [h.version_eq_zero, ← first?_eq_none, ← h.reason, hnone]
  cases hattendant : x.attendant with
  | looking =>
    cases hreason : x.request.reason with
    | some r =>
      refine ⟨h.reason, h.answered, ?_, ?_, ?_⟩ <;> simp [Attendant.poll, hreason]
    | none =>
      refine ⟨h.reason, h.answered, ?_, ?_, ?_⟩ <;>
        simp [Attendant.poll, hreason, hzero hreason]
  | watching seen =>
    obtain rfl := h.seen seen hattendant
    by_cases hsame : x.version = 0
    · have hnone : x.request.reason = none := by
        rw [h.reason, first?_eq_none, ← h.version_eq_zero, hsame]
      cases hreleased : x.request.isReleased with
      | true =>
        refine ⟨h.reason, h.answered, ?_, ?_, ?_⟩ <;>
          simp [Attendant.poll, hsame, hreleased, hnone]
      | false =>
        refine ⟨h.reason, h.answered, ?_, ?_, ?_⟩ <;> simp [Attendant.poll, hsame, hreleased]
    · refine ⟨h.reason, h.answered, ?_, ?_, ?_⟩ <;> simp [Attendant.poll, hsame]
  | resolved a =>
    refine ⟨h.reason, h.answered, ?_, ?_, ?_⟩
    · rintro seen ⟨⟩
    · rintro r ⟨⟩
      exact h.resolved r hattendant
    · rintro ⟨⟩
      exact h.released hattendant

theorem step (h : x.Kept) (hs : x.Step y) : y.Kept := by
  cases hs with
  | stay => exact h
  | first i r hheld hnone => exact h.first r hheld hnone
  | again i r s hheld hsome => exact h.again r hsome
  | clone i hheld =>
    refine ⟨h.reason, h.answered, h.seen, h.resolved, fun hresolved => ?_⟩
    have hreleased := (h.released hresolved).2
    rw [not_isReleased_of_holds hheld] at hreleased
    cases hreleased
  | drop i hheld =>
    refine ⟨h.reason, h.answered, h.seen, h.resolved, fun hresolved => ?_⟩
    have hreleased := (h.released hresolved).2
    rw [not_isReleased_of_holds hheld] at hreleased
    cases hreleased
  | attend l hidle => exact ⟨h.reason, h.answered, h.seen, h.resolved, h.released⟩
  | poll hlistening => exact h.poll

theorem follow (h : x.Kept) (os : List QuitOp) : (x.follow os).Kept :=
  follow_induction (fun _ _ hs h => h.step hs) h os

theorem start : Kept {} := by
  constructor <;> simp [first?, QuitRequest.fresh]

/-- The listener has the reason, if it has an answer after a raise. -/
theorem attendant_eq (h : x.Kept) {r : QuitReason} (hraised : x.first? = some r)
    {a : Option QuitReason} (ha : x.attendant = .resolved a) :
    x.attendant = .resolved (some r) := by
  have hreason := h.reason.trans hraised
  cases a with
  | none =>
    have hnone := (h.released ha).1
    rw [hreason] at hnone
    cases hnone
  | some s =>
    have hsome := h.resolved s ha
    rw [hreason] at hsome
    rw [ha, Option.some.inj hsome]

end Kept

/-- Raises that were made stay. -/
theorem raises_follow (x : QuitRun) (os : List QuitOp) : x.raises <+: (x.follow os).raises := by
  apply follow_induction (P := fun y => x.raises <+: y.raises)
  · intro y z hs h
    cases hs with
    | first i r | again i r => exact h.trans (List.prefix_append _ _)
    | _ => exact h
  · exact List.prefix_refl _

theorem first?_follow {r : QuitReason} (hraised : x.first? = some r) (os : List QuitOp) :
    (x.follow os).first? = some r := by
  obtain ⟨later, heq⟩ := x.raises_follow os
  rw [first?] at hraised ⊢
  rw [← heq]
  cases hraises : x.raises with
  | nil => simp [hraises] at hraised
  | cons a rest => simpa [hraises] using hraised

/-- Once they are all gone, nobody raises anything. -/
theorem raises_of_isReleased (hreleased : x.request.isReleased = true) (os : List QuitOp) :
    (x.follow os).raises = x.raises := by
  have hgone : ∀ {q : QuitRequest} {i : Nat}, q.isReleased = true → ¬ q.holds i = true := by
    intro q i hq hheld
    rw [not_isReleased_of_holds hheld] at hq
    cases hq
  have hkept := follow_induction
    (P := fun y => y.request.isReleased = true ∧ y.raises = x.raises) (fun y z hs h => by
      cases hs with
      | stay | attend | poll => exact h
      | first i r hheld | again i r s hheld | clone i hheld | drop i hheld =>
        exact absurd hheld (hgone h.1)) ⟨hreleased, rfl⟩ os
  exact hkept.2

/-- A step of a listener after a raise brings it nearer to its answer. -/
theorem distance_poll {r : QuitReason} (h : x.Kept) (hraised : x.first? = some r) :
    (x.attendant.poll x.request x.version).distance ≤ x.attendant.distance - 1 := by
  have hreason := h.reason.trans hraised
  cases hattendant : x.attendant with
  | looking => simp [Attendant.poll, hreason, Attendant.distance]
  | watching seen =>
    obtain rfl := h.seen seen hattendant
    have hchanged : x.version ≠ 0 := by
      rw [ne_eq, h.version_eq_zero, ← first?_eq_none, hraised]
      simp
    simp [Attendant.poll, hchanged, Attendant.distance]
  | resolved a => simp [Attendant.poll, Attendant.distance]

theorem attendant_occur {o : QuitOp} (ho : o ≠ .poll) : (x.occur o).attendant = x.attendant := by
  cases o with
  | raise i r => cases hraise : x.request.raise i r <;> simp [occur, hraise]
  | clone i => cases hclone : x.request.clone i <;> simp [occur, hclone]
  | drop i => cases hdrop : x.request.drop i <;> simp [occur, hdrop]
  | listen => cases hlisten : x.request.listen <;> simp [occur, hlisten]
  | dropListener => cases hdrop : x.request.dropListener <;> simp [occur, hdrop]
  | poll => exact absurd rfl ho

theorem listening_occur (hlistening : x.request.listener = .listening) (o : QuitOp) :
    (x.occur o).request.listener = .listening := by
  have hs := x.step_occur o
  generalize x.occur o = y at hs
  cases hs with
  | attend l hidle =>
    rw [hlistening] at hidle
    cases hidle
  | _ => exact hlistening

/-- Whatever else happens after a raise, the steps of a listener bring it nearer to its answer. -/
theorem distance_follow {r : QuitReason} (h : x.Kept) (hraised : x.first? = some r)
    (hlistening : x.request.listener = .listening) (os : List QuitOp) :
    (x.follow os).attendant.distance ≤ x.attendant.distance - os.count .poll := by
  induction os generalizing x with
  | nil => simp
  | cons o os ih =>
    have hrest := ih (h.step (x.step_occur o)) (first?_follow hraised [o])
      (listening_occur hlistening o)
    rw [follow_cons]
    by_cases ho : o = .poll
    · subst ho
      have hnearer := distance_poll h hraised
      simp only [occur, hlistening, if_true] at hrest ⊢
      rw [List.count_cons_self]
      omega
    · rw [attendant_occur ho] at hrest
      rw [List.count_cons_of_ne ho]
      exact hrest

/-- What a quit request keeps to. -/
structure CountsFirstRaise (x : QuitRun) : Prop where
  /-- A raise is answered with true just if it is the first. -/
  raise : ∀ i r, x.request.holds i = true →
    (x.request.raise i r).map (·.1) = some x.raises.isEmpty
  /-- Every trigger shows the reason that was raised first, and from then on it stays. -/
  reason : ∀ i, x.request.holds i = true → x.request.reason? i = some x.first?
  lasting : ∀ r, x.first? = some r → ∀ later, (x.follow later).first? = some r
  /-- The listener has no other answer than this reason, … -/
  resolved : ∀ r, x.attendant = .resolved (some r) → x.first? = some r
  /-- … which it has after two steps, whatever else happens meanwhile. -/
  resolves : ∀ r, x.first? = some r → x.request.listener = .listening →
    ∀ later, 2 ≤ later.count .poll → (x.follow later).attendant = .resolved (some r)
  /-- It has no reason only if all triggers are gone and none of them was raised, ever. -/
  orphaned : x.attendant = .resolved none →
    x.request.isReleased = true ∧ ∀ later, (x.follow later).raises = []
  /-- Until one of the two has come, it has no answer. -/
  pending : x.raises = [] → x.request.isReleased = false → x.attendant.answer? = none
  /-- Two steps in a row lead to what a listener learns at once. -/
  settles : x.request.listener = .listening →
    (x.follow [.poll, .poll]).attendant.answer? = x.request.answer?

/-- A raise through a held trigger is recorded just if it is the first. -/
theorem Kept.raise (h : x.Kept) {i : Nat} (hheld : x.request.holds i = true) (r : QuitReason) :
    (x.request.raise i r).map (·.1) = some x.raises.isEmpty := by
  have hreason := h.reason
  cases hraises : x.raises with
  | nil =>
    rw [first?_eq_none.2 hraises] at hreason
    simp [QuitRequest.raise, hheld, hreason]
  | cons a rest =>
    rw [first?, hraises, List.head?_cons, Option.map_some] at hreason
    simp [QuitRequest.raise, hheld, hreason]

/-- Two steps after a raise, a listener has the reason. -/
theorem Kept.resolves (h : x.Kept) {r : QuitReason} (hraised : x.first? = some r)
    (hlistening : x.request.listener = .listening) {os : List QuitOp}
    (hpolls : 2 ≤ os.count .poll) : (x.follow os).attendant = .resolved (some r) := by
  have hdistance := distance_follow h hraised hlistening os
  have hfar : x.attendant.distance ≤ 2 := by
    cases x.attendant <;> simp [Attendant.distance]
  cases hattendant : (x.follow os).attendant with
  | resolved a =>
    rw [← hattendant]
    exact (h.follow os).attendant_eq (first?_follow hraised os) hattendant
  | looking | watching seen =>
    rw [hattendant, Attendant.distance] at hdistance
    omega

/-- A listener that goes two steps in a row learns what there is to learn. -/
theorem Kept.settles (h : x.Kept) (hlistening : x.request.listener = .listening) :
    (x.follow [.poll, .poll]).attendant.answer? = x.request.answer? := by
  cases hraised : x.first? with
  | some r =>
    have hreason := h.reason.trans hraised
    have hpolls : 2 ≤ [QuitOp.poll, .poll].count .poll := by
      simp
    rw [h.resolves hraised hlistening hpolls]
    simp [Attendant.answer?, QuitRequest.answer?, hreason]
  | none =>
    have hreason := h.reason.trans hraised
    have hversion : x.version = 0 := h.version_eq_zero.2 (first?_eq_none.1 hraised)
    have htwo : (x.follow [.poll, .poll]).attendant =
        (x.attendant.poll x.request 0).poll x.request 0 := by
      rw [← hversion]
      simp [occur, hlistening, version]
    have hlater : ∀ w, w = .looking ∨ w = .watching 0 →
        ((Attendant.poll x.request 0 w).poll x.request 0).answer? = x.request.answer? := by
      rintro w (rfl | rfl) <;> cases hreleased : x.request.isReleased <;>
        simp [Attendant.poll, Attendant.answer?, QuitRequest.answer?, hreason, hreleased]
    rw [htwo]
    cases hattendant : x.attendant with
    | looking => exact hlater _ (.inl rfl)
    | watching seen =>
      obtain rfl := h.seen seen hattendant
      exact hlater _ (.inr rfl)
    | resolved a =>
      cases a with
      | none =>
        have hreleased := (h.released hattendant).2
        simp [Attendant.poll, Attendant.answer?, QuitRequest.answer?, hreason, hreleased]
      | some s =>
        have hsome := h.resolved s hattendant
        rw [hreason] at hsome
        cases hsome

/-- **The first raise counts, and it is not lost.**  However raises, clones and drops of the
triggers and the steps of the listener follow one another, the reason is the one that was raised
first, and the listener learns of it. -/
theorem first_raise_counts (os : List QuitOp) : (follow {} os).CountsFirstRaise := by
  have h : (follow {} os).Kept := Kept.start.follow os
  generalize follow {} os = x at h
  constructor
  · intro i r hheld
    exact h.raise hheld r
  · intro i hheld
    rw [QuitRequest.reason?, if_pos hheld, h.reason]
  · intro r hraised later
    exact first?_follow hraised later
  · intro r hresolved
    rw [← h.reason]
    exact h.resolved r hresolved
  · intro r hraised hlistening later hpolls
    exact h.resolves hraised hlistening hpolls
  · intro hresolved
    obtain ⟨hnone, hreleased⟩ := h.released hresolved
    refine ⟨hreleased, fun later => ?_⟩
    rw [raises_of_isReleased hreleased, ← first?_eq_none, ← h.reason, hnone]
  · intro hnone hheld
    cases hattendant : x.attendant with
    | looking | watching seen => rfl
    | resolved a =>
      cases a with
      | none =>
        have hreleased := (h.released hattendant).2
        rw [hheld] at hreleased
        cases hreleased
      | some r =>
        have hreason := h.resolved r hattendant
        rw [h.reason, first?_eq_none.2 hnone] at hreason
        cases hreason
  · exact h.settles

/-- A raise is not lost when its trigger is given up before anybody listens. -/
example : (follow {} [.raise 0 .shutdown, .drop 0, .listen, .poll]).attendant =
    .resolved (some .shutdown) := by
  decide

end QuitRun

end Hotplug
