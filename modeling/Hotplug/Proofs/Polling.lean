import Hotplug.Proofs.Polling.Desk
import Mathlib.Order.Bounds.Defs

/-!
# A wait ends with the first look that shows what it waits for

The waits on a device together with the looks that they have taken, and with what the files were at
each of them.

* `PresenceRun` — the waits and their looks.
* `PresenceRun.Attends` — how far a wait has come, told by its looks.
* `PresenceRun.Ends`, `PresenceRun.gauge_of_ends` — what brings a wait to its end.
* `PresenceRun.first_match_ends` — a wait looks after every interval, and ends with the first look
  that shows what it waits for.
-/

namespace Hotplug

/-! ## The looks of a wait -/

/-- A look that a wait has taken: when, and what the files were. -/
structure Look where
  waiter : Nat
  time : Nat
  files : FileTree
  deriving Repr, Inhabited

/-- The waits on a device with what they have done. -/
structure PresenceRun where
  desk : PresenceDesk
  /-- When each wait began, and what it waits for. -/
  begun : List (Nat × Bool) := []
  /-- The looks of all waits, the oldest first. -/
  looks : List Look := []
  deriving Repr, Inhabited

namespace PresenceRun

/-- A run before anything has happened. -/
def fresh (device : DeviceId) (interval : Nat) (files : FileTree) : PresenceRun :=
  { desk := { device := device, interval := interval, files := files } }

/-- The wait that an occurrence begins, with the time. -/
def beginning (x : PresenceRun) : PresenceOp → List (Nat × Bool)
  | .await desired => [(x.desk.now, desired)]
  | _ => []

/-- The look that an occurrence is. -/
def look (x : PresenceRun) : PresenceOp → List Look
  | .look j => (x.desk.turn? j).toList.map fun _ => ⟨j, x.desk.now, x.desk.files⟩
  | _ => []

/-- What becomes of the waits. -/
def occur (x : PresenceRun) (o : PresenceOp) : PresenceRun :=
  { desk := x.desk.occur o, begun := x.begun ++ x.beginning o, looks := x.looks ++ x.look o }

/-- What becomes of the waits as several things happen. -/
def follow (x : PresenceRun) (os : List PresenceOp) : PresenceRun :=
  os.foldl occur x

@[simp] theorem follow_nil (x : PresenceRun) : x.follow [] = x := rfl

@[simp] theorem follow_cons (x : PresenceRun) (o : PresenceOp) (os : List PresenceOp) :
    x.follow (o :: os) = (x.occur o).follow os := rfl

theorem desk_follow (x : PresenceRun) (os : List PresenceOp) :
    (x.follow os).desk = x.desk.follow os := by
  induction os generalizing x with
  | nil => rfl
  | cons o os ih => exact ih (x.occur o)

/-- The looks of one wait. -/
def looksOf (x : PresenceRun) (j : Nat) : List Look :=
  x.looks.filter (·.waiter = j)

/-- Whether a look showed that the device was there. -/
def sees (x : PresenceRun) (l : Look) : Bool :=
  (Sighting.of l.files x.desk.device).isPresent

/-- How far a wait has come that began at `start`. -/
structure Attends (x : PresenceRun) (j start : Nat) (desired : Bool) : Prop where
  /-- It has looked at the start and after every interval. -/
  times : (x.looksOf j).map (·.time) =
    (List.range (x.looksOf j).length).map (start + · * x.desk.interval)
  /-- As long as it goes on, the next look is not late, … -/
  waiting : ∀ w, x.desk.wait? j = some w →
    w = ⟨desired, start + (x.looksOf j).length * x.desk.interval⟩ ∧ x.desk.now ≤ w.due
  /-- … and no look has shown what it waits for, unless it has come to its end. -/
  unmet : (∀ time, x.desk.waiters[j]? ≠ some (.resolved time)) →
    ∀ l ∈ x.looksOf j, x.sees l ≠ desired
  /-- It has come to its end with its last look, the only one that showed it. -/
  resolved : ∀ time, x.desk.waiters[j]? = some (.resolved time) →
    ∃ before l, x.looksOf j = before ++ [l] ∧ l.time = time ∧ x.sees l = desired ∧
      ∀ m ∈ before, x.sees m ≠ desired

variable {x y : PresenceRun} {j start : Nat} {desired : Bool}

namespace Attends

/-- Something happens that is no concern of a wait. -/
theorem congr (h : x.Attends j start desired) (hdevice : y.desk.device = x.desk.device)
    (hinterval : y.desk.interval = x.desk.interval) (hlooks : y.looksOf j = x.looksOf j)
    (hwaiters : y.desk.waiters[j]? = x.desk.waiters[j]?)
    (hnow : ∀ w, x.desk.wait? j = some w → y.desk.now ≤ w.due) : y.Attends j start desired := by
  have hsees : ∀ l, y.sees l = x.sees l := by
    intro l
    rw [sees, hdevice, sees]
  have hwait : y.desk.wait? j = x.desk.wait? j := by
    rw [PresenceDesk.wait?, hwaiters, PresenceDesk.wait?]
  constructor
  · rw [hlooks, hinterval]
    exact h.times
  · intro w hw
    rw [hwait] at hw
    rw [hlooks, hinterval]
    exact ⟨(h.waiting w hw).1, hnow w hw⟩
  · simp only [hwaiters, hlooks, hsees]
    exact h.unmet
  · simp only [hwaiters, hlooks, hsees]
    exact h.resolved

/-- A wait looks. -/
theorem look (h : x.Attends j start desired) {w : PresenceWait} (hturn : x.desk.turn? j = some w) :
    (x.occur (.look j)).Attends j start desired := by
  obtain ⟨hw, hdue⟩ := PresenceDesk.turn?_eq_some.1 hturn
  obtain ⟨heq, hle⟩ := h.waiting w hw
  have hwaiter := PresenceDesk.wait?_eq_some.1 hw
  obtain ⟨hj, -⟩ := List.getElem?_eq_some_iff.1 hwaiter
  have hnow : x.desk.now = start + (x.looksOf j).length * x.desk.interval := by
    rw [heq] at hdue hle
    exact Nat.le_antisymm hle hdue
  have hunmet : ∀ l ∈ x.looksOf j, x.sees l ≠ desired :=
    h.unmet (by simp [hwaiter])
  have hdesk : (x.occur (.look j)).desk = x.desk.lookFor j w := x.desk.occur_look hturn
  have hlooks : (x.occur (.look j)).looksOf j =
      x.looksOf j ++ [⟨j, x.desk.now, x.desk.files⟩] := by
    simp [looksOf, occur, PresenceRun.look, hturn]
  have hsees : ∀ l, (x.occur (.look j)).sees l = x.sees l := by
    intro l
    simp [sees, occur]
  have htimes : ((x.occur (.look j)).looksOf j).map (·.time) =
      (List.range ((x.occur (.look j)).looksOf j).length).map
        (start + · * (x.occur (.look j)).desk.interval) := by
    simp [hlooks, hdesk, h.times, hnow, List.range_succ]
  by_cases hseen : x.desk.sees = w.desired
  · have hwaiters : (x.occur (.look j)).desk.waiters[j]? = some (.resolved x.desk.now) := by
      simp [hdesk, PresenceDesk.lookFor_of_seen hseen, hj]
    refine ⟨htimes, ?_, fun hnever => absurd hwaiters (hnever _), ?_⟩
    · intro v hv
      rw [PresenceDesk.wait?_eq_some, hwaiters] at hv
      cases hv
    · intro time htime
      obtain rfl : x.desk.now = time := by simpa [hwaiters] using htime
      refine ⟨x.looksOf j, _, hlooks, rfl, ?_, ?_⟩
      · rw [hsees]
        exact hseen.trans (by rw [heq])
      · simpa only [hsees] using hunmet
  · have hwaiters : (x.occur (.look j)).desk.waiters[j]? =
        some (.waiting { w with due := x.desk.now + x.desk.interval }) := by
      simp [hdesk, PresenceDesk.lookFor_of_unseen hseen, hj]
    refine ⟨htimes, ?_, ?_, ?_⟩
    · intro v hv
      rw [PresenceDesk.wait?_eq_some, hwaiters] at hv
      obtain rfl := Waiter.waiting.inj (Option.some.inj hv)
      have hnext : (x.occur (.look j)).desk.now = x.desk.now := by
        rw [hdesk, PresenceDesk.now_lookFor]
      refine ⟨?_, hnext ▸ Nat.le_add_right _ _⟩
      rw [hlooks, hdesk, heq, hnow]
      simp [Nat.add_mul, Nat.add_assoc]
    · intro _ l hl
      rw [hlooks] at hl
      rw [hsees]
      rcases List.mem_append.1 hl with hold | hnew
      · exact hunmet l hold
      · obtain rfl := List.mem_singleton.1 hnew
        exact fun hmet => hseen (hmet.trans (by rw [heq]))
    · intro time htime
      rw [hwaiters] at htime
      cases htime

/-- A wait is given up. -/
theorem cancel (h : x.Attends j start desired) : (x.occur (.cancel j)).Attends j start desired := by
  have hlooks : (x.occur (.cancel j)).looksOf j = x.looksOf j := by
    simp [looksOf, occur, PresenceRun.look]
  cases hwait : x.desk.wait? j with
  | none =>
    have hdesk : (x.occur (.cancel j)).desk = x.desk := PresenceDesk.occur_cancel_of_none hwait
    refine h.congr (by rw [hdesk]) (by rw [hdesk]) hlooks (by rw [hdesk]) fun w hw => ?_
    rw [hwait] at hw
    cases hw
  | some w =>
    have hwaiter := PresenceDesk.wait?_eq_some.1 hwait
    obtain ⟨hj, -⟩ := List.getElem?_eq_some_iff.1 hwaiter
    have hdesk : (x.occur (.cancel j)).desk =
        { x.desk with waiters := x.desk.waiters.set j .cancelled } :=
      PresenceDesk.occur_cancel hwait
    have hcancelled : (x.occur (.cancel j)).desk.waiters[j]? = some .cancelled := by
      simp [hdesk, hj]
    have hsees : ∀ l, (x.occur (.cancel j)).sees l = x.sees l := by
      intro l
      rw [sees, hdesk, sees]
    constructor
    · rw [hlooks, hdesk]
      exact h.times
    · intro v hv
      rw [PresenceDesk.wait?_eq_some, hcancelled] at hv
      cases hv
    · intro _ l hl
      rw [hlooks] at hl
      rw [hsees]
      exact h.unmet (by simp [hwaiter]) l hl
    · intro time htime
      rw [hcancelled] at htime
      cases htime

end Attends

/-! ## All waits at any time -/

/-- What holds at any time. -/
structure Kept (x : PresenceRun) : Prop where
  length : x.begun.length = x.desk.waiters.length
  known : ∀ l ∈ x.looks, l.waiter < x.begun.length
  attends : ∀ j start desired, x.begun[j]? = some (start, desired) → x.Attends j start desired

namespace Kept

theorem looksOf_eq_nil (h : x.Kept) : x.looksOf x.begun.length = [] := by
  simp only [looksOf, List.filter_eq_nil_iff, decide_eq_true_eq]
  intro l hl heq
  have hless := h.known l hl
  rw [heq] at hless
  exact Nat.lt_irrefl _ hless

/-- Something happens that is no concern of any wait. -/
theorem congr (h : x.Kept) {o : PresenceOp} (hbegun : x.beginning o = []) (hlook : x.look o = [])
    (hwaiters : (x.occur o).desk.waiters = x.desk.waiters)
    (hnow : ∀ j w, x.desk.wait? j = some w → (x.occur o).desk.now ≤ w.due) :
    (x.occur o).Kept := by
  have hbegun' : (x.occur o).begun = x.begun := by
    simp [occur, hbegun]
  have hlooks' : (x.occur o).looks = x.looks := by
    simp [occur, hlook]
  constructor
  · rw [hbegun', hwaiters]
    exact h.length
  · rw [hbegun', hlooks']
    exact h.known
  · intro j start desired hj
    rw [hbegun'] at hj
    refine (h.attends j start desired hj).congr ?_ ?_ ?_ ?_ (hnow j)
    · exact x.desk.device_occur o
    · exact x.desk.interval_occur o
    · rw [looksOf, hlooks', looksOf]
    · rw [hwaiters]

theorem prompt (h : x.Kept) (j : Nat) (w : PresenceWait) (hw : x.desk.wait? j = some w) :
    x.desk.now ≤ w.due := by
  obtain ⟨hj, -⟩ := List.getElem?_eq_some_iff.1 (PresenceDesk.wait?_eq_some.1 hw)
  rw [← h.length] at hj
  exact ((h.attends j _ _ (List.getElem?_eq_getElem hj)).waiting w hw).2

/-- A wait begins. -/
theorem await (h : x.Kept) (desired : Bool) : (x.occur (.await desired)).Kept := by
  have hbegun : (x.occur (.await desired)).begun = x.begun ++ [(x.desk.now, desired)] := rfl
  have hlooks : (x.occur (.await desired)).looks = x.looks := by
    simp [occur, PresenceRun.look]
  have hwaiters : (x.occur (.await desired)).desk.waiters =
      x.desk.waiters ++ [.waiting (.start desired x.desk.now)] := rfl
  constructor
  · simp [hbegun, hwaiters, h.length]
  · intro l hl
    rw [hlooks] at hl
    have hless := h.known l hl
    rw [hbegun, List.length_append]
    omega
  · intro j start d hj
    rw [hbegun] at hj
    rcases Nat.lt_or_ge j x.begun.length with hold | hnew
    · rw [List.getElem?_append_left hold] at hj
      refine (h.attends j start d hj).congr rfl rfl ?_ ?_ (h.prompt j)
      · rw [looksOf, hlooks, looksOf]
      · rw [hwaiters, List.getElem?_append_left (h.length ▸ hold)]
    · rw [List.getElem?_append_right hnew, List.getElem?_singleton] at hj
      split at hj
      · rename_i hindex
        obtain rfl : j = x.begun.length := by omega
        obtain ⟨rfl, rfl⟩ := Prod.mk.inj (Option.some.inj hj)
        have hnone : (x.occur (.await desired)).looksOf x.begun.length = [] := by
          rw [looksOf, hlooks]
          exact h.looksOf_eq_nil
        have hwaiter : (x.occur (.await desired)).desk.waiters[x.begun.length]? =
            some (.waiting (.start desired x.desk.now)) := by
          rw [hwaiters, h.length]
          simp
        refine ⟨by simp [hnone], ?_, by simp [hnone], ?_⟩
        · intro w hw
          rw [PresenceDesk.wait?_eq_some, hwaiter] at hw
          obtain rfl := Waiter.waiting.inj (Option.some.inj hw)
          refine ⟨by simp [hnone, PresenceWait.start], Nat.le_refl _⟩
        · intro time htime
          rw [hwaiter] at htime
          cases htime
      · cases hj

/-- A wait looks or is given up, which is no concern of the others. -/
theorem touch (h : x.Kept) {k : Nat} {o : PresenceOp} (hbegun : x.beginning o = [])
    (hlook : ∀ l ∈ x.look o, l.waiter = k ∧ k < x.begun.length)
    (hlength : (x.occur o).desk.waiters.length = x.desk.waiters.length)
    (hwaiters : ∀ j ≠ k, (x.occur o).desk.waiters[j]? = x.desk.waiters[j]?)
    (hnow : (x.occur o).desk.now = x.desk.now)
    (hk : ∀ start desired, x.Attends k start desired → (x.occur o).Attends k start desired) :
    (x.occur o).Kept := by
  have hbegun' : (x.occur o).begun = x.begun := by
    simp [occur, hbegun]
  constructor
  · rw [hbegun', hlength]
    exact h.length
  · intro l hl
    rw [hbegun']
    rcases List.mem_append.1 hl with hold | hnew
    · exact h.known l hold
    · obtain ⟨hwaiter, hless⟩ := hlook l hnew
      rw [hwaiter]
      exact hless
  · intro j start desired hj
    rw [hbegun'] at hj
    by_cases hsame : j = k
    · subst hsame
      exact hk start desired (h.attends j start desired hj)
    · refine (h.attends j start desired hj).congr ?_ ?_ ?_ (hwaiters j hsame) ?_
      · exact x.desk.device_occur o
      · exact x.desk.interval_occur o
      · have hnone : (x.look o).filter (·.waiter = j) = [] := by
          simp only [List.filter_eq_nil_iff, decide_eq_true_eq]
          intro l hl heq
          exact hsame (heq.symm.trans (hlook l hl).1)
        simp [looksOf, occur, hnone]
      · intro w hw
        rw [hnow]
        exact h.prompt j w hw

theorem step (h : x.Kept) (o : PresenceOp) : (x.occur o).Kept := by
  cases o with
  | files t => exact h.congr rfl rfl rfl h.prompt
  | check =>
    refine h.congr rfl rfl rfl fun j w hw => ?_
    rw [show (x.occur .check).desk.now = x.desk.now from Presence.now_check _ _ _ _]
    exact h.prompt j w hw
  | await desired => exact h.await desired
  | cancel k =>
    cases hwait : x.desk.wait? k with
    | none =>
      have hdesk : (x.occur (.cancel k)).desk = x.desk := PresenceDesk.occur_cancel_of_none hwait
      exact h.congr rfl rfl (by rw [hdesk]) (by rw [hdesk]; exact h.prompt)
    | some w =>
      have hdesk : (x.occur (.cancel k)).desk =
          { x.desk with waiters := x.desk.waiters.set k .cancelled } :=
        PresenceDesk.occur_cancel hwait
      refine h.touch (k := k) rfl (by simp [PresenceRun.look]) ?_ ?_ ?_ fun _ _ => Attends.cancel
      · simp [hdesk]
      · intro j hj
        simp [hdesk, hj.symm]
      · rw [hdesk]
        rfl
  | look k =>
    cases hturn : x.desk.turn? k with
    | none =>
      have hdesk : (x.occur (.look k)).desk = x.desk := PresenceDesk.occur_look_of_none hturn
      exact h.congr rfl (by simp [PresenceRun.look, hturn]) (by rw [hdesk])
        (by rw [hdesk]; exact h.prompt)
    | some w =>
      have hdesk : (x.occur (.look k)).desk = x.desk.lookFor k w := PresenceDesk.occur_look hturn
      obtain ⟨hw, -⟩ := PresenceDesk.turn?_eq_some.1 hturn
      obtain ⟨hk, -⟩ := List.getElem?_eq_some_iff.1 (PresenceDesk.wait?_eq_some.1 hw)
      rw [← h.length] at hk
      refine h.touch (k := k) rfl ?_ ?_ ?_ ?_ fun _ _ hattends => hattends.look hturn
      · simp [PresenceRun.look, hturn, hk]
      · simp [hdesk, PresenceDesk.lookFor]
      · intro j hj
        simp [hdesk, PresenceDesk.lookFor, hj.symm]
      · rw [hdesk, PresenceDesk.now_lookFor]
  | pass time =>
    by_cases hmay : x.desk.mayPass time = true
    · have hparts := PresenceDesk.mayPass_iff.1 hmay
      have hdesk : (x.occur (.pass time)).desk =
          { x.desk with chronicle := { x.desk.chronicle with now := time } } := by
        simp [occur, PresenceDesk.occur, hmay]
      refine h.congr rfl rfl (by rw [hdesk]) fun j w hw => ?_
      rw [hdesk]
      exact (hparts.2 j w hw).2
    · have hdesk : (x.occur (.pass time)).desk = x.desk := by
        simp [occur, PresenceDesk.occur, hmay]
      exact h.congr rfl rfl (by rw [hdesk]) (by rw [hdesk]; exact h.prompt)

theorem follow (h : x.Kept) (os : List PresenceOp) : (x.follow os).Kept := by
  induction os generalizing x with
  | nil => exact h
  | cons o os ih => exact ih (h.step o)

theorem fresh (device : DeviceId) (interval : Nat) (files : FileTree) :
    (PresenceRun.fresh device interval files).Kept := by
  constructor <;> simp [PresenceRun.fresh]

end Kept

/-! ## The end of a wait -/

/-- An occurrence brings a wait to its end. -/
def Ends (x : PresenceRun) (o : PresenceOp) (j : Nat) : Prop :=
  (∃ w, x.desk.wait? j = some w) ∧ ∃ time, (x.occur o).desk.waiters[j]? = some (.resolved time)

/-- The gauge for the presence of the device. -/
def gauge (x : PresenceRun) : Option Bool :=
  x.desk.chronicle.metrics.devicePresent

/-- Nothing happens to a wait unless it looks or is given up. -/
theorem waiters_occur {o : PresenceOp} (hj : j < x.desk.waiters.length) (hlook : o ≠ .look j)
    (hcancel : o ≠ .cancel j) : (x.occur o).desk.waiters[j]? = x.desk.waiters[j]? := by
  cases o with
  | files t | check => rfl
  | await desired => exact List.getElem?_append_left hj
  | cancel k =>
    have hother : k ≠ j := by
      rintro rfl
      exact hcancel rfl
    cases hwait : x.desk.wait? k with
    | none => simp [occur, PresenceDesk.occur_cancel_of_none hwait]
    | some w => simp [occur, PresenceDesk.occur_cancel hwait, hother]
  | look k =>
    have hother : k ≠ j := by
      rintro rfl
      exact hlook rfl
    cases hturn : x.desk.turn? k with
    | none => simp [occur, PresenceDesk.occur_look_of_none hturn]
    | some w => simp [occur, PresenceDesk.occur_look hturn, PresenceDesk.lookFor, hother]
  | pass time =>
    simp only [occur, PresenceDesk.occur]
    split <;> rfl

/-- A wait comes to its end with a look that shows what it waits for. -/
theorem ends_iff {o : PresenceOp} :
    x.Ends o j ↔ o = .look j ∧ ∃ w, x.desk.turn? j = some w ∧ x.desk.sees = w.desired := by
  constructor
  · rintro ⟨⟨w, hw⟩, time, htime⟩
    have hwaiter := PresenceDesk.wait?_eq_some.1 hw
    obtain ⟨hj, -⟩ := List.getElem?_eq_some_iff.1 hwaiter
    by_cases hcancel : o = .cancel j
    · subst hcancel
      simp [occur, PresenceDesk.occur_cancel hw, hj] at htime
    · by_cases hlook : o = .look j
      · subst hlook
        refine ⟨rfl, ?_⟩
        cases hturn : x.desk.turn? j with
        | none => simp [occur, PresenceDesk.occur_look_of_none hturn, hwaiter] at htime
        | some v =>
          by_cases hseen : x.desk.sees = v.desired
          · exact ⟨v, rfl, hseen⟩
          · simp [occur, PresenceDesk.occur_look hturn, PresenceDesk.lookFor_of_unseen hseen,
              hj] at htime
      · rw [waiters_occur hj hlook hcancel, hwaiter] at htime
        cases htime
  · rintro ⟨rfl, w, hturn, hseen⟩
    obtain ⟨hw, -⟩ := PresenceDesk.turn?_eq_some.1 hturn
    obtain ⟨hj, -⟩ := List.getElem?_eq_some_iff.1 (PresenceDesk.wait?_eq_some.1 hw)
    refine ⟨⟨w, hw⟩, x.desk.now, ?_⟩
    simp [occur, PresenceDesk.occur_look hturn, PresenceDesk.lookFor_of_seen hseen, hj]

/-- A wait that comes to its end sets the gauge. -/
theorem gauge_of_ends {o : PresenceOp} {w : PresenceWait} (hends : x.Ends o j)
    (hw : x.desk.wait? j = some w) : (x.occur o).gauge = some w.desired := by
  obtain ⟨rfl, v, hturn, hseen⟩ := ends_iff.1 hends
  obtain ⟨hv, -⟩ := PresenceDesk.turn?_eq_some.1 hturn
  obtain rfl : w = v := Option.some.inj (hw.symm.trans hv)
  simp [gauge, occur, PresenceDesk.occur_look hturn, PresenceDesk.lookFor_of_seen hseen,
    Chronicle.gauge, Chronicle.measure]

/-- Nothing else touches it. -/
theorem gauge_of_not_ends {o : PresenceOp} (hends : ∀ j, ¬ x.Ends o j) :
    (x.occur o).gauge = x.gauge := by
  cases o with
  | files t | await desired => rfl
  | check => simp [gauge, occur, PresenceDesk.occur, PresenceDesk.check]
  | cancel k =>
    cases hwait : x.desk.wait? k with
    | none => simp [gauge, occur, PresenceDesk.occur_cancel_of_none hwait]
    | some w => simp [gauge, occur, PresenceDesk.occur_cancel hwait]
  | look k =>
    cases hturn : x.desk.turn? k with
    | none => simp [gauge, occur, PresenceDesk.occur_look_of_none hturn]
    | some w =>
      by_cases hseen : x.desk.sees = w.desired
      · exact absurd (ends_iff.2 ⟨rfl, w, hturn, hseen⟩) (hends k)
      · have hdesk : (x.occur (.look k)).desk = x.desk.lookFor k w := PresenceDesk.occur_look hturn
        rw [gauge, hdesk, PresenceDesk.lookFor_of_unseen hseen]
        simp [gauge, PresenceDesk.occur, PresenceDesk.check]
  | pass time =>
    simp only [gauge, occur, PresenceDesk.occur]
    split <;> rfl

/-- A wait that has come to its end, or was given up, neither goes on nor looks any more. -/
theorem over_occur (hj : j < x.desk.waiters.length) (hover : x.desk.wait? j = none)
    (o : PresenceOp) : (x.occur o).desk.waiters[j]? = x.desk.waiters[j]? ∧
      (x.occur o).looksOf j = x.looksOf j := by
  have hturn : x.desk.turn? j = none := by
    simp [PresenceDesk.turn?, hover]
  have hlook : (x.look o).filter (·.waiter = j) = [] := by
    cases o with
    | look k =>
      by_cases hsame : k = j
      · subst hsame
        simp [look, hturn]
      · cases hother : x.desk.turn? k <;> simp [look, hother, hsame]
    | _ => rfl
  refine ⟨?_, by simp [looksOf, occur, hlook]⟩
  by_cases hcancel : o = .cancel j
  · subst hcancel
    simp [occur, PresenceDesk.occur_cancel_of_none hover]
  · by_cases hown : o = .look j
    · subst hown
      simp [occur, PresenceDesk.occur_look_of_none hturn]
    · exact waiters_occur hj hown hcancel

theorem over_follow (hj : j < x.desk.waiters.length) (hover : x.desk.wait? j = none)
    (os : List PresenceOp) : (x.follow os).desk.waiters[j]? = x.desk.waiters[j]? ∧
      (x.follow os).looksOf j = x.looksOf j := by
  induction os generalizing x with
  | nil => exact ⟨rfl, rfl⟩
  | cons o os ih =>
    obtain ⟨hwaiters, hlooks⟩ := over_occur hj hover o
    have hj' : j < (x.occur o).desk.waiters.length := by
      rw [List.getElem?_eq_getElem hj] at hwaiters
      exact (List.getElem?_eq_some_iff.1 hwaiters).1
    have hover' : (x.occur o).desk.wait? j = none := by
      rw [PresenceDesk.wait?, hwaiters]
      exact hover
    obtain ⟨hwaiters', hlooks'⟩ := ih hj' hover'
    exact ⟨hwaiters'.trans hwaiters, hlooks'.trans hlooks⟩

end PresenceRun
/-! ## The first look that counts -/

namespace PresenceRun

variable {x : PresenceRun} {j start : Nat} {desired : Bool}

/-- A look of a wait showed what it waits for. -/
def Meets (x : PresenceRun) (j : Nat) (desired : Bool) (k : Nat) : Prop :=
  ∃ l, (x.looksOf j)[k]? = some l ∧ x.sees l = desired

/-- What one may rely on who waits for a device, and what everybody may rely on. -/
structure KeepsLookout (device : DeviceId) (interval : Nat) (x : PresenceRun) : Prop where
  /-- Every wait has looked when it began and after every interval. -/
  times : ∀ j start desired, x.begun[j]? = some (start, desired) →
    (x.looksOf j).map (·.time) = (List.range (x.looksOf j).length).map (start + · * interval)
  /-- As long as it goes on, the next look comes an interval after the last one, and the clock
  does not go past it. -/
  prompt : ∀ j start desired w, x.begun[j]? = some (start, desired) → x.desk.wait? j = some w →
    w.due = start + (x.looksOf j).length * interval ∧ x.desk.now ≤ w.due
  /-- A look shows that the device is absent just if asking for it says that there is none. -/
  absent : ∀ l, x.sees l = false ↔ l.files.stat device.path = .error .notFound
  /-- A wait is over at the time of the first look that shows what it waits for, … -/
  resolved : ∀ (j : Nat) start desired time, x.begun[j]? = some (start, desired) →
    (x.desk.waiters[j]? = some (.resolved time) ↔
      ∃ k, IsLeast {k | x.Meets j desired k} k ∧ time = start + k * interval)
  /-- … which is its last one, … -/
  last : ∀ (j : Nat) start desired k, x.begun[j]? = some (start, desired) → x.Meets j desired k →
    (x.looksOf j).length = k + 1
  /-- … and so it stays, also if it was given up. -/
  lasting : ∀ j < x.desk.waiters.length, x.desk.wait? j = none → ∀ later,
    (x.follow later).desk.waiters[j]? = x.desk.waiters[j]? ∧
      (x.follow later).looksOf j = x.looksOf j
  /-- The gauge is set when a wait comes to its end, … -/
  gauged : ∀ o j start desired, x.begun[j]? = some (start, desired) → x.Ends o j →
    (x.occur o).gauge = some desired
  /-- … and is left alone otherwise. -/
  ungauged : ∀ o, (∀ j, ¬ x.Ends o j) → (x.occur o).gauge = x.gauge
  /-- Time goes on, whatever the waits have to do on the way. -/
  goesOn : ∀ duration, ∃ os, (∀ o ∈ os, o.isOwn = true) ∧
    x.desk.wait duration = (x.follow os).desk ∧ (x.follow os).desk.now = x.desk.now + duration

namespace Attends

/-- A wait that has seen what it waits for has come to its end with this look. -/
theorem resolved_of_meets (h : x.Attends j start desired) {k : Nat} (hmeets : x.Meets j desired k) :
    (x.looksOf j).length = k + 1 ∧
      x.desk.waiters[j]? = some (.resolved (start + k * x.desk.interval)) := by
  obtain ⟨l, hl, hseen⟩ := hmeets
  by_cases hopen : ∀ time, x.desk.waiters[j]? ≠ some (.resolved time)
  · exact absurd hseen (h.unmet hopen l (List.mem_of_getElem? hl))
  · simp only [ne_eq, Classical.not_forall, Classical.not_not] at hopen
    obtain ⟨time, htime⟩ := hopen
    obtain ⟨before, last, hlooks, rfl, -, hunmet⟩ := h.resolved time htime
    have hk : k = before.length := by
      rcases Nat.lt_trichotomy k before.length with hless | heq | hmore
      · rw [hlooks, List.getElem?_append_left hless] at hl
        exact absurd hseen (hunmet l (List.mem_of_getElem? hl))
      · exact heq
      · rw [hlooks, List.getElem?_eq_none (by simp; omega)] at hl
        cases hl
    have hlength : (x.looksOf j).length = k + 1 := by
      simp [hlooks, hk]
    have hlast : last.time = start + k * x.desk.interval := by
      have htimes := h.times
      rw [hlooks, List.map_append, List.length_append, List.length_singleton, List.range_succ,
        List.map_append] at htimes
      simpa [hk] using (List.append_inj' htimes rfl).2
    rw [htime, hlast]
    exact ⟨hlength, rfl⟩

theorem meets_of_resolved (h : x.Attends j start desired) {time : Nat}
    (htime : x.desk.waiters[j]? = some (.resolved time)) : ∃ k, x.Meets j desired k := by
  obtain ⟨before, last, hlooks, -, hseen, -⟩ := h.resolved time htime
  exact ⟨before.length, last, by simp [hlooks], hseen⟩

theorem isLeast_of_meets (h : x.Attends j start desired) {k : Nat} (hmeets : x.Meets j desired k) :
    IsLeast {k | x.Meets j desired k} k := by
  refine ⟨hmeets, fun m hm => ?_⟩
  have hlength := (h.resolved_of_meets hmeets).1
  have hlength' := (h.resolved_of_meets hm).1
  omega

end Attends

theorem constants_follow (x : PresenceRun) (os : List PresenceOp) :
    (x.follow os).desk.device = x.desk.device ∧
      (x.follow os).desk.interval = x.desk.interval := by
  induction os generalizing x with
  | nil => exact ⟨rfl, rfl⟩
  | cons o os ih =>
    obtain ⟨hdevice, hinterval⟩ := ih (x.occur o)
    exact ⟨hdevice.trans (x.desk.device_occur o), hinterval.trans (x.desk.interval_occur o)⟩

/-- **A wait ends with the first look that shows what it waits for.**  It looks when it begins and
after every interval, however the files change meanwhile, and leaves the gauge alone until then. -/
theorem first_match_ends (device : DeviceId) {interval : Nat} (hpos : 0 < interval)
    (files : FileTree) (os : List PresenceOp) :
    ((fresh device interval files).follow os).KeepsLookout device interval := by
  have h : ((fresh device interval files).follow os).Kept :=
    (Kept.fresh device interval files).follow os
  obtain ⟨hdevice, hinterval⟩ := (fresh device interval files).constants_follow os
  generalize (fresh device interval files).follow os = x at h hdevice hinterval
  obtain rfl : x.desk.device = device := hdevice
  obtain rfl : x.desk.interval = interval := hinterval
  constructor
  · exact fun j start desired hj => (h.attends j start desired hj).times
  · intro j start desired w hj hw
    obtain ⟨rfl, hle⟩ := (h.attends j start desired hj).waiting w hw
    exact ⟨rfl, hle⟩
  · exact fun l => Sighting.isPresent_eq_false_iff
  · intro j start desired time hj
    have hattends := h.attends j start desired hj
    constructor
    · intro htime
      obtain ⟨k, hk⟩ := hattends.meets_of_resolved htime
      have hresolved := (hattends.resolved_of_meets hk).2
      refine ⟨k, hattends.isLeast_of_meets hk, ?_⟩
      simpa [htime] using hresolved
    · rintro ⟨k, hk, rfl⟩
      exact (hattends.resolved_of_meets hk.1).2
  · exact fun j start desired k hj hk => ((h.attends j start desired hj).resolved_of_meets hk).1
  · exact fun j hj hover later => over_follow hj hover later
  · intro o j start desired hj hends
    obtain ⟨w, hw⟩ := hends.1
    have heq := ((h.attends j start desired hj).waiting w hw).1
    rw [gauge_of_ends hends hw, heq]
  · exact fun o hends => gauge_of_not_ends hends
  · intro duration
    obtain ⟨later, hown, hfollow, hnow⟩ := x.desk.wait_eq_follow hpos duration
    refine ⟨later, hown, ?_, ?_⟩
    · rw [desk_follow, hfollow]
    · rw [desk_follow, ← hfollow, hnow]

/-- A wait whose device appears just before the second look, and is gone right after it. -/
def appearing : List PresenceOp :=
  [.await true, .look 0, .pass 10, .files ⟨[(["a"], .file)], []⟩, .look 0, .files ⟨[], []⟩]

theorem first_match_ends_appearing :
    0 < 10 ∧ ((fresh ⟨"a"⟩ 10 ⟨[], []⟩).follow appearing).desk.waiters = [.resolved 10] ∧
      ((fresh ⟨"a"⟩ 10 ⟨[], []⟩).follow appearing).KeepsLookout ⟨"a"⟩ 10 :=
  ⟨by decide, rfl, first_match_ends ⟨"a"⟩ (by decide) ⟨[], []⟩ appearing⟩

end PresenceRun

end Hotplug
