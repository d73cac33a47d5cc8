import Hotplug.Device.Presence

/-!
# Waits on a device, look by look

Any number of waits on one device, while the files change at any moment, also between two looks at
the same time.  A wait looks when its look is due, and time passes only up to the next look.

The subject is the presence monitor of the device component, outside a supervised run.

* `PresenceWait.look_of_seen`, `PresenceWait.look_of_unseen` — what a look does.
* `PresenceOp`, `PresenceDesk.occur` — what can happen to the waits, and what becomes of them.
* `PresenceDesk.settle_eq_follow`, `PresenceDesk.wait_eq_follow` — the passing of time is made of
  looks, and comes to its end.
-/

namespace Hotplug

/-! ## One look -/

/-- A device is absent just if asking for it says that there is none. -/
theorem Sighting.isPresent_eq_false_iff {t : FileTree} {d : DeviceId} :
    (Sighting.of t d).isPresent = false ↔ t.stat d.path = .error .notFound := by
  unfold Sighting.of
  split
  · rename_i hstat
    simp [isPresent, hstat]
  · rename_i hstat
    simp [isPresent, hstat]
  · rename_i fault hfault hstat
    simp only [isPresent, hstat, Except.error.injEq, Bool.true_eq_false, false_iff]
    exact hfault

namespace Presence

variable (t : FileTree) (d : DeviceId) (s : Option SessionId) (c : Chronicle)

theorem check_fst : (check t d s c).1 = (Sighting.of t d).isPresent := by
  unfold check
  split
  · rename_i fault hfault
    rw [hfault]
    rfl
  · rfl

@[simp] theorem now_check : (check t d s c).2.now = c.now := by
  unfold check
  split <;> rfl

@[simp] theorem metrics_check : (check t d s c).2.metrics = c.metrics := by
  unfold check
  split <;> rfl

end Presence

namespace PresenceWait

variable {w : PresenceWait} {t : FileTree} {d : DeviceId}

theorem look_of_seen (hseen : (Sighting.of t d).isPresent = w.desired) (interval : Nat)
    (s : Option SessionId) (c : Chronicle) :
    w.look interval t d s c = (none, (Presence.check t d s c).2.gauge w.desired) := by
  simp [look, Presence.check_fst, hseen]

theorem look_of_unseen (hunseen : (Sighting.of t d).isPresent ≠ w.desired) (interval : Nat)
    (s : Option SessionId) (c : Chronicle) :
    w.look interval t d s c =
      (some { w with due := c.now + interval }, (Presence.check t d s c).2) := by
  simp [look, Presence.check_fst, hunseen]

@[simp] theorem now_look (w : PresenceWait) (interval : Nat) (t : FileTree) (d : DeviceId)
    (s : Option SessionId) (c : Chronicle) : (w.look interval t d s c).2.now = c.now := by
  by_cases hseen : (Sighting.of t d).isPresent = w.desired
  · simp [look_of_seen hseen, Chronicle.gauge, Chronicle.measure]
  · simp [look_of_unseen hseen]

end PresenceWait

/-! ## Many waits -/

/-- One thing that can happen to the waits on a device. -/
inductive PresenceOp where
  /-- The files change. -/
  | files (t : FileTree)
  /-- Somebody looks, for none of the waits. -/
  | check
  /-- A wait begins. -/
  | await (desired : Bool)
  /-- A wait is given up. -/
  | cancel (j : Nat)
  /-- A wait looks, if its look is due. -/
  | look (j : Nat)
  /-- Time passes until then. -/
  | pass (time : Nat)
  deriving Inhabited

namespace PresenceOp

/-- Whether something happens by itself. -/
def isOwn : PresenceOp → Bool
  | look _ | pass _ => true
  | _ => false

end PresenceOp

namespace PresenceDesk

/-- The time. -/
def now (s : PresenceDesk) : Nat :=
  s.chronicle.now

/-- A wait that is not over. -/
def wait? (s : PresenceDesk) (j : Nat) : Option PresenceWait :=
  match s.waiters[j]? with
  | some (.waiting w) => some w
  | _ => none

/-- A wait that is due to look. -/
def turn? (s : PresenceDesk) (j : Nat) : Option PresenceWait :=
  (s.wait? j).filter (·.due ≤ s.now)

/-- A wait looks. -/
def lookFor (s : PresenceDesk) (j : Nat) (w : PresenceWait) : PresenceDesk :=
  let (left, c) := w.look s.interval s.files s.device none s.chronicle
  { s with waiters := s.waiters.set j (left.elim (.resolved c.now) .waiting), chronicle := c }

/-- The waits that are not over. -/
def pending (s : PresenceDesk) : List PresenceWait :=
  s.waiters.filterMap fun
    | .waiting w => some w
    | _ => none

/-- Whether time can pass until `time` with no look on the way. -/
def mayPass (s : PresenceDesk) (time : Nat) : Bool :=
  Nat.ble s.now time && s.pending.all fun w => decide (s.now < w.due) && decide (time ≤ w.due)

/-- What becomes of the waits.  What cannot happen leaves them as they are. -/
def occur (s : PresenceDesk) : PresenceOp → PresenceDesk
  | .files t => { s with files := t }
  | .check => s.check.2
  | .await desired => (s.await desired).2
  | .cancel j => (s.cancel j).2
  | .look j => (s.turn? j).elim s (s.lookFor j)
  | .pass time =>
    if s.mayPass time then { s with chronicle := { s.chronicle with now := time } } else s

/-- What becomes of the waits as several things happen. -/
def follow (s : PresenceDesk) (os : List PresenceOp) : PresenceDesk :=
  os.foldl occur s

theorem follow_append (s : PresenceDesk) (os ps : List PresenceOp) :
    s.follow (os ++ ps) = (s.follow os).follow ps :=
  List.foldl_append

variable {s : PresenceDesk} {j : Nat} {w : PresenceWait}

theorem wait?_eq_some : s.wait? j = some w ↔ s.waiters[j]? = some (.waiting w) := by
  unfold wait?
  split
  · rename_i v hv
    rw [hv]
    simp
  · rename_i hother
    refine ⟨by rintro ⟨⟩, fun hwaiting => absurd hwaiting (hother w)⟩

theorem mem_pending : w ∈ s.pending ↔ ∃ j, s.wait? j = some w := by
  simp only [wait?_eq_some]
  rw [pending, List.mem_filterMap, ← List.mem_iff_getElem?]
  constructor
  · rintro ⟨v, hmem, hv⟩
    cases v with
    | waiting u =>
      obtain rfl := Option.some.inj hv
      exact hmem
    | cancelled | resolved => cases hv
  · exact fun hmem => ⟨_, hmem, rfl⟩

theorem turn?_eq_some : s.turn? j = some w ↔ s.wait? j = some w ∧ w.due ≤ s.now := by
  simp [turn?, Option.filter_eq_some_iff]

theorem mayPass_iff {time : Nat} :
    s.mayPass time = true ↔
      s.now ≤ time ∧ ∀ j w, s.wait? j = some w → s.now < w.due ∧ time ≤ w.due := by
  simp only [mayPass, Bool.and_eq_true, Nat.ble_eq, List.all_eq_true, decide_eq_true_eq,
    mem_pending]
  grind

/-! ## Everything that can become of the waits -/

/-- Whether a look now shows that the device is there. -/
def sees (s : PresenceDesk) : Bool :=
  (Sighting.of s.files s.device).isPresent

theorem lookFor_of_seen (hseen : s.sees = w.desired) (j : Nat) :
    s.lookFor j w =
      { s with
        waiters := s.waiters.set j (.resolved s.now)
        chronicle := (s.occur .check).chronicle.gauge w.desired } := by
  simp [lookFor, PresenceWait.look_of_seen hseen, occur, check, now, Chronicle.gauge,
    Chronicle.measure]

theorem lookFor_of_unseen (hunseen : s.sees ≠ w.desired) (j : Nat) :
    s.lookFor j w =
      { s with
        waiters := s.waiters.set j (.waiting { w with due := s.now + s.interval })
        chronicle := (s.occur .check).chronicle } := by
  simp [lookFor, PresenceWait.look_of_unseen hunseen, occur, check, now]

@[simp] theorem device_lookFor (s : PresenceDesk) (j : Nat) (w : PresenceWait) :
    (s.lookFor j w).device = s.device := rfl

@[simp] theorem interval_lookFor (s : PresenceDesk) (j : Nat) (w : PresenceWait) :
    (s.lookFor j w).interval = s.interval := rfl

@[simp] theorem now_lookFor (s : PresenceDesk) (j : Nat) (w : PresenceWait) :
    (s.lookFor j w).now = s.now := by
  by_cases hseen : s.sees = w.desired
  · simp [lookFor_of_seen hseen, now, occur, check, Chronicle.gauge, Chronicle.measure]
  · simp [lookFor_of_unseen hseen, now, occur, check]

theorem occur_look (hturn : s.turn? j = some w) : s.occur (.look j) = s.lookFor j w := by
  rw [occur, hturn, Option.elim_some]

theorem occur_look_of_none (hturn : s.turn? j = none) : s.occur (.look j) = s := by
  rw [occur, hturn, Option.elim_none]

theorem occur_cancel (hwait : s.wait? j = some w) :
    s.occur (.cancel j) = { s with waiters := s.waiters.set j .cancelled } := by
  simp [occur, cancel, wait?_eq_some.1 hwait]

theorem occur_cancel_of_none (hwait : s.wait? j = none) : s.occur (.cancel j) = s := by
  simp only [occur, cancel]
  split
  · rfl
  · rename_i w hwaiter
    rw [wait?_eq_some.2 hwaiter] at hwait
    cases hwait
  · rfl

@[simp] theorem device_occur (s : PresenceDesk) (o : PresenceOp) :
    (s.occur o).device = s.device := by
  cases o with
  | files t | check | await desired => rfl
  | cancel j =>
    simp only [occur, cancel]
    split <;> rfl
  | look j =>
    cases hturn : s.turn? j with
    | none => rw [occur_look_of_none hturn]
    | some w => rw [occur_look hturn, device_lookFor]
  | pass time =>
    simp only [occur]
    split <;> rfl

@[simp] theorem interval_occur (s : PresenceDesk) (o : PresenceOp) :
    (s.occur o).interval = s.interval := by
  cases o with
  | files t | check | await desired => rfl
  | cancel j =>
    simp only [occur, cancel]
    split <;> rfl
  | look j =>
    cases hturn : s.turn? j with
    | none => rw [occur_look_of_none hturn]
    | some w => rw [occur_look hturn, interval_lookFor]
  | pass time =>
    simp only [occur]
    split <;> rfl

/-! ## The passing of time -/

@[simp] theorem now_lookAll (interval : Nat) (t : FileTree) (d : DeviceId) (ws : List Waiter)
    (c : Chronicle) : (lookAll interval t d ws c).2.now = c.now := by
  induction ws generalizing c with
  | nil => rfl
  | cons v ws ih =>
    cases v with
    | waiting w => by_cases hdue : w.due ≤ c.now <;> simp [lookAll, hdue, ih]
    | cancelled | resolved => simp [lookAll, ih]

/-- One wait after the other looks. -/
theorem follow_looks (before rest : List Waiter) (c : Chronicle) (s : PresenceDesk) :
    PresenceDesk.follow { s with waiters := before ++ rest, chronicle := c }
        ((List.range' before.length rest.length).map .look) =
      { s with
        waiters := before ++ (lookAll s.interval s.files s.device rest c).1
        chronicle := (lookAll s.interval s.files s.device rest c).2 } := by
  induction rest generalizing before c with
  | nil => simp [follow, lookAll]
  | cons v rest ih =>
    have hgo : ∀ v' c',
        PresenceDesk.occur { s with waiters := before ++ v :: rest, chronicle := c }
            (.look before.length) = { s with waiters := before ++ v' :: rest, chronicle := c' } →
        lookAll s.interval s.files s.device (v :: rest) c =
          (v' :: (lookAll s.interval s.files s.device rest c').1,
            (lookAll s.interval s.files s.device rest c').2) →
        PresenceDesk.follow { s with waiters := before ++ v :: rest, chronicle := c }
            ((List.range' before.length (v :: rest).length).map .look) =
          { s with
            waiters := before ++ (lookAll s.interval s.files s.device (v :: rest) c).1
            chronicle := (lookAll s.interval s.files s.device (v :: rest) c).2 } := by
      intro v' c' hoccur hall
      have hrest := ih (before ++ [v']) c'
      rw [List.length_cons, List.range'_succ, List.map_cons, follow, List.foldl_cons, hoccur, hall]
      simpa [follow] using hrest
    cases v with
    | waiting w =>
      by_cases hdue : w.due ≤ c.now
      · apply hgo ((w.look s.interval s.files s.device none c).1.elim
          (.resolved (w.look s.interval s.files s.device none c).2.now) .waiting)
          (w.look s.interval s.files s.device none c).2
        · simp [occur, turn?, wait?, now, Option.filter_some, hdue, lookFor]
        · simp [lookAll, hdue]
      · apply hgo (.waiting w) c
        · simp [occur, turn?, wait?, now, Option.filter_some, hdue]
        · simp [lookAll, hdue]
    | cancelled =>
      apply hgo .cancelled c
      · simp [occur, turn?, wait?]
      · simp [lookAll]
    | resolved time =>
      apply hgo (.resolved time) c
      · simp [occur, turn?, wait?]
      · simp [lookAll]

/-- Whoever is due looks, one after the other. -/
theorem settle_eq_follow (s : PresenceDesk) :
    s.settle = s.follow ((List.range s.waiters.length).map .look) := by
  have hlooks := s.follow_looks [] s.waiters s.chronicle
  rw [List.length_nil, ← List.range_eq_range'] at hlooks
  exact hlooks.symm

@[simp] theorem now_settle (s : PresenceDesk) : s.settle.now = s.now :=
  now_lookAll _ _ _ _ _

/-- Whoever has looked looks again after the interval. -/
theorem lt_due_of_lookAll {interval : Nat} (hpos : 0 < interval) (t : FileTree) (d : DeviceId)
    (ws : List Waiter) (c : Chronicle) {w : PresenceWait}
    (hw : .waiting w ∈ (lookAll interval t d ws c).1) : c.now < w.due := by
  induction ws generalizing c with
  | nil => simp [lookAll] at hw
  | cons v ws ih =>
    cases v with
    | waiting u =>
      by_cases hdue : u.due ≤ c.now
      · rw [lookAll, if_pos hdue] at hw
        rcases List.mem_cons.1 hw with hfirst | hrest
        · by_cases hseen : (Sighting.of t d).isPresent = u.desired
          · simp [PresenceWait.look_of_seen hseen] at hfirst
          · rw [PresenceWait.look_of_unseen hseen] at hfirst
            obtain rfl := Waiter.waiting.inj hfirst
            exact Nat.lt_add_of_pos_right hpos
        · have hlater := ih _ hrest
          rwa [PresenceWait.now_look] at hlater
      · rw [lookAll, if_neg hdue] at hw
        rcases List.mem_cons.1 hw with hfirst | hrest
        · obtain rfl := Waiter.waiting.inj hfirst
          exact Nat.lt_of_not_le hdue
        · exact ih c hrest
    | cancelled | resolved =>
      rcases List.mem_cons.1 hw with hfirst | hrest
      · cases hfirst
      · exact ih c hrest

theorem lt_due_of_settle (hpos : 0 < s.interval) {w : PresenceWait} (hw : w ∈ s.settle.pending) :
    s.now < w.due := by
  obtain ⟨j, hj⟩ := mem_pending.1 hw
  have hmem := List.mem_of_getElem? (wait?_eq_some.1 hj)
  exact lt_due_of_lookAll hpos _ _ _ _ hmem

theorem nextDue?_eq (s : PresenceDesk) : s.nextDue? = (s.pending.map (·.due)).min? := by
  rw [nextDue?, pending, List.map_filterMap]
  congr 2
  funext v
  cases v <;> rfl

/-- After everybody has looked who is due, time can pass up to the next look. -/
theorem occur_pass_settle (target : Nat) (hpos : 0 < s.interval) (hle : s.now ≤ target)
    (hnext : ∀ w ∈ s.settle.pending, target ≤ w.due) :
    s.settle.occur (.pass target) =
      { s.settle with chronicle := { s.settle.chronicle with now := target } } := by
  have hmay : s.settle.mayPass target = true := by
    rw [mayPass_iff, now_settle]
    refine ⟨hle, fun j w hw => ?_⟩
    have hmem := mem_pending.2 ⟨j, hw⟩
    exact ⟨lt_due_of_settle hpos hmem, hnext w hmem⟩
  rw [occur, if_pos hmay]

/-- The passing of time is made of looks, and comes to its end. -/
theorem advance_eq_follow {target : Nat} (fuel : Nat) (s : PresenceDesk) (hpos : 0 < s.interval)
    (hle : s.now ≤ target) :
    ∃ os, (∀ o ∈ os, o.isOwn = true) ∧ advance fuel s target = s.follow os ∧
      (target - s.now + 2 ≤ fuel → (advance fuel s target).now = target) := by
  induction fuel generalizing s with
  | zero => exact ⟨[], by simp, rfl, by simp⟩
  | succ fuel ih =>
    have hsettle := s.settle_eq_follow
    have hlooks : ∀ o ∈ (List.range s.waiters.length).map PresenceOp.look, o.isOwn = true := by
      simp [PresenceOp.isOwn]
    rw [advance]
    cases hnext : s.settle.nextDue?.filter (· ≤ target) with
    | none =>
      have hlate : ∀ w ∈ s.settle.pending, target ≤ w.due := by
        intro w hw
        cases hmin : s.settle.nextDue? with
        | none =>
          rw [nextDue?_eq, List.min?_eq_none_iff, List.map_eq_nil_iff] at hmin
          rw [hmin] at hw
          cases hw
        | some time =>
          have hlt : target < time := by simpa [hmin, Option.filter_some] using hnext
          rw [nextDue?_eq] at hmin
          have hless := (List.min?_eq_some_iff.1 hmin).2 w.due (List.mem_map_of_mem hw)
          omega
      refine ⟨(List.range s.waiters.length).map .look ++ [.pass target], ?_, ?_, fun _ => rfl⟩
      · intro o ho
        rcases List.mem_append.1 ho with hlook | hpass
        · exact hlooks o hlook
        · rw [List.mem_singleton.1 hpass]
          rfl
      · rw [follow_append, ← hsettle, ← occur_pass_settle target hpos hle hlate]
        rfl
    | some time =>
      obtain ⟨hmin, hbefore⟩ := Option.filter_eq_some_iff.1 hnext
      have hbefore' : time ≤ target := by simpa using hbefore
      rw [nextDue?_eq] at hmin
      obtain ⟨hmem, hleast⟩ := List.min?_eq_some_iff.1 hmin
      obtain ⟨w, hw, hdue⟩ := List.mem_map.1 hmem
      have hlt : s.now < time := hdue ▸ lt_due_of_settle hpos hw
      have hpass := occur_pass_settle time hpos (Nat.le_of_lt hlt) fun w hw =>
        hleast w.due (List.mem_map_of_mem hw)
      obtain ⟨os, hown, hfollow, hend⟩ :=
        ih { s.settle with chronicle := { s.settle.chronicle with now := time } } hpos hbefore'
      refine ⟨(List.range s.waiters.length).map .look ++ .pass time :: os, ?_, ?_, ?_⟩
      · intro o ho
        rcases List.mem_append.1 ho with hlook | hlater
        · exact hlooks o hlook
        · rcases List.mem_cons.1 hlater with rfl | hrest
          · rfl
          · exact hown o hrest
      · rw [follow_append, ← hsettle]
        exact hfollow.trans (congrArg (follow · os) hpass.symm)
      · intro hfuel
        exact hend (by simp only [now]; simp only [now] at hlt hfuel; omega)

/-- Letting time pass is a run of looks up to that time. -/
theorem wait_eq_follow (s : PresenceDesk) (hpos : 0 < s.interval) (duration : Nat) :
    ∃ os, (∀ o ∈ os, o.isOwn = true) ∧ s.wait duration = s.follow os ∧
      (s.wait duration).now = s.now + duration := by
  have hle : s.now ≤ s.now + duration := Nat.le_add_right _ _
  obtain ⟨os, hown, hfollow, hend⟩ := advance_eq_follow (duration + 2) s hpos hle
  exact ⟨os, hown, hfollow, hend (by omega)⟩

end PresenceDesk

end Hotplug
