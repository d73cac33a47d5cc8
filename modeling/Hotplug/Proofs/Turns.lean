import Hotplug.Proofs.Clock

/-!
# Turns

What cannot happen in a world leaves it as it is.  So a list of occurrences says what has become
of a run, and not what has happened in it, unless everything in the list could happen.

* `World.CanHappen`, `World.Plays` — everything in a list does happen.
* `World.InTurn`, `World.KeepsOrder` — every move is the one that the schedule has next.
* `filter_induction` — how two lists come about that differ only in what a filter drops.
-/

namespace Hotplug

namespace World

variable {L : EventLoop}

/-- Whether something can happen: a task has a move to make, or nobody has anything to do before
time has passed.  What comes from outside always can. -/
def CanHappen (w : World L) : Occurrence → Prop
  | .move m => (w.attempt m).isSome = true
  | .pass time => w.mayPass time = true
  | _ => True

/-- Whether a move is the next one of the schedule, which tries them in order. -/
def InTurn (w : World L) : Occurrence → Prop
  | .move m => order.find? (fun m => (w.attempt m).isSome) = some m
  | _ => True

/-- Whether a property holds of a world and what happens in it, one thing after the other. -/
def Goes (P : World L → Occurrence → Prop) (w : World L) : List Occurrence → Prop
  | [] => True
  | o :: os => P w o ∧ (w.occur o).Goes P os

/-- Everything in a list does happen, one thing after the other. -/
def Plays (w : World L) (os : List Occurrence) : Prop :=
  w.Goes CanHappen os

/-- Every move in a list is made as the schedule has it. -/
def KeepsOrder (w : World L) (os : List Occurrence) : Prop :=
  w.Goes InTurn os

instance (w : World L) : DecidablePred w.CanHappen
  | .move m => inferInstanceAs (Decidable ((w.attempt m).isSome = true))
  | .pass time => inferInstanceAs (Decidable (w.mayPass time = true))
  | .signal _ | .closeSignals | .notify _ | .detach | .files _ => inferInstanceAs (Decidable True)

instance (w : World L) : DecidablePred w.InTurn
  | .move m =>
    inferInstanceAs (Decidable (order.find? (fun m => (w.attempt m).isSome) = some m))
  | .pass _ | .signal _ | .closeSignals | .notify _ | .detach | .files _ =>
    inferInstanceAs (Decidable True)

instance decidableGoes (P : World L → Occurrence → Prop) [∀ w, DecidablePred (P w)] (w : World L) :
    DecidablePred (w.Goes P)
  | [] => inferInstanceAs (Decidable True)
  | o :: os =>
    have := decidableGoes P (w.occur o) os
    inferInstanceAs (Decidable (P w o ∧ (w.occur o).Goes P os))

instance (w : World L) : DecidablePred w.Plays :=
  fun os => inferInstanceAs (Decidable (w.Goes CanHappen os))

instance (w : World L) : DecidablePred w.KeepsOrder :=
  fun os => inferInstanceAs (Decidable (w.Goes InTurn os))

variable {w : World L} {P : World L → Occurrence → Prop}

theorem goes_append {os ps : List Occurrence} :
    w.Goes P (os ++ ps) ↔ w.Goes P os ∧ (w.follow os).Goes P ps := by
  induction os generalizing w with
  | nil => exact ⟨fun h => ⟨trivial, h⟩, And.right⟩
  | cons o os ih => exact (and_congr_right fun _ => ih).trans and_assoc.symm

theorem goes_concat {os : List Occurrence} {o : Occurrence} :
    w.Goes P (os ++ [o]) ↔ w.Goes P os ∧ P (w.follow os) o :=
  goes_append.trans (and_congr_right fun _ => ⟨And.left, fun h => ⟨h, trivial⟩⟩)

theorem goes_imp {Q : World L → Occurrence → Prop} (h : ∀ w o, P w o → Q w o) {w : World L}
    {os : List Occurrence} (hos : w.Goes P os) : w.Goes Q os := by
  induction os generalizing w with
  | nil => trivial
  | cons o os ih => exact ⟨h w o hos.1, ih hos.2⟩

theorem goes_of_imp {p : Prop} {w : World L} {os : List Occurrence} (h : p → w.Goes P os) :
    w.Goes (fun w o => p → P w o) os := by
  induction os generalizing w with
  | nil => trivial
  | cons o os ih => exact ⟨fun hp => (h hp).1, ih fun hp => (h hp).2⟩

/-- A move that is made is what the task does. -/
theorem occur_move {m : Move} {w' : World L} (hw : w.attempt m = some w') :
    w.occur (.move m) = w' := by
  simp [occur, hw]

theorem occur_pass {time : Nat} (hmay : w.mayPass time = true) :
    w.occur (.pass time) = w.atTime time :=
  if_pos hmay

/-- A move is made, or nothing happens. -/
theorem occur_move_cases (w : World L) (m : Move) :
    w.occur (.move m) = w ∨
      ∃ w', w.attempt m = some w' ∧ w.occur (.move m) = w' := by
  cases hw : w.attempt m with
  | none => exact .inl (by simp [occur, hw])
  | some w' => exact .inr ⟨w', rfl, occur_move hw⟩

/-- Time passes, or nothing happens. -/
theorem occur_pass_cases (w : World L) (time : Nat) :
    w.occur (.pass time) = w ∨ w.mayPass time = true ∧ w.occur (.pass time) = w.atTime time := by
  by_cases hmay : w.mayPass time = true
  · exact .inr ⟨hmay, if_pos hmay⟩
  · exact .inl (if_neg hmay)

end World

/-! ## The order of moves -/

/-- The moves that come before a move in the order of the schedule. -/
def Move.earlier (m : Move) : List Move :=
  World.order.take (World.order.idxOf m)

namespace World

variable {L : EventLoop} {w : World L}

theorem order_eq (m : Move) : ∃ later, order = m.earlier ++ m :: later := by
  cases m <;> exact ⟨_, rfl⟩

theorem mem_order (m : Move) : m ∈ order := by
  cases m <;> decide

/-- Whatever comes before a move that comes before the event loop does so itself. -/
theorem earlier_of_early :
    ∀ m ∈ Move.eventLoop.earlier, ∀ m' ∈ m.earlier, m' ∈ Move.eventLoop.earlier := by
  decide

/-- The event loop comes before every move that does not come before it. -/
theorem eventLoop_mem_earlier :
    ∀ m ∈ order, m ∉ Move.eventLoop.earlier → m ≠ .eventLoop → .eventLoop ∈ m.earlier := by
  decide

/-- Whatever comes before the event loop comes before those moves, too. -/
theorem earlier_of_late :
    ∀ m ∈ order, m ∉ Move.eventLoop.earlier → m ≠ .eventLoop →
      ∀ m' ∈ Move.eventLoop.earlier, m' ∈ m.earlier := by
  decide

/-- It is the turn of a move when it has something to do and none before it has. -/
theorem inTurn_iff {m : Move} :
    w.InTurn (.move m) ↔
      (w.attempt m).isSome = true ∧ ∀ m' ∈ m.earlier, w.attempt m' = none := by
  refine List.find?_eq_some_iff_append.trans (and_congr_right fun _ => ?_)
  constructor
  · rintro ⟨before, later, horder, hnone⟩
    have hm : m ∉ before := by
      have hnodup : (before ++ m :: later).Nodup := horder ▸ (by decide : order.Nodup)
      exact fun hmem => (List.nodup_append.1 hnodup).2.2 m hmem m List.mem_cons_self rfl
    have hearlier : m.earlier = before := by
      unfold Move.earlier
      rw [horder, List.idxOf_append, if_neg hm, List.idxOf_cons_self, Nat.zero_add, List.take_left]
    rw [hearlier]
    exact fun m' hm' => by simpa using hnone m' hm'
  · intro hnone
    obtain ⟨later, horder⟩ := order_eq m
    exact ⟨m.earlier, later, horder, fun m' hm' => by simp [hnone m' hm']⟩

end World

/-! ## Runs -/

namespace Supervision

variable {L : EventLoop} (s : Supervision L)

/-- Everything in a list does happen in a run. -/
def Plays (os : List Occurrence) : Prop :=
  s.start.Plays os

/-- Every move in a list is made as the schedule has it. -/
def KeepsOrder (os : List Occurrence) : Prop :=
  s.start.KeepsOrder os

instance : DecidablePred s.Plays :=
  fun os => inferInstanceAs (Decidable (s.start.Plays os))

instance : DecidablePred s.KeepsOrder :=
  fun os => inferInstanceAs (Decidable (s.start.KeepsOrder os))

end Supervision

/-! ## Lists that differ in what a filter drops -/

/-- Two lists that differ only in what a filter drops come about by putting the same things that
it keeps at the end of both, and anything else at the end of one of them. -/
theorem filter_induction {α : Type} (keeps : α → Bool) {P : List α → List α → Prop}
    (hnil : P [] [])
    (hleft : ∀ xs ys a, keeps a = false → P xs ys → P (xs ++ [a]) ys)
    (hright : ∀ xs ys a, keeps a = false → P xs ys → P xs (ys ++ [a]))
    (hboth : ∀ xs ys a, keeps a = true → P xs ys → P (xs ++ [a]) (ys ++ [a]))
    (xs ys : List α) (h : xs.filter keeps = ys.filter keeps) : P xs ys := by
  -- The induction is on the lists from their ends.
  have hends : ∀ as bs : List α, as.filter keeps = bs.filter keeps → P as.reverse bs.reverse := by
    intro as
    induction as with
    | nil =>
      intro bs
      induction bs with
      | nil => exact fun _ => hnil
      | cons b bs ih =>
        intro h
        have hb : keeps b = false := by simpa using (List.filter_eq_nil_iff.1 h.symm) b
        rw [List.filter_cons_of_neg (by simp [hb])] at h
        rw [List.reverse_cons]
        exact hright _ _ _ hb (ih h)
    | cons a as iha =>
      intro bs h
      by_cases ha : keeps a = true
      · rw [List.filter_cons_of_pos ha] at h
        induction bs with
        | nil => cases h
        | cons b bs ihb =>
          by_cases hb : keeps b = true
          · rw [List.filter_cons_of_pos hb] at h
            obtain ⟨rfl, htail⟩ := List.cons_eq_cons.1 h
            rw [List.reverse_cons, List.reverse_cons]
            exact hboth _ _ _ ha (iha bs htail)
          · rw [List.filter_cons_of_neg hb] at h
            have hlast : (b :: bs).reverse = bs.reverse ++ [b] := List.reverse_cons
            rw [hlast]
            exact hright _ _ _ (eq_false_of_ne_true hb) (ihb h)
      · rw [List.filter_cons_of_neg ha] at h
        rw [List.reverse_cons]
        exact hleft _ _ _ (eq_false_of_ne_true ha) (iha bs h)
  have hreverse := hends xs.reverse ys.reverse (by rw [List.filter_reverse, List.filter_reverse, h])
  rwa [List.reverse_reverse, List.reverse_reverse] at hreverse

end Hotplug
