import Hotplug.Proofs.Draining
import Hotplug.Proofs.Rest

/-!
# Worlds that differ in their traffic

Two worlds may be alike but for their notifications, and for how far their event loops have come
with them.  What either of them can do, and when it is its turn, the other can do once its event
loop has caught up.

* `Occurrence.isChatter` — what has to do with notifications alone.
* `World.quiet_chatter`, `World.quiet_occur` — what happens leaves such worlds alike.
* `World.Matches` — two worlds are alike but for their traffic.
* `World.Matches.canHappen`, `World.Matches.early`, `World.Matches.late` — what the one can do, the
  other can do.
* `World.Alongside` — two worlds that are given the same go on alike.
-/

namespace Hotplug

/-! ## What is left out -/

/-- Whether something comes from the library, outside of its calls. -/
def Occurrence.isTraffic : Occurrence → Bool
  | notify _ | detach => true
  | _ => false

/-- Whether it is the turn of the event loop. -/
def Occurrence.isReading : Occurrence → Bool
  | move .eventLoop => true
  | _ => false

/-- Whether something does not have to wait until the event loop has caught up. -/
def Occurrence.isEarly : Occurrence → Bool
  | move m => decide (m ∈ Move.eventLoop.earlier)
  | pass _ => false
  | _ => true

/-- Whether something has to do with notifications alone. -/
def Occurrence.isChatter (o : Occurrence) : Bool :=
  o.isTraffic || o.isReading

/-- Whether something comes from outside, but not from the library. -/
def Occurrence.isInput : Occurrence → Bool
  | signal _ | closeSignals | files _ => true
  | _ => false

theorem Occurrence.isInput_of_isChatter {o : Occurrence} (ho : o.isChatter = true) :
    o.isInput = false := by
  cases o with
  | signal | closeSignals | files => cases ho
  | _ => rfl

/-- What does not have to do with notifications alone. -/
theorem Occurrence.cases_of_isChatter {o : Occurrence} (ho : o.isChatter = false) :
    (∃ m, m ≠ .eventLoop ∧ o = .move m) ∨ (∃ t, o = .pass t) ∨ o.isInput = true := by
  cases o with
  | move m => exact .inl ⟨m, (by rintro rfl; cases ho), rfl⟩
  | pass t => exact .inr (.inl ⟨t, rfl⟩)
  | notify | detach => cases ho
  | _ => exact .inr (.inr rfl)

namespace World

variable {L L' : EventLoop} {D : L.Draining} {D' : L'.Draining} {w : World L} {v : World L'}

/-- Nobody but the event loop notices what is reported outside of calls. -/
theorem quiet_notify (w : World L) (ns : List Notification) :
    (Erasure.quiet L).world (w.notify ns).2 = (Erasure.quiet L).world w := by
  unfold notify
  split
  · exact Erasure.quiet_queue w _ (Veil.quiet_deliverAll w.chronicle w.queue ns)
  · rfl

theorem spares_notify (w : World L) (ns : List Notification) : w.Spares (w.notify ns).2 := by
  unfold notify
  split <;> exact .of_session rfl rfl

theorem quiet_chatter (h : w.Tended D) {o : Occurrence} (ho : o.isChatter = true) :
    (Erasure.quiet L).world (w.occur o) = (Erasure.quiet L).world w := by
  cases o with
  | move m =>
    cases m with
    | eventLoop =>
      rcases w.occur_move_cases .eventLoop with hstay | ⟨w', hw, hmove⟩
      · rw [hstay]
      · rw [hmove]
        exact (h.step hw).2.1
    | _ => cases ho
  | notify ns => exact quiet_notify w ns
  | detach => rfl
  | _ => cases ho

/-- The event loop stays on its course, whatever happens. -/
theorem Tended.occur (h : w.Tended D) (hord : w.frame.Orderly) (o : Occurrence) :
    (w.occur o).Tended D := by
  cases o with
  | move m =>
    rcases w.occur_move_cases m with hstay | ⟨w', hw, hmove⟩
    · rwa [hstay]
    · rw [hmove]
      by_cases hloop : m = .eventLoop
      · subst hloop
        exact (h.step hw).1
      · rcases attempt_spares hord hloop hw with hspared | hentered
        · exact h.spared hspared
        · exact .entered hentered
  | pass time =>
    rcases w.occur_pass_cases time with hstay | ⟨-, hpass⟩
    · rwa [hstay]
    · rw [hpass]
      exact h.spared (.of_session rfl rfl)
  | notify ns => exact h.spared (spares_notify w ns)
  | signal s => exact h.spared (.of_session rfl rfl)
  | closeSignals => exact h.spared (.of_session rfl rfl)
  | detach => exact h.spared (.of_session rfl rfl)
  | files t => exact h.spared (.of_session rfl rfl)

/-- A world as it comes about in a run, with its event loop on its course. -/
structure OnCourse (w : World L) (D : L.Draining) : Prop where
  orderly : w.frame.Orderly
  tended : w.Tended D
  quits : w.scene.QuitsRemoved

theorem OnCourse.occur (h : w.OnCourse D) (o : Occurrence) : (w.occur o).OnCourse D where
  orderly := (orderly_occur h.orderly o).2.1
  tended := h.tended.occur h.orderly o
  quits := h.quits.step (scene_occur h.orderly o)

/-- What happens in two worlds that are alike leaves them alike. -/
theorem quiet_occur (hw : (Erasure.quiet L).world w = (Erasure.quiet L').world v)
    {o : Occurrence} (ho : o.isChatter = false) (hwo : w.CanHappen o) (hvo : v.CanHappen o) :
    (Erasure.quiet L).world (w.occur o) = (Erasure.quiet L').world (v.occur o) := by
  cases o with
  | move m =>
    obtain ⟨w', hw'⟩ := Option.isSome_iff_exists.1 hwo
    obtain ⟨v', hv'⟩ := Option.isSome_iff_exists.1 hvo
    rw [occur_move hw', occur_move hv']
    by_cases hsession : m = .session
    · subst hsession
      exact Erasure.quiet_session hw hw' hv'
    · have hloop : m ≠ .eventLoop := by
        rintro rfl
        cases ho
      have hattempt := Erasure.quiet_attempt hw hloop hsession
      rw [hw', hv'] at hattempt
      exact Option.some.inj hattempt
  | pass time =>
    rw [occur_pass hwo, occur_pass hvo]
    exact congrArg (fun u : World .still => u.atTime time) hw
  | signal s => exact congrArg (fun u : World .still => (u.signal [s]).2) hw
  | closeSignals => exact congrArg (fun u : World .still => u.closeSignals.2) hw
  | files t => exact congrArg (fun u : World .still => { u with files := t }) hw
  | notify | detach => cases ho

/-! ## What can happen -/

/-- Two worlds are alike but for their traffic, and their event loops are on their course. -/
structure Matches (D : L.Draining) (D' : L'.Draining) (w : World L) (v : World L') : Prop where
  quiet : (Erasure.quiet L).world w = (Erasure.quiet L').world v
  left : w.OnCourse D
  right : v.OnCourse D'

namespace Matches

variable {m : Move} {o : Occurrence}

theorem symm (h : Matches D D' w v) : Matches D' D v w :=
  ⟨h.quiet.symm, h.right, h.left⟩

variable (h : Matches D D' w v)
include h

/-- A session whose driver is removed goes on as soon as its event loop has caught up. -/
theorem session_isSome (hidle : v.eventLoop? = none) (hw : w.session?.isSome = true) :
    v.session?.isSome = true := by
  unfold session? at hw ⊢
  have hcoordinator : w.coordinator = v.coordinator := congrArg World.coordinator h.quiet
  rcases Erasure.Paired.session_cases h.quiet with ⟨hs, hs'⟩ | ⟨s, s', hs, hs', hss⟩
  · simp only [hs] at hw
    cases hw
  · simp only [hs] at hw
    simp only [hs']
    rcases Erasure.Paired.stage_cases (congrArg Session.stage hss) with ⟨t, hst, hst'⟩ |
      ⟨t, hst, hst'⟩ | ⟨p, p', hst, hst', -⟩ | ⟨x, l, l', hst, hst', -⟩
    · simp only [hst] at hw
      cases hw
    · simp only [hst] at hw
      cases hw
    · simp only [hst, hcoordinator] at hw
      simp only [hst']
      split at hw
      · rename_i hover
        rw [if_pos hover]
        rfl
      · cases hw
    · simp only [hst] at hw
      simp only [hst']
      cases x with
      | listening =>
        have hquit : ((Erasure.quiet L).session s).quit = ((Erasure.quiet L').session s').quit :=
          congrArg Session.quit hss
        have hanswer : s.quit.answer? = s'.quit.answer? := congrArg QuitRequest.answer? hquit
        simpa [hanswer] using hw
      | removed timer =>
        have hquitting : s'.isQuitting = true :=
          (h.right.quits s' hs').2 ⟨timer, l', hst'⟩
        obtain rfl := h.right.tended.returned hidle hs' hquitting hst'
        rfl
      | _ => cases hw

theorem attempt_isSome (hidle : v.eventLoop? = none) (hm : m ≠ .eventLoop)
    (hw : (w.attempt m).isSome = true) : (v.attempt m).isSome = true := by
  by_cases hsession : m = .session
  · subst hsession
    exact h.session_isSome hidle hw
  · have hattempt := congrArg Option.isSome (Erasure.quiet_attempt h.quiet hm hsession)
    rw [Option.isSome_map, Option.isSome_map] at hattempt
    exact hattempt ▸ hw

/-- The same moments are ahead of both. -/
theorem dues_eq : w.dues = v.dues := by
  have hcoordinator : w.coordinator = v.coordinator := congrArg World.coordinator h.quiet
  have hcycle : w.cycle = v.cycle := congrArg World.cycle h.quiet
  have hchildren : w.children = v.children := congrArg World.children h.quiet
  have hcalls : w.calls = v.calls := congrArg World.calls h.quiet
  have hsession : w.sessionDue? = v.sessionDue? := by
    unfold sessionDue?
    rcases Erasure.Paired.session_cases h.quiet with ⟨hs, hs'⟩ | ⟨s, s', hs, hs', hss⟩
    · rw [hs, hs']
    · rw [hs, hs', Option.bind_some, Option.bind_some]
      rcases Erasure.Paired.stage_cases (congrArg Session.stage hss) with ⟨t, hst, hst'⟩ |
        ⟨t, hst, hst'⟩ | ⟨p, p', hst, hst', hp⟩ | ⟨x, l, l', hst, hst', -⟩
      · rw [hst, hst']
      · rw [hst, hst']
      · rw [hst, hst']
        exact congrArg (fun p : PresenceWait => some p.due) hp
      · -- Neither event loop sleeps.
        rw [hst, hst']
        rcases h.left.tended s hs x l hst with rfl | ⟨rfl, -⟩ <;>
          rcases h.right.tended s' hs' x l' hst' with rfl | ⟨rfl, -⟩ <;> rfl
  have hwaits : w.cycleDue? = v.cycleDue? := by
    unfold cycleDue?
    rw [hcycle]
  unfold dues
  rw [hcoordinator, hwaits, hsession, hchildren, hcalls]

theorem now_eq : w.now = v.now :=
  congrArg World.now h.quiet

/-- If the one world is at rest, so is the other once its event loop has caught up. -/
theorem next?_eq_none (hidle : v.eventLoop? = none) (hnext : w.next? = none) : v.next? = none := by
  refine World.next?_eq_none fun m => ?_
  by_cases hm : m = .eventLoop
  · subst hm
    exact hidle
  · -- Whatever the second world could do, the first could do.
    cases hv : v.attempt m with
    | none => rfl
    | some v' =>
      have hwidle : w.eventLoop? = none := attempt_eq_none hnext .eventLoop
      have hsome := h.symm.attempt_isSome hwidle hm (by rw [hv]; rfl)
      rw [attempt_eq_none hnext m] at hsome
      cases hsome

theorem mayPass (hidle : v.eventLoop? = none) {time : Nat} (hw : w.mayPass time = true) :
    v.mayPass time = true := by
  refine mayPass_of_dues (h.next?_eq_none hidle (next?_of_mayPass hw))
    (h.now_eq ▸ (rests_of_mayPass hw).le) fun due hdue hlt => ?_
  rw [← h.dues_eq] at hdue
  exact le_due_of_mayPass hw hdue (h.now_eq ▸ hlt)

theorem canHappen (hidle : v.eventLoop? = none) (ho : o.isReading = false)
    (hw : w.CanHappen o) : v.CanHappen o := by
  cases o with
  | move m =>
    have hm : m ≠ .eventLoop := by
      rintro rfl
      cases ho
    exact h.attempt_isSome hidle hm hw
  | pass time => exact h.mayPass hidle hw
  | _ => trivial

/-! ## Turns -/

/-- What comes before the event loop in the order of the schedule, or from outside, can happen
whether or not the event loop has caught up. -/
theorem early (ho : o.isEarly = true) (hw : w.CanHappen o) :
    v.CanHappen o ∧ (w.InTurn o → v.InTurn o) := by
  cases o with
  | move m =>
    have hm : m ∈ Move.eventLoop.earlier := by simpa [Occurrence.isEarly] using ho
    have hsome {m : Move} (hm : m ∈ Move.eventLoop.earlier) := Erasure.quiet_early h.quiet hm
    refine ⟨show (v.attempt m).isSome = true from hsome hm ▸ hw, fun hturn => ?_⟩
    obtain ⟨hsomeW, hnone⟩ := inTurn_iff.1 hturn
    refine inTurn_iff.2 ⟨hsome hm ▸ hsomeW, fun m' hm' => ?_⟩
    have hsome' := hsome (earlier_of_early m hm m' hm')
    rw [hnone m' hm'] at hsome'
    simpa using hsome'.symm
  | pass => cases ho
  | _ => exact ⟨trivial, fun _ => trivial⟩

/-- Once the event loop has caught up, whatever can happen in one world can happen in the other,
and it is its turn if it was in the one. -/
theorem late (hidle : v.eventLoop? = none) (ho : o.isReading = false) (hlate : o.isEarly = false)
    (hturn : w.InTurn o) : v.InTurn o := by
  cases o with
  | move m =>
    have hm : m ≠ .eventLoop := by
      rintro rfl
      cases ho
    have hlate' : m ∉ Move.eventLoop.earlier := by simpa [Occurrence.isEarly] using hlate
    obtain ⟨hsome, hnone⟩ := inTurn_iff.1 hturn
    have hwidle : w.eventLoop? = none :=
      hnone .eventLoop (eventLoop_mem_earlier m (mem_order m) hlate' hm)
    refine inTurn_iff.2 ⟨h.attempt_isSome hidle hm hsome, fun m' hm' => ?_⟩
    by_cases hloop : m' = .eventLoop
    · subst hloop
      exact hidle
    · cases hv : v.attempt m' with
      | none => rfl
      | some v' =>
        have hsome' := h.symm.attempt_isSome hwidle hloop (by rw [hv]; rfl)
        rw [hnone m' hm'] at hsome'
        cases hsome'
  | _ => trivial

/-- If it is the turn of something that has to wait for the event loop, nothing is left to do that
comes before the event loop. -/
theorem early_idle (hcan : w.CanHappen o) (ho : o.isReading = false) (hlate : o.isEarly = false)
    (hturn : w.InTurn o) : ∀ m ∈ Move.eventLoop.earlier, v.attempt m = none := by
  intro m hm
  have hidle : w.attempt m = none := by
    cases o with
    | move m' =>
      have hm' : m' ≠ .eventLoop := by
        rintro rfl
        cases ho
      have hlate' : m' ∉ Move.eventLoop.earlier := by simpa [Occurrence.isEarly] using hlate
      exact (inTurn_iff.1 hturn).2 m
        (earlier_of_late m' (mem_order m') hlate' hm' m hm)
    | pass time =>
      exact attempt_eq_none (next?_of_mayPass hcan) m
    | _ => cases hlate
  have hsome := Erasure.quiet_early h.quiet hm
  rw [hidle] at hsome
  simpa using hsome.symm

end Matches

/-! ## Going on alongside -/

/-- Two worlds that match, with what is still to happen in each of them: both are given the same
at the same times, and come to rest at the same time. -/
structure Alongside (D : L.Draining) (D' : L'.Draining) (w : World L) (v : World L')
    (os qs : List Occurrence) : Prop where
  alike : Matches D D' w v
  left : w.GoesDuly (·.isInput) os
  right : v.GoesDuly (·.isInput) qs
  inputs : w.inputs (·.isInput) os = v.inputs (·.isInput) qs
  now : (w.follow os).now = (v.follow qs).now

theorem InTurn.unique {m m' : Move} (h : w.InTurn (.move m)) (h' : w.InTurn (.move m')) : m = m' :=
  Option.some.inj (h.symm.trans h')

theorem occur_pass_now (w : World L) : w.occur (.pass w.now) = w := by
  rcases w.occur_pass_cases w.now with hstay | ⟨-, hpass⟩
  · exact hstay
  · exact hpass

/-- Nobody has anything to do while time passes, or something comes from outside. -/
theorem GoesDuly.next?_eq_none {o : Occurrence} {os : List Occurrence}
    (h : w.GoesDuly (·.isInput) (o :: os)) (ho : (∃ t, o = .pass t) ∨ o.isInput = true) :
    w.next? = none := by
  rcases ho with ⟨t, rfl⟩ | ho
  · exact next?_of_mayPass h.plays.1
  · exact h.duly.1.rest ho

namespace Alongside

variable {m m' : Move} {o q : Occurrence} {os qs : List Occurrence} {t t' : Nat}

theorem symm (h : Alongside D D' w v os qs) : Alongside D' D v w qs os :=
  ⟨h.alike.symm, h.right, h.left, h.inputs.symm, h.now.symm⟩

/-- What has to do with notifications alone makes no difference. -/
theorem skip (h : Alongside D D' w v (o :: os) qs) (ho : o.isChatter = true) :
    Alongside D D' (w.occur o) v os qs where
  alike :=
    ⟨(quiet_chatter h.alike.left.tended ho).trans h.alike.quiet, h.alike.left.occur o,
      h.alike.right⟩
  left := h.left.tail
  right := h.right
  inputs := (inputs_of_neg (Occurrence.isInput_of_isChatter ho)).symm.trans h.inputs
  now := h.now

/-- Nothing happens when no time passes. -/
theorem idle (h : Alongside D D' w v (.pass t :: os) qs) (ht : t = w.now) :
    Alongside D D' w v os qs := by
  subst ht
  have hsame := w.occur_pass_now
  exact
    { alike := h.alike
      left := hsame ▸ h.left.tail
      right := h.right
      inputs := by
        rw [← h.inputs, inputs_of_neg rfl, hsame]
      now := by
        have hnow : ((w.occur (.pass w.now)).follow os).now = (v.follow qs).now := h.now
        rwa [hsame] at hnow }

/-- Both go on alike. -/
theorem both (h : Alongside D D' w v (o :: os) (o :: qs)) (ho : o.isChatter = false) :
    Alongside D D' (w.occur o) (v.occur o) os qs where
  alike := ⟨quiet_occur h.alike.quiet ho h.left.plays.1 h.right.plays.1, h.alike.left.occur o,
    h.alike.right.occur o⟩
  left := h.left.tail
  right := h.right.tail
  inputs := by
    have hinputs := h.inputs
    cases hinput : o.isInput with
    | false => rwa [inputs_of_neg hinput, inputs_of_neg hinput] at hinputs
    | true =>
      rw [inputs_of_pos hinput, inputs_of_pos hinput] at hinputs
      exact (List.cons_eq_cons.1 hinputs).2
  now := h.now

/-- Time passes in both, though it passes for longer in the one. -/
theorem split (h : Alongside D D' w v (.pass t :: os) (.pass t' :: qs)) (ht : t < t') :
    Alongside D D' w v (.pass t :: os) (.pass t :: .pass t' :: qs) ∧
      v.follow (.pass t :: .pass t' :: qs) = v.follow (.pass t' :: qs) := by
  have hle : v.now ≤ t := h.alike.now_eq ▸ (rests_of_mayPass h.left.plays.1).le
  obtain ⟨hmay, hmay'⟩ := mayPass_atTime h.right.plays.1 hle ht
  have hpass : v.occur (.pass t) = v.atTime t := occur_pass hmay
  have hsame : (v.occur (.pass t)).occur (.pass t') = v.occur (.pass t') := by
    rw [hpass, occur_pass hmay', occur_pass h.right.plays.1]
    rfl
  have hfollow : v.follow (.pass t :: .pass t' :: qs) = v.follow (.pass t' :: qs) :=
    congrArg (fun v : World L' => v.follow qs) hsame
  refine ⟨⟨h.alike, h.left, ⟨?_, ?_, hfollow ▸ h.right.rest⟩, ?_, hfollow ▸ h.now⟩, hfollow⟩
  · exact ⟨hmay, hpass ▸ hmay', hsame ▸ h.right.plays.2⟩
  · exact ⟨⟨trivial, nofun⟩, ⟨trivial, nofun⟩, hsame ▸ h.right.duly.2⟩
  · rw [h.inputs, inputs_of_neg rfl, inputs_of_neg (o := .pass t) rfl, inputs_of_neg rfl, hsame]

/-- Nobody makes a move while the other is at rest. -/
theorem not_move (h : Alongside D D' w v (.move m :: os) qs) (hm : m ≠ .eventLoop)
    (hrest : v.next? = none) : False := by
  have hsome := h.alike.attempt_isSome (attempt_eq_none hrest .eventLoop) hm h.left.plays.1
  rw [attempt_eq_none hrest m] at hsome
  cases hsome

/-- Both make the same move. -/
theorem move_eq (h : Alongside D D' w v (.move m :: os) (.move m' :: qs)) (hm : m ≠ .eventLoop)
    (hm' : m' ≠ .eventLoop) : m = m' := by
  have hturn : w.InTurn (.move m) := h.left.duly.1.turn
  have hturn' : v.InTurn (.move m') := h.right.duly.1.turn
  by_cases hearly : m ∈ Move.eventLoop.earlier
  · exact ((h.alike.early (by simpa [Occurrence.isEarly] using hearly) h.left.plays.1).2
      hturn).unique hturn'
  by_cases hearly' : m' ∈ Move.eventLoop.earlier
  · exact hturn.unique ((h.symm.alike.early (by simpa [Occurrence.isEarly] using hearly')
      h.right.plays.1).2 hturn')
  · -- Both event loops have caught up, as they come before.
    have hidle : v.eventLoop? = none :=
      (inTurn_iff.1 hturn').2 .eventLoop (eventLoop_mem_earlier m' (mem_order m') hearly' hm')
    refine (h.alike.late hidle ?_ ?_ hturn).unique hturn'
    · cases m <;> first | rfl | exact absurd rfl hm
    · simpa [Occurrence.isEarly] using hearly

/-- No time passes before something comes from outside. -/
theorem pass_eq_of_isInput (h : Alongside D D' w v (.pass t :: os) (q :: qs))
    (hq : q.isInput = true) : t = w.now := by
  have hcan := h.left.plays.1
  have hmem : (v.now, q) ∈ (w.atTime t).inputs (·.isInput) os := by
    rw [← occur_pass hcan, ← inputs_of_neg (o := .pass t) rfl, h.inputs, inputs_of_pos hq]
    exact List.mem_cons_self
  have hle : (w.atTime t).now ≤ v.now :=
    le_of_mem_inputs (occur_pass hcan ▸ (h.alike.left.occur (.pass t)).orderly) hmem
  exact Nat.le_antisymm (h.alike.now_eq ▸ hle) (rests_of_mayPass hcan).le

/-- The same comes from outside. -/
theorem input_eq (h : Alongside D D' w v (o :: os) (q :: qs)) (ho : o.isInput = true)
    (hq : q.isInput = true) : o = q := by
  have hinputs := h.inputs
  rw [inputs_of_pos ho, inputs_of_pos hq] at hinputs
  exact (Prod.mk.inj (List.cons_eq_cons.1 hinputs).1).2

/-- In the end the one goes on only with notifications. -/
theorem alone (h : Alongside D D' w v (o :: os) []) : Alongside D D' (w.occur o) v os [] := by
  cases ho : o.isChatter with
  | true => exact h.skip ho
  | false =>
    rcases Occurrence.cases_of_isChatter ho with ⟨m, hm, rfl⟩ | ⟨t, rfl⟩ | hinput
    · exact (h.not_move hm h.right.rest).elim
    · have hle : (w.occur (.pass t)).now ≤ ((w.occur (.pass t)).follow os).now :=
        le_now_follow (h.alike.left.occur _).orderly os
      have hend : ((w.occur (.pass t)).follow os).now = w.now := h.now.trans h.alike.now_eq.symm
      have hpass := occur_pass h.left.plays.1
      have ht : t = w.now :=
        Nat.le_antisymm (hpass ▸ hend ▸ hle :) (rests_of_mayPass h.left.plays.1).le
      subst ht
      rw [w.occur_pass_now]
      exact h.idle rfl
    · have hinputs := h.inputs
      rw [inputs_of_pos hinput] at hinputs
      cases hinputs

/-- One of two worlds goes on to where it is going, or both do. -/
inductive Advances (D : L.Draining) (D' : L'.Draining) (w : World L) (v : World L')
    (os qs : List Occurrence) : Prop where
  | intro {w' : World L} {v' : World L'} {os' qs' : List Occurrence}
      (alongside : Alongside D D' w' v' os' qs') (left : w'.follow os' = w.follow os)
      (right : v'.follow qs' = v.follow qs)
      (less : os'.length + qs'.length < os.length + qs.length)

theorem Advances.symm (h : Advances D D' w v os qs) : Advances D' D v w qs os := by
  obtain ⟨halong, hleft, hright, hless⟩ := h
  exact ⟨halong.symm, hright, hleft, by omega⟩

theorem advances_skip (h : Alongside D D' w v (o :: os) qs) (ho : o.isChatter = true) :
    Advances D D' w v (o :: os) qs :=
  ⟨h.skip ho, rfl, rfl, Nat.add_lt_add_right (Nat.lt_succ_self _) _⟩

theorem advances_both (h : Alongside D D' w v (o :: os) (o :: qs)) (ho : o.isChatter = false) :
    Advances D D' w v (o :: os) (o :: qs) :=
  ⟨h.both ho, rfl, rfl, Nat.add_lt_add (Nat.lt_succ_self _) (Nat.lt_succ_self _)⟩

theorem advances_idle (h : Alongside D D' w v (.pass t :: os) qs) (ht : t = w.now) :
    Advances D D' w v (.pass t :: os) qs := by
  refine ⟨h.idle ht, ?_, rfl, Nat.add_lt_add_right (Nat.lt_succ_self _) _⟩
  subst ht
  exact congrArg (fun u : World L => u.follow os) w.occur_pass_now.symm

theorem advances_split (h : Alongside D D' w v (.pass t :: os) (.pass t' :: qs)) (ht : t < t') :
    Advances D D' w v (.pass t :: os) (.pass t' :: qs) := by
  obtain ⟨hsplit, hfollow⟩ := h.split ht
  exact ⟨hsplit.both rfl, rfl, hfollow, Nat.add_lt_add_right (Nat.lt_succ_self _) _⟩

/-- As long as something is to happen in both, one of them goes on, or both do. -/
theorem advances (h : Alongside D D' w v (o :: os) (q :: qs)) :
    Advances D D' w v (o :: os) (q :: qs) := by
  cases ho : o.isChatter with
  | true => exact h.advances_skip ho
  | false =>
    cases hq : q.isChatter with
    | true => exact (h.symm.advances_skip hq).symm
    | false =>
      rcases Occurrence.cases_of_isChatter ho with ⟨m, hm, rfl⟩ | hwaits
      · rcases Occurrence.cases_of_isChatter hq with ⟨m', hm', rfl⟩ | hwaits'
        · obtain rfl := h.move_eq hm hm'
          exact h.advances_both ho
        · exact (h.not_move hm (h.right.next?_eq_none hwaits')).elim
      · rcases Occurrence.cases_of_isChatter hq with ⟨m', hm', rfl⟩ | hwaits'
        · exact (h.symm.not_move hm' (h.left.next?_eq_none hwaits)).elim
        · rcases hwaits with ⟨t, rfl⟩ | hinput
          · rcases hwaits' with ⟨t', rfl⟩ | hinput'
            · rcases Nat.lt_trichotomy t t' with hlt | rfl | hlt
              · exact h.advances_split hlt
              · exact h.advances_both ho
              · exact (h.symm.advances_split hlt).symm
            · exact h.advances_idle (h.pass_eq_of_isInput hinput')
          · rcases hwaits' with ⟨t', rfl⟩ | hinput'
            · exact (h.symm.advances_idle (h.symm.pass_eq_of_isInput hinput)).symm
            · obtain rfl := h.input_eq hinput hinput'
              exact h.advances_both ho

/-- Two worlds that are given the same are alike in the end. -/
theorem quiet_follow {w : World L} {v : World L'} {os qs : List Occurrence}
    (h : Alongside D D' w v os qs) :
    (Erasure.quiet L).world (w.follow os) = (Erasure.quiet L').world (v.follow qs) := by
  match os, qs, h with
  | [], [], h => exact h.alike.quiet
  | o :: os, [], h => exact h.alone.quiet_follow
  | [], q :: qs, h => exact h.symm.alone.symm.quiet_follow
  | o :: os, q :: qs, h =>
    obtain ⟨halong, hos, hqs, hless⟩ := h.advances
    rw [← hos, ← hqs]
    exact halong.quiet_follow
termination_by os.length + qs.length

end Alongside

end World

end Hotplug
