import Hotplug.Proofs.Rest
import Hotplug.Proofs.Sightless

/-!
# What is foretold of a world that has to stop

A world that has to stop goes on as what is left of it without its device does: that says what can
happen, and when, and what comes of it.

* `World.timeline`, `World.course` — what happens in a list of occurrences, and when.
* `World.Foretells`, `World.replay` — how what is left of a world goes on by itself.
* `World.HasToStop.foretells` — so does the world.
-/

namespace Hotplug

namespace World

variable {L : EventLoop} {w u : World L}

/-! ## Timelines -/

/-- What comes of a list of occurrences, and when. -/
def timeline (w : World L) : List Occurrence → List (Nat × Occurrence)
  | [] => []
  | o :: os => ((w.gist o).map (w.now, ·)).toList ++ (w.occur o).timeline os

/-- The same without the changes of the files. -/
def course (w : World L) (os : List Occurrence) : List (Nat × Occurrence) :=
  (w.timeline os).filter (!·.2.isChange)

theorem timeline_append (w : World L) (os ps : List Occurrence) :
    w.timeline (os ++ ps) = w.timeline os ++ (w.follow os).timeline ps := by
  induction os generalizing w with
  | nil => rfl
  | cons o os ih =>
    rw [List.cons_append, timeline, timeline, ih, List.append_assoc]
    rfl

theorem course_cons (w : World L) (o : Occurrence) (os : List Occurrence) :
    w.course (o :: os) =
      ((w.gist o).map (w.now, ·)).toList.filter (!·.2.isChange) ++ (w.occur o).course os :=
  List.filter_append ..

/-- What comes from outside comes to itself. -/
theorem filter_course (w : World L) (os : List Occurrence) :
    (w.course os).filter (·.2.isGiven) = w.inputs (·.isGiven) os := by
  induction os generalizing w with
  | nil => rfl
  | cons o os ih =>
    rw [course_cons, List.filter_append, ih]
    cases o with
    | move m =>
      rw [inputs_of_neg rfl]
      cases hgist : w.gist (.move m) with
      | none => rfl
      | some d => rcases gist_cases hgist with ⟨rfl, -⟩ | ⟨-, rfl, -⟩ <;> rfl
    | _ => rfl

/-- Everything in a timeline comes in the order of its time, and between two times. -/
def Between : Nat → Nat → List (Nat × Occurrence) → Prop
  | since, time, [] => since ≤ time
  | since, time, (t, _) :: es => since ≤ t ∧ Between t time es

theorem Between.since {t t' time : Nat} {es : List (Nat × Occurrence)} (h : Between t time es)
    (hle : t' ≤ t) : Between t' time es := by
  cases es with
  | nil => exact Nat.le_trans hle h
  | cons e es => exact ⟨Nat.le_trans hle h.1, h.2⟩

theorem Between.filter {t time : Nat} {es : List (Nat × Occurrence)} (h : Between t time es)
    (p : Nat × Occurrence → Bool) : Between t time (es.filter p) := by
  induction es generalizing t with
  | nil => exact h
  | cons e es ih =>
    rw [List.filter_cons]
    split
    · exact ⟨h.1, ih h.2⟩
    · exact (ih h.2).since h.1

/-! ## Rest -/

/-- While time passes a world that has to stop rests, and so does what is left of it. -/
theorem HasToStop.restsUntil_of_mayPass (h : w.HasToStop) {time : Nat}
    (hw : w.mayPass time = true) : ((Erasure.blind L).world w).RestsUntil time where
  le := (rests_of_mayPass hw).le
  idle t _ ht := next?_eq_none fun m =>
    (h.atTime t).attempt_blind (attempt_atTime hw ht .session) (attempt_atTime hw ht .forwardStop)
      (attempt_atTime hw ht m)

/-! ## Foretelling -/

/-- What is left of a world goes on by itself as a timeline says, until a time: before everything in
the timeline nobody has anything to do, and then that can happen, as it should. -/
def Foretells (P : World L → Occurrence → Prop) : World L → List (Nat × Occurrence) → Nat → Prop
  | u, [], time => u.RestsUntil time
  | u, (t, o) :: es, time =>
    u.RestsUntil t ∧ o.isDeed = true ∧ (u.atTime t).CanHappen o ∧ P (u.atTime t) o ∧
      Foretells P ((Erasure.blind L).world ((u.atTime t).occur o)) es time

/-- What becomes of what is left of a world, as a timeline says. -/
def replay : World L → List (Nat × Occurrence) → Nat → World L
  | u, [], time => u.atTime time
  | u, (t, o) :: es, time => replay ((Erasure.blind L).world ((u.atTime t).occur o)) es time

section Foretells

variable {P : World L → Occurrence → Prop} {es : List (Nat × Occurrence)} {t time : Nat}

theorem Foretells.of_atTime (h : u.RestsUntil t) (hf : (u.atTime t).Foretells P es time) :
    u.Foretells P es time := by
  cases es with
  | nil => exact h.trans hf
  | cons e es => exact ⟨h.trans hf.1, hf.2⟩

/-- Up to the first thing foretold, nobody has anything to do. -/
theorem Foretells.rests (hf : u.Foretells P es time) (hle : u.now ≤ t)
    (hes : Between t time es) : u.RestsUntil t ∧ (u.atTime t).Foretells P es time := by
  cases es with
  | nil => exact ⟨hf.before hle hes, hf.after hle hes⟩
  | cons e es => exact ⟨hf.1.before hle hes.1, hf.1.after hle hes.1, hf.2⟩

theorem replay_atTime (u : World L) (t : Nat) : (u.atTime t).replay es time = u.replay es time := by
  cases es <;> rfl

end Foretells

/-- What comes to nothing leaves time to rest. -/
theorem HasToStop.restsUntil_of_gist_none (h : w.HasToStop) {o : Occurrence}
    (ho : w.gist o = none) (hcan : w.CanHappen o) :
    ((Erasure.blind L).world w).RestsUntil (w.occur o).now := by
  cases o with
  | pass time =>
    rw [occur_pass hcan]
    exact h.restsUntil_of_mayPass hcan
  | move m =>
    rw [now_occur h.orderly (by rintro t ⟨⟩)]
    exact .now ((Erasure.blind L).world w)
  | _ => cases ho

/-- Whatever happens in a world that has to stop is foretold by what is left of it. -/
theorem HasToStop.foretells {P Q : World L → Occurrence → Prop}
    (hQ : ∀ w : World L, w.HasToStop → ∀ o d, w.gist o = some d → d.isDeed = true →
      w.CanHappen o → Q w o → P ((Erasure.blind L).world w) d)
    {w : World L} (h : w.HasToStop) {os : List Occurrence} (hplays : w.Plays os)
    (hgoes : w.Goes Q os) :
    ((Erasure.blind L).world w).Foretells P (w.course os) (w.follow os).now ∧
      (Erasure.blind L).world (w.follow os) =
        ((Erasure.blind L).world w).replay (w.course os) (w.follow os).now := by
  induction os generalizing w with
  | nil => exact ⟨.now ((Erasure.blind L).world w), rfl⟩
  | cons o os ih =>
    obtain ⟨hcan, hplays⟩ := hplays
    obtain ⟨hforetold, hreplayed⟩ := ih (h.occur o) hplays hgoes.2
    cases hgist : w.gist o with
    | none =>
      -- Only time has passed, if anything.
      have hcourse : w.course (o :: os) = (w.occur o).course os := by
        simp [course, timeline, hgist]
      rw [blind_of_gist_none hgist] at hforetold hreplayed
      rw [hcourse]
      refine ⟨.of_atTime (h.restsUntil_of_gist_none hgist hcan) hforetold, hreplayed.trans ?_⟩
      exact replay_atTime _ _
    | some d =>
      obtain ⟨hcan', -, hblind⟩ := h.gist_spec hgist hcan
      by_cases hchange : d.isChange = true
      · have hcourse : w.course (o :: os) = (w.occur o).course os := by
          simp [course, timeline, hgist, hchange]
        rw [hblind, blind_of_isChange w hchange] at hforetold hreplayed
        rw [hcourse]
        exact ⟨hforetold, hreplayed⟩
      · have hdeed : d.isDeed = true := isDeed_of_gist hgist hchange
        have hcourse : w.course (o :: os) = (w.now, d) :: (w.occur o).course os := by
          simp [course, timeline, hgist, hchange]
        have hsame := (blind_blind w).symm
        have hcanBlind : ((Erasure.blind L).world w).CanHappen d :=
          canHappen_of_blind hsame h.raised hdeed (fun _ => isAsked_blind w) hcan'
        have hnext : (Erasure.blind L).world (w.occur o) =
            (Erasure.blind L).world (((Erasure.blind L).world w).occur d) :=
          hblind.trans (blind_occur hsame h.raised hdeed hcan' hcanBlind)
        rw [hnext] at hforetold hreplayed
        rw [hcourse]
        exact ⟨⟨.now ((Erasure.blind L).world w), hdeed, hcanBlind,
          hQ w h o d hgist hdeed hcan hgoes.1, hforetold⟩, hreplayed⟩

/-! ## What happens duly -/

theorem HasToStop.duly_blind (h : w.HasToStop) {o d : Occurrence} (hd : w.gist o = some d)
    (hdeed : d.isDeed = true) (hcan : w.CanHappen o) (hduly : w.Duly (·.isGiven) o) :
    ((Erasure.blind L).world w).Duly (·.isGiven) d where
  turn := h.inTurn_blind hdeed ((h.gist_spec hd hcan).2.1 hduly.turn)
  rest hgiven := by
    rcases gist_cases hd with ⟨rfl, -⟩ | ⟨-, rfl, -⟩
    · have hnone := hduly.rest hgiven
      exact next?_eq_none fun m => h.attempt_blind (attempt_eq_none hnone .session)
        (attempt_eq_none hnone .forwardStop) (attempt_eq_none hnone m)
    · cases hgiven

/-- The course of events comes in the order of its time. -/
theorem HasToStop.between {w : World L} (h : w.HasToStop) (os : List Occurrence) :
    Between w.now (w.follow os).now (w.course os) := by
  induction os generalizing w with
  | nil => exact Nat.le_refl _
  | cons o os ih =>
    have hlater := ih (h.occur o)
    rw [course_cons]
    cases hgist : w.gist o with
    | none => exact hlater.since (le_now_occur h.orderly o)
    | some d =>
      have hmoment : (w.occur o).now = w.now := by
        refine now_occur h.orderly fun t ht => ?_
        subst ht
        cases hgist
      rw [hmoment] at hlater
      change Between w.now ((w.occur o).follow os).now _
      cases hchange : d.isChange with
      | true => simpa [hchange] using hlater
      | false => simpa [hchange] using ⟨Nat.le_refl _, hlater⟩

theorem Between.mem {since time : Nat} {es : List (Nat × Occurrence)} (h : Between since time es) :
    since ≤ time ∧ ∀ e ∈ es, since ≤ e.1 ∧ e.1 ≤ time := by
  induction es generalizing since with
  | nil => exact ⟨h, List.forall_mem_nil _⟩
  | cons e es ih =>
    obtain ⟨hle, hes⟩ := ih h.2
    refine ⟨Nat.le_trans h.1 hle, List.forall_mem_cons.2 ⟨⟨h.1, hle⟩, fun e' he' => ?_⟩⟩
    exact ⟨Nat.le_trans h.1 (hes e' he').1, (hes e' he').2⟩

section Unique

variable {es es' : List (Nat × Occurrence)} {t t' since time : Nat} {m : Move} {o : Occurrence}

theorem given_cons (ho : o.isGiven = true) :
    ((t, o) :: es).filter (·.2.isGiven) = (t, o) :: es.filter (·.2.isGiven) :=
  List.filter_cons_of_pos ho

/-- Nobody rests any more when a move is to be made. -/
theorem RestsUntil.le_of_canHappen (h : u.RestsUntil t') (hle : u.now ≤ t)
    (hcan : (u.atTime t).CanHappen (.move m)) : t' ≤ t :=
  Nat.le_of_not_lt fun hlt => not_rests_of_canHappen hcan (h.idle t hle hlt)

/-- A course that ends at rest does not go on with a move. -/
theorem Foretells.not_move (hend : (u.atTime time).next? = none) (h : u.RestsUntil time)
    (h' : u.Foretells (Duly (·.isGiven)) ((t, .move m) :: es) time)
    (hes : Between since time ((t, .move m) :: es)) : False := by
  have hle := h.le_of_canHappen h'.1.le h'.2.2.1
  obtain rfl : t = time := Nat.le_antisymm hes.2.mem.1 hle
  exact not_rests_of_canHappen h'.2.2.1 hend

/-- What comes from outside does not come in the place of a move. -/
theorem Foretells.not_given (h : u.Foretells (Duly (·.isGiven)) ((t, .move m) :: es) time)
    (hes : Between since time ((t, .move m) :: es))
    (h' : u.Foretells (Duly (·.isGiven)) ((t', o) :: es') time) (ho : o.isGiven = true)
    (hgiven : ((t, .move m) :: es).filter (·.2.isGiven) =
      ((t', o) :: es').filter (·.2.isGiven)) : False := by
  have hle := h'.1.le_of_canHappen h.1.le h.2.2.1
  have hmem : (t', o) ∈ es := by
    have hmem' : (t', o) ∈ ((t, Occurrence.move m) :: es).filter (·.2.isGiven) := by
      rw [hgiven]
      simp [ho]
    rcases List.mem_cons.1 (List.mem_filter.1 hmem').1 with heq | hmem
    · obtain ⟨-, rfl⟩ := Prod.mk.inj heq
      cases ho
    · exact hmem
  obtain rfl : t' = t := Nat.le_antisymm hle (hes.2.mem.2 _ hmem).1
  exact not_rests_of_canHappen h.2.2.1 (h'.2.2.2.1.rest ho)

/-- There is one course alone in which the same comes from outside, everything happens duly, and
nothing is left to do in the end. -/
theorem Foretells.unique {u : World L} (h : u.Foretells (Duly (·.isGiven)) es time)
    (h' : u.Foretells (Duly (·.isGiven)) es' time) (hes : Between since time es)
    (hes' : Between since time es')
    (hgiven : es.filter (·.2.isGiven) = es'.filter (·.2.isGiven))
    (hend : (u.replay es time).next? = none) (hend' : (u.replay es' time).next? = none) :
    es = es' := by
  induction es generalizing u es' since with
  | nil =>
    cases es' with
    | nil => rfl
    | cons e es' =>
      obtain ⟨t, o⟩ := e
      rcases Occurrence.move_or_given h'.2.1 with ⟨m, rfl⟩ | hgive
      · exact (Foretells.not_move hend h h' hes').elim
      · rw [given_cons hgive] at hgiven
        cases hgiven
  | cons e es ih =>
    obtain ⟨t, o⟩ := e
    cases es' with
    | nil =>
      rcases Occurrence.move_or_given h.2.1 with ⟨m, rfl⟩ | hgive
      · exact (Foretells.not_move hend' h' h hes).elim
      · rw [given_cons hgive] at hgiven
        cases hgiven
    | cons e' es' =>
      obtain ⟨t', o'⟩ := e'
      suffices hsame : t = t' ∧ o = o' ∧ es.filter (·.2.isGiven) = es'.filter (·.2.isGiven) by
        obtain ⟨rfl, rfl, hrest⟩ := hsame
        rw [ih h.2.2.2.2 h'.2.2.2.2 hes.2 hes'.2 hrest hend hend']
      rcases Occurrence.move_or_given h.2.1 with ⟨m, rfl⟩ | hgive
      · rcases Occurrence.move_or_given h'.2.1 with ⟨m', rfl⟩ | hgive'
        · -- Whichever comes first comes in its turn.
          obtain rfl : t = t' := Nat.le_antisymm (h.1.le_of_canHappen h'.1.le h'.2.2.1)
            (h'.1.le_of_canHappen h.1.le h.2.2.1)
          have hturn := h.2.2.2.1.turn.symm.trans h'.2.2.2.1.turn
          exact ⟨rfl, congrArg Occurrence.move (Option.some.inj hturn), hgiven⟩
        · exact (Foretells.not_given h hes h' hgive' hgiven).elim
      · rcases Occurrence.move_or_given h'.2.1 with ⟨m', rfl⟩ | hgive'
        · exact (Foretells.not_given h' hes' h hgive hgiven.symm).elim
        · rw [given_cons hgive, given_cons hgive'] at hgiven
          obtain ⟨heq, hrest⟩ := List.cons_eq_cons.1 hgiven
          exact ⟨(Prod.mk.inj heq).1, (Prod.mk.inj heq).2, hrest⟩

end Unique

end World

end Hotplug
