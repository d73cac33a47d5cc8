import Hotplug.Proofs.Erasure.Blind
import Hotplug.Proofs.Scene.Company
import Hotplug.Proofs.Turns

/-!
# Worlds that have to stop

Once the stop flag is up no session begins any more, and nobody waits for the device to come or go
before going on.  What happens in such a world either comes to nothing, as far as anybody can tell
who does not look for the device, or it is a deed, and comes to the same in every world of which
the same is left without its device.

* `World.HasToStop` — the stop flag of a world is up.
* `Occurrence.isDeed` — what does not come to nothing.
* `World.blind_occur`, `World.canHappen_of_blind` — what a deed comes to, and whether it can happen.
* `World.inTurn_blind`, `World.inTurn_of_blind` — whether it is its turn.
* `World.gist` — what something that happens comes to.
-/

namespace Hotplug

/-! ## Deeds -/

/-- Whether a move neither looks for the device nor passes the stop flag on. -/
def Move.isDeed : Move → Bool
  | skip | forwardStop | watchRemoval => false
  | _ => true

/-- Whether something neither comes to nothing nor changes the files. -/
def Occurrence.isDeed : Occurrence → Bool
  | move m => m.isDeed
  | pass _ | files _ => false
  | _ => true

/-- Whether something comes from outside, apart from the files. -/
def Occurrence.isGiven : Occurrence → Bool
  | move _ | pass _ | files _ => false
  | _ => true

theorem Occurrence.move_or_given {o : Occurrence} (h : o.isDeed = true) :
    (∃ m, o = .move m) ∨ o.isGiven = true := by
  cases o with
  | move m => exact .inl ⟨m, rfl⟩
  | pass | files => cases h
  | _ => exact .inr rfl

/-- Whether the files change. -/
def Occurrence.isChange : Occurrence → Bool
  | files _ => true
  | _ => false

/-- Whatever comes before a deed is a deed as well, but for the ends of calls, which come last.  The
session comes before these alone. -/
theorem Move.isDeed_of_earlier :
    ∀ m ∈ World.order, m.isDeed = true → m ≠ .endCall →
      ∀ m' ∈ m.earlier, m'.isDeed = true ∧ m' ≠ .session := by
  decide

/-- The stop flag stays up. -/
theorem Conduct.Step.isRaised {g : Settings} {c c' : Conduct} (hs : Conduct.Step g c c')
    (h : c.coordinator.stop.isRaised = true) : c'.coordinator.stop.isRaised = true := by
  cases hs with
  | firstSignal => rfl
  | _ => exact h

namespace World

variable {L : EventLoop}

/-- The stop flag of a world is up. -/
structure HasToStop (w : World L) : Prop where
  orderly : w.frame.Orderly
  accompanied : w.scene.Accompanied
  raised : w.coordinator.stop.isRaised = true

namespace HasToStop

variable {w : World L} (h : w.HasToStop)
include h

theorem occur (o : Occurrence) : (w.occur o).HasToStop := by
  obtain ⟨-, hord, hstep⟩ := orderly_occur h.orderly o
  exact ⟨hord, h.accompanied.step h.orderly (scene_occur h.orderly o), hstep.isRaised h.raised⟩

theorem follow (os : List Occurrence) : (w.follow os).HasToStop := by
  induction os generalizing w with
  | nil => exact h
  | cons o os ih => exact ih (h.occur o)

theorem atTime (time : Nat) : (w.atTime time).HasToStop where
  orderly :=
    have hord := h.orderly
    ⟨hord.supervised, hord.notAttended, hord.grace, hord.session_iff, hord.session_id,
      hord.session_state, hord.waiting, hord.skipping, hord.calls⟩
  accompanied := h.accompanied.congr rfl rfl
  raised := h.raised

theorem isOver : w.coordinator.stop.isOver = true := by
  simp [StopFlag.isOver, h.raised]

end HasToStop

/-! ## What comes to nothing -/

section Unseen

variable (w : World L)

theorem blind_raiseQuit (child : Child) (r : QuitReason) :
    (Erasure.blind L).world (w.raiseQuit child r) = (Erasure.blind L).world w := by
  unfold raiseQuit
  dsimp only
  split
  · rfl
  · rename_i s hs
    split
    · exact Erasure.Lawful.keepSession (E := Erasure.blind L)
        { w with children := w.children.filter (· ≠ child) } hs rfl
    · rfl

/-- Nothing is left of what a look writes. -/
theorem blind_looked {c : Chronicle}
    (hc : Veil.blind.chronicle c = Veil.blind.chronicle w.chronicle) :
    (Erasure.blind L).world { w with chronicle := c } = (Erasure.blind L).world w :=
  congrArg (fun c => { (Erasure.blind L).world w with chronicle := c }) hc

theorem blind_forwardStop {w' : World L} (hw : w.forwardStop? = some w') :
    (Erasure.blind L).world w' = (Erasure.blind L).world w := by
  unfold forwardStop? at hw
  split at hw
  · obtain ⟨child, -, rfl⟩ := Option.map_eq_some_iff.1 hw
    exact blind_raiseQuit w child .shutdown
  · cases hw

theorem blind_watchRemoval {w' : World L} (hw : w.watchRemoval? = some w') :
    (Erasure.blind L).world w' = (Erasure.blind L).world w := by
  obtain ⟨⟨child, wait⟩, -, hlook⟩ := Option.map_eq_some_iff.1 hw
  have hseen := Veil.blind_look w.chronicle wait w.setup.pollInterval w.files w.setup.device
    child.session
  dsimp only at hlook
  split at hlook
  · rename_i next c heq
    rw [heq] at hseen
    exact hlook ▸ blind_looked w hseen
  · rename_i c heq
    rw [heq] at hseen
    have hlogged : Veil.blind.chronicle (c.log (.deviceRemoved w.setup.device) child.session) =
        Veil.blind.chronicle w.chronicle :=
      (Veil.record_of_hides rfl).trans hseen
    exact hlook ▸ (blind_raiseQuit _ child .deviceRemoved).trans (blind_looked w hlogged)

/-- A look ends a session that skips its driver, or comes to nothing. -/
theorem blind_skip {w' : World L} (hw : w.skip? = some w') :
    (∃ s wait, w.session = some s ∧ s.stage = .skipping wait ∧ w'.session = none ∧
        (Erasure.blind L).world w' = (Erasure.blind L).world (w.endSession s)) ∨
      w'.session ≠ none ∧ (Erasure.blind L).world w' = (Erasure.blind L).world w := by
  unfold skip? at hw
  split at hw
  · cases hw
  · rename_i s hs
    split at hw
    · rename_i wait hst
      have hseen :=
        Veil.blind_look w.chronicle wait w.setup.pollInterval w.files w.setup.device s.id
      split at hw
      · split at hw
        · rename_i next c heq
          rw [heq] at hseen
          obtain rfl := Option.some.inj hw
          refine .inr ⟨Option.some_ne_none _, ?_⟩
          have hsession : (Erasure.blind L).session { s with stage := .skipping next } =
              (Erasure.blind L).session s := by
            simp only [Erasure.session, hst]
            rfl
          exact (Erasure.Lawful.keepSession { w with chronicle := c } hs hsession).trans
            (blind_looked w hseen)
        · rename_i c heq
          rw [heq] at hseen
          obtain rfl := Option.some.inj hw
          refine .inl ⟨s, wait, hs, hst, rfl, ?_⟩
          rw [Erasure.Lawful.endSession _ Erasure.blind_lawful,
            Erasure.Lawful.endSession _ Erasure.blind_lawful, blind_looked w hseen]
      · cases hw
    · cases hw

/-- Nothing is left of the files. -/
theorem blind_of_isChange {o : Occurrence} (ho : o.isChange = true) :
    (Erasure.blind L).world (w.occur o) = (Erasure.blind L).world w := by
  cases o with
  | files t => rfl
  | _ => cases ho

end Unseen

/-! ## What deeds come to -/

/-- A session that waits to be asked to quit was asked. -/
def IsAsked (w : World L) : Prop :=
  ∀ s ∈ w.session, ∀ p, s.stage = .running .listening p → s.quit.answer?.isSome = true

/-- Without their device, all sessions are taken as asked. -/
theorem isAsked_blind (w : World L) : ((Erasure.blind L).world w).IsAsked := by
  intro s hs p _
  obtain ⟨t, -, rfl⟩ := Option.map_eq_some_iff.1 (show w.session.map _ = some s from hs)
  rfl

theorem cycle?_of_isRaised {w : World L} (h : w.coordinator.stop.isRaised = true) :
    w.cycle? = match w.cycle with
      | .deciding | .waiting _ => some w.beginStop
      | _ => none := by
  unfold cycle?
  cases w.cycle with
  | deciding => exact if_pos h
  | waiting wait => exact if_pos (by simp [StopFlag.isOver, h])
  | _ => rfl

theorem blind_cycle? {w : World L} (h : w.coordinator.stop.isRaised = true) :
    ((Erasure.blind L).world w).cycle? = w.cycle?.map (Erasure.blind L).world := by
  have hblind : ((Erasure.blind L).world w).coordinator.stop.isRaised = true := h
  rw [cycle?_of_isRaised h, cycle?_of_isRaised hblind,
    show ((Erasure.blind L).world w).cycle = w.cycle from rfl]
  have hstop := congrArg some (Erasure.Lawful.beginStop w (Erasure.blind_lawful (L := L)))
  cases w.cycle with
  | deciding | waiting => exact hstop.symm
  | _ => rfl

/-- Nothing is left of the reason for which a session quits. -/
theorem blind_requestRemoval (w : World L) (s : Session) (loop : LoopPhase) (r : QuitReason) :
    (Erasure.blind L).world (w.requestRemoval s loop r) =
      ((Erasure.blind L).world w).requestRemoval ((Erasure.blind L).session s) loop .shutdown := by
  have hlog : (Erasure.blind L).world (w.write (·.log (.quitRequested r) s.id)) =
      ((Erasure.blind L).world w).write (·.log (.quitRequested .shutdown) s.id) :=
    congrArg (fun c => { (Erasure.blind L).world w with chronicle := c }) (Veil.record_as rfl)
  rw [requestRemoval_eq, requestRemoval_eq, Erasure.Lawful.removeDriver _ Erasure.blind_lawful,
    hlog]
  rfl

section Pair

variable {w v : World L} (hw : (Erasure.blind L).world w = (Erasure.blind L).world v)
include hw

theorem coordinator_of_blind : w.coordinator = v.coordinator := by
  have h := congrArg World.coordinator hw
  exact h

/-- If the sessions of both go on, they come out alike. -/
theorem blind_session {w' v' : World L} (hw' : w.session? = some w') (hv' : v.session? = some v') :
    (Erasure.blind L).world w' = (Erasure.blind L).world v' := by
  have hlawful : (Erasure.blind L).Lawful := Erasure.blind_lawful
  unfold session? at hw' hv'
  rcases Erasure.Paired.session_cases hw with ⟨hs, -⟩ | ⟨s, s', hs, hs', hss⟩
  · simp only [hs] at hw'
    cases hw'
  · simp only [hs] at hw'
    simp only [hs'] at hv'
    rcases Erasure.Paired.stage_cases (congrArg Session.stage hss) with ⟨t, hst, hst'⟩ |
      ⟨t, hst, hst'⟩ | ⟨p, p', hst, hst', -⟩ | ⟨x, l, l', hst, hst', hl⟩
    · simp only [hst] at hw'
      cases hw'
    · simp only [hst] at hw'
      cases hw'
    · -- The session skips its driver.
      simp only [hst] at hw'
      simp only [hst'] at hv'
      split at hw'
      · split at hv'
        · obtain rfl := Option.some.inj hw'
          obtain rfl := Option.some.inj hv'
          rw [Erasure.Lawful.endSession w hlawful, Erasure.Lawful.endSession v hlawful, hw, hss]
        · cases hv'
      · cases hw'
    · obtain rfl : l = l' := hl
      simp only [hst] at hw'
      simp only [hst'] at hv'
      cases x with
      | listening =>
        obtain ⟨r, -, rfl⟩ := Option.map_eq_some_iff.1 hw'
        obtain ⟨r', -, rfl⟩ := Option.map_eq_some_iff.1 hv'
        rw [blind_requestRemoval, blind_requestRemoval, hw, hss]
      | removed timer =>
        cases l with
        | returned =>
          obtain rfl := Option.some.inj hw'
          obtain rfl := Option.some.inj hv'
          rw [Erasure.Lawful.endSession _ hlawful, Erasure.Lawful.endSession _ hlawful,
            Erasure.Lawful.cancelTimer _ hlawful, Erasure.Lawful.cancelTimer _ hlawful, hw, hss]
        | _ => cases hw'
      | _ => cases hw'

variable (hraised : w.coordinator.stop.isRaised = true)
include hraised

/-- Two worlds that have to stop and of which the same is left can make the same moves and come out
alike, unless the move looks for the device, or is one of a session that may not have been asked. -/
theorem blind_attempt {m : Move} (hm : m.isDeed = true) (hsession : m ≠ .session) :
    (w.attempt m).map (Erasure.blind L).world = (v.attempt m).map (Erasure.blind L).world := by
  have hboth {f : World L → Option (World L)}
      (hx : f ((Erasure.blind L).world w) = (f w).map (Erasure.blind L).world)
      (hy : f ((Erasure.blind L).world v) = (f v).map (Erasure.blind L).world) :
      (f w).map (Erasure.blind L).world = (f v).map (Erasure.blind L).world :=
    hx.symm.trans ((congrArg f hw).trans hy)
  have hlawful : (Erasure.blind L).Lawful := Erasure.blind_lawful
  cases m with
  | fireTimer =>
    exact hboth (Erasure.Lawful.fireTimer? w hlawful) (Erasure.Lawful.fireTimer? v hlawful)
  | decide => exact hboth (Erasure.Lawful.decide? w hlawful) (Erasure.Lawful.decide? v hlawful)
  | takeSignal =>
    exact hboth (Erasure.Lawful.takeSignal? w hlawful) (Erasure.Lawful.takeSignal? v hlawful)
  | cycle =>
    exact hboth (blind_cycle? hraised) (blind_cycle? (coordinator_of_blind hw ▸ hraised))
  | eventLoop => exact hboth (Erasure.blind_eventLoop? w) (Erasure.blind_eventLoop? v)
  | endCall => exact Erasure.blind_paired.endCall? hw
  | session => exact absurd rfl hsession
  | skip | forwardStop | watchRemoval => cases hm

theorem session_isSome (hasked : v.IsAsked) (h : w.session?.isSome = true) :
    v.session?.isSome = true := by
  have hover : v.coordinator.stop.isOver = true := by
    rw [← coordinator_of_blind hw]
    simp [StopFlag.isOver, hraised]
  unfold session? at h ⊢
  rcases Erasure.Paired.session_cases hw with ⟨hs, -⟩ | ⟨s, s', hs, hs', hss⟩
  · simp only [hs] at h
    cases h
  · simp only [hs] at h
    simp only [hs']
    rcases Erasure.Paired.stage_cases (congrArg Session.stage hss) with ⟨t, hst, hst'⟩ |
      ⟨t, hst, hst'⟩ | ⟨p, p', hst, hst', -⟩ | ⟨x, l, l', hst, hst', hl⟩
    · simp only [hst] at h
      cases h
    · simp only [hst] at h
      cases h
    · simp only [hst', if_pos hover]
      rfl
    · obtain rfl : l = l' := hl
      simp only [hst] at h
      simp only [hst']
      cases x with
      | listening =>
        rw [Option.isSome_map]
        exact hasked s' hs' l hst'
      | removed timer =>
        cases l with
        | returned => rfl
        | _ => cases h
      | _ => cases h

theorem attempt_isSome_of_blind {m : Move} (hm : m.isDeed = true)
    (hasked : m = .session → v.IsAsked) (h : (w.attempt m).isSome = true) :
    (v.attempt m).isSome = true := by
  by_cases hsession : m = .session
  · subst hsession
    exact session_isSome hw hraised (hasked rfl) h
  · have hattempt := congrArg Option.isSome (blind_attempt hw hraised hm hsession)
    rw [Option.isSome_map, Option.isSome_map] at hattempt
    exact hattempt ▸ h

/-- What can happen in a world without regard to its device, can happen in it. -/
theorem canHappen_of_blind {o : Occurrence} (ho : o.isDeed = true)
    (hasked : o = .move .session → v.IsAsked) (h : w.CanHappen o) : v.CanHappen o := by
  cases o with
  | move m =>
    exact attempt_isSome_of_blind hw hraised ho (fun hm => hasked (hm ▸ rfl)) h
  | pass => cases ho
  | _ => trivial

/-- A deed leaves two worlds alike without their device, if they were before. -/
theorem blind_occur {o : Occurrence} (ho : o.isDeed = true) (hwo : w.CanHappen o)
    (hvo : v.CanHappen o) :
    (Erasure.blind L).world (w.occur o) = (Erasure.blind L).world (v.occur o) := by
  cases o with
  | move m =>
    obtain ⟨w', hw'⟩ := Option.isSome_iff_exists.1 hwo
    obtain ⟨v', hv'⟩ := Option.isSome_iff_exists.1 hvo
    rw [occur_move hw', occur_move hv']
    by_cases hsession : m = .session
    · subst hsession
      exact blind_session hw hw' hv'
    · have hattempt := blind_attempt hw hraised ho hsession
      rw [hw', hv'] at hattempt
      exact Option.some.inj hattempt
  | signal s => exact congrArg (fun u : World L => (u.signal [s]).2) hw
  | closeSignals => exact congrArg (fun u : World L => u.closeSignals.2) hw
  | detach => exact congrArg (fun u : World L => u.detach.2) hw
  | notify ns =>
    have hnotify (u : World L) :
        (Erasure.blind L).world (u.notify ns).2 = (((Erasure.blind L).world u).notify ns).2 := by
      have hdeliver := Veil.blind_deliverAll u.chronicle u.queue ns
      unfold notify
      rw [show ((Erasure.blind L).world u).queue = u.queue from rfl,
        show ((Erasure.blind L).world u).chronicle = Veil.blind.chronicle u.chronicle from rfl,
        hdeliver]
      split <;> rfl
    exact (hnotify w).trans ((congrArg (fun u : World L => (u.notify ns).2) hw).trans
      (hnotify v).symm)
  | pass | files => cases ho

end Pair

/-! ## Turns -/

/-- Nothing more can be left out. -/
theorem blind_blind (w : World L) :
    (Erasure.blind L).world ((Erasure.blind L).world w) = (Erasure.blind L).world w := by
  have hshows (h : Happening) :
      (Veil.blind.shows h).bind Veil.blind.shows = Veil.blind.shows h := by
    unfold Veil.blind
    dsimp only
    split <;> simp
  have hhappenings : (Veil.blind.chronicle (Veil.blind.chronicle w.chronicle)).happenings =
      (Veil.blind.chronicle w.chronicle).happenings := by
    refine List.filterMap_filterMap.trans (congrArg (List.filterMap · _) (funext fun e => ?_))
    have he := hshows e.2
    cases h : Veil.blind.shows e.2 <;> simp_all
  have hsession : (w.session.map (Erasure.blind L).session).map (Erasure.blind L).session =
      w.session.map (Erasure.blind L).session := by
    rcases w.session with _ | s
    · rfl
    · simp only [Option.map_some, Erasure.session]
      cases s.stage <;> rfl
  have hsplit : (Erasure.blind L).world ((Erasure.blind L).world w) =
      { (Erasure.blind L).world w with
        chronicle :=
          { Veil.blind.chronicle w.chronicle with
            happenings := (Veil.blind.chronicle (Veil.blind.chronicle w.chronicle)).happenings }
        session :=
          (w.session.map (Erasure.blind L).session).map (Erasure.blind L).session } := rfl
  rw [hsplit, hhappenings, hsession]
  rfl

variable {w v : World L}

/-- If neither the session nor its forwarder has anything to do, the session neither waits to be
asked to quit nor skips its driver. -/
theorem HasToStop.stage_of_idle (h : w.HasToStop) (hsession : w.session? = none)
    (hforward : w.forwardStop? = none) {s : Session} (hs : w.session = some s) :
    (∀ wait, s.stage ≠ .skipping wait) ∧ ∀ p, s.stage ≠ .running .listening p := by
  refine ⟨fun wait hst => ?_, fun p hst => ?_⟩
  · simp [session?, hs, hst, h.isOver] at hsession
  · have hanswer : s.quit.answer? = none := by simpa [session?, hs, hst] using hsession
    have hbeside := h.accompanied.beside s hs
    have hreason : s.quit.reason = none := by
      rw [hbeside.answer?_eq] at hanswer
      simpa using hanswer
    have hmem := hbeside.forwarder_mem (by rw [hst]; rfl) hreason
    unfold forwardStop? at hforward
    rw [if_pos h.isOver] at hforward
    have hnone := List.find?_eq_none.1 (Option.map_eq_none_iff.1 hforward) _ hmem
    simp at hnone

/-- If neither the session nor its forwarder has anything to do, nothing is left to do without the
device that is not. -/
theorem HasToStop.attempt_blind (h : w.HasToStop) (hsession : w.session? = none)
    (hforward : w.forwardStop? = none) {m : Move} (hm : w.attempt m = none) :
    ((Erasure.blind L).world w).attempt m = none := by
  have hasked : w.IsAsked := fun s hs p hst =>
    absurd hst ((h.stage_of_idle hsession hforward hs).2 p)
  by_cases hdeed : m.isDeed = true
  · refine Option.not_isSome_iff_eq_none.1 fun hsome => ?_
    have hsome' := attempt_isSome_of_blind (blind_blind w) h.raised hdeed (fun _ => hasked) hsome
    rw [hm] at hsome'
    cases hsome'
  · cases m with
    | skip =>
      cases hs : w.session with
      | none =>
        have hblind : ((Erasure.blind L).world w).session = none :=
          congrArg (Option.map _) hs
        simp [attempt, skip?, hblind]
      | some s =>
        have hblind : ((Erasure.blind L).world w).session = some ((Erasure.blind L).session s) :=
          congrArg (Option.map _) hs
        have hst := (h.stage_of_idle hsession hforward hs).1
        simp only [attempt, skip?, hblind, Erasure.session]
        cases hstage : s.stage with
        | skipping wait => exact absurd hstage (hst wait)
        | _ => rfl
    | forwardStop =>
      have hchildren : ((Erasure.blind L).world w).children = [] := rfl
      simp [attempt, forwardStop?, hchildren]
    | watchRemoval =>
      have hchildren : ((Erasure.blind L).world w).children = [] := rfl
      simp [attempt, watchRemoval?, hchildren]
    | _ => exact absurd rfl hdeed

/-- If nothing is left to do without the device, nothing is left to do, except for those beside
the session. -/
theorem HasToStop.attempt_of_blind (h : v.HasToStop)
    (hsession : ((Erasure.blind L).world v).session? = none) {m : Move}
    (hforward : m = .forwardStop → v.forwardStop? = none)
    (hwatch : m = .watchRemoval → v.watchRemoval? = none)
    (hm : ((Erasure.blind L).world v).attempt m = none) : v.attempt m = none := by
  by_cases hdeed : m.isDeed = true
  · refine Option.not_isSome_iff_eq_none.1 fun hsome => ?_
    have hsome' := attempt_isSome_of_blind (blind_blind v).symm h.raised hdeed
      (fun _ => isAsked_blind v) hsome
    rw [hm] at hsome'
    cases hsome'
  · cases m with
    | skip =>
      have hblind : ((Erasure.blind L).world v).coordinator.stop.isOver = true := h.isOver
      have hnone := hsession
      unfold session? at hnone
      change skip? v = none
      unfold skip?
      cases hs : v.session with
      | none => rfl
      | some s =>
        have hs' : ((Erasure.blind L).world v).session = some ((Erasure.blind L).session s) :=
          congrArg (Option.map _) hs
        rw [hs'] at hnone
        dsimp only
        cases hst : s.stage with
        | skipping wait => simp [Erasure.session, Erasure.stage, hst, hblind] at hnone
        | _ => rfl
    | forwardStop => exact hforward rfl
    | watchRemoval => exact hwatch rfl
    | _ => exact absurd rfl hdeed

/-- If it is the turn of a deed, it is so without regard to the device. -/
theorem HasToStop.inTurn_blind (h : w.HasToStop) {o : Occurrence} (ho : o.isDeed = true)
    (hturn : w.InTurn o) : ((Erasure.blind L).world w).InTurn o := by
  cases o with
  | move m =>
    obtain ⟨hsome, hnone⟩ := inTurn_iff.1 hturn
    refine inTurn_iff.2 ⟨attempt_isSome_of_blind (blind_blind w).symm h.raised ho
      (fun _ => isAsked_blind w) hsome, fun m' hm' => ?_⟩
    by_cases hend : m = .endCall
    · subst hend
      exact h.attempt_blind (hnone .session (by decide)) (hnone .forwardStop (by decide))
        (hnone m' hm')
    · obtain ⟨hdeed, hsession⟩ := Move.isDeed_of_earlier m (mem_order m) ho hend m' hm'
      have hattempt := blind_attempt (blind_blind w) h.raised hdeed hsession
      rw [hnone m' hm'] at hattempt
      exact Option.map_eq_none_iff.1 hattempt
  | _ => trivial

/-- If it is the turn of a deed without regard to the device, it is so, once nobody beside the
session has anything to do that comes before it. -/
theorem HasToStop.inTurn_of_blind (h : v.HasToStop) {o : Occurrence} (ho : o.isDeed = true)
    (hasked : o = .move .session → v.IsAsked)
    (hidle : o = .move .endCall → v.forwardStop? = none ∧ v.watchRemoval? = none)
    (hturn : ((Erasure.blind L).world v).InTurn o) : v.InTurn o := by
  cases o with
  | move m =>
    obtain ⟨hsome, hnone⟩ := inTurn_iff.1 hturn
    refine inTurn_iff.2 ⟨attempt_isSome_of_blind (blind_blind v) h.raised ho
      (fun hm => hasked (hm ▸ rfl)) hsome, fun m' hm' => ?_⟩
    by_cases hend : m = .endCall
    · subst hend
      obtain ⟨hforward, hwatch⟩ := hidle rfl
      exact h.attempt_of_blind (hnone .session (by decide)) (fun _ => hforward) (fun _ => hwatch)
        (hnone m' hm')
    · obtain ⟨hdeed, hsession⟩ := Move.isDeed_of_earlier m (mem_order m) ho hend m' hm'
      have hattempt := blind_attempt (blind_blind v).symm h.raised hdeed hsession
      rw [hnone m' hm'] at hattempt
      exact Option.map_eq_none_iff.1 hattempt
  | _ => trivial

/-! ## Gists -/

/-- Whether the look of a session that skips its driver ends the session. -/
def endsSkipping (w : World L) : Bool :=
  w.session.isSome && (w.occur (.move .skip)).session.isNone

/-- What something that happens comes to once the stop flag is up, if it is not the mere passing
of time.  Looks come to nothing, and neither does a stop that is passed on; a look that ends a
session does what the stop flag does. -/
def gist (w : World L) : Occurrence → Option Occurrence
  | .pass _ | .move .forwardStop | .move .watchRemoval => none
  | .move .skip => if w.endsSkipping then some (.move .session) else none
  | o => some o

theorem gist_skip (w : World L) :
    w.gist (.move .skip) = if w.endsSkipping then some (.move .session) else none := rfl

theorem gist_deed (w : World L) {o : Occurrence} (ho : o.isDeed = true) : w.gist o = some o := by
  cases o with
  | move m => cases m <;> first | rfl | cases ho
  | pass | files => cases ho
  | _ => rfl

/-- Something comes to itself, or is a look that ends a session. -/
theorem gist_cases {o d : Occurrence} (h : w.gist o = some d) :
    o = d ∧ (d.isDeed = true ∨ d.isChange = true) ∨
      o = .move .skip ∧ d = .move .session ∧ w.endsSkipping = true := by
  cases o with
  | move m =>
    cases m with
    | skip =>
      rw [gist_skip] at h
      split at h
      · exact .inr ⟨rfl, (Option.some.inj h).symm, ‹_›⟩
      · cases h
    | forwardStop | watchRemoval => cases h
    | _ => exact .inl ⟨Option.some.inj h, .inl (Option.some.inj h ▸ rfl)⟩
  | pass => cases h
  | files t => exact .inl ⟨Option.some.inj h, .inr (Option.some.inj h ▸ rfl)⟩
  | _ => exact .inl ⟨Option.some.inj h, .inl (Option.some.inj h ▸ rfl)⟩

theorem isDeed_of_gist {o d : Occurrence} (h : w.gist o = some d) (hd : ¬ d.isChange = true) :
    d.isDeed = true := by
  rcases gist_cases h with ⟨-, hdeed | hchange⟩ | ⟨-, rfl, -⟩
  · exact hdeed
  · exact absurd hchange hd
  · rfl

/-- A look that ends a session does what the stop flag does. -/
theorem HasToStop.session?_of_endsSkipping (h : w.HasToStop) (hends : w.endsSkipping = true) :
    ∃ w', w.session? = some w' ∧
      (Erasure.blind L).world (w.occur (.move .skip)) = (Erasure.blind L).world w' := by
  unfold endsSkipping at hends
  rcases w.occur_move_cases .skip with hstay | ⟨w', hw, hmove⟩
  · rw [hstay] at hends
    cases hs : w.session <;> simp [hs] at hends
  · rw [hmove] at hends ⊢
    rcases blind_skip w hw with ⟨s, wait, hs, hst, -, hblind⟩ | ⟨hsome, -⟩
    · exact ⟨w.endSession s, by simp [session?, hs, hst, h.isOver], hblind⟩
    · simp [hsome] at hends

/-- Whatever has a gist comes to what its gist comes to. -/
theorem HasToStop.gist_spec (h : w.HasToStop) {o d : Occurrence} (hd : w.gist o = some d)
    (hcan : w.CanHappen o) :
    w.CanHappen d ∧ (w.InTurn o → w.InTurn d) ∧
      (Erasure.blind L).world (w.occur o) = (Erasure.blind L).world (w.occur d) := by
  rcases gist_cases hd with ⟨rfl, -⟩ | ⟨rfl, rfl, hends⟩
  · exact ⟨hcan, id, rfl⟩
  · obtain ⟨w', hw', hblind⟩ := h.session?_of_endsSkipping hends
    have hcan' : w.CanHappen (.move .session) := congrArg Option.isSome hw'
    refine ⟨hcan', fun hturn => ?_, ?_⟩
    · -- The look comes after the session, which has something to do.
      have hnone := (inTurn_iff.1 hturn).2 .session (by decide)
      rw [show w.session? = none from hnone] at hw'
      cases hw'
    · rw [hblind, occur_move (m := .session) hw']

/-- Whatever has no gist leaves what it does not show of a world as it was, but for the time. -/
theorem blind_of_gist_none {o : Occurrence} (ho : w.gist o = none) :
    (Erasure.blind L).world (w.occur o) =
      ((Erasure.blind L).world w).atTime (w.occur o).now := by
  -- Whatever takes no time leaves the same of the world, with its clock.
  have hsame {w' : World L} (hw : (Erasure.blind L).world w' = (Erasure.blind L).world w) :
      (Erasure.blind L).world w' = ((Erasure.blind L).world w).atTime w'.now := by
    have hnow : ((Erasure.blind L).world w').now = ((Erasure.blind L).world w).now :=
      congrArg World.now hw
    rw [hw, show w'.now = ((Erasure.blind L).world w).now from hnow]
    rfl
  cases o with
  | pass time =>
    rcases w.occur_pass_cases time with hstay | ⟨-, hpass⟩
    · rw [hstay]
      rfl
    · rw [hpass]
      rfl
  | move m =>
    rcases w.occur_move_cases m with hstay | ⟨w', hw, hmove⟩
    · rw [hstay]
      rfl
    · cases m with
      | forwardStop => exact hmove ▸ hsame (blind_forwardStop w hw)
      | watchRemoval => exact hmove ▸ hsame (blind_watchRemoval w hw)
      | skip =>
        rcases blind_skip w hw with ⟨s, -, hs, -, hnone, -⟩ | ⟨-, hkept⟩
        · -- A look that ends the session has a gist.
          have hends : w.endsSkipping = true := by simp [endsSkipping, hs, hmove, hnone]
          rw [gist_skip, if_pos hends] at ho
          cases ho
        · exact hmove ▸ hsame hkept
      | _ => cases ho
  | _ => cases ho

end World

end Hotplug
