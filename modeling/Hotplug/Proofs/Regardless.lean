import Hotplug.Proofs.Completion
import Hotplug.Proofs.Foretelling
import Hotplug.Proofs.Undisturbed

/-!
# Once the stop flag is up, the device does not matter

Whatever happens to the device after the stop flag is raised, the same calls begin and end at the
same times, the sessions change their states alike, and the run ends alike.  A world that has to
stop makes up for the looks that it has to take as it goes on; for the rest it does what is
foretold.

* `World.Silent` — a list of occurrences that comes to nothing.
* `World.HasToStop.exists_idle`, `World.HasToStop.exists_until` — those beside a session do what
  they have to do, until a time.
* `World.HasToStop.exists_deed` — a deed that is foretold can be done.
* `Supervision.regardless` — the device does not matter.
-/

namespace Hotplug

/-! ## Those beside a session -/

namespace Session.Beside

variable {s : Session} {children : List Child} {child other : Child} (h : s.Beside children)
  (hchild : child ∈ children) (hother : other ∈ children)
include h hchild hother

theorem forwarder_eq (htask : child.task = .forwardStop) (htask' : other.task = .forwardStop) :
    other = child := by
  cases h with
  | early => cases hchild
  | running executor loop watch forwards =>
    rcases mem_crew.1 hchild with ⟨wait, -, rfl⟩ | ⟨-, rfl⟩
    · cases htask
    · rcases mem_crew.1 hother with ⟨wait, -, rfl⟩ | ⟨-, rfl⟩
      · cases htask'
      · rfl

theorem watcher_eq {wait wait' : PresenceWait} (htask : child.task = .watchRemoval wait)
    (htask' : other.task = .watchRemoval wait') : other = child := by
  cases h with
  | early => cases hchild
  | running executor loop watch forwards =>
    obtain ⟨hwatch, rfl⟩ := watcher_of_mem_crew hchild htask
    obtain ⟨hwatch', rfl⟩ := watcher_of_mem_crew hother htask'
    obtain rfl := Option.some.inj (hwatch.symm.trans hwatch')
    rfl

end Session.Beside

namespace Scene

variable {f f' : Scene}

/-- Nobody has a stop to pass on. -/
def Forwarded (f : Scene) : Prop :=
  ∀ child ∈ f.children, child.task ≠ .forwardStop

/-- Nobody has to look. -/
def Watched (f : Scene) : Prop :=
  ∀ child ∈ f.children, child.dueLook? f.now = none

/-- A forwarder passes the stop on once, and it is the only one. -/
theorem Act.forwarded (h : f.Accompanied) (hs : f.Act .forwardStop f') : f'.Forwarded := by
  cases hs with
  | stopForwarded child hchild htask =>
    intro other hother htask'
    obtain ⟨hmem, hne⟩ := List.mem_filter.1 hother
    obtain ⟨s, hs, -, -⟩ := h.exists_session hchild
    have hsame := (h.beside s hs).forwarder_eq hchild hmem htask htask'
    simp [hsame] at hne

/-- Once its stop is passed on a session was asked to quit. -/
theorem Act.asked (h : f.Accompanied) (hs : f.Act .forwardStop f') :
    ∀ s ∈ f'.session, s.quit.answer?.isSome = true := by
  cases hs with
  | stopForwarded child hchild =>
    obtain ⟨s, hs, hid, -⟩ := h.exists_session hchild
    intro s' hs'
    obtain ⟨t, ht, rfl⟩ := Option.map_eq_some_iff.1 hs'
    obtain rfl := Option.some.inj (hs.symm.trans ht)
    rw [if_pos hid, QuitRequest.spend_eq ((h.beside s hs).holds hchild)]
    rfl

/-- After its look a watcher is gone, or will look later. -/
theorem Act.watched (h : f.Accompanied) (hpoll : 0 < f.setup.pollInterval)
    (hs : f.Act .watchRemoval f') : f'.Watched ∧ (f.Forwarded → f'.Forwarded) := by
  cases hs with
  | keepWatching child wait hchild htask hdue hseen =>
    obtain ⟨s, hs, -, -⟩ := h.exists_session hchild
    refine ⟨fun other hother => ?_, fun hforwarded other hother htask' => ?_⟩
    · obtain ⟨before, hmem, rfl⟩ := List.mem_map.1 hother
      split
      · exact if_neg (Nat.not_le.2 (Nat.lt_add_of_pos_right hpoll))
      · rename_i hne
        cases htask' : before.task with
        | watchRemoval wait' =>
          exact absurd ((h.beside s hs).watcher_eq hchild hmem htask htask') hne
        | forwardStop => simp [Child.dueLook?, htask']
    · obtain ⟨before, hmem, rfl⟩ := List.mem_map.1 hother
      split at htask'
      · cases htask'
      · exact hforwarded before hmem htask'
  | removalSeen child wait hchild htask =>
    obtain ⟨s, hs, -, -⟩ := h.exists_session hchild
    refine ⟨fun other hother => ?_, fun hforwarded other hother => ?_⟩
    · obtain ⟨hmem, hne⟩ := List.mem_filter.1 hother
      cases htask' : other.task with
      | watchRemoval wait' =>
        have hsame := (h.beside s hs).watcher_eq hchild hmem htask htask'
        simp [hsame] at hne
      | forwardStop => simp [Child.dueLook?, htask']
    · exact hforwarded other (List.mem_filter.1 hother).1

end Scene

namespace World

variable {L : EventLoop} {v : World L} {turns : Prop} {time : Nat}

theorem forwardStop?_eq_none (h : v.scene.Forwarded) : v.forwardStop? = none := by
  unfold forwardStop?
  split
  · refine Option.map_eq_none_iff.2 (List.find?_eq_none.2 fun child hchild => ?_)
    simpa using h child hchild
  · rfl

theorem watchRemoval?_eq_none (h : v.scene.Watched) : v.watchRemoval? = none :=
  Option.map_eq_none_iff.2 (List.findSome?_eq_none_iff.2 h)

theorem HasToStop.forwarded (h : v.HasToStop) (hnone : v.forwardStop? = none) :
    v.scene.Forwarded := by
  intro child hchild htask
  unfold forwardStop? at hnone
  rw [if_pos h.isOver] at hnone
  have hno := List.find?_eq_none.1 (Option.map_eq_none_iff.1 hnone) child hchild
  simp [htask] at hno

/-- What happens comes to nothing, though time may pass; every move is in turn, if all moves are to
be so. -/
structure Silent (turns : Prop) (v : World L) (ls : List Occurrence) : Prop where
  plays : v.Plays ls
  order : turns → v.KeepsOrder ls
  timeline : v.timeline ls = []
  blind : (Erasure.blind L).world (v.follow ls) =
    ((Erasure.blind L).world v).atTime (v.follow ls).now

namespace Silent

theorem nil (turns : Prop) (v : World L) : v.Silent turns [] :=
  ⟨trivial, fun _ => trivial, rfl, rfl⟩

theorem append {ls ls' : List Occurrence} (h : v.Silent turns ls)
    (h' : (v.follow ls).Silent turns ls') : v.Silent turns (ls ++ ls') where
  plays := goes_append.2 ⟨h.plays, h'.plays⟩
  order ht := goes_append.2 ⟨h.order ht, h'.order ht⟩
  timeline := by rw [timeline_append, h.timeline, h'.timeline, List.append_nil]
  blind := by
    rw [follow_append, h'.blind, h.blind]
    rfl

theorem single {o : Occurrence} (hgist : v.gist o = none) (hcan : v.CanHappen o)
    (hturn : turns → v.InTurn o) : v.Silent turns [o] where
  plays := ⟨hcan, trivial⟩
  order ht := ⟨hturn ht, trivial⟩
  timeline := by simp [World.timeline, hgist]
  blind := blind_of_gist_none hgist

/-- Something happens at last. -/
theorem goOn {ls qs : List Occurrence} {o : Occurrence} (h : v.Silent turns ls)
    (hgist : (v.follow ls).gist o = some o) (hcan : (v.follow ls).CanHappen o)
    (hturn : turns → (v.follow ls).InTurn o) (hplays : ((v.follow ls).occur o).Plays qs)
    (horder : turns → ((v.follow ls).occur o).KeepsOrder qs) :
    v.Plays (ls ++ o :: qs) ∧ (turns → v.KeepsOrder (ls ++ o :: qs)) ∧
      v.timeline (ls ++ o :: qs) =
        ((v.follow ls).now, o) :: ((v.follow ls).occur o).timeline qs := by
  refine ⟨goes_append.2 ⟨h.plays, hcan, hplays⟩,
    fun ht => goes_append.2 ⟨h.order ht, hturn ht, horder ht⟩, ?_⟩
  rw [timeline_append, h.timeline, World.timeline, hgist]
  rfl

end Silent

namespace HasToStop

theorem setup_follow {v : World L} (h : v.HasToStop) (os : List Occurrence) :
    (v.follow os).setup = v.setup := by
  induction os generalizing v with
  | nil => rfl
  | cons o os ih => exact (ih (h.occur o)).trans (orderly_occur h.orderly o).1

/-- Those beside a session come before the calls and after everybody else. -/
theorem inTurn_beside (h : v.HasToStop)
    (hidle : ∀ m, m ≠ .endCall → ((Erasure.blind L).world v).attempt m = none) {m : Move}
    (hm : m = .forwardStop ∨ m = .watchRemoval ∧ v.forwardStop? = none)
    (hsome : (v.attempt m).isSome = true) : v.InTurn (.move m) := by
  have hnone {m' : Move} (hend : m' ≠ .endCall)
      (hforward : m' = .forwardStop → v.forwardStop? = none) (hwatch : m' ≠ .watchRemoval) :
      v.attempt m' = none :=
    h.attempt_of_blind (hidle .session (by decide)) hforward (fun heq => absurd heq hwatch)
      (hidle m' hend)
  refine inTurn_iff.2 ⟨hsome, fun m' hm' => ?_⟩
  rcases hm with rfl | ⟨rfl, hforward⟩
  · have hearlier : ∀ m' ∈ Move.forwardStop.earlier,
        m' ≠ .endCall ∧ m' ≠ .forwardStop ∧ m' ≠ .watchRemoval := by decide
    obtain ⟨hend, hne, hwatch⟩ := hearlier m' hm'
    exact hnone hend (fun heq => absurd heq hne) hwatch
  · have hearlier : ∀ m' ∈ Move.watchRemoval.earlier, m' ≠ .endCall ∧ m' ≠ .watchRemoval := by
      decide
    obtain ⟨hend, hwatch⟩ := hearlier m' hm'
    exact hnone hend (fun _ => hforward) hwatch

/-- A stop that has to be passed on is passed on. -/
theorem exists_forwarded (h : v.HasToStop)
    (hidle : turns → ∀ m, m ≠ .endCall → ((Erasure.blind L).world v).attempt m = none) :
    ∃ ls, v.Silent turns ls ∧ (v.follow ls).now = v.now ∧ (v.follow ls).scene.Forwarded := by
  cases hv : v.forwardStop? with
  | none => exact ⟨[], .nil turns v, rfl, h.forwarded hv⟩
  | some v' =>
    have hsome : (v.attempt .forwardStop).isSome = true := congrArg Option.isSome hv
    have hact := act_attempt (m := .forwardStop) h.orderly hv
    have hgone : v.follow [.move .forwardStop] = v' := occur_move (m := .forwardStop) hv
    refine ⟨[.move .forwardStop], .single rfl hsome fun ht =>
      h.inTurn_beside (hidle ht) (.inl rfl) hsome, ?_, ?_⟩
    · rw [hgone]
      exact (leads_attempt (m := .forwardStop) h.orderly hv).now
    · rw [hgone]
      exact hact.forwarded h.accompanied

/-- A look that has to be taken is taken. -/
theorem exists_watched (h : v.HasToStop) (hpoll : 0 < v.setup.pollInterval)
    (hidle : turns → ∀ m, m ≠ .endCall → ((Erasure.blind L).world v).attempt m = none)
    (hforwarded : v.scene.Forwarded) :
    ∃ ls, v.Silent turns ls ∧ (v.follow ls).now = v.now ∧ (v.follow ls).scene.Forwarded ∧
      (v.follow ls).scene.Watched := by
  cases hv : v.watchRemoval? with
  | none =>
    exact ⟨[], .nil turns v, rfl, hforwarded,
      List.findSome?_eq_none_iff.1 (Option.map_eq_none_iff.1 hv)⟩
  | some v' =>
    have hsome : (v.attempt .watchRemoval).isSome = true := congrArg Option.isSome hv
    have hact := act_attempt (m := .watchRemoval) h.orderly hv
    have hgone : v.follow [.move .watchRemoval] = v' := occur_move (m := .watchRemoval) hv
    obtain ⟨hwatched, hstill⟩ := hact.watched h.accompanied hpoll
    refine ⟨[.move .watchRemoval], .single rfl hsome fun ht =>
      h.inTurn_beside (hidle ht) (.inr ⟨rfl, forwardStop?_eq_none hforwarded⟩) hsome, ?_, ?_⟩
    · rw [hgone]
      exact (leads_attempt (m := .watchRemoval) h.orderly hv).now
    · rw [hgone]
      exact ⟨hstill hforwarded, hwatched⟩

/-- Those beside a session do what they have to do at the moment. -/
theorem exists_idle (h : v.HasToStop) (hpoll : 0 < v.setup.pollInterval)
    (hidle : turns → ∀ m, m ≠ .endCall → ((Erasure.blind L).world v).attempt m = none) :
    ∃ ls, v.Silent turns ls ∧ (v.follow ls).now = v.now ∧ (v.follow ls).forwardStop? = none ∧
      (v.follow ls).watchRemoval? = none := by
  obtain ⟨ls, hls, hnow, hforwarded⟩ := h.exists_forwarded hidle
  have hsame : (Erasure.blind L).world (v.follow ls) = (Erasure.blind L).world v := by
    rw [hls.blind, hnow]
    rfl
  obtain ⟨ls', hls', hnow', hforwarded', hwatched⟩ := (h.follow ls).exists_watched
    (by rw [h.setup_follow]; exact hpoll) (by rw [hsame]; exact hidle) hforwarded
  have hfollow := v.follow_append ls ls'
  refine ⟨ls ++ ls', hls.append hls', ?_, ?_, ?_⟩
  · rw [hfollow, hnow', hnow]
  · rw [hfollow]
    exact forwardStop?_eq_none hforwarded'
  · rw [hfollow]
    exact watchRemoval?_eq_none hwatched

/-- Time passes until then, with all looks that have to be taken on the way. -/
theorem exists_until (turns : Prop) {v : World L} (h : v.HasToStop)
    (hpoll : 0 < v.setup.pollInterval) (hrests : ((Erasure.blind L).world v).RestsUntil time) :
    ∃ ls, v.Silent turns ls ∧ (v.follow ls).now = time := by
  by_cases hdone : v.now = time
  · exact ⟨[], .nil turns v, hdone⟩
  have hlt : v.now < time := Nat.lt_of_le_of_ne hrests.le hdone
  have hidle (m : Move) : ((Erasure.blind L).world v).attempt m = none :=
    attempt_eq_none (hrests.idle v.now (Nat.le_refl _) hlt) m
  obtain ⟨ls, hls, hnow, hforward, hwatch⟩ := h.exists_idle hpoll
    fun (_ : turns) m _ => hidle m
  let u := v.follow ls
  have hu : u.HasToStop := h.follow ls
  have hblind : (Erasure.blind L).world u = (Erasure.blind L).world v := by
    rw [hls.blind, hnow]
    rfl
  have hnone : u.next? = none := next?_eq_none fun m =>
    hu.attempt_of_blind (by rw [hblind]; exact hidle .session) (fun _ => hforward)
      (fun _ => hwatch) (by rw [hblind]; exact hidle m)
  -- Time passes up to the next look, unless that is too late.
  obtain ⟨t, hbefore, hle, hmay⟩ : ∃ t, v.now < t ∧ t ≤ time ∧ u.mayPass t = true := by
    cases hdue : u.nextDue? with
    | none =>
      exact ⟨time, hlt, Nat.le_refl _, by simp [mayPass, hnone, hdue, u, hnow, Nat.le_of_lt hlt]⟩
    | some due =>
      have hdue' : v.now < due := hnow ▸ now_lt_of_nextDue? hdue
      refine ⟨min time due, Nat.lt_min.2 ⟨hlt, hdue'⟩, Nat.min_le_left _ _, ?_⟩
      have hle : u.now ≤ min time due := hnow ▸ Nat.le_of_lt (Nat.lt_min.2 ⟨hlt, hdue'⟩)
      simp [mayPass, hnone, hdue, hle]
  have hpass : u.Silent turns [.pass t] := .single rfl hmay fun _ => trivial
  have hfollow : v.follow (ls ++ [.pass t]) = u.atTime t :=
    (follow_concat v ls _).trans (occur_pass hmay)
  have hsilent := hls.append hpass
  have hafter : ((Erasure.blind L).world (v.follow (ls ++ [.pass t]))).RestsUntil time := by
    have hworld := hsilent.blind
    rw [hfollow] at hworld ⊢
    rw [hworld]
    exact hrests.after (Nat.le_of_lt hbefore) hle
  have hlater : (v.follow (ls ++ [.pass t])).now = t := by
    rw [hfollow]
    rfl
  have : time - (v.follow (ls ++ [.pass t])).now < time - v.now := by omega
  obtain ⟨ls', hls', htime⟩ := exists_until turns (h.follow (ls ++ [.pass t]))
    (by rw [h.setup_follow]; exact hpoll) hafter
  exact ⟨ls ++ [.pass t] ++ ls', hsilent.append hls', by rw [follow_append, htime]⟩
termination_by time - v.now

/-- A session that waits to be asked to quit is asked. -/
theorem exists_asked (h : v.HasToStop)
    (hturn : turns → ((Erasure.blind L).world v).InTurn (.move .session)) :
    ∃ ls, v.Silent turns ls ∧ (v.follow ls).now = v.now ∧ (v.follow ls).IsAsked := by
  by_cases hasked : v.IsAsked
  · exact ⟨[], .nil turns v, rfl, hasked⟩
  obtain ⟨s, hs, p, hst, hanswer⟩ : ∃ s, v.session = some s ∧ ∃ p,
      s.stage = .running .listening p ∧ s.quit.answer? = none := by
    simp only [IsAsked, not_forall] at hasked
    obtain ⟨s, hs, p, hst, hanswer⟩ := hasked
    exact ⟨s, hs, p, hst, by simpa using hanswer⟩
  have hbeside := h.accompanied.beside s hs
  have hreason : s.quit.reason = none := by
    rw [hbeside.answer?_eq] at hanswer
    simpa using hanswer
  have hmem := hbeside.forwarder_mem (by rw [hst]; rfl) hreason
  cases hv : v.forwardStop? with
  | none => exact absurd rfl (h.forwarded hv _ hmem)
  | some v' =>
    have hsome : (v.attempt .forwardStop).isSome = true := congrArg Option.isSome hv
    have hgone : v.follow [.move .forwardStop] = v' := occur_move (m := .forwardStop) hv
    have hact := act_attempt (m := .forwardStop) h.orderly hv
    refine ⟨[.move .forwardStop], .single rfl hsome fun ht => ?_, ?_, ?_⟩
    · have hsession : v.session? = none := by simp [session?, hs, hst, hanswer]
      have hskip : v.skip? = none := by simp [skip?, hs, hst]
      have hearlier : ∀ m ∈ Move.forwardStop.earlier, m = .session ∨ m = .skip ∨
          m ∈ Move.session.earlier ∧ m.isDeed = true ∧ m ≠ .session := by decide
      refine inTurn_iff.2 ⟨hsome, fun m hm => ?_⟩
      rcases hearlier m hm with rfl | rfl | ⟨hmem, hdeed, hne⟩
      · exact hsession
      · exact hskip
      · have hattempt := blind_attempt (blind_blind v).symm h.raised hdeed hne
        rw [(inTurn_iff.1 (hturn ht)).2 m hmem] at hattempt
        exact Option.map_eq_none_iff.1 hattempt
    · rw [hgone]
      exact (leads_attempt (m := .forwardStop) h.orderly hv).now
    · rw [hgone]
      exact fun s hs _ _ => hact.asked h.accompanied s hs

/-- A deed that is foretold can be done, once those beside the session have done what comes before
it. -/
theorem exists_deed (turns : Prop) (h : v.HasToStop) (hpoll : 0 < v.setup.pollInterval)
    {o : Occurrence}
    (ho : o.isDeed = true) (hcan : ((Erasure.blind L).world v).CanHappen o)
    (hturn : turns → ((Erasure.blind L).world v).InTurn o) :
    ∃ ls, v.Silent turns ls ∧ (v.follow ls).now = v.now ∧ (v.follow ls).CanHappen o ∧
      (turns → (v.follow ls).InTurn o) := by
  suffices hready : ∃ ls, v.Silent turns ls ∧ (v.follow ls).now = v.now ∧
      (o = .move .session → (v.follow ls).IsAsked) ∧
        (o = .move .endCall →
          (v.follow ls).forwardStop? = none ∧ (v.follow ls).watchRemoval? = none) by
    obtain ⟨ls, hls, hnow, hasked, hidle⟩ := hready
    have hsame : (Erasure.blind L).world (v.follow ls) = (Erasure.blind L).world v := by
      rw [hls.blind, hnow]
      rfl
    refine ⟨ls, hls, hnow, ?_, fun ht => ?_⟩
    · exact canHappen_of_blind ((blind_blind v).trans hsame.symm) h.raised ho hasked hcan
    · exact (h.follow ls).inTurn_of_blind ho hasked hidle (by rw [hsame]; exact hturn ht)
  by_cases hsession : o = .move .session
  · subst hsession
    obtain ⟨ls, hls, hnow, hasked⟩ := h.exists_asked hturn
    exact ⟨ls, hls, hnow, fun _ => hasked, by rintro ⟨⟩⟩
  · by_cases hend : o = .move .endCall
    · subst hend
      have hearlier : ∀ m, m ≠ .endCall → m ∈ Move.endCall.earlier := by
        intro m hm
        cases m <;> first | decide | exact absurd rfl hm
      obtain ⟨ls, hls, hnow, hidle⟩ := h.exists_idle hpoll fun (ht : turns) m hm =>
        (inTurn_iff.1 (hturn ht)).2 m (hearlier m hm)
      exact ⟨ls, hls, hnow, by rintro ⟨⟩, fun _ => hidle⟩
    · exact ⟨[], .nil turns v, rfl, fun heq => absurd heq hsession, fun heq => absurd heq hend⟩

end HasToStop

/-- A world that has to stop does what is foretold, whatever becomes of the files. -/
theorem HasToStop.fulfils {v : World L} (h : v.HasToStop) (hpoll : 0 < v.setup.pollInterval)
    {rs : List (Nat × Occurrence)} (hrs : Between v.now time rs)
    (hf : ((Erasure.blind L).world v).Foretells (fun u o => turns → u.InTurn o)
      (rs.filter (!·.2.isChange)) time) :
    ∃ qs, v.Plays qs ∧ (turns → v.KeepsOrder qs) ∧ v.timeline qs = rs ∧
      (Erasure.blind L).world (v.follow qs) =
        ((Erasure.blind L).world v).replay (rs.filter (!·.2.isChange)) time := by
  induction rs generalizing v with
  | nil =>
    obtain ⟨ls, hls, htime⟩ := exists_until turns h hpoll hf
    exact ⟨ls, hls.plays, hls.order, hls.timeline, by rw [hls.blind, htime]; rfl⟩
  | cons e rs ih =>
    obtain ⟨t, o⟩ := e
    obtain ⟨hle, hrs⟩ := hrs
    have hpoll' {u : World L} {o : Occurrence} (hu : u.HasToStop) (hsetup : u.setup = v.setup) :
        0 < (u.occur o).setup.pollInterval := by
      rw [(orderly_occur hu.orderly o).1, hsetup]
      exact hpoll
    by_cases hchange : o.isChange = true
    · obtain ⟨files, rfl⟩ : ∃ files, o = .files files := by
        cases o <;> first | exact ⟨_, rfl⟩ | cases hchange
      obtain ⟨hrests, hforetold⟩ := Foretells.rests hf hle (hrs.filter _)
      obtain ⟨ls, hls, rfl⟩ := exists_until turns h hpoll hrests
      obtain ⟨qs, hplays, horder, htimeline, hworld⟩ := ih ((h.follow ls).occur (.files files))
        (hpoll' (h.follow ls) (h.setup_follow ls)) hrs (hls.blind ▸ hforetold)
      obtain ⟨hplays, horder, htimeline'⟩ :=
        hls.goOn (o := .files files) rfl trivial (fun _ => trivial) hplays horder
      refine ⟨ls ++ .files files :: qs, hplays, horder, by rw [htimeline', htimeline], ?_⟩
      rw [follow_append]
      refine hworld.trans ?_
      have hblind : (Erasure.blind L).world ((v.follow ls).occur (.files files)) =
          ((Erasure.blind L).world v).atTime (v.follow ls).now := hls.blind
      rw [hblind]
      exact replay_atTime _ _
    · have hkept : ((t, o) :: rs).filter (!·.2.isChange) = (t, o) :: rs.filter (!·.2.isChange) := by
        simp [hchange]
      rw [hkept] at hf ⊢
      obtain ⟨hrests, hdeed, hcan, hturn, hforetold⟩ := hf
      obtain ⟨ls, hls, rfl⟩ := exists_until turns h hpoll hrests
      have hwaited : (v.follow ls).HasToStop := h.follow ls
      obtain ⟨ls', hls', hnow, hcan', hturn'⟩ := hwaited.exists_deed turns
        (by rw [h.setup_follow]; exact hpoll) hdeed (hls.blind ▸ hcan) (hls.blind ▸ hturn)
      have hsilent := hls.append hls'
      rw [← follow_append] at hnow hcan' hturn'
      have hready : (v.follow (ls ++ ls')).HasToStop := h.follow (ls ++ ls')
      have hblind := hsilent.blind
      rw [hnow] at hblind
      rw [← hblind] at hcan hforetold
      have hnext : (Erasure.blind L).world ((v.follow (ls ++ ls')).occur o) =
          (Erasure.blind L).world
            (((Erasure.blind L).world (v.follow (ls ++ ls'))).occur o) :=
        blind_occur (blind_blind _).symm hready.raised hdeed hcan' hcan
      obtain ⟨qs, hplays, horder, htimeline, hworld⟩ := ih (hready.occur o)
        (hpoll' hready (h.setup_follow _))
        (by rw [now_occur hready.orderly (by rintro _ rfl; cases hdeed), hnow]; exact hrs)
        (hnext ▸ hforetold)
      obtain ⟨hplays, horder, htimeline'⟩ :=
        hsilent.goOn (gist_deed _ hdeed) hcan' hturn' hplays horder
      refine ⟨ls ++ ls' ++ o :: qs, hplays, horder, by rw [htimeline', htimeline, hnow], ?_⟩
      rw [follow_append, replay, ← hblind, ← hnext]
      exact hworld

end World

/-- Two worlds agree in everything but what comes of looking for the device: the looks, the lines in
the log about them, the gauge, and the reason for which a session is asked to quit. -/
structure World.AgreesBlindly {L : EventLoop} (w v : World L) : Prop extends w.LivesLike v where
  chronicle : Veil.blind.chronicle w.chronicle = Veil.blind.chronicle v.chronicle

theorem Veil.blind_keeps_lifecycle : Veil.blind.Keeps (·.isLifecycle) := by
  intro h
  unfold Veil.blind
  dsimp only
  split <;> rfl

theorem World.AgreesBlindly.of_blind {L : EventLoop} {w v : World L}
    (h : (Erasure.blind L).world w = (Erasure.blind L).world v) : w.AgreesBlindly v where
  toLivesLike := Erasure.livesLike Veil.blind_keeps_lifecycle Veil.blind_keeps_lifecycle h
  chronicle := congrArg World.chronicle h

/-! ## Runs -/

namespace Supervision

variable {L : EventLoop} (s : Supervision L)

/-- From `os` on, what becomes of the device has no influence on a run. -/
structure Regardless (os : List Occurrence) : Prop where
  /-- If two runs have the same course, they agree, whatever becomes of the device. -/
  determined : ∀ ps qs, s.Plays (os ++ ps) → s.Plays (os ++ qs) →
    (s.after os).course ps = (s.after os).course qs →
      (s.after (os ++ ps)).now = (s.after (os ++ qs)).now →
        (s.after (os ++ ps)).AgreesBlindly (s.after (os ++ qs))
  /-- In a valid configuration, whatever course a run can have, it can have with whatever else
  becomes of the device, at any times. -/
  possible : s.settings.problems = [] → ∀ ps rs, s.Plays (os ++ ps) →
    rs.filter (!·.2.isChange) = (s.after os).course ps →
      World.Between (s.after os).now (s.after (os ++ ps)).now rs →
        ∃ qs, s.Plays (os ++ qs) ∧ (s.after os).timeline qs = rs ∧
          (s.KeepsOrder (os ++ ps) → s.KeepsOrder (os ++ qs)) ∧
            (s.after (os ++ ps)).AgreesBlindly (s.after (os ++ qs))
  /-- If everything happens duly, two runs that are given the same agree whenever both have come to
  rest, whatever becomes of the device. -/
  alike : ∀ ps qs, (s.after os).GoesDuly (·.isGiven) ps → (s.after os).GoesDuly (·.isGiven) qs →
    (s.after os).inputs (·.isGiven) ps = (s.after os).inputs (·.isGiven) qs →
      (s.after (os ++ ps)).now = (s.after (os ++ qs)).now →
        (s.after (os ++ ps)).AgreesBlindly (s.after (os ++ qs))

/-- Once the stop flag is up, the device does not matter. -/
theorem regardless (os : List Occurrence)
    (hraised : (s.after os).coordinator.stop.isRaised = true) : s.Regardless os := by
  have h : (s.after os).HasToStop := ⟨s.orderly_after os, s.accompanied_after os, hraised⟩
  have hafter (ps : List Occurrence) : s.after (os ++ ps) = (s.after os).follow ps :=
    World.follow_append _ _ _
  have hplays {ps : List Occurrence} (hps : s.Plays (os ++ ps)) : (s.after os).Plays ps :=
    (World.goes_append.1 hps).2
  have hdetermined {ps qs : List Occurrence} (hps : (s.after os).Plays ps)
      (hqs : (s.after os).Plays qs) (hcourse : (s.after os).course ps = (s.after os).course qs)
      (hnow : (s.after (os ++ ps)).now = (s.after (os ++ qs)).now) :
      (s.after (os ++ ps)).AgreesBlindly (s.after (os ++ qs)) := by
    refine .of_blind ?_
    have hreplay {ps : List Occurrence} (hps : (s.after os).Plays ps) :=
      (h.foretells (P := fun _ _ => True) (Q := fun _ _ => True) (by simp) hps
        (World.goes_imp (fun _ _ _ => trivial) hps)).2
    rw [hafter, hafter] at hnow ⊢
    rw [hreplay hps, hreplay hqs, hcourse, hnow]
  refine ⟨fun ps qs hps hqs => hdetermined (hplays hps) (hplays hqs), ?_, ?_⟩
  · intro hvalid ps rs hps hrs hbetween
    have hpoll : 0 < (s.after os).setup.pollInterval := by
      rw [s.setup_after os]
      exact s.pollInterval_pos hvalid
    have hforetold := h.foretells
      (P := fun u o => s.KeepsOrder (os ++ ps) → u.InTurn o)
      (Q := fun u o => s.KeepsOrder (os ++ ps) → u.InTurn o)
      (fun w hw o d hgist hdeed hcan hturn hkeeps =>
        hw.inTurn_blind hdeed ((hw.gist_spec hgist hcan).2.1 (hturn hkeeps)))
      (hplays hps) (World.goes_of_imp fun hkeeps => (World.goes_append.1 hkeeps).2)
    rw [hafter] at hbetween
    rw [← hrs] at hforetold
    obtain ⟨qs, hqs, horder, htimeline, hworld⟩ := h.fulfils hpoll hbetween hforetold.1
    refine ⟨qs, World.goes_append.2 ⟨(World.goes_append.1 hps).1, hqs⟩, htimeline,
      fun hkeeps => World.goes_append.2 ⟨(World.goes_append.1 hkeeps).1, horder hkeeps⟩, ?_⟩
    refine .of_blind ?_
    rw [hafter, hafter, hforetold.2, hworld]
  · intro ps qs hps hqs hgiven hnow
    refine hdetermined hps.plays hqs.plays ?_ hnow
    have hforetold {ps : List Occurrence} (hps : (s.after os).GoesDuly (·.isGiven) ps) :=
      h.foretells (fun w hw o d hgist hdeed => hw.duly_blind hgist hdeed) hps.plays hps.duly
    have hidle {ps : List Occurrence} (hps : (s.after os).GoesDuly (·.isGiven) ps) :
        ((Erasure.blind L).world ((s.after os).follow ps)).next? = none :=
      World.next?_eq_none fun m => (h.follow ps).attempt_blind (attempt_eq_none hps.rest .session)
        (attempt_eq_none hps.rest .forwardStop) (attempt_eq_none hps.rest m)
    have hend := (hforetold hps).2 ▸ hidle hps
    have hend' := (hforetold hqs).2 ▸ hidle hqs
    rw [hafter, hafter] at hnow
    rw [← hnow] at hend'
    rw [← World.filter_course, ← World.filter_course] at hgiven
    exact World.Foretells.unique (hforetold hps).1 (hnow ▸ (hforetold hqs).1) (h.between ps)
      (hnow ▸ h.between qs) hgiven hend hend'

/-- A run whose device is there at first. -/
def fickle : Supervision (Script.loop []) where
  library := { adding := fun _ => { hold := some 5 } }
  files := .plugged
  loop := {}

/-- A session begins, and the stop flag is raised. -/
def fickleStart : List Occurrence :=
  [.move .cycle, .move .cycle, .pass 5, .move .endCall, .signal .interrupt, .move .takeSignal]

/-- The session is asked to quit as the stop is passed on. -/
def fickleStopped : List Occurrence :=
  [.move .forwardStop, .move .session, .move .endCall]

/-- The session is asked to quit as its device is gone. -/
def fickleGone : List Occurrence :=
  [.files .scratch, .move .watchRemoval, .move .session, .move .endCall]

theorem regardless_fickle :
    (fickle.after fickleStart).coordinator.stop.isRaised = true ∧
      (fickle.after (fickleStart ++ fickleStopped)).chronicle.metrics.devicePresent = some true ∧
        (fickle.after (fickleStart ++ fickleGone)).chronicle.metrics.devicePresent = some false ∧
          (fickle.after (fickleStart ++ fickleStopped)).AgreesBlindly
            (fickle.after (fickleStart ++ fickleGone)) :=
  ⟨by decide +kernel, by decide +kernel, by decide +kernel,
    (regardless fickle fickleStart (by decide +kernel)).determined fickleStopped fickleGone
      (by decide +kernel) (by decide +kernel) (by decide +kernel) (by decide +kernel)⟩

end Supervision

end Hotplug
