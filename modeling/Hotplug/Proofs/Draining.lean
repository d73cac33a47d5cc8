import Hotplug.Proofs.Erasure.Quiet
import Hotplug.Proofs.Teardown
import Hotplug.Session.Script

/-!
# Event loops that drain their queue

An event loop that takes notifications until there are no more does nothing that anybody notices,
however many notifications it finds.

* `EventLoop.Draining` — such a loop.
* `World.Tended` — the event loop of a world has not left its course.
* `World.Tended.step` — what a move of the event loop comes to.
* `World.Tended.catchUp` — the event loop does all that it has to do at the moment.
-/

namespace Hotplug

/-- An event loop that takes notifications until there are no more and then returns.  It may drop
what it has taken before it takes the next one. -/
structure EventLoop.Draining (L : EventLoop) where
  /-- Whether the loop has not been told that there are no more. -/
  taking : L.State → Prop
  /-- How many times it drops something before it takes the next notification. -/
  drops : L.State → Nat
  enter : ∀ x n d, taking (L.enter x n d)
  goesOn : ∀ x, taking x →
    (L.request x = .nextEvent ∧ (∀ e, taking (L.resume x (.event e))) ∧
        L.request (L.resume x .noMore) = .finish) ∨
      (((∃ i, L.request x = .drop i) ∨ L.request x = .dropAll) ∧ taking (L.resume x .done) ∧
        drops (L.resume x .done) < drops x)

/-- The loop without a script takes each notification and drops it at once. -/
def Script.draining : (Script.loop []).Draining where
  taking p := p.rest = [.drain]
  drops p := if p.mustDrop then 1 else 0
  enter _ _ _ := rfl
  goesOn := by
    rintro ⟨runs, rest, isKeeping, mustDrop⟩ (rfl : rest = [.drain])
    cases mustDrop with
    | true => exact .inr ⟨.inl ⟨0, rfl⟩, rfl, Nat.zero_lt_one⟩
    | false => exact .inl ⟨rfl, fun _ => rfl, rfl⟩

namespace World

variable {L : EventLoop} {w w' : World L}

/-! ## Where the event loop stands -/

section Loop

variable (w : World L)

theorem loop_driveLoopback (k : CallKind) : (w.driveLoopback k).loop = w.loop := by
  unfold driveLoopback
  split
  · rfl
  · cases k <;> rfl

theorem loop_beginCall (k : CallKind) : (w.beginCall k).loop = w.loop :=
  loop_driveLoopback (w.write (·.record (.callBegan k))) k

theorem loop_abandonSession : w.abandonSession.loop = w.loop := by
  unfold abandonSession
  split <;> rfl

theorem loop_dropHeldManager : w.dropHeldManager.loop = w.loop := by
  unfold dropHeldManager
  split <;> rfl

theorem loop_cancelCycle : w.cancelCycle.loop = w.loop := by
  unfold cancelCycle
  split
  case h_5 => rfl
  all_goals exact (loop_dropHeldManager _).trans (loop_abandonSession w)

theorem loop_coordinated (k : Coordinator) (c : Chronicle) : (w.coordinated k c).loop = w.loop := by
  unfold coordinated
  dsimp only
  split
  · exact loop_cancelCycle _
  · rfl

theorem loop_raiseQuit (child : Child) (r : QuitReason) : (w.raiseQuit child r).loop = w.loop := by
  unfold raiseQuit
  dsimp only
  split
  · rfl
  · split <;> rfl

end Loop

/-- The event loop is left as it was, by whatever happens. -/
structure Spares (w w' : World L) : Prop where
  loop : w'.loop = w.loop
  phase : ∀ s' ∈ w'.session, ∀ x' p, s'.stage = .running x' p →
    ∃ s ∈ w.session, ∃ x, s.stage = .running x p

namespace Spares

theorem of_session (hloop : w'.loop = w.loop) (hs : w'.session = w.session) : w.Spares w' where
  loop := hloop
  phase s' hs' x _ hst := ⟨s', hs ▸ hs', x, hst⟩

theorem of_idle (hloop : w'.loop = w.loop) {s : Session} (hs : w'.session = some s)
    (hst : ∀ x p, s.stage ≠ .running x p) : w.Spares w' where
  loop := hloop
  phase s' hs' x p hst' := by
    rw [hs] at hs'
    obtain rfl := Option.some.inj hs'
    exact absurd hst' (hst x p)

theorem of_running (hloop : w'.loop = w.loop) {s s' : Session} {x x' : Executor} {p : LoopPhase}
    (hs : w.session = some s) (hst : s.stage = .running x p) (hs' : w'.session = some s')
    (hst' : s'.stage = .running x' p) : w.Spares w' where
  loop := hloop
  phase t ht y q hty := by
    rw [hs'] at ht
    obtain rfl := Option.some.inj ht
    obtain ⟨rfl, rfl⟩ := Stage.running.inj (hst'.symm.trans hty)
    exact ⟨s, hs, x, hst⟩

end Spares

/-- No move but those of the event loop and of the library changes how far the event loop has
come. -/
theorem phase_of_act {f f' : Scene} {m : Move} (hloop : m ≠ .eventLoop) (hcall : m ≠ .endCall)
    (h : f.Act m f') : ∀ s' ∈ f'.session, ∀ x' p, s'.stage = .running x' p →
      ∃ s ∈ f.session, ∃ x, s.stage = .running x p := by
  intro s' hs' x' p hst
  cases h with
  | fire | firstSignal | ignoreSignals | beginStop | beginWaiting | keepWaiting | keepWatching =>
    exact ⟨s', hs', x', hst⟩
  | decide => exact ⟨s', Scene.session_decide hs', x', hst⟩
  | secondSignal s b =>
    have hmem : s' ∈ ((f.put (f.conduct.setSignals b)).tell (.signalTaken s)).session :=
      Scene.session_decide hs'
    exact ⟨s', hmem, x', hst⟩
  | beginSession =>
    obtain rfl := Option.some.inj hs'
    cases hst
  | skipStopped | sessionEnded | skipEnded => cases hs'
  | keepSkipping =>
    obtain rfl := Option.some.inj hs'
    cases hst
  | beginRemoval s loop r hs hstage =>
    rw [Scene.session_requestRemoval] at hs'
    obtain rfl := Option.some.inj hs'
    obtain ⟨-, rfl⟩ := Stage.running.inj hst
    exact ⟨s, hs, _, hstage⟩
  | stopForwarded | removalSeen =>
    obtain ⟨s, hs, rfl⟩ := Option.map_eq_some_iff.1 hs'
    refine ⟨s, hs, x', ?_⟩
    split at hst <;> exact hst
  | loopWent | loopEnded | loopPanicked => exact absurd rfl hloop
  | added | skipped | addPanicked | driverRemoved | removalFailed | stopped | lateEnd =>
    exact absurd rfl hcall

/-- No move but those of the event loop and of the library touches the event loop. -/
theorem loop_attempt {m : Move} (hloop : m ≠ .eventLoop) (hcall : m ≠ .endCall)
    (hw : w.attempt m = some w') : w'.loop = w.loop := by
  cases m with
  | fireTimer =>
    obtain ⟨r, -, rfl⟩ := Option.map_eq_some_iff.1 (show w.fireTimer? = some w' from hw)
    rfl
  | decide =>
    obtain ⟨r, -, rfl⟩ := Option.map_eq_some_iff.1 (show w.decide? = some w' from hw)
    exact loop_coordinated w r.1 r.2
  | takeSignal =>
    obtain ⟨r, -, rfl⟩ := Option.map_eq_some_iff.1 (show w.takeSignal? = some w' from hw)
    exact loop_coordinated w r.1 r.2
  | cycle =>
    have hcycle : w.cycle? = some w' := hw
    unfold cycle? at hcycle
    repeat' split at hcycle
    all_goals cases hcycle
    all_goals first | rfl | exact loop_beginCall _ _
  | session =>
    have hsession : w.session? = some w' := hw
    unfold session? at hsession
    split at hsession
    · cases hsession
    · split at hsession
      · split at hsession
        · exact Option.some.inj hsession ▸ rfl
        · cases hsession
      · obtain ⟨r, -, rfl⟩ := Option.map_eq_some_iff.1 hsession
        exact loop_beginCall _ _
      · exact Option.some.inj hsession ▸ rfl
      · cases hsession
  | skip =>
    have hskip : w.skip? = some w' := hw
    unfold skip? at hskip
    repeat' split at hskip
    all_goals cases hskip
    all_goals rfl
  | forwardStop =>
    have hforward : w.forwardStop? = some w' := hw
    unfold forwardStop? at hforward
    split at hforward
    · obtain ⟨child, -, rfl⟩ := Option.map_eq_some_iff.1 hforward
      exact loop_raiseQuit w child .shutdown
    · cases hforward
  | watchRemoval =>
    obtain ⟨⟨child, wait⟩, -, hlook⟩ :=
      Option.map_eq_some_iff.1 (show w.watchRemoval? = some w' from hw)
    dsimp only at hlook
    split at hlook
    · exact hlook ▸ rfl
    · exact hlook ▸ loop_raiseQuit _ child .deviceRemoved
  | eventLoop => exact absurd rfl hloop
  | endCall => exact absurd rfl hcall

/-- The event loop has begun with a session. -/
def Enters (w' : World L) : Prop :=
  ∃ s x n d σ, w'.session = some s ∧ s.stage = .running x .active ∧ w'.loop = L.enter σ n d

/-! ### Calls that end -/

theorem activated_spares (s : Session) (timer : TimerId) (ok : Bool) :
    w.Spares (w.activated s timer ok) ∨ (w.activated s timer ok).Enters := by
  unfold activated
  dsimp only
  split
  · exact .inr ⟨_, _, _, _, _, rfl, rfl, rfl⟩
  · split
    · exact .inr ⟨_, _, _, _, _, rfl, rfl, rfl⟩
    · exact .inl (.of_idle rfl rfl (by rintro _ _ ⟨⟩))

theorem addEnded_spares (r : CallResult) :
    w.Spares (w.addEnded r) ∨ (w.addEnded r).Enters := by
  unfold addEnded
  split
  · rename_i s _
    split
    · rename_i timer ok _
      exact (activated_spares (w := { w with manager := .held }) s timer ok).imp_left
        fun h => ⟨h.loop, h.phase⟩
    · exact .inl (.of_idle rfl rfl (by rintro _ _ ⟨⟩))
    · exact .inl (.of_session rfl rfl)
  · exact .inl (.of_session rfl rfl)

theorem removeEnded_spares (r : CallResult) : w.Spares (w.removeEnded r) := by
  unfold removeEnded
  split
  · rename_i s hs
    split
    · rename_i hst
      exact .of_running rfl hs hst rfl rfl
    · rename_i hst
      exact .of_running rfl hs hst rfl rfl
    · rename_i hst
      exact .of_running rfl hs hst rfl rfl
    · exact .of_session rfl rfl
  · exact .of_session rfl rfl

theorem stopEnded_spares (r : CallResult) : w.Spares (w.stopEnded r) := by
  unfold stopEnded
  dsimp only
  split
  · cases r <;> exact .of_session rfl rfl
  · exact .of_session rfl rfl

theorem endCall?_spares (hw : w.endCall? = some w') : w.Spares w' ∨ w'.Enters := by
  obtain ⟨call, -, rfl⟩ := Option.map_eq_some_iff.1 hw
  let v :=
    { w with calls := w.calls.erase call }.write (·.record (.callEnded call.kind call.result))
  have hv {v' : World L} (h : v.Spares v') : w.Spares v' := ⟨h.loop, h.phase⟩
  dsimp only
  split
  · exact (addEnded_spares (w := v) call.result).imp_left hv
  · exact .inl (hv (removeEnded_spares (w := v) call.result))
  · exact .inl (hv (stopEnded_spares (w := v) call.result))

theorem attempt_spares (h : w.frame.Orderly) {m : Move} (hm : m ≠ .eventLoop)
    (hw : w.attempt m = some w') : w.Spares w' ∨ w'.Enters := by
  by_cases hcall : m = .endCall
  · subst hcall
    exact endCall?_spares hw
  · exact .inl ⟨loop_attempt hm hcall hw, phase_of_act hm hcall (act_attempt h hw)⟩

/-! ## A loop on its course -/

/-- The event loop of a world is on its course: it is under way and has either not been told that
there are no more notifications, or is about to return. -/
def Tended (w : World L) (D : L.Draining) : Prop :=
  ∀ s ∈ w.session, ∀ x p, s.stage = .running x p →
    p = .returned ∨ p = .active ∧ (D.taking w.loop ∨ L.request w.loop = .finish)

namespace Tended

variable {D : L.Draining} {s : Session} {x : Executor} {p : LoopPhase}

theorem of_none (hs : w.session = none) : w.Tended D := by
  intro s hs'
  rw [hs] at hs'
  cases hs'

theorem of_some (hs : w.session = some s) (hst : s.stage = .running x .active)
    (hloop : D.taking w.loop ∨ L.request w.loop = .finish) : w.Tended D := by
  intro t ht y q hty
  rw [hs] at ht
  obtain rfl := Option.some.inj ht
  obtain ⟨-, rfl⟩ := Stage.running.inj (hst.symm.trans hty)
  exact .inr ⟨rfl, hloop⟩

theorem of_returned (hs : w.session = some s) (hst : s.stage = .running x .returned) :
    w.Tended D := by
  intro t ht y q hty
  rw [hs] at ht
  obtain rfl := Option.some.inj ht
  exact .inl (Stage.running.inj (hst.symm.trans hty)).2.symm

theorem spared (h : w.Tended D) (hw : w.Spares w') : w'.Tended D := by
  intro s' hs' x' p hst
  obtain ⟨s, hs, x, hst⟩ := hw.phase s' hs' x' p hst
  rw [hw.loop]
  exact h s hs x p hst

theorem entered (hw : w'.Enters) : w'.Tended D := by
  obtain ⟨s, x, n, d, σ, hs, hst, hloop⟩ := hw
  exact .of_some hs hst (.inl (hloop ▸ D.enter σ n d))

end Tended

theorem eventLoop?_eq {s : Session} {x : Executor} (hs : w.session = some s)
    (hst : s.stage = .running x .active) : w.eventLoop? = w.serve? s x .active := by
  unfold eventLoop?
  simp only [hs, hst]

section Serve

variable (s : Session) (x : Executor) (p : LoopPhase)

theorem serve?_nextEvent (h : L.request w.loop = .nextEvent) :
    w.serve? s x p =
      if s.isQuitting then some (w.reply s x .noMore) else w.handOver? s x .noMore := by
  unfold serve?
  rw [h]

theorem serve?_drop {i : Nat} (h : L.request w.loop = .drop i) :
    w.serve? s x p =
      some ({ w with
        held := w.held.eraseIdx i
        chronicle := w.chronicle.releaseAll w.held[i]?.toList }.reply s x .done) := by
  unfold serve?
  rw [h]

theorem serve?_dropAll (h : L.request w.loop = .dropAll) :
    w.serve? s x p =
      some ({ w with held := [], chronicle := w.chronicle.releaseAll w.held }.reply s x .done) := by
  unfold serve?
  rw [h]

theorem serve?_finish (h : L.request w.loop = .finish) :
    w.serve? s x p =
      some ((w.write (·.record (.loopEnded s.id))).setSession
        { s with stage := .running x .returned }) := by
  unfold serve?
  rw [h]

end Serve

/-- What a move of an event loop on its course can come to. -/
inductive Turn (D : L.Draining) (w w' : World L) : Prop where
  /-- It takes a notification. -/
  | took (h : D.taking w'.loop) (hfewer : w'.queue.items.length < w.queue.items.length)
  /-- It drops something that it took. -/
  | dropped (h : D.taking w'.loop) (hsame : w'.queue.items = w.queue.items)
      (hfewer : D.drops w'.loop < D.drops w.loop)
  /-- It learns that there are no more notifications. -/
  | told (h : L.request w'.loop = .finish)
  | returned (h : w'.eventLoop? = none)

namespace Tended

variable {D : L.Draining} {s : Session} {x : Executor} {p : LoopPhase}

/-- Nobody else notices how far the event loop has come. -/
theorem quiet_phase {v : World L} (hv : (Erasure.quiet L).world v = (Erasure.quiet L).world w)
    (hs : w.session = some s) (hst : s.stage = .running x .active) (p : LoopPhase) :
    (Erasure.quiet L).world (v.setSession { s with stage := .running x p }) =
      (Erasure.quiet L).world w := by
  have hsession : (Erasure.quiet L).session { s with stage := .running x p } =
      (Erasure.quiet L).session s := by
    simp only [Erasure.session, hst]
    rfl
  rw [Erasure.Lawful.setSession, hv, ← Erasure.Lawful.setSession]
  exact Erasure.Lawful.keepSession w hs hsession

/-- The reply is all that comes of a request. -/
theorem quiet_reply {v : World L} (hv : (Erasure.quiet L).world v = (Erasure.quiet L).world w)
    (hs : w.session = some s) (hst : s.stage = .running x .active) (r : Reply) :
    (Erasure.quiet L).world (v.reply s x r) = (Erasure.quiet L).world w := by
  have hrecord : (Erasure.quiet L).world (v.write (·.record (.loopReplied s.id r))) =
      (Erasure.quiet L).world w :=
    (Erasure.Lawful.record_of_hides v rfl).trans hv
  exact quiet_phase hrecord hs hst .active

/-- The event loop goes on only if it is under way. -/
theorem active (h : w.Tended D) (hw : w.eventLoop? = some w') :
    ∃ s x, w.session = some s ∧ s.stage = .running x .active ∧ w.serve? s x .active = some w' ∧
      (D.taking w.loop ∨ L.request w.loop = .finish) := by
  unfold eventLoop? at hw
  split at hw
  · cases hw
  · rename_i s hs
    split at hw
    · rename_i x hst
      rcases h s hs x .active hst with hret | ⟨-, hloop⟩
      · cases hret
      · exact ⟨s, x, hs, hst, hw, hloop⟩
    · rename_i x wake hst
      rcases h s hs x _ hst with hret | ⟨hactive, -⟩
      · cases hret
      · cases hactive
    · cases hw

/-- A move of the event loop leaves it on its course, and nobody else notices it. -/
theorem step (h : w.Tended D) (hw : w.eventLoop? = some w') :
    w'.Tended D ∧ (Erasure.quiet L).world w' = (Erasure.quiet L).world w ∧ Turn D w w' := by
  obtain ⟨s, x, hs, hst, hserve, hloop⟩ := h.active hw
  rcases hloop with htaking | hfinish
  · rcases D.goesOn w.loop htaking with ⟨hrequest, hevent, hnoMore⟩ | ⟨hrequest, hdone, hfewer⟩
    · -- It asks for the next notification.
      have htold : (w.reply s x .noMore).Tended D ∧
          (Erasure.quiet L).world (w.reply s x .noMore) = (Erasure.quiet L).world w ∧
          Turn D w (w.reply s x .noMore) :=
        ⟨.of_some rfl rfl (.inr hnoMore), quiet_reply rfl hs hst _, .told hnoMore⟩
      rw [serve?_nextEvent s x _ hrequest] at hserve
      split at hserve
      · exact Option.some.inj hserve ▸ htold
      · unfold handOver? at hserve
        split at hserve
        · rename_i k q hreceive
          obtain rfl := Option.some.inj hserve
          refine ⟨.of_some rfl rfl (.inl (hevent k.event)), quiet_reply rfl hs hst _,
            .took (hevent k.event) ?_⟩
          unfold Queue.receive at hreceive
          split at hreceive
          · rename_i k' rest hitems
            obtain ⟨-, rfl⟩ := Prod.mk.inj hreceive
            change rest.length < w.queue.items.length
            rw [hitems]
            exact Nat.lt_succ_self _
          · have hitem := (Prod.mk.inj hreceive).1
            split at hitem <;> cases hitem
        · cases hserve
        · exact Option.some.inj hserve ▸ htold
    · -- It drops something.
      have hreleased (held ks : List Notification)
          (hreply : ({ w with
            held := held
            chronicle := w.chronicle.releaseAll ks } : World L).reply s x .done = w') :
          w'.Tended D ∧ (Erasure.quiet L).world w' = (Erasure.quiet L).world w ∧ Turn D w w' := by
        obtain rfl := hreply
        have hquiet := congrArg (fun c => { (Erasure.quiet L).world w with chronicle := c })
          (Veil.quiet_releaseAll w.chronicle ks)
        exact ⟨.of_some rfl rfl (.inl hdone), quiet_reply hquiet hs hst _,
          .dropped hdone rfl hfewer⟩
      rcases hrequest with ⟨i, hrequest⟩ | hrequest
      · rw [serve?_drop s x _ hrequest] at hserve
        exact hreleased _ _ (Option.some.inj hserve)
      · rw [serve?_dropAll s x _ hrequest] at hserve
        exact hreleased _ _ (Option.some.inj hserve)
  · -- It returns.
    rw [serve?_finish s x _ hfinish] at hserve
    obtain rfl := Option.some.inj hserve
    exact ⟨.of_returned rfl rfl,
      quiet_phase (Erasure.Lawful.record_of_hides w rfl) hs hst .returned, .returned rfl⟩

/-- The event loop returns as soon as the driver is removed. -/
theorem returned (h : w.Tended D) (hidle : w.eventLoop? = none) (hs : w.session = some s)
    (hquit : s.isQuitting = true) (hst : s.stage = .running x p) : p = .returned := by
  rcases h s hs x p hst with hret | ⟨rfl, hloop⟩
  · exact hret
  · rw [eventLoop?_eq hs hst] at hidle
    rcases hloop with htaking | hfinish
    · rcases D.goesOn w.loop htaking with ⟨hrequest, -⟩ | ⟨⟨i, hrequest⟩ | hrequest, -⟩
      · rw [serve?_nextEvent s x _ hrequest, if_pos hquit] at hidle
        cases hidle
      · rw [serve?_drop s x _ hrequest] at hidle
        cases hidle
      · rw [serve?_dropAll s x _ hrequest] at hidle
        cases hidle
    · rw [serve?_finish s x _ hfinish] at hidle
      cases hidle

end Tended

/-! ## Catching up -/

/-- The event loop does all that it has to do at the moment. -/
structure CatchesUp (D : L.Draining) (w : World L) (os : List Occurrence) : Prop where
  loops : ∀ o ∈ os, o = .move .eventLoop
  plays : w.Plays os
  tended : (w.follow os).Tended D
  quiet : (Erasure.quiet L).world (w.follow os) = (Erasure.quiet L).world w
  idle : (w.follow os).eventLoop? = none

namespace CatchesUp

variable {D : L.Draining} {os : List Occurrence}

theorem nil (h : w.Tended D) (hidle : w.eventLoop? = none) : CatchesUp D w [] :=
  ⟨List.forall_mem_nil _, trivial, h, rfl, hidle⟩

theorem cons (h : w.Tended D) (hw : w.eventLoop? = some w') (hos : CatchesUp D w' os) :
    CatchesUp D w (.move .eventLoop :: os) := by
  have hoccur : w.occur (.move .eventLoop) = w' := occur_move hw
  have hfollow : w.follow (.move .eventLoop :: os) = w'.follow os :=
    congrArg (fun v : World L => v.follow os) hoccur
  refine ⟨List.forall_mem_cons.2 ⟨rfl, hos.loops⟩, ?_, hfollow ▸ hos.tended, ?_, hfollow ▸ hos.idle⟩
  · have hsome : (w.attempt .eventLoop).isSome = true := Option.isSome_of_eq_some hw
    exact ⟨hsome, hoccur ▸ hos.plays⟩
  · rw [hfollow, hos.quiet, (h.step hw).2.1]

/-- The event loop catches up in the order of the schedule if it is its turn. -/
theorem keepsOrder (h : w.Tended D) (hos : CatchesUp D w os)
    (hearly : ∀ m ∈ Move.eventLoop.earlier, w.attempt m = none) : w.KeepsOrder os := by
  obtain ⟨hloops, hplays, -, -, -⟩ := hos
  induction os generalizing w with
  | nil => trivial
  | cons o os ih =>
    obtain ⟨rfl, hrest⟩ := List.forall_mem_cons.1 hloops
    obtain ⟨hsome, hplays⟩ := hplays
    obtain ⟨w', hw⟩ := Option.isSome_iff_exists.1 hsome
    have hoccur : w.occur (.move .eventLoop) = w' := occur_move hw
    obtain ⟨htended, hquiet, -⟩ := h.step hw
    refine ⟨inTurn_iff.2 ⟨hsome, hearly⟩, ?_⟩
    rw [hoccur] at hplays ⊢
    refine ih htended (fun m hm => ?_) hrest hplays
    have hattempt := Erasure.quiet_early hquiet hm
    rw [hearly m hm] at hattempt
    simpa using hattempt

end CatchesUp

/-- An event loop that returns has nothing to do after that. -/
theorem Tended.idle_of_finish {D : L.Draining} (h : w.Tended D)
    (hfinish : L.request w.loop = .finish) (hw : w.eventLoop? = some w') :
    w'.eventLoop? = none := by
  obtain ⟨s, x, -, -, hserve, -⟩ := h.active hw
  rw [serve?_finish s x _ hfinish] at hserve
  obtain rfl := Option.some.inj hserve
  rfl

/-- An event loop on its course comes to a point at which it has nothing to do.  It takes what is
in the queue, and drops only so much after each notification. -/
theorem Tended.catchUp {D : L.Draining} {w : World L} (h : w.Tended D) :
    ∃ os, CatchesUp D w os := by
  cases hw : w.eventLoop? with
  | none => exact ⟨[], .nil h hw⟩
  | some w' =>
    obtain ⟨htended, -, hturn⟩ := h.step hw
    cases hturn with
    | took _ hfewer =>
      obtain ⟨os, hos⟩ := htended.catchUp
      exact ⟨_, .cons h hw hos⟩
    | dropped _ hsame hfewer =>
      obtain ⟨os, hos⟩ := htended.catchUp
      exact ⟨_, .cons h hw hos⟩
    | told hfinish =>
      cases hw' : w'.eventLoop? with
      | none => exact ⟨_, .cons h hw (.nil htended hw')⟩
      | some w'' =>
        have hidle := htended.idle_of_finish hfinish hw'
        exact ⟨_, .cons h hw (.cons htended hw' (.nil (htended.step hw').1 hidle))⟩
    | returned hidle => exact ⟨_, .cons h hw (.nil htended hidle)⟩
termination_by (w.queue.items.length, D.drops w.loop)
decreasing_by
  · exact Prod.Lex.left _ _ hfewer
  · rw [hsame]
    exact Prod.Lex.right _ hfewer

end World

end Hotplug
