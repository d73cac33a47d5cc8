import Hotplug.Proofs.Causes
import Hotplug.Proofs.Releases
import Hotplug.Session.Script

/-!
# The aftermath of a run

Once a run has returned, nobody of it is at work any more.  A library call may still be busy and
end, and the library may go on to report, and nothing comes of either.

* `Aftermath` — everything that can come after a run: notifications are turned away, and busy
  calls end.
* `World.Over` — a world that nobody is at work in.
* `World.Lingers` — what one world leaves to a later one when nobody is at work.
* `Supervision.over_of_outcome` — nobody is at work in a run that has returned.
* `Supervision.Returned` — what is left of it.
-/

namespace Hotplug

/-- What a notification leaves behind that nobody takes, newest first. -/
def turnedAway (t : Nat) (n : Notification) : List (Nat × Happening) :=
  (if n.isManaged then [(t, .released n)] else []) ++
    [(t, .refused n), (t, .logged (.notificationDropped n.event.kind) none)]

/-- Everything that can come after a run: notifications are turned away, and the calls that were
busy end.  The happenings are newest first, and the last list has the calls that are busy still. -/
inductive Aftermath (busy : List Call) : List (Nat × Happening) → List Call → Prop where
  | nothing : Aftermath busy [] busy
  | turnedAway {hs : List (Nat × Happening)} {left : List Call} (t : Nat) (n : Notification)
      (h : Aftermath busy hs left) : Aftermath busy (turnedAway t n ++ hs) left
  | callEnded {hs : List (Nat × Happening)} {left : List Call} (t : Nat) (call : Call)
      (h : Aftermath busy hs left) (hcall : call ∈ left) (hover : call.isOver t = true) :
      Aftermath busy ((t, .callEnded call.kind call.result) :: hs) (left.erase call)

namespace Aftermath

variable {busy left left' : List Call} {hs ks : List (Nat × Happening)}

theorem trans (h : Aftermath busy hs left) (h' : Aftermath left ks left') :
    Aftermath busy (ks ++ hs) left' := by
  induction h' with
  | nothing => exact h
  | turnedAway t n _ ih =>
    rw [List.append_assoc]
    exact ih.turnedAway t n
  | callEnded t call _ hcall hover ih => exact ih.callEnded t call hcall hover

/-- No call is busy that was not before. -/
theorem subset (h : Aftermath busy hs left) : left ⊆ busy := by
  induction h with
  | nothing => exact List.Subset.refl _
  | turnedAway t n h ih => exact ih
  | callEnded t call h hcall hover ih => exact fun _ ha => ih (List.mem_of_mem_erase ha)

/-- Whatever comes is about a notification that nobody takes, or the end of a busy call. -/
theorem mem (h : Aftermath busy hs left) : ∀ e ∈ hs,
    (∃ n, e ∈ Hotplug.turnedAway e.1 n) ∨
      ∃ call ∈ busy, call.isOver e.1 = true ∧ e.2 = .callEnded call.kind call.result := by
  induction h with
  | nothing => simp
  | turnedAway t n h ih =>
    intro e he
    rcases List.mem_append.1 he with he | he
    · have htime : e.1 = t := by
        unfold Hotplug.turnedAway at he
        split at he <;> simp at he <;> rcases he with rfl | rfl | rfl <;> rfl
      exact .inl ⟨n, htime ▸ he⟩
    · exact ih e he
  | callEnded t call h hcall hover ih =>
    intro e he
    rcases List.mem_cons.1 he with rfl | he
    · exact .inr ⟨call, h.subset hcall, hover, rfl⟩
    · exact ih e he

end Aftermath

namespace Queue

/-- A notification that nobody takes is turned away. -/
theorem deliverAll_of_receiver_dropped {q : Queue} (h : q.receiver = .dropped) (c : Chronicle)
    (ks : List Notification) :
    (q.deliverAll c ks).2.1 = q ∧ (q.deliverAll c ks).2.2.now = c.now ∧
      (q.deliverAll c ks).2.2.metrics = c.metrics ∧
        ∃ new, (q.deliverAll c ks).2.2.happenings = new ++ c.happenings ∧
          ∀ busy, Aftermath busy new busy := by
  induction ks generalizing c with
  | nil => exact ⟨rfl, rfl, rfl, [], rfl, fun _ => .nothing⟩
  | cons k ks ih =>
    let c' := ((c.log (.notificationDropped k.event.kind)).record (.refused k)).release k
    have hdeliver : q.deliver c k = (false, q, c') := by
      unfold deliver
      rw [h]
    have hnow : c'.now = c.now := by
      simp only [c', Chronicle.release]
      split <;> rfl
    have hmetrics : c'.metrics = c.metrics := by
      simp only [c', Chronicle.release]
      split <;> rfl
    have hnew : c'.happenings = turnedAway c.now k ++ c.happenings := by
      simp only [c', Chronicle.release, turnedAway, Notification.isManaged]
      split <;> simp_all [Chronicle.record, Chronicle.log]
    obtain ⟨hq, hnow', hmetrics', new, hnew', hafter⟩ := ih c'
    rw [deliverAll, hdeliver]
    refine ⟨hq, hnow'.trans hnow, hmetrics'.trans hmetrics, new ++ turnedAway c.now k, ?_, ?_⟩
    · rw [List.append_assoc, ← hnew]
      exact hnew'
    · intro busy
      have hfirst : Aftermath busy (turnedAway c.now k ++ []) busy :=
        Aftermath.nothing.turnedAway _ _
      rw [List.append_nil] at hfirst
      exact hfirst.trans (hafter busy)

end Queue

namespace World

variable {L : EventLoop} {w w' w'' : World L}

theorem cycle?_of_isOver (h : w.cycle.isOver = true) : w.cycle? = none := by
  unfold cycle?
  cases hc : w.cycle with
  | deciding | waiting =>
    rw [hc] at h
    cases h
  | _ => rfl

/-- A world that nobody is at work in. -/
structure Over (w : World L) : Prop where
  decided : ∃ t, w.coordinator.phase = .decided t
  armed : w.coordinator.timers.armed = []
  cycle : w.cycle.isOver = true
  session : w.session = none
  children : w.children = []
  receiver : w.queue.receiver = .dropped
  items : w.queue.items = []

/-- What becomes of a world when nobody is at work: notifications are turned away and busy calls
end, and everything else is left as it was. -/
structure Lingers (w w' : World L) : Prop where
  /-- Neither is a termination decided nor does the supervisor's own loop go on. -/
  outcome : w'.outcome? = w.outcome?
  phase : w'.coordinator.phase = w.coordinator.phase
  cycle : w'.cycle = w.cycle
  /-- No timer is armed, and none fires. -/
  timers : w'.coordinator.timers = w.coordinator.timers
  sessions : w'.sessionCount = w.sessionCount
  loop : w'.loop = w.loop
  held : w'.held = w.held
  metrics : w'.chronicle.metrics = w.chronicle.metrics
  later : w.now ≤ w'.now
  aftermath : ∃ new, w'.chronicle.happenings = new ++ w.chronicle.happenings ∧
    Aftermath w.calls new w'.calls

namespace Lingers

theorem refl (w : World L) : w.Lingers w :=
  ⟨rfl, rfl, rfl, rfl, rfl, rfl, rfl, rfl, Nat.le_refl _, [], rfl, .nothing⟩

theorem trans (h : w.Lingers w') (h' : w'.Lingers w'') : w.Lingers w'' where
  outcome := h'.outcome.trans h.outcome
  phase := h'.phase.trans h.phase
  cycle := h'.cycle.trans h.cycle
  timers := h'.timers.trans h.timers
  sessions := h'.sessions.trans h.sessions
  loop := h'.loop.trans h.loop
  held := h'.held.trans h.held
  metrics := h'.metrics.trans h.metrics
  later := Nat.le_trans h.later h'.later
  aftermath := by
    obtain ⟨new, hnew, hafter⟩ := h.aftermath
    obtain ⟨new', hnew', hafter'⟩ := h'.aftermath
    exact ⟨new' ++ new, by rw [hnew', hnew, List.append_assoc], hafter.trans hafter'⟩

end Lingers

namespace Over

theorem isRunning (h : w.Over) : w.coordinator.isRunning = false := by
  obtain ⟨t, ht⟩ := h.decided
  simp [Coordinator.isRunning, ht]

/-- Nobody has anything to do but the library. -/
theorem attempt_eq_none (h : w.Over) {m : Move} (hm : m ≠ .endCall) : w.attempt m = none := by
  obtain ⟨t, ht⟩ := h.decided
  cases m with
  | fireTimer => simp [attempt, fireTimer?, Coordinator.fireTimer?, Timers.due?, h.armed]
  | decide => simp [attempt, decide?, Coordinator.decidePosted?, h.isRunning]
  | takeSignal => simp [attempt, takeSignal?, Coordinator.takeSignal?, ht]
  | cycle => exact cycle?_of_isOver h.cycle
  | eventLoop => simp [attempt, eventLoop?, h.session]
  | session => simp [attempt, session?, h.session]
  | skip => simp [attempt, skip?, h.session]
  | forwardStop => simp [attempt, forwardStop?, h.children]
  | watchRemoval => simp [attempt, watchRemoval?, h.children]
  | endCall => exact absurd rfl hm

/-- The end of a busy call is all that comes of it. -/
theorem endCall?_eq (h : w.Over) :
    w.endCall? = (w.calls.find? (Call.isOver w.now)).map fun call =>
      ({ w with calls := w.calls.erase call }.write
        (·.record (.callEnded call.kind call.result))).dropManager := by
  unfold endCall?
  congr 1
  funext call
  have hsession := h.session
  have hover := h.cycle
  cases hkind : call.kind with
  | add => simp [addEnded, write, hsession]
  | remove => simp [removeEnded, write, hsession]
  | stop =>
    simp only [stopEnded, dropManager, write]
    split
    · rename_i hc
      rw [hc] at hover
      cases hover
    · rfl

/-- A world that only differs in what nobody waits for any more. -/
theorem congr (h : w.Over) (hphase : w'.coordinator.phase = w.coordinator.phase)
    (htimers : w'.coordinator.timers = w.coordinator.timers) (hcycle : w'.cycle = w.cycle)
    (hsession : w'.session = w.session) (hchildren : w'.children = w.children)
    (hreceiver : w'.queue.receiver = w.queue.receiver) (hitems : w'.queue.items = w.queue.items) :
    w'.Over where
  decided := hphase ▸ h.decided
  armed := htimers ▸ h.armed
  cycle := hcycle ▸ h.cycle
  session := hsession.trans h.session
  children := hchildren.trans h.children
  receiver := hreceiver.trans h.receiver
  items := hitems.trans h.items

theorem endCall (h : w.Over) (hs : w.endCall? = some w') : w'.Over ∧ w.Lingers w' := by
  rw [h.endCall?_eq, Option.map_eq_some_iff] at hs
  obtain ⟨call, hfind, rfl⟩ := hs
  refine ⟨h.congr rfl rfl rfl rfl rfl rfl rfl,
    rfl, rfl, rfl, rfl, rfl, rfl, rfl, rfl, Nat.le_refl _, [_], rfl, ?_⟩
  exact .callEnded w.now call .nothing (List.mem_of_find?_eq_some hfind) (List.find?_some hfind)

theorem notify (h : w.Over) (ns : List Notification) :
    (w.notify ns).2.Over ∧ w.Lingers (w.notify ns).2 := by
  obtain ⟨hq, hnow, hmetrics, new, hnew, hafter⟩ :=
    Queue.deliverAll_of_receiver_dropped h.receiver w.chronicle ns
  unfold World.notify
  split
  · refine ⟨h.congr rfl rfl rfl rfl rfl (congrArg Queue.receiver hq) (congrArg Queue.items hq), ?_⟩
    exact ⟨rfl, rfl, rfl, rfl, rfl, rfl, rfl, hmetrics, Nat.le_of_eq hnow.symm, new, hnew,
      hafter w.calls⟩
  · exact ⟨h, .refl w⟩

theorem move (h : w.Over) (m : Move) :
    (w.occur (.move m)).Over ∧ w.Lingers (w.occur (.move m)) := by
  change ((w.attempt m).getD w).Over ∧ w.Lingers ((w.attempt m).getD w)
  cases hs : w.attempt m with
  | none =>
    rw [Option.getD_none]
    exact ⟨h, .refl w⟩
  | some v =>
    have hend : m = .endCall := Decidable.byContradiction fun hm => by
      rw [h.attempt_eq_none hm] at hs
      cases hs
    subst hend
    rw [Option.getD_some]
    exact h.endCall hs

theorem pass (h : w.Over) (time : Nat) :
    (w.occur (.pass time)).Over ∧ w.Lingers (w.occur (.pass time)) := by
  change ((if w.mayPass time then w.atTime time else w).Over) ∧
    w.Lingers (if w.mayPass time then w.atTime time else w)
  split
  · rename_i hmay
    have hle : w.now ≤ time := by
      simp only [mayPass, Bool.and_eq_true, decide_eq_true_eq] at hmay
      exact hmay.1.2
    refine ⟨h.congr rfl rfl rfl rfl rfl rfl rfl, ?_⟩
    exact ⟨rfl, rfl, rfl, rfl, rfl, rfl, rfl, rfl, hle, [], rfl, .nothing⟩
  · exact ⟨h, .refl w⟩

/-- Whatever happens to a world that nobody is at work in, it lingers. -/
theorem occur (h : w.Over) (o : Occurrence) : (w.occur o).Over ∧ w.Lingers (w.occur o) := by
  cases o with
  | move m => exact h.move m
  | pass time => exact h.pass time
  | notify ns => exact h.notify ns
  | signal | closeSignals | files | detach =>
    refine ⟨h.congr rfl rfl rfl rfl rfl rfl rfl, ?_⟩
    exact ⟨rfl, rfl, rfl, rfl, rfl, rfl, rfl, rfl, Nat.le_refl _, [], rfl, .nothing⟩

/-- Whatever happens from then on, it lingers. -/
theorem follow (h : w.Over) (os : List Occurrence) :
    (w.follow os).Over ∧ w.Lingers (w.follow os) := by
  induction os generalizing w with
  | nil => exact ⟨h, .refl w⟩
  | cons o os ih =>
    obtain ⟨hover, hlingers⟩ := h.occur o
    obtain ⟨hover', hlingers'⟩ := ih hover
    exact ⟨hover', hlingers.trans hlingers'⟩

end Over

end World

/-! ## Runs -/

namespace Supervision

variable {L : EventLoop} (s : Supervision L)

/-- Nobody is at work in a run that has returned. -/
theorem over_of_outcome (os : List Occurrence) {x : Termination}
    (h : (s.after os).outcome? = some (.ok x)) : (s.after os).Over := by
  have hord := s.orderly_after os
  have hsteer := s.steered_after os
  have hphase : (s.after os).coordinator.phase = .decided x := World.phase_of_outcome? h
  have hcycle : (s.after os).cycle.isOver = true :=
    World.isOver_of_outcome? hord hsteer (by simp [h])
  have hserv := (s.service_eq_over os).2 hcycle
  have hsealed := s.sealed_after os
  have hnone : (s.after os).session = none := by
    refine hord.session_eq_none fun hc => ?_
    rw [show (s.after os).cycle = .inSession from hc] at hcycle
    cases hcycle
  refine ⟨⟨x, hphase⟩, ?_, hcycle, hnone, (s.accompanied_after os).alone hnone,
    hsealed.receiver.1 hserv, hsealed.items hserv⟩
  refine List.eq_nil_iff_forall_not_mem.2 fun a ha => ?_
  have hrun : (s.after os).coordinator.isRunning = true := hsteer.isRunning_of_mem ha
  simp [Coordinator.isRunning, hphase] at hrun

/-- What is left of a run that has returned. -/
structure Returned (os ps : List Occurrence) : Prop where
  /-- No session, no task beside one, no timer and no notification is there any more. -/
  deserted : (s.after (os ++ ps)).Over
  lingers : (s.after os).Lingers (s.after (os ++ ps))
  held : (s.after os).held = []
  /-- At most one call was busy. -/
  busy : (s.after os).calls.length ≤ 1
  happenings : ∀ e ∈ s.since os ps, (∃ n, e ∈ turnedAway e.1 n) ∨
    ∃ call ∈ (s.after os).calls, call.isOver e.1 = true ∧ e.2 = .callEnded call.kind call.result
  /-- Whatever the library reports is refused. -/
  refused : ∀ ns oks, ((s.after (os ++ ps)).notify ns).1 = some oks → ∀ ok ∈ oks, ok = false

/-- **A decided termination is final.**  Once a run has returned, no session, no timer, no task
and no event loop of it goes on.  All that still comes is that a busy call ends, and that
notifications are refused and released. -/
theorem returned_of_outcome (os ps : List Occurrence) {x : Termination}
    (h : (s.after os).outcome? = some (.ok x)) : s.Returned os ps := by
  have hover := s.over_of_outcome os h
  have hfollow : s.after (os ++ ps) = (s.after os).follow ps := World.follow_append _ _ _
  obtain ⟨hover', hlingers⟩ := hover.follow ps
  rw [← hfollow] at hover' hlingers
  have hhappenings : Aftermath (s.after os).calls (s.since os ps) (s.after (os ++ ps)).calls := by
    obtain ⟨new, hnew, hafter⟩ := hlingers.aftermath
    have hsplit : new = s.since os ps :=
      List.append_cancel_right (hnew.symm.trans (s.history_append os ps))
    exact hsplit ▸ hafter
  constructor
  · exact hover'
  · exact hlingers
  · exact (s.sealed_after os).held ((s.service_eq_over os).2 hover.cycle)
  · have hkinds : (s.after os).calls.map (·.kind) = _ := (s.orderly_after os).calls
    rw [← List.length_map (·.kind), hkinds]
    exact Option.length_toList_le
  · exact hhappenings.mem
  · intro ns oks hoks ok hok
    unfold World.notify at hoks
    split at hoks
    · obtain rfl := Option.some.inj hoks
      rw [Queue.deliverAll_of_dropped hover'.receiver] at hok
      obtain ⟨-, -, rfl⟩ := List.mem_map.1 hok
      rfl
    · cases hoks

/-- A run whose library takes too long to add the driver. -/
def tardy : Supervision (Script.loop []) where
  settings := { driver := { activationTimeout := 100 } }
  files := .plugged
  library := { adding := fun _ => { hold := some 500 } }
  loop := {}

/-- What the library of that run reports, too late. -/
def straggler : Notification where
  event := { kind := .driverReady }
  backing := .resource

/-- After the run has returned, its call goes on to report, and ends. -/
theorem returned_of_outcome_tardy :
    (tardy.after busyCourse).outcome? = some (.ok .driverActivationTimeout) ∧
      tardy.since busyCourse [.notify [straggler], .pass 500, .move .endCall] =
          (500, .callEnded .add (.returned true)) :: turnedAway 100 straggler ∧
        tardy.Returned busyCourse [.notify [straggler], .pass 500, .move .endCall] :=
  ⟨rfl, by decide +kernel, returned_of_outcome tardy busyCourse _ rfl⟩

end Supervision

end Hotplug
