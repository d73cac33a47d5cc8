import Hotplug.Proofs.Polling.Desk
import Hotplug.Proofs.Steps.Coordinator

/-!
# What leaves the metrics alone

Of all that the parts of a world do, next to nothing changes the metrics of the supervisor itself.

* `Metrics.own` — the metrics without the counts of notifications.
* `Chronicle.metrics_releaseAll`, `Queue.own_deliverAll`, `Loopback.own_start`, … — what the
  library and the queue do to them.
* `World.own_beginCall`, `World.own_cancelCycle`, … — what the operations of a world do to them.
-/

namespace Hotplug

/-- The metrics of the supervisor itself, without the counts of notifications. -/
def Metrics.own (m : Metrics) : Metrics :=
  { m with notifications := [] }

/-! ## The chronicle -/

namespace Chronicle

variable (c : Chronicle)

@[simp] theorem metrics_record (h : Happening) : (c.record h).metrics = c.metrics := rfl

@[simp] theorem metrics_log (m : Message) (s : Option SessionId) :
    (c.log m s).metrics = c.metrics := rfl

@[simp] theorem metrics_measure (f : Metrics → Metrics) : (c.measure f).metrics = f c.metrics := rfl

@[simp] theorem metrics_release (n : Notification) : (c.release n).metrics = c.metrics := by
  unfold release
  split <;> rfl

/-- What no step changes, all of them leave. -/
theorem metrics_foldl {step : Chronicle → Notification → Chronicle}
    (hstep : ∀ c n, (step c n).metrics = c.metrics) (ns : List Notification) :
    (ns.foldl step c).metrics = c.metrics := by
  induction ns generalizing c with
  | nil => rfl
  | cons n ns ih => exact (ih (step c n)).trans (hstep c n)

@[simp] theorem metrics_releaseAll (ns : List Notification) :
    (c.releaseAll ns).metrics = c.metrics :=
  metrics_foldl c metrics_release ns

end Chronicle

/-! ## The queue and the library -/

namespace Queue

variable (q : Queue) (c : Chronicle)

@[simp] theorem own_deliver (n : Notification) :
    (q.deliver c n).2.2.metrics.own = c.metrics.own := by
  unfold deliver
  split
  · rfl
  · simp

@[simp] theorem own_deliverAll (ns : List Notification) :
    (q.deliverAll c ns).2.2.metrics.own = c.metrics.own := by
  induction ns generalizing q c with
  | nil => rfl
  | cons n ns ih => exact (ih _ _).trans (own_deliver q c n)

@[simp] theorem metrics_dropReceiver : (q.dropReceiver c).2.metrics = c.metrics := by
  simp [dropReceiver]

end Queue

namespace Loopback

variable (home : UInt32) (d : DeviceId) (q : Queue) (c : Chronicle)

@[simp] theorem own_report (k : EventKind) :
    (report home q c k).2.metrics.own = c.metrics.own :=
  Queue.own_deliver _ _ _

@[simp] theorem own_add : (add home d q c).2.metrics.own = c.metrics.own := by
  simp [add]

@[simp] theorem own_remove : (remove home d q c).2.metrics.own = c.metrics.own := by
  simp [remove]

@[simp] theorem metrics_applyOptions (os : List (String × OptionValue)) :
    (applyOptions c os).2.metrics = c.metrics := by
  fun_induction applyOptions c os <;> simp_all

@[simp] theorem metrics_start (o : ManagerOptions) : (start c o).2.metrics = c.metrics := by
  have h := metrics_applyOptions c o.values.entries
  unfold start
  split <;> simp_all

end Loopback

@[simp] theorem Library.metrics_start (l : Library) (c : Chronicle) (o : ManagerOptions) :
    (l.start c o).2.metrics = c.metrics := by
  unfold Library.start
  split <;> simp

/-! ## Looks for the device -/

namespace PresenceWait

variable {w w' : PresenceWait} {interval : Nat} {t : FileTree} {d : DeviceId}
  {s : Option SessionId} {c c' : Chronicle}

/-- Only a look that ends its wait sets the gauge. -/
theorem metrics_look_none (h : w.look interval t d s c = (none, c')) :
    c'.metrics = { c.metrics with devicePresent := some w.desired } := by
  by_cases hseen : (Sighting.of t d).isPresent = w.desired
  · rw [look_of_seen hseen] at h
    obtain ⟨-, rfl⟩ := Prod.mk.inj h
    simp [Chronicle.gauge]
  · rw [look_of_unseen hseen] at h
    cases h

theorem metrics_look_some (h : w.look interval t d s c = (some w', c')) :
    c'.metrics = c.metrics := by
  by_cases hseen : (Sighting.of t d).isPresent = w.desired
  · rw [look_of_seen hseen] at h
    cases h
  · rw [look_of_unseen hseen] at h
    obtain ⟨-, rfl⟩ := Prod.mk.inj h
    simp

end PresenceWait

/-! ## The coordinator -/

namespace Coordinator

variable (k : Coordinator) (c : Chronicle)

@[simp] theorem metrics_post (t : Termination) : (k.post c t).2.metrics = c.metrics := by
  unfold post
  split <;> rfl

@[simp] theorem metrics_trigger : (k.trigger c).2.2.metrics = c.metrics := by
  unfold trigger
  dsimp only
  split <;> rfl

@[simp] theorem metrics_takeFirst (s : Signal) : (k.takeFirst c s).2.metrics = c.metrics := by
  simp [takeFirst, Timers.arm]

theorem metrics_takeSecond (s : Signal) : (k.takeSecond c s).2.metrics = c.metrics := rfl

variable {k c} {r : Coordinator × Chronicle}

theorem metrics_decidePosted? (h : k.decidePosted? c = some r) : r.2.metrics = c.metrics := by
  unfold decidePosted? at h
  split at h
  · obtain ⟨t, -, rfl⟩ := Option.map_eq_some_iff.1 h
    rfl
  · cases h

theorem metrics_takeSignal? (h : k.takeSignal? c = some r) : r.2.metrics = c.metrics := by
  obtain ⟨-, ⟨s, b, -, ⟨-, rfl⟩ | ⟨grace, -, rfl⟩⟩ | ⟨-, -, rfl⟩⟩ := takeSignal?_eq_some h
  · exact metrics_takeFirst _ c s
  · exact metrics_takeSecond _ c s
  · rfl

end Coordinator

/-! ## The operations of a world -/

namespace World

variable {L : EventLoop} (w : World L)

/-- The metrics of the supervisor itself. -/
def own : Metrics :=
  w.chronicle.metrics.own

@[simp] theorem own_log (m : Message) (s : Option SessionId) :
    (w.write (·.log m s)).own = w.own := rfl

@[simp] theorem own_dropHeldManager : w.dropHeldManager.own = w.own := by
  unfold dropHeldManager
  split <;> rfl

@[simp] theorem own_dropConsumers : w.dropConsumers.own = w.own := by
  simp [dropConsumers, own]

@[simp] theorem own_driveLoopback (k : CallKind) : (w.driveLoopback k).own = w.own := by
  unfold driveLoopback
  split
  · rfl
  · cases k with
    | add | remove => simp [own]
    | stop => rfl

@[simp] theorem own_beginCall (k : CallKind) : (w.beginCall k).own = w.own := by
  refine Eq.trans ?_ (own_driveLoopback (w.write (·.record (.callBegan k))) k)
  simp [beginCall, own]

@[simp] theorem own_beginStop : w.beginStop.own = w.own :=
  own_beginCall _ _

@[simp] theorem own_startSession : w.startSession.own = w.own :=
  own_beginCall _ _

@[simp] theorem own_runLoop (s : Session) : (w.runLoop s).own = w.own := rfl

@[simp] theorem own_requestRemoval (s : Session) (loop : LoopPhase) (r : QuitReason) :
    (w.requestRemoval s loop r).own = w.own :=
  own_beginCall _ _

@[simp] theorem own_discardStale (id : SessionId) : (w.discardStale id).own = w.own := by
  have hfold : (w.queue.items.foldl (fun c n => (c.log (.staleDiscarded n.event) id).release n)
      w.chronicle).metrics = w.chronicle.metrics :=
    w.chronicle.metrics_foldl (fun c n => by simp) _
  unfold own discardStale
  dsimp only
  split <;> simp [hfold]

/-- A session that ends as removed is counted, with the time that it has lasted. -/
theorem own_endSession (s : Session) :
    ∃ elapsed, (w.endSession s).own =
      { w.own with
        sessionsRemoved := w.own.sessionsRemoved + 1
        durations := w.own.durations ++ [elapsed] } := by
  rw [← own_discardStale w s.id]
  exact ⟨_, rfl⟩

@[simp] theorem own_abandonSession : w.abandonSession.own = w.own := by
  unfold abandonSession
  split <;> rfl

@[simp] theorem own_cancelCycle : w.cancelCycle.own = w.own := by
  have hcut : ({ w.abandonSession.dropConsumers.dropHeldManager with
      cycle := .cancelled } : World L).own = w.own := by
    change w.abandonSession.dropConsumers.dropHeldManager.own = w.own
    simp
  unfold cancelCycle
  split
  all_goals first | exact hcut | rfl

/-- What the coordinator does is all that can matter. -/
theorem own_coordinated (k : Coordinator) {c : Chronicle} (hc : c.metrics = w.chronicle.metrics) :
    (w.coordinated k c).own = w.own := by
  have hown : ({ w with coordinator := k, chronicle := c } : World L).own = w.own :=
    congrArg Metrics.own hc
  unfold coordinated
  dsimp only
  split
  · exact (own_log _ _ _).trans ((own_cancelCycle _).trans hown)
  · exact hown

@[simp] theorem own_panicLoop (reason : String) : (w.panicLoop reason).own = w.own := by
  have hdrop : w.abandonSession.dropHeldManager.own = w.own := by simp
  unfold panicLoop
  dsimp only
  split
  · exact hdrop
  · refine Eq.trans ?_ ((own_dropConsumers _).trans hdrop)
    simp [own]

@[simp] theorem own_raiseQuit (child : Child) (r : QuitReason) :
    (w.raiseQuit child r).own = w.own := by
  unfold raiseQuit
  dsimp only
  split
  · rfl
  · split <;> rfl

@[simp] theorem own_reply (s : Session) (executor : Executor) (r : Reply) :
    (w.reply s executor r).own = w.own := rfl

theorem own_handOver? {w' : World L} {s : Session} {executor : Executor} {ended : Reply}
    (hw : w.handOver? s executor ended = some w') : w'.own = w.own := by
  unfold handOver? at hw
  split at hw
  · obtain rfl := Option.some.inj hw
    rfl
  · cases hw
  · obtain rfl := Option.some.inj hw
    rfl

/-- Whatever an event loop is served with, the metrics of the supervisor stay. -/
theorem own_serve? {w' : World L} {s : Session} {executor : Executor} {phase : LoopPhase}
    (hw : w.serve? s executor phase = some w') : w'.own = w.own := by
  unfold serve? at hw
  cases hr : L.request w.loop with
  | nextEvent | tryReceive =>
    simp only [hr] at hw
    split at hw
    · obtain rfl := Option.some.inj hw
      rfl
    · exact own_handOver? w hw
  | receive =>
    simp only [hr] at hw
    exact own_handOver? w hw
  | awaitQuit =>
    simp only [hr] at hw
    split at hw
    · obtain rfl := Option.some.inj hw
      rfl
    · cases hw
  | isQuitting | closeQueue | finish =>
    simp only [hr] at hw
    obtain rfl := Option.some.inj hw
    rfl
  | sleep duration =>
    simp only [hr] at hw
    split at hw
    · split at hw
      · obtain rfl := Option.some.inj hw
        rfl
      · cases hw
    · obtain rfl := Option.some.inj hw
      rfl
  | drop | dropAll =>
    simp only [hr] at hw
    obtain rfl := Option.some.inj hw
    refine (own_reply _ _ _ _).trans ?_
    simp [own]
  | hang => simp [hr] at hw
  | panic reason =>
    simp only [hr] at hw
    obtain rfl := Option.some.inj hw
    exact own_panicLoop w reason

theorem own_eventLoop? {w' : World L} (hw : w.eventLoop? = some w') : w'.own = w.own := by
  unfold eventLoop? at hw
  split at hw
  · cases hw
  · split at hw
    · exact own_serve? w hw
    · exact own_serve? w hw
    · cases hw

end World

end Hotplug
