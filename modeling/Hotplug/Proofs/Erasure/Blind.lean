import Hotplug.Proofs.Erasure

/-!
# Worlds without their device

What is left of a world when the device is left out: the files, the looks for the device, the tasks
that look, and the reason for which a session is asked to quit.

* `Veil.blind` — what a chronicle shows without what comes of looking for the device.
* `Erasure.blind` — what is left of a world without its device.
* `Erasure.blind_lawful` — the supervisor, the coordinator and the calls are untouched.
* `Erasure.blind_eventLoop?` — and so are the event loop and the queue.
-/

namespace Hotplug

/-- A veil over all that comes of looking for the device: the looks, the lines in the log about
them, the gauge, and the reason for which a session is asked to quit. -/
def Veil.blind : Veil where
  shows
    | .checked _ | .logged (.checkFailed ..) _ | .logged (.deviceRemoved _) _ => none
    | .logged (.quitRequested _) s => some (.logged (.quitRequested .shutdown) s)
    | h => some h
  metrics m := { m with devicePresent := none }
  outstanding n := n

/-! ## The chronicle -/

namespace Veil

theorem blind_candid : blind.Candid where
  steering h hh := by
    unfold Happening.isSteering at hh
    split at hh <;> first | rfl | cases hh
  aborts _ _ := rfl

variable (c : Chronicle)

theorem blind_log {m : Message} {s : Option SessionId}
    (hm : blind.shows (.logged m s) = some (.logged m s)) :
    blind.chronicle (c.log m s) = (blind.chronicle c).log m s :=
  record_of_shows hm

theorem blind_release (n : Notification) :
    blind.chronicle (c.release n) = (blind.chronicle c).release n := by
  unfold Chronicle.release
  split
  · rfl
  · exact record_of_shows (h := .released n) rfl
  · exact congrArg (fun d : Chronicle => { d with outstanding := c.outstanding - 1 })
      (record_of_shows (v := blind) (c := c) (h := .released n) rfl)

theorem blind_releaseAll (ns : List Notification) :
    blind.chronicle (c.releaseAll ns) = (blind.chronicle c).releaseAll ns := by
  induction ns generalizing c with
  | nil => rfl
  | cons n ns ih =>
    exact (ih (c.release n)).trans (congrArg (·.releaseAll ns) (blind_release c n))

theorem blind_deliver (q : Queue) (n : Notification) :
    q.deliver (blind.chronicle c) n =
      ((q.deliver c n).1, (q.deliver c n).2.1, blind.chronicle (q.deliver c n).2.2) := by
  unfold Queue.deliver
  split
  · exact congrArg (fun d : Chronicle => (true, { q with items := q.items ++ [n] },
      d.measure fun m =>
        { m with notifications := Tally.bump n.event.kind.label m.notifications }))
      (record_of_shows (v := blind) (c := c) (h := .accepted n) rfl).symm
  · rw [blind_release, record_of_shows rfl, blind_log c rfl]

theorem blind_deliverAll (q : Queue) (ns : List Notification) :
    q.deliverAll (blind.chronicle c) ns =
      ((q.deliverAll c ns).1, (q.deliverAll c ns).2.1,
        blind.chronicle (q.deliverAll c ns).2.2) := by
  induction ns generalizing q c with
  | nil => rfl
  | cons n ns ih => simp only [Queue.deliverAll, blind_deliver, ih]

theorem blind_report (home : UInt32) (q : Queue) (k : EventKind) :
    Loopback.report home q (blind.chronicle c) k =
      ((Loopback.report home q c k).1, blind.chronicle (Loopback.report home q c k).2) := by
  have hdeliver := blind_deliver { c with outstanding := c.outstanding + 1 } q
    ⟨⟨k, 0, home, Loopback.controllerNode, 0, 0⟩, .loopback⟩
  exact congrArg Prod.snd hdeliver

theorem blind_add (home : UInt32) (d : DeviceId) (q : Queue) :
    Loopback.add home d q (blind.chronicle c) =
      ((Loopback.add home d q c).1, blind.chronicle (Loopback.add home d q c).2) := by
  unfold Loopback.add
  rw [← blind_log c rfl, blind_report]
  exact blind_report _ home _ .nodeAdded

theorem blind_remove (home : UInt32) (d : DeviceId) (q : Queue) :
    Loopback.remove home d q (blind.chronicle c) =
      ((Loopback.remove home d q c).1, blind.chronicle (Loopback.remove home d q c).2) := by
  unfold Loopback.remove
  rw [← blind_log c rfl]
  exact blind_report _ home q .driverRemoved

theorem blind_discardAll (id : SessionId) (ns : List Notification) :
    blind.chronicle (ns.foldl (fun c n => (c.log (.staleDiscarded n.event) id).release n) c) =
      ns.foldl (fun c n => (c.log (.staleDiscarded n.event) id).release n) (blind.chronicle c) := by
  induction ns generalizing c with
  | nil => rfl
  | cons n ns ih =>
    rw [List.foldl_cons, List.foldl_cons, ih, blind_release, blind_log c rfl]

/-- Nothing is left of a look. -/
theorem blind_look (p : PresenceWait) (interval : Nat) (t : FileTree) (d : DeviceId)
    (id : Option SessionId) :
    blind.chronicle (p.look interval t d id c).2 = blind.chronicle c := by
  have hcheck : blind.chronicle (Presence.check t d id c).2 = blind.chronicle c := by
    unfold Presence.check
    split
    · exact (record_of_hides rfl).trans (record_of_hides rfl)
    · exact record_of_hides rfl
  unfold PresenceWait.look
  dsimp only
  split
  · exact hcheck
  · exact hcheck

end Veil

/-! ## The world -/

namespace Erasure

/-- What is left of a world without its device.  Every session is taken as one that was asked to
quit. -/
def blind (L : EventLoop) : Erasure L L where
  veil := .blind
  library l := l
  files _ := .scratch
  queue q := q
  loop x := x
  held ns := ns
  wait _ := ⟨false, 0⟩
  phase p := p
  quit _ := { reason := some .shutdown }
  children _ := []

variable {L : EventLoop} (w : World L)

theorem blind_driveLoopback (k : CallKind) :
    (blind L).world (w.driveLoopback k) = ((blind L).world w).driveLoopback k := by
  unfold World.driveLoopback
  rw [show ((blind L).world w).setup.library.loopback = w.setup.library.loopback from rfl]
  split
  · rfl
  · rename_i home _
    cases k with
    | add =>
      have hadd := Veil.blind_add w.chronicle home w.setup.device w.queue
      exact congrArg (fun r : Queue × Chronicle =>
        { (blind L).world w with queue := r.1, chronicle := r.2 }) hadd.symm
    | remove =>
      have hremove := Veil.blind_remove w.chronicle home w.setup.device w.queue
      exact congrArg (fun r : Queue × Chronicle =>
        { (blind L).world w with queue := r.1, chronicle := r.2 }) hremove.symm
    | stop =>
      have hrecord := Veil.record_of_shows (v := .blind) (c := w.chronicle)
        (h := .outstanding w.chronicle.outstanding) rfl
      have hlog := Veil.blind_log (w.chronicle.record (.outstanding w.chronicle.outstanding))
        (m := .loopbackStopped w.chronicle.outstanding) (s := none) rfl
      exact congrArg (fun c => { (blind L).world w with chronicle := c })
        (hlog.trans (congrArg (·.log (.loopbackStopped w.chronicle.outstanding)) hrecord))

theorem blind_dropConsumers :
    (blind L).world w.dropConsumers = ((blind L).world w).dropConsumers := by
  have hc : Veil.blind.chronicle w.dropConsumers.chronicle =
      ((blind L).world w).dropConsumers.chronicle :=
    (Veil.blind_releaseAll _ _).trans
      (congrArg (·.releaseAll w.queue.items) (Veil.blind_releaseAll _ _))
  exact congrArg (fun c =>
    { (blind L).world w with held := [], queue := (w.queue.dropReceiver c).1, chronicle := c }) hc

theorem blind_discardStale (id : SessionId) :
    (blind L).world (w.discardStale id) = ((blind L).world w).discardStale id := by
  have hdiscarded := Veil.blind_discardAll w.chronicle id w.queue.items
  have hc : Veil.blind.chronicle (w.discardStale id).chronicle =
      (((blind L).world w).discardStale id).chronicle := by
    change Veil.blind.chronicle (if w.queue.items.isEmpty then _ else _) =
      if w.queue.items.isEmpty then _ else _
    split
    · exact hdiscarded
    · exact (Veil.blind_log _ rfl).trans
        (congrArg (·.log (.leftoversReleased w.queue.items.length) id) hdiscarded)
  exact congrArg (fun c =>
    { (blind L).world w with queue := { w.queue with items := [] }, chronicle := c }) hc

/-- The supervisor, the coordinator and the calls do not depend on the device. -/
theorem blind_lawful : (blind L).Lawful where
  candid := Veil.blind_candid
  supervision h hh := by
    unfold Happening.isSupervision at hh
    split at hh <;> first | rfl | cases hh
  started _ := rfl
  ended _ _ := rfl
  hold _ _ _ := rfl
  result _ _ _ := rfl
  reports l k n q c := congrArg Prod.snd (Veil.blind_deliverAll c q _)
  driveLoopback := blind_driveLoopback
  dropSender _ _ := rfl
  dropConsumers := blind_dropConsumers
  discardStale := blind_discardStale
  dropChildren _ _ := rfl

/-- What is left of a world as the event loop begins: the tasks beside the session are not. -/
theorem blind_runLoop (s : Session) :
    (blind L).world (w.runLoop s) =
      { (((blind L).world w).write (·.record (.stateChanged s.id s.state .running))).write
          (·.record (.loopStarted s.id w.setup.device)) with
        session :=
          some
            { (blind L).session s with
              state := .running
              stage := .running .listening .active }
        loop := L.enter w.loop s.id w.setup.device } := by
  have hrecord := Lawful.record w (E := blind L) (x := .stateChanged s.id s.state .running) rfl
  have hstarted := Lawful.record (w.write (·.record (.stateChanged s.id s.state .running)))
    (E := blind L) (x := .loopStarted s.id w.setup.device) rfl
  exact congrArg (fun v : World L =>
    { v with
      session :=
        some
          { (blind L).session s with
            state := .running
            stage := .running .listening .active }
      loop := L.enter w.loop s.id w.setup.device })
    (hstarted.trans (congrArg (·.write (·.record (.loopStarted s.id w.setup.device))) hrecord))

/-- Two worlds of which the same is left without their device go on alike. -/
theorem blind_paired : Paired (blind L) (blind L) where
  left := blind_lawful
  right := blind_lawful
  wait _ := rfl
  runLoop w v s s' hw hs := by
    have hid : s.id = s'.id := Paired.id_eq hs
    have hstate : ((blind L).session s).state = ((blind L).session s').state :=
      congrArg Session.state hs
    have hstate' : s.state = s'.state := hstate
    have hloop : ((blind L).world w).loop = ((blind L).world v).loop := congrArg World.loop hw
    have hloop' : w.loop = v.loop := hloop
    have hdevice : ((blind L).world w).setup.device = ((blind L).world v).setup.device :=
      congrArg (·.setup.device) hw
    have hdevice' : w.setup.device = v.setup.device := hdevice
    rw [blind_runLoop, blind_runLoop, hw, hs, hid, hstate', hloop', hdevice']

/-! ## The event loop -/

theorem blind_reply (s : Session) (x : Executor) (r : Reply) :
    (blind L).world (w.reply s x r) = ((blind L).world w).reply ((blind L).session s) x r := by
  have hrecord := Lawful.record w (E := blind L) (x := .loopReplied s.id r) rfl
  exact congrArg (fun v : World L =>
    { v with
      loop := L.resume w.loop r
      session := some { (blind L).session s with stage := .running x .active } }) hrecord

theorem blind_handOver? (s : Session) (x : Executor) (ended : Reply) :
    ((blind L).world w).handOver? ((blind L).session s) x ended =
      (w.handOver? s x ended).map (blind L).world := by
  unfold World.handOver?
  rw [show ((blind L).world w).queue = w.queue from rfl]
  split
  · rename_i n q _
    exact congrArg some
      (blind_reply { w with queue := q, held := n :: w.held } s x (.event n.event)).symm
  · rfl
  · exact congrArg some (blind_reply w s x ended).symm

theorem blind_panicLoop (reason : String) :
    (blind L).world (w.panicLoop reason) = ((blind L).world w).panicLoop reason := by
  let u := w.abandonSession.dropHeldManager
  have hu : ((blind L).world w).abandonSession.dropHeldManager = (blind L).world u := by
    rw [Lawful.dropHeldManager _ blind_lawful, Lawful.abandonSession _ blind_lawful]
  unfold World.panicLoop
  dsimp only
  rw [hu, show ((blind L).world u).setup.isAttended = u.setup.isAttended from rfl]
  change (blind L).world (if u.setup.isAttended then _ else _) = _
  split
  · rfl
  · have hlog :=
      Veil.blind_log u.dropConsumers.chronicle (m := .loopPanicked reason) (s := none) rfl
    have hpost := Veil.blind_candid.post (c := u.dropConsumers.chronicle.log (.loopPanicked reason))
      u.dropConsumers.coordinator .supervisorPanicked
    rw [hlog] at hpost
    rw [← blind_dropConsumers]
    exact congrArg (fun r : Coordinator × Chronicle =>
      { (blind L).world u.dropConsumers with
        cycle := .panicked
        coordinator := r.1
        chronicle := r.2 }) hpost.symm

theorem blind_serve? (s : Session) (x : Executor) (p : LoopPhase) :
    ((blind L).world w).serve? ((blind L).session s) x p =
      (w.serve? s x p).map (blind L).world := by
  have hreply (v : World L) (r : Reply) :
      some (((blind L).world v).reply ((blind L).session s) x r) =
        (some (v.reply s x r)).map (blind L).world :=
    congrArg some (blind_reply v s x r).symm
  have hdropped (held ns : List Notification) :
      some (({ (blind L).world w with
          held := held
          chronicle := ((blind L).world w).chronicle.releaseAll ns } : World L).reply
            ((blind L).session s) x .done) =
        (some (({ w with
          held := held
          chronicle := w.chronicle.releaseAll ns } : World L).reply s x .done)).map
            (blind L).world := by
    have hreleased := congrArg
      (fun c => ({ (blind L).world w with held := held, chronicle := c } : World L))
      (Veil.blind_releaseAll w.chronicle ns)
    exact (congrArg (fun v : World L => some (v.reply ((blind L).session s) x .done))
      hreleased.symm).trans
        (hreply { w with held := held, chronicle := w.chronicle.releaseAll ns } .done)
  unfold World.serve?
  rw [show ((blind L).world w).loop = w.loop from rfl,
    show ((blind L).session s).isQuitting = s.isQuitting from rfl,
    show ((blind L).world w).queue = w.queue from rfl,
    show ((blind L).world w).now = w.now from rfl]
  cases L.request w.loop with
  | nextEvent =>
    dsimp only
    split
    · exact hreply w _
    · exact blind_handOver? w s x _
  | receive => exact blind_handOver? w s x _
  | tryReceive =>
    dsimp only
    split
    · exact hreply w _
    · exact blind_handOver? w s x _
  | awaitQuit =>
    dsimp only
    split
    · exact hreply w _
    · rfl
  | isQuitting => exact hreply w _
  | sleep duration =>
    cases p with
    | asleep wake =>
      dsimp only
      split
      · exact hreply w _
      · rfl
    | _ => rfl
  | drop i => exact hdropped _ _
  | dropAll => exact hdropped _ _
  | closeQueue => exact hreply { w with queue := w.queue.close } .done
  | hang => rfl
  | panic reason => exact congrArg some (blind_panicLoop w reason).symm
  | finish =>
    have hrecord := Lawful.record w (E := blind L) (x := .loopEnded s.id) rfl
    exact congrArg (fun v : World L =>
      some (v.setSession { (blind L).session s with stage := .running x .returned })) hrecord.symm

theorem blind_eventLoop? : ((blind L).world w).eventLoop? = w.eventLoop?.map (blind L).world := by
  unfold World.eventLoop?
  rw [show ((blind L).world w).session = w.session.map (blind L).session from rfl]
  rcases w.session with _ | s
  · rfl
  · rw [Option.map_some]
    dsimp only
    rw [show ((blind L).session s).stage = (blind L).stage s.stage from rfl]
    cases s.stage with
    | running x p =>
      cases p with
      | active => exact blind_serve? w s x .active
      | asleep wake => exact blind_serve? w s x (.asleep wake)
      | returned => rfl
    | _ => rfl

end Erasure

end Hotplug
