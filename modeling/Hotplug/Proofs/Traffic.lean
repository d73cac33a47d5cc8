import Hotplug.Proofs.StateMachine
import Mathlib.Logic.Relation

/-!
# The traffic of notifications

What becomes of the notifications of a run, from the library through the queue to the event
loop.  Each move of a world is a chain of small steps of its traffic, and whatever every step
preserves holds in the whole run.

The subject is the notification channel of the manager component between a running manager and
the sessions that take from it.

* `Happening.isTraffic`, `Chronicle.Quiet` — what has to do with notifications.
* `Service` — how the session under way stands to the event loop.
* `Traffic` — the queue, the notifications that the event loop holds, and the service.
* `Deed` — what the event loop and the library may do of their own accord.
* `Traffic.Step`, `Traffic.Flows` — everything that can become of the traffic, at once and in
  the long run.
-/

namespace Hotplug

/-! ## What has to do with notifications -/

/-- Whether a happening has to do with notifications: with their way through the queue, with what
the event loop is told, with the moment at which the queue is clear for the next session, or with
the last count of those that were not released. -/
def Happening.isTraffic : Happening → Bool
  | accepted _ | refused _ | released _ | loopReplied .. => true
  | logged (.staleDiscarded _) _ | logged (.loopbackStopped _) _ => true
  | stateChanged _ _ .removed => true
  | callBegan .stop | outstanding _ => true
  | _ => false

namespace Chronicle

/-- `c.Quiet c'`: nothing that has come since `c` has to do with notifications. -/
structure Quiet (c c' : Chronicle) : Prop where
  adds : Adds (!·.isTraffic) c.happenings c'.happenings
  outstanding : c'.outstanding = c.outstanding

namespace Quiet

variable {c c' c'' : Chronicle}

theorem refl (c : Chronicle) : c.Quiet c :=
  ⟨Adds.refl _, rfl⟩

theorem record (h : c.Quiet c') {x : Happening} (hx : x.isTraffic = false) :
    c.Quiet (c'.record x) :=
  ⟨h.adds.cons (by simp [hx]), h.outstanding⟩

theorem measure (h : c.Quiet c') (f : Metrics → Metrics) : c.Quiet (c'.measure f) :=
  ⟨h.adds, h.outstanding⟩

end Quiet

/-- Releases what session `n` leaves in the queue, in order. -/
def discardAll (n : SessionId) (c : Chronicle) (ks : List Notification) : Chronicle :=
  ks.foldl (fun c k => (c.log (.staleDiscarded k.event) n).release k) c

end Chronicle

/-! ## The state of the traffic -/

/-- How the session under way stands to the event loop. -/
inductive Service where
  /-- No session is under way. -/
  | idle
  /-- The driver is being added, or was refused. -/
  | attaching (n : SessionId)
  /-- Adding the driver panicked. -/
  | stranded (n : SessionId)
  | serving (n : SessionId)
  /-- The driver is removed, and the event loop is told so. -/
  | dismissing (n : SessionId)
  /-- The driver could not be removed. -/
  | failing (n : SessionId)
  /-- The supervisor's own loop has come to its end. -/
  | over
  deriving DecidableEq

namespace Service

/-- The session whose event loop runs. -/
def looping? : Service → Option SessionId
  | serving n | dismissing n | failing n => some n
  | _ => none

end Service

/-- The service that a session gives. -/
def Session.service (s : Session) : Service :=
  match s.stage with
  | .activating _ | .skipping _ => .attaching s.id
  | .stranded _ => .stranded s.id
  | .running .listening _ | .running (.removing _) _ => .serving s.id
  | .running (.removed _) _ => .dismissing s.id
  | .running (.failed _) _ => .failing s.id

/-- Whether the supervisor's own loop has come to its end. -/
def CyclePhase.isOver : CyclePhase → Bool
  | refused _ | finished | cancelled | panicked => true
  | _ => false

/-- The parts of a world that have to do with notifications. -/
structure Traffic where
  chronicle : Chronicle
  queue : Queue
  /-- What the event loop holds, the latest first. -/
  held : List Notification
  service : Service
  /-- How many sessions have begun. -/
  count : Nat

namespace World

variable {L : EventLoop} (w : World L)

/-- The service that a world gives to its event loop. -/
def service : Service :=
  w.session.elim (if w.cycle.isOver then .over else .idle) Session.service

/-- The traffic of a world. -/
def traffic : Traffic where
  chronicle := w.chronicle
  queue := w.queue
  held := w.held
  service := w.service
  count := w.sessionCount

end World

namespace Traffic

variable (f : Traffic)

/-! ## What can become of it -/

/-- A notification is put into the queue, or refused. -/
def deliver (k : Notification) : Traffic :=
  { f with
    queue := (f.queue.deliver f.chronicle k).2.1
    chronicle := (f.queue.deliver f.chronicle k).2.2 }

/-- The loopback library reports an event. -/
def report (home : UInt32) (kind : EventKind) : Traffic :=
  { f with
    queue := (Loopback.report home f.queue f.chronicle kind).1
    chronicle := (Loopback.report home f.queue f.chronicle kind).2 }

/-- Somebody gives a sender up. -/
def dropSender (i : Nat) : Traffic :=
  { f with queue := (f.queue.dropSender i).2 }

/-- The event loop is told something in session `n`. -/
def reply (n : SessionId) (r : Reply) : Traffic :=
  { f with chronicle := f.chronicle.record (.loopReplied n r) }

/-- The event loop takes a notification, which leaves the `rest`. -/
def take (n : SessionId) (k : Notification) (rest : List Notification) : Traffic :=
  { f with
    queue := { f.queue with items := rest }
    held := k :: f.held
    chronicle := f.chronicle.record (.loopReplied n (.event k.event)) }

/-- The event loop drops some of what it holds, which leaves the `rest`. -/
def drop (ks rest : List Notification) : Traffic :=
  { f with held := rest, chronicle := f.chronicle.releaseAll ks }

/-- What session `n` leaves in the queue is released. -/
def clear (n : SessionId) : Traffic :=
  { f with
    queue := { f.queue with items := [] }
    chronicle := f.chronicle.discardAll n f.queue.items
    service := .idle }

/-- The call to stop the manager begins.  If the loopback library is driven in it, that one says how
many of its notifications were not released. -/
def stop (isDriven : Bool) : Traffic :=
  let c := f.chronicle.record (.callBegan .stop)
  { f with
    chronicle :=
      if isDriven then Loopback.stop (c.record (.outstanding c.outstanding)) else c }

/-- The queue and the event loop end, and all that is in them is released. -/
def shut : Traffic :=
  { f with
    queue := (f.queue.dropReceiver (f.chronicle.releaseAll f.held)).1
    chronicle := (f.queue.dropReceiver (f.chronicle.releaseAll f.held)).2
    held := []
    service := .over }

/-! ## Steps -/

/-- Whether the event loop can be told `r` in session `n` when it asks for `q`. -/
def Tells (n : SessionId) : Request → Reply → Prop
  | .nextEvent, .noMore => f.service = .dismissing n ∨ f.queue.receive.1 = .disconnected
  | .receive, .closed | .tryReceive, .disconnected => f.queue.receive.1 = .disconnected
  | .tryReceive, .empty => f.queue.receive.1 = .empty
  | .awaitQuit, .quitSignalled => f.service = .dismissing n
  | .isQuitting, .quitting b => b = true ↔ f.service = .dismissing n
  | .sleep _, .slept | .drop _, .done | .dropAll, .done | .closeQueue, .done => True
  | _, _ => False

/-- Whether the event loop can take a notification in session `n` when it asks for `q`. -/
def Lets (n : SessionId) : Request → Prop
  | .nextEvent => f.service ≠ .dismissing n
  | .receive | .tryReceive => True
  | _ => False

end Traffic

/-- What the event loop and the library may do of their own accord. -/
inductive Deed where
  | ask (q : Request)
  /-- The event loop returns and holds these. -/
  | leave (ks : List Notification)
  /-- The library reports an event of its own. -/
  | bring (k : Notification)
  /-- The library stops its manager, and perhaps drives the loopback library in the call. -/
  | stop (isDriven : Bool)
  /-- The library reports no more events outside of its calls. -/
  | detach

namespace Traffic

/-- Everything that can become of the traffic in one step, as far as others `may` do it. -/
inductive Step (may : Deed → Prop) (f : Traffic) : Traffic → Prop where
  | quiet (c : Chronicle) (hquiet : f.chronicle.Quiet c) : Step may f { f with chronicle := c }
  | deliver (k : Notification) (hbring : may (.bring k)) : Step may f (f.deliver k)
  /-- The loopback library only reports in the calls of a session. -/
  | report (home : UInt32) (kind : EventKind) (hbusy : f.service ≠ .idle) :
      Step may f (f.report home kind)
  | begin (hidle : f.service = .idle) :
      Step may f { f with service := .attaching (f.count + 1), count := f.count + 1 }
  /-- The call to add the driver panics, and the manager is lost. -/
  | strand (n : SessionId) (hserv : f.service = .attaching n) :
      Step may f { f.dropSender 0 with service := .stranded n }
  | serve (n : SessionId) (hserv : f.service = .attaching n) :
      Step may f { f with service := .serving n }
  | reply (n : SessionId) (q : Request) (r : Reply) (hloop : f.service.looping? = some n)
      (hask : may (.ask q)) (htells : f.Tells n q r) : Step may f (f.reply n r)
  | take (n : SessionId) (q : Request) (k : Notification) (rest : List Notification)
      (hloop : f.service.looping? = some n) (hask : may (.ask q)) (hlets : f.Lets n q)
      (hitems : f.queue.items = k :: rest) : Step may f (f.take n k rest)
  | drop (ks rest : List Notification) (hheld : f.held.Perm (ks ++ rest)) :
      Step may f (f.drop ks rest)
  | close (hask : may (.ask .closeQueue)) : Step may f { f with queue := f.queue.close }
  | dismiss (n : SessionId) (hserv : f.service = .serving n)
      (htold : .callEnded .remove (.returned true) ∈ storyOf n f.chronicle.happenings) :
      Step may f { f with service := .dismissing n }
  | fail (n : SessionId) (hserv : f.service = .serving n) :
      Step may f { f with service := .failing n }
  /-- The call to remove the driver has panicked, and the manager is lost. -/
  | orphan (n : SessionId) (reason : String) (hserv : f.service = .failing n)
      (htold : .callEnded .remove (.panicked reason) ∈ storyOf n f.chronicle.happenings) :
      Step may f (f.dropSender 0)
  /-- The session ends; if its event loop was run, that has returned. -/
  | clear (n : SessionId) (hserv : f.service = .attaching n ∨ f.service = .dismissing n)
      (hleft : f.service = .dismissing n → may (.leave f.held)) : Step may f (f.clear n)
  | leave (n : SessionId) (a : SessionState) (hidle : f.service = .idle)
      (hitems : f.queue.items = []) :
      Step may f { f with chronicle := f.chronicle.record (.stateChanged n a .removed) }
  | stop (isDriven : Bool) (hidle : f.service = .idle) (hstop : may (.stop isDriven)) :
      Step may f (f.stop isDriven)
  | shut : Step may f f.shut
  /-- The manager is given up after the supervisor's own loop. -/
  | part (hover : f.service = .over) : Step may f (f.dropSender 0)
  | detach (hmay : may .detach) : Step may f (f.dropSender World.outsideSender)

/-- What can become of the traffic in any number of steps. -/
def Flows (may : Deed → Prop) : Traffic → Traffic → Prop :=
  Relation.ReflTransGen (Step may)

namespace Flows

variable {may : Deed → Prop} {f g h : Traffic}

theorem refl (f : Traffic) : Flows may f f :=
  Relation.ReflTransGen.refl

theorem step (hstep : f.Step may g) : Flows may f g :=
  Relation.ReflTransGen.single hstep

theorem trans (hfg : Flows may f g) (hgh : Flows may g h) : Flows may f h :=
  Relation.ReflTransGen.trans hfg hgh

theorem andThen (hfg : Flows may f g) (hgh : g.Step may h) : Flows may f h :=
  Relation.ReflTransGen.tail hfg hgh

theorem cast (hfg : Flows may f g) (heq : h = g) : Flows may f h :=
  heq ▸ hfg

/-- What every step preserves holds in the long run. -/
theorem preserves {P : Traffic → Prop} (hflows : Flows may f g)
    (hstep : ∀ f g, Step may f g → P f → P g) (hf : P f) : P g := by
  induction hflows with
  | refl => exact hf
  | tail _ hlast ih => exact hstep _ _ hlast ih

end Flows

end Traffic

end Hotplug
