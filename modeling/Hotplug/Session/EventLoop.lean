import Hotplug.Device.Identity
import Hotplug.Notification.Basic
import Hotplug.Session.State

/-!
# Event loops

The part of an application that consumes notifications while a session runs.  It is a
machine that makes one request after the other and is told the reply to each.

This file models the interface between the session component and the application: what a
running event loop can ask of its session, and when it is told that the session is over.

* `Request` — what a loop can ask for.
* `Reply` — what it is told.
* `EventLoop` — a loop as a machine; its state lasts from one session to the next.
-/

namespace Hotplug

/-- What an event loop asks for. -/
inductive Request where
  /-- The next notification, or the news that the driver has been removed. -/
  | nextEvent
  /-- The next notification from the queue itself. -/
  | receive
  /-- The next notification from the queue itself, without waiting. -/
  | tryReceive
  /-- To wait until the driver has been removed. -/
  | awaitQuit
  /-- Whether the driver has been removed. -/
  | isQuitting
  /-- To sleep for a while. -/
  | sleep (duration : Nat)
  /-- To drop one of the notifications that it holds; they are counted from the one it took last. -/
  | drop (i : Nat)
  /-- To drop every notification it holds. -/
  | dropAll
  /-- To close the queue. -/
  | closeQueue
  /-- Never to go on. -/
  | hang
  /-- To panic. -/
  | panic (reason : String)
  /-- To return. -/
  | finish
  deriving DecidableEq, Repr, Inhabited

/-- What an event loop is told. -/
inductive Reply where
  | event (e : Event)
  /-- There is no further notification for this session. -/
  | noMore
  /-- The queue is closed and empty. -/
  | closed
  /-- The queue is empty. -/
  | empty
  /-- The queue is empty and will stay so. -/
  | disconnected
  /-- The driver has been removed. -/
  | quitSignalled
  | quitting (b : Bool)
  | slept
  /-- What was asked for is done. -/
  | done
  deriving DecidableEq, Repr, Inhabited

/-- An event loop as a machine. -/
structure EventLoop where
  State : Type
  /-- The state in which a run of the loop begins. -/
  enter : State → SessionId → DeviceId → State
  /-- What the loop asks for in a state. -/
  request : State → Request
  /-- The state after a reply. -/
  resume : State → Reply → State

end Hotplug
