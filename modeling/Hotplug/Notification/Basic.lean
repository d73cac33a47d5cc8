/-!
# Notifications

What a device library reports.  An `Event` is plain data; a `Notification` is an event
together with the resource behind it, which has to be released exactly once.

This file models the notifications of the manager component, each with the callback that
releases it.
-/

namespace Hotplug

/-- What kind of event a library reports. -/
inductive EventKind where
  | valueAdded
  | valueRemoved
  | valueChanged
  | nodeAdded
  | nodeRemoved
  | driverReady
  | driverFailed
  | driverReset
  | driverRemoved
  | allNodesQueried
  /-- Any other kind, by its number. -/
  | other (number : UInt8)
  deriving DecidableEq, Repr, Inhabited

/-- The data of a reported event. -/
structure Event where
  kind : EventKind
  code : UInt8 := 0
  homeId : UInt32 := 0
  nodeId : UInt8 := 0
  valueType : UInt8 := 0
  valueId : UInt64 := 0
  deriving DecidableEq, Repr, Inhabited

/-- What stands behind a notification. -/
inductive Backing where
  /-- Nothing has to be released. -/
  | nothing
  /-- A resource of the library, whose release is seen. -/
  | resource
  /-- A notification of the loopback library, which counts those not yet released. -/
  | loopback
  deriving DecidableEq, Repr, Inhabited

/-- An event together with what has to be released after it. -/
structure Notification where
  event : Event
  backing : Backing := .nothing
  deriving DecidableEq, Repr, Inhabited

namespace Notification

/-- Whether there is anything to release. -/
def isManaged (n : Notification) : Bool :=
  n.backing ≠ .nothing

end Notification

end Hotplug
