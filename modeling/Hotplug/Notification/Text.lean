import Hotplug.Notification.Basic
import Hotplug.Text.Numeral

/-!
# The printed form of a notification

An event is printed as a bracketed list of its six fields.  The kind is a name, two ids
are in hexadecimal padded to a least width, all else is decimal.

This file models the printed notifications of the manager component, as the event loop of the
program logs them.

* `Event.chars` — the printed form.
* `EventKind.label` — the name of a kind, one for all numbered kinds.
* `EventKind.chars` — the printed kind, which tells numbered kinds apart.
-/

namespace Hotplug

namespace EventKind

/-- The name of a kind; all numbered kinds share one. -/
def label : EventKind → String
  | valueAdded => "ValueAdded"
  | valueRemoved => "ValueRemoved"
  | valueChanged => "ValueChanged"
  | nodeAdded => "NodeAdded"
  | nodeRemoved => "NodeRemoved"
  | driverReady => "DriverReady"
  | driverFailed => "DriverFailed"
  | driverReset => "DriverReset"
  | driverRemoved => "DriverRemoved"
  | allNodesQueried => "AllNodesQueried"
  | other _ => "Other"

/-- The printed kind. -/
def chars : EventKind → List Char
  | other n => "Other(".toList ++ Numeral.padded 10 1 n.toNat ++ [')']
  | k => k.label.toList

/-- The printed kind. -/
def text (k : EventKind) : String :=
  String.ofList k.chars

/-- The kinds that have a name of their own. -/
def named : List EventKind :=
  [valueAdded, valueRemoved, valueChanged, nodeAdded, nodeRemoved, driverReady, driverFailed,
    driverReset, driverRemoved, allNodesQueried]

/-- The kind with a name of its own that is called so. -/
def ofLabel? (s : String) : Option EventKind :=
  named.find? (·.label = s)

end EventKind

namespace Event

/-- The printed form of an event. -/
def chars (e : Event) : List Char :=
  "Notification[notificationType=".toList ++ e.kind.chars ++
  ", notificationCode=".toList ++ Numeral.padded 10 1 e.code.toNat ++
  ", homeId=0x".toList ++ Numeral.padded 16 8 e.homeId.toNat ++
  ", nodeId=0x".toList ++ Numeral.padded 16 2 e.nodeId.toNat ++
  ", valueType=".toList ++ Numeral.padded 10 1 e.valueType.toNat ++
  ", valueId=0x".toList ++ Numeral.padded 16 8 e.valueId.toNat ++ [']']

/-- The printed form of an event. -/
def text (e : Event) : String :=
  String.ofList e.chars

end Event

namespace Notification

/-- Every field of a notification, for inspection. -/
def inspect (n : Notification) : String :=
  "Notification \x7b event: NotificationEvent \x7b kind: " ++ n.event.kind.text ++
    ", code: " ++ Numeral.decimal n.event.code.toNat ++
    ", home_id: " ++ Numeral.decimal n.event.homeId.toNat ++
    ", node_id: " ++ Numeral.decimal n.event.nodeId.toNat ++
    ", value_type: " ++ Numeral.decimal n.event.valueType.toNat ++
    ", value_id: " ++ Numeral.decimal n.event.valueId.toNat ++
    " \x7d, managed: " ++ (if n.isManaged then "true" else "false") ++ " \x7d"

end Notification

end Hotplug
