import Hotplug.Library.Options
import Hotplug.Library.Refusal
import Hotplug.Notification.Basic

/-!
# Calls to a device library

A library is known by what its calls do.  It may answer yes or no, panic, stay busy for
any time or for ever, and report events while it is called.

This file models the boundary between the supervisor and the native library behind it, whose
calls may block or panic.

* `Behaviour` — what one call does.
* `Library` — what every call does, the calls of one kind counted from zero.
-/

namespace Hotplug

/-- The calls a started manager takes. -/
inductive CallKind where
  | add
  | remove
  | stop
  deriving DecidableEq, Repr, Inhabited

/-- How a call ends. -/
inductive CallResult where
  | returned (ok : Bool)
  | panicked (reason : String)
  deriving DecidableEq, Repr, Inhabited

/-- What one call does: it reports events as it begins, is busy for a while, or for ever
if `hold` is `none`, and then ends. -/
structure Behaviour where
  reports : List Notification := []
  hold : Option Nat := some 0
  result : CallResult := .returned true
  deriving DecidableEq, Repr, Inhabited

/-- A device library by what it does: whether it starts a manager, and what each call of
that manager does.  With a loopback home id, the loopback library is driven first within
every call. -/
structure Library where
  refuses : Option Refusal := none
  adding : Nat → Behaviour := fun _ => {}
  removing : Nat → Behaviour := fun _ => {}
  stopping : Behaviour := {}
  loopback : Option UInt32 := none

namespace Library

/-- What the `n`-th call of a kind does. -/
def behaviour (l : Library) : CallKind → Nat → Behaviour
  | .add, n => l.adding n
  | .remove, n => l.removing n
  | .stop, _ => l.stopping

/-- What calls do that follow a script, and nothing special after its end. -/
def scripted (script : List Behaviour) (n : Nat) : Behaviour :=
  script.getD n {}

/-- A removal keeps the library busy for at least one unit of time. -/
def settling (b : Behaviour) : Behaviour :=
  { b with hold := b.hold.map (max 1) }

end Library

end Hotplug
