import Hotplug.Chronicle.Basic

/-!
# Device presence

A device is absent if asking for its endpoint says that there is none.  Any other failure
counts as present, so that a passing fault never looks like an unplug.

This file models the presence monitor of the device component, with which the supervisor waits
for the device and a running session watches for its removal.

* `Sighting.of` — what asking for the endpoint shows.
* `Presence.check` — one look, with the log line of a fault.
* `PresenceWait` — waiting until the device is, or is not, there: a look at once, and then
  another after every interval, until one sees what is waited for.
* `PresenceDesk` — any number of waits on one device, under numbers.
-/

namespace Hotplug

/-- What asking for the endpoint of a device shows. -/
inductive Sighting where
  | present
  | absent
  /-- The endpoint could not be asked for. -/
  | unclear (fault : FileFault)
  deriving DecidableEq, Repr, Inhabited

namespace Sighting

/-- What a file tree shows of a device. -/
def of (t : FileTree) (d : DeviceId) : Sighting :=
  match t.stat d.path with
  | .ok _ => .present
  | .error .notFound => .absent
  | .error fault => .unclear fault

/-- Whether the device counts as present. -/
def isPresent : Sighting → Bool
  | absent => false
  | _ => true

end Sighting

namespace Presence

/-- Looks whether the device is there. -/
def check (t : FileTree) (d : DeviceId) (session : Option SessionId) (c : Chronicle) :
    Bool × Chronicle :=
  match Sighting.of t d with
  | .unclear fault =>
    (true, (c.log (.checkFailed d fault) session).record (.checked true))
  | s => (s.isPresent, c.record (.checked s.isPresent))

end Presence

/-! ## Waiting -/

/-- A wait for the device to be there or not. -/
structure PresenceWait where
  desired : Bool
  /-- When the next look is due. -/
  due : Nat
  deriving DecidableEq, Repr, Inhabited

namespace PresenceWait

/-- A wait that begins with a look now. -/
def start (desired : Bool) (now : Nat) : PresenceWait := ⟨desired, now⟩

/-- Looks once.  The wait is over if the look shows what is desired, and goes on otherwise. -/
def look (w : PresenceWait) (interval : Nat) (t : FileTree) (d : DeviceId)
    (session : Option SessionId) (c : Chronicle) : Option PresenceWait × Chronicle :=
  let (seen, c) := Presence.check t d session c
  if seen = w.desired then (none, c.gauge w.desired)
  else (some { w with due := c.now + interval }, c)

end PresenceWait

/-! ## Many waits on one device -/

/-- One of the waits on a device. -/
inductive Waiter where
  | waiting (w : PresenceWait)
  | cancelled
  /-- The wait was over at this time. -/
  | resolved (time : Nat)
  deriving DecidableEq, Repr, Inhabited

/-- Waits on one device, numbered in the order in which they began. -/
structure PresenceDesk where
  device : DeviceId
  interval : Nat
  files : FileTree := .scratch
  chronicle : Chronicle := {}
  waiters : List Waiter := []
  deriving Repr, Inhabited

namespace PresenceDesk

/-- Looks now, for nobody in particular. -/
def check (s : PresenceDesk) : Bool × PresenceDesk :=
  let (seen, c) := Presence.check s.files s.device none s.chronicle
  (seen, { s with chronicle := c })

/-- Begins a wait; gives its number. -/
def await (s : PresenceDesk) (desired : Bool) : Nat × PresenceDesk :=
  (s.waiters.length,
    { s with waiters := s.waiters ++ [.waiting (.start desired s.chronicle.now)] })

/-- Cancels a wait; says whether the number is one. -/
def cancel (s : PresenceDesk) (i : Nat) : Bool × PresenceDesk :=
  match s.waiters[i]? with
  | none => (false, s)
  | some (.waiting _) => (true, { s with waiters := s.waiters.set i .cancelled })
  | some _ => (true, s)

/-- Lets every wait look for which a look is due, in order. -/
def lookAll (interval : Nat) (t : FileTree) (d : DeviceId) :
    List Waiter → Chronicle → List Waiter × Chronicle
  | [], c => ([], c)
  | .waiting w :: rest, c =>
    if w.due ≤ c.now then
      let (left, c) := w.look interval t d none c
      let (rest, c) := lookAll interval t d rest c
      (left.elim (.resolved c.now) .waiting :: rest, c)
    else
      let (rest, c) := lookAll interval t d rest c
      (.waiting w :: rest, c)
  | w :: rest, c =>
    let (rest, c) := lookAll interval t d rest c
    (w :: rest, c)

/-- Lets every wait look for which a look is due. -/
def settle (s : PresenceDesk) : PresenceDesk :=
  let (ws, c) := lookAll s.interval s.files s.device s.waiters s.chronicle
  { s with waiters := ws, chronicle := c }

/-- When the next look is due. -/
def nextDue? (s : PresenceDesk) : Option Nat :=
  (s.waiters.filterMap fun
    | .waiting w => some w.due
    | _ => none).min?

/-- Lets time pass until `target`, with every look that is due on the way.  The first
argument bounds the number of moments at which anybody looks. -/
def advance : Nat → PresenceDesk → Nat → PresenceDesk
  | 0, s, _ => s
  | fuel + 1, s, target =>
    let s := s.settle
    match s.nextDue?.filter (· ≤ target) with
    | some due => advance fuel { s with chronicle := { s.chronicle with now := due } } target
    | none => { s with chronicle := { s.chronicle with now := target } }

/-- Lets time pass.  With a positive interval there are no more moments than milliseconds. -/
def wait (s : PresenceDesk) (duration : Nat) : PresenceDesk :=
  advance (duration + 2) s (s.chronicle.now + duration)

/-- When each wait was over. -/
def times (s : PresenceDesk) : List (Option Nat) :=
  s.waiters.map fun
    | .resolved time => some time
    | _ => none

end PresenceDesk

end Hotplug
