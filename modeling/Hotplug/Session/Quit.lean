/-!
# Asking a session to quit

A quit request has one listener and any number of triggers.  The first reason raised
through any trigger is the one that counts.

This file models the quit request of the session component, which the removal watcher and the
stop forwarder of a session raise and its controller waits for.

* `QuitRequest.raise` — raises a reason; true for the first raise alone.
* `QuitRequest.answer?` — what a listener learns: the reason, or that every trigger is
  gone and nobody raised any, or nothing yet.

Triggers are numbered in the order in which they were made.  A number that was never
given out, or whose trigger was dropped, answers `none`.
-/

namespace Hotplug

/-- Why a session is asked to quit. -/
inductive QuitReason where
  | deviceRemoved
  | shutdown
  deriving DecidableEq, Repr, Inhabited

namespace QuitReason

/-- The text of a reason. -/
def text : QuitReason → String
  | deviceRemoved => "device removed"
  | shutdown => "shutdown"

end QuitReason

/-- The listening side of a quit request. -/
inductive Listener where
  | idle
  | listening
  | dropped
  deriving DecidableEq, Repr, Inhabited

/-- A quit request: what was raised, which triggers are still held, and its listener. -/
structure QuitRequest where
  reason : Option QuitReason := none
  held : List Bool := [true]
  listener : Listener := .idle
  deriving DecidableEq, Repr, Inhabited

namespace QuitRequest

/-- A request with the one trigger that comes with it. -/
def fresh : QuitRequest := {}

/-- Whether a trigger is still held. -/
def holds (q : QuitRequest) (i : Nat) : Bool :=
  q.held.getD i false

/-- Raises a reason unless one was raised before. -/
def raise (q : QuitRequest) (i : Nat) (r : QuitReason) : Option (Bool × QuitRequest) :=
  if q.holds i then
    match q.reason with
    | some _ => some (false, q)
    | none => some (true, { q with reason := some r })
  else none

/-- The reason, as a trigger sees it. -/
def reason? (q : QuitRequest) (i : Nat) : Option (Option QuitReason) :=
  if q.holds i then some q.reason else none

/-- Makes another trigger; gives its number. -/
def clone (q : QuitRequest) (i : Nat) : Option (Nat × QuitRequest) :=
  if q.holds i then some (q.held.length, { q with held := q.held ++ [true] }) else none

/-- Gives a trigger up. -/
def drop (q : QuitRequest) (i : Nat) : Option QuitRequest :=
  if q.holds i then some { q with held := q.held.set i false } else none

/-- Starts to listen, once. -/
def listen (q : QuitRequest) : Option QuitRequest :=
  if q.listener = .idle then some { q with listener := .listening } else none

/-- Gives up a listener that has not begun to listen. -/
def dropListener (q : QuitRequest) : Option QuitRequest :=
  if q.listener = .idle then some { q with listener := .dropped } else none

/-- Whether no trigger is held any more. -/
def isReleased (q : QuitRequest) : Bool :=
  !q.held.contains true

/-- What one who listens learns: `some (some r)` once `r` was raised, `some none` if every
trigger was dropped without a raise, `none` as long as it has to wait. -/
def answer? (q : QuitRequest) : Option (Option QuitReason) :=
  match q.reason with
  | some r => some (some r)
  | none => if q.isReleased then some none else none

end QuitRequest

end Hotplug
