import Hotplug.Session.EventLoop

/-!
# Scripted event loops

An event loop that carries out a list of instructions, another list in every session; the
last list is used for all sessions after it.

This file models the event loops that the supervisor is run with: the one of the program, which
drains, and any other that goes by instructions.

* `Instruction` — a step of a script.
* `Script.loop` — the loop that carries scripts out.
-/

namespace Hotplug

/-- A step of a script. -/
inductive Instruction where
  /-- Takes notifications until there are no more. -/
  | drain
  | next
  | receive
  | tryReceive
  | awaitQuit
  | isQuitting
  | sleep (duration : Nat)
  /-- From here on notifications are kept instead of dropped at once. -/
  | keep
  | dropKept
  | hang
  | panic (reason : String)
  deriving DecidableEq, Repr, Inhabited

namespace Script

/-- How far a scripted loop has come. -/
structure Progress where
  /-- The sessions that the loop has been run in. -/
  runs : Nat := 0
  /-- The instructions that are left, the current one first. -/
  rest : List Instruction := []
  /-- Whether notifications are kept. -/
  isKeeping : Bool := false
  /-- Whether a notification was taken that must be dropped next. -/
  mustDrop : Bool := false
  deriving DecidableEq, Repr, Inhabited

/-- The instructions of the `n`-th session. -/
def instructions (scripts : List (List Instruction)) (n : Nat) : List Instruction :=
  match scripts with
  | [] => [.drain]
  | _ => scripts.getD n (scripts.getLastD [])

/-- Steps over instructions that only change what is kept. -/
def settle (p : Progress) : Progress :=
  { p with
    rest := p.rest.dropWhile (· = .keep)
    isKeeping := p.isKeeping || p.rest.head? = some .keep }

/-- What an instruction asks for. -/
def Instruction.request : Instruction → Request
  | .drain => .nextEvent
  | .next => .nextEvent
  | .receive => .receive
  | .tryReceive => .tryReceive
  | .awaitQuit => .awaitQuit
  | .isQuitting => .isQuitting
  | .sleep d => .sleep d
  | .keep => .isQuitting
  | .dropKept => .dropAll
  | .hang => .hang
  | .panic reason => .panic reason

/-- What a scripted loop asks for. -/
def request (p : Progress) : Request :=
  if p.mustDrop then .drop 0
  else
    match p.rest with
    | [] => .finish
    | i :: _ => Instruction.request i

/-- How a scripted loop goes on after a reply. -/
def resume (p : Progress) (r : Reply) : Progress :=
  if p.mustDrop then { p with mustDrop := false }
  else
    match r, p.rest with
    | .event _, .drain :: _ => { p with mustDrop := !p.isKeeping }
    | .event _, rest => settle { p with rest := rest.tail, mustDrop := !p.isKeeping }
    | _, rest => settle { p with rest := rest.tail }

/-- The loop that carries scripts out. -/
def loop (scripts : List (List Instruction)) : EventLoop where
  State := Progress
  enter p _ _ := settle { runs := p.runs + 1, rest := instructions scripts p.runs }
  request := request
  resume := resume

end Script

end Hotplug
