import Hotplug.Text.Reader

/-!
# Socket addresses

An address to listen on: four octets or eight groups, and a port.

This file models how the metrics address of the observability section is read and printed.

* `SocketAddress.parse?` — reads `a.b.c.d:port` or `[g:…:g%scope]:port`.
* `SocketAddress.text` — the printed address, the longest run of zero groups left out.
-/

namespace Hotplug

/-- Where to listen. -/
inductive SocketAddress where
  | v4 (octets : List Nat) (port : Nat)
  | v6 (groups : List Nat) (scope port : Nat)
  deriving DecidableEq, Repr, Inhabited

namespace SocketAddress

/-! ## Numbers -/

/-- How a number may be written. -/
structure NumberForm where
  base : Nat := 10
  /-- The most digits there may be. -/
  width : Option Nat := none
  /-- Whether zeros may stand before the first other digit. -/
  isPadded : Bool := true
  largest : Nat

namespace NumberForm

/-- A port: any number of digits. -/
def port : NumberForm := { largest := 65535 }

/-- The number of a network interface. -/
def scope : NumberForm := { largest := 4294967295 }

/-- One of four octets, which has no zeros in front. -/
def octet : NumberForm := { width := some 3, isPadded := false, largest := 255 }

/-- One of eight groups, in hexadecimal. -/
def group : NumberForm := { base := 16, width := some 4, largest := 65535 }

/-- Whether digits are written in this form. -/
def admits (form : NumberForm) (ds : List Nat) : Bool :=
  !ds.isEmpty && form.width.all (ds.length ≤ ·) &&
    (form.isPadded || ds.length = 1 || ds.head? ≠ some 0) &&
    Numeral.value form.base ds ≤ form.largest

/-- Reads a number with all digits that are there. -/
def read (form : NumberForm) : Reader Nat := do
  let ds ← Reader.repeated (Reader.digit form.base)
  guard (form.admits ds)
  return Numeral.value form.base ds

end NumberForm

/-! ## Hosts -/

/-- Reads `count` octets, all but the first after a point. -/
def octets : (isFirst : Bool) → (count : Nat) → Reader (List Nat)
  | _, 0 => pure []
  | isFirst, count + 1 => do
    unless isFirst do Reader.char '.'
    let n ← NumberForm.octet.read
    let rest ← octets false count
    return n :: rest

/-- Reads four octets as two groups. -/
def quad : Reader (List Nat) := do
  match ← octets true 4 with
  | [a, b, c, d] => return [a * 256 + b, c * 256 + d]
  | _ => failure

/-- Reads as many groups as are there, at most `room`, all but the first after a colon.
Where two fit, four octets may stand for the last two; the flag says whether they do. -/
def groups : (isFirst : Bool) → (room : Nat) → Reader (List Nat × Bool)
  | _, 0 => pure ([], false)
  | isFirst, room + 1 => do
    let start : Reader Unit := unless isFirst do Reader.char ':'
    match ← Reader.optional? (guard (room ≠ 0) *> start *> quad) with
    | some pair => return (pair, true)
    | none =>
      match ← Reader.optional? (start *> NumberForm.group.read) with
      | some g =>
        let (gs, endsInQuad) ← groups false room
        return (g :: gs, endsInQuad)
      | none => return ([], false)

/-- Reads eight groups, one run of which may be left out as `::`. -/
def eightGroups : Reader (List Nat) := do
  let (head, endsInQuad) ← groups true 8
  if head.length = 8 then return head
  guard !endsInQuad
  Reader.word [':', ':']
  let (tail, _) ← groups true (8 - (head.length + 1))
  return head ++ List.replicate (8 - head.length - tail.length) 0 ++ tail

/-! ## Addresses -/

/-- Reads a colon and a port. -/
def readPort : Reader Nat :=
  Reader.char ':' *> NumberForm.port.read

/-- Reads an address with four octets. -/
def readV4 : Reader SocketAddress := do
  let ns ← octets true 4
  return .v4 ns (← readPort)

/-- Reads an address with eight groups in brackets, perhaps with a network interface. -/
def readV6 : Reader SocketAddress := do
  Reader.char '['
  let gs ← eightGroups
  let scope ← Reader.optional? (Reader.char '%' *> NumberForm.scope.read)
  Reader.char ']'
  return .v6 gs (scope.getD 0) (← readPort)

/-- The address that a whole text stands for. -/
def parse? (s : String) : Option SocketAddress :=
  Reader.whole? (readV4 <|> readV6) s

/-! ## Printing -/

/-- Start and length of the first longest run of zeros, among those that begin at `place` or
later; `current` is the length of the run that has just been seen. -/
def longestRun : (place current : Nat) → List Nat → Nat × Nat
  | place, current, [] => (place - current, current)
  | place, current, g :: gs =>
    if g = 0 then longestRun (place + 1) (current + 1) gs
    else
      let later := longestRun (place + 1) 0 gs
      if current < later.2 then later else (place - current, current)

/-- Groups in hexadecimal with colons between them. -/
def joined (gs : List Nat) : String :=
  ":".intercalate (gs.map (Numeral.hex 1))

/-- Octets in decimal with points between them. -/
def dotted (ns : List Nat) : String :=
  ".".intercalate (ns.map Numeral.decimal)

/-- The text of eight groups.  An address that stands for four octets shows them. -/
def hostText (gs : List Nat) : String :=
  match gs with
  | [0, 0, 0, 0, 0, 0xFFFF, a, b] => "::ffff:" ++ dotted [a / 256, a % 256, b / 256, b % 256]
  | gs =>
    let (start, length) := longestRun 0 0 gs
    if 1 < length then joined (gs.take start) ++ "::" ++ joined (gs.drop (start + length))
    else joined gs

/-- The printed address. -/
def text : SocketAddress → String
  | v4 ns p => dotted ns ++ ":" ++ Numeral.decimal p
  | v6 gs s p =>
    "[" ++ hostText gs ++ (if s = 0 then "" else "%" ++ Numeral.decimal s) ++ "]:" ++
      Numeral.decimal p

end SocketAddress

end Hotplug
