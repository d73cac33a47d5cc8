/-!
# Reading UTF-8

Bytes that should be UTF-8 but need not be.  A byte string splits into characters and
stray pieces; a stray piece is a longest start of a character that does not go on as one.

This file serves the loader of the configuration component, which refuses a file that is not
text.

* `Utf8.pieces` — the split; every byte is in exactly one piece.
* `Utf8.decode?` — the text, if there is no stray piece.
* `Utf8.decodeLossy` — the text with U+FFFD in place of every stray piece.
-/

namespace Hotplug.Utf8

/-! ## One character -/

/-- The bits that a first byte gives, and the ranges that the bytes after it must lie in.
The ranges leave out overlong forms, surrogates and everything above U+10FFFF. -/
def lead (b : UInt8) : Option (Nat × List (UInt8 × UInt8)) :=
  if b < 0x80 then some (b.toNat, [])
  else if b < 0xC2 then none
  else if b < 0xE0 then some (b.toNat - 0xC0, [(0x80, 0xBF)])
  else if b = 0xE0 then some (0, [(0xA0, 0xBF), (0x80, 0xBF)])
  else if b = 0xED then some (0xD, [(0x80, 0x9F), (0x80, 0xBF)])
  else if b < 0xF0 then some (b.toNat - 0xE0, [(0x80, 0xBF), (0x80, 0xBF)])
  else if b = 0xF0 then some (0, [(0x90, 0xBF), (0x80, 0xBF), (0x80, 0xBF)])
  else if b < 0xF4 then some (b.toNat - 0xF0, [(0x80, 0xBF), (0x80, 0xBF), (0x80, 0xBF)])
  else if b = 0xF4 then some (4, [(0x80, 0x8F), (0x80, 0xBF), (0x80, 0xBF)])
  else none

/-- Takes the bytes that continue a character for as long as they fit.  The character's
number is `none` if they end too early; what was not taken is left over. -/
def follow : List (UInt8 × UInt8) → Nat → List UInt8 → Option Nat × List UInt8
  | [], n, bs => (some n, bs)
  | _ :: _, _, [] => (none, [])
  | (lo, hi) :: ranges, n, b :: bs =>
    if lo ≤ b ∧ b ≤ hi then follow ranges (n * 64 + (b.toNat - 0x80)) bs else (none, b :: bs)

theorem length_follow_le (ranges : List (UInt8 × UInt8)) (n : Nat) (bs : List UInt8) :
    (follow ranges n bs).2.length ≤ bs.length := by
  fun_induction follow ranges n bs with
  | case1 => simp
  | case2 => simp
  | case3 n lo hi ranges b bs h ih => simp; omega
  | case4 => simp

/-! ## All of them -/

/-- The pieces of a byte string in order: a character, or `none` for a stray piece. -/
def pieces : List UInt8 → List (Option Char)
  | [] => []
  | b :: bs =>
    match lead b with
    | none => none :: pieces bs
    | some (n, ranges) =>
      ((follow ranges n bs).1.map Char.ofNat) :: pieces (follow ranges n bs).2
termination_by bs => bs.length
decreasing_by
  · simp
  · have := length_follow_le ranges n bs
    simp; omega

/-- The text of a byte string that is UTF-8 throughout. -/
def decode? (bs : List UInt8) : Option String :=
  ((pieces bs).mapM id).map String.ofList

/-- The text of a byte string, with U+FFFD for each stray piece. -/
def decodeLossy (bs : List UInt8) : String :=
  String.ofList ((pieces bs).map fun c => c.getD '\uFFFD')

end Hotplug.Utf8
