/-!
# Blank characters

The characters with the Unicode property `White_Space`.

This file serves the check of option names in the configuration component, which no name with a
blank in it passes.

* `Blank.table` — the ranges of the property.
* `Blank.isBlank_of_isWhitespace` — every blank of the ASCII class is one.
-/

namespace Hotplug.Blank

/-- First and last code point of each range of the property. -/
def table : List (Nat × Nat) :=
  [(0x09, 0x0D), (0x20, 0x20), (0x85, 0x85), (0xA0, 0xA0), (0x1680, 0x1680), (0x2000, 0x200A),
    (0x2028, 0x2029), (0x202F, 0x202F), (0x205F, 0x205F), (0x3000, 0x3000)]

/-- Whether a character is white space in Unicode. -/
def isBlank (c : Char) : Bool :=
  table.any fun (lo, hi) => lo ≤ c.toNat && c.toNat ≤ hi

/-- Whether a text has a blank in it. -/
def hasBlank (s : String) : Bool :=
  s.toList.any isBlank

theorem isBlank_of_isWhitespace {c : Char} (h : c.isWhitespace = true) : isBlank c = true := by
  simp only [Char.isWhitespace, Bool.or_eq_true, decide_eq_true_eq] at h
  rcases h with ((rfl | rfl) | rfl) | rfl <;> decide

end Hotplug.Blank
