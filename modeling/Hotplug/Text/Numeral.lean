/-!
# Numerals

How numbers are written in the texts of this library: plain decimal, and lower-case
hexadecimal padded with zeros to a least width.

This file serves every text with numbers in it, from log lines to documents.

* `Numeral.digits` — the digits of a number in a base, most significant first.
* `Numeral.value` — the number that a list of digits stands for.
* `Numeral.value_digits` — reading the written digits gives the number back.
* `Numeral.signed` — decimal with a minus sign for negative numbers.
-/

namespace Hotplug.Numeral

/-! ## Digits -/

/-- The digits of `n` in `base`, most significant first; zero has the one digit zero. -/
def digits (base n : Nat) : List Nat :=
  if _ : n < base ∨ base < 2 then [n]
  else digits base (n / base) ++ [n % base]
termination_by n
decreasing_by
  have : 0 < n := by omega
  exact Nat.div_lt_self this (by omega)

/-- The number that digits in `base` stand for. -/
def value (base : Nat) (ds : List Nat) : Nat :=
  ds.foldl (fun n d => n * base + d) 0

theorem value_append_singleton (base : Nat) (ds : List Nat) (d : Nat) :
    value base (ds ++ [d]) = value base ds * base + d := by
  simp [value]

/-- Reading the digits of a number gives the number back. -/
theorem value_digits (base n : Nat) : value base (digits base n) = n := by
  fun_induction digits base n with
  | case1 n h => simp [value]
  | case2 n h ih =>
    rw [value_append_singleton, ih]
    exact Nat.div_add_mod' n base

theorem digits_ne_nil (base n : Nat) : digits base n ≠ [] := by
  unfold digits
  split <;> simp

theorem digits_lt {base : Nat} (h : 2 ≤ base) (n : Nat) : ∀ d ∈ digits base n, d < base := by
  fun_induction digits base n with
  | case1 n h => grind
  | case2 n h ih =>
    intro d hd
    rcases List.mem_append.1 hd with hd | hd
    · exact ih d hd
    · rw [List.mem_singleton.1 hd]
      exact Nat.mod_lt _ (by omega)

/-! ## Written forms -/

/-- The character of a digit below sixteen. -/
def digitChar (d : Nat) : Char :=
  if d < 10 then Char.ofNat (d + '0'.toNat) else Char.ofNat (d - 10 + 'a'.toNat)

/-- The digit that a character stands for, letters in either case. -/
def digitValue? (c : Char) : Option Nat :=
  if '0' ≤ c ∧ c ≤ '9' then some (c.toNat - '0'.toNat)
  else if 'a' ≤ c ∧ c ≤ 'f' then some (c.toNat - 'a'.toNat + 10)
  else if 'A' ≤ c ∧ c ≤ 'F' then some (c.toNat - 'A'.toNat + 10)
  else none

theorem digitValue?_digitChar {d : Nat} (h : d < 16) : digitValue? (digitChar d) = some d := by
  have : ∀ e : Fin 16, digitValue? (digitChar e) = some e.val := by decide
  exact this ⟨d, h⟩

/-- `n` in base `base`, padded on the left with zeros to `width` characters. -/
def padded (base width n : Nat) : List Char :=
  let body := (digits base n).map digitChar
  List.replicate (width - body.length) '0' ++ body

/-- `n` in decimal. -/
def decimal (n : Nat) : String :=
  String.ofList (padded 10 1 n)

/-- `n` in lower-case hexadecimal with at least `width` digits. -/
def hex (width n : Nat) : String :=
  String.ofList (padded 16 width n)

/-- An integer in decimal, with a minus sign if it is negative. -/
def signed : Int → String
  | .ofNat n => decimal n
  | .negSucc n => "-" ++ decimal (n + 1)

end Hotplug.Numeral
