import Hotplug.Text.Numeral

/-!
# Decimal fractions

Numbers `c · 10 ^ e` and how they are laid out without an exponent.

This file serves the reports on configuration values, in which numbers are printed.

* `Decimal.trimmed` — the same number with no zeros at the end of `c`.
* `Decimal.positional` — the digits with a point, at least one digit on either side of it.
-/

namespace Hotplug

/-- The number `coefficient · 10 ^ exponent`. -/
structure Decimal where
  coefficient : Nat
  exponent : Int
  deriving DecidableEq, Repr, Inhabited

namespace Decimal

/-- The same number with the least coefficient. -/
def trimmed (d : Decimal) : Decimal :=
  if h : d.coefficient ≠ 0 ∧ d.coefficient % 10 = 0 then
    trimmed ⟨d.coefficient / 10, d.exponent + 1⟩
  else d
termination_by d.coefficient
decreasing_by exact Nat.div_lt_self (by omega) (by omega)

/-- Trimming divides the coefficient by the power of ten that the exponent gains. -/
theorem coefficient_trimmed (d : Decimal) :
    ∃ n : Nat, d.coefficient = d.trimmed.coefficient * Nat.pow 10 n ∧
      d.trimmed.exponent = d.exponent + n := by
  fun_induction trimmed d with
  | case1 d h ih =>
    obtain ⟨n, hc, he⟩ := ih
    have hpow : Nat.pow 10 (n + 1) = Nat.pow 10 n * 10 := rfl
    refine ⟨n + 1, ?_, by rw [he]; simp only; omega⟩
    rw [hpow, ← Nat.mul_assoc, ← hc]
    simp only
    omega
  | case2 d h => exact ⟨0, by simp, by simp⟩

/-- The digits of the number around a point. -/
def positional (d : Decimal) : String :=
  let body := Numeral.padded 10 1 d.coefficient
  if 0 ≤ d.exponent then
    String.ofList (body ++ List.replicate d.exponent.toNat '0') ++ ".0"
  else
    let places := (-d.exponent).toNat
    let body := List.replicate (places + 1 - body.length) '0' ++ body
    String.ofList (body.take (body.length - places) ++ '.' :: body.drop (body.length - places))

end Decimal

end Hotplug
