import Hotplug.Number.Decimal

/-!
# Double precision

Binary fractions of 53 bits: which of them is nearest to a decimal number, and the shortest
decimal number to which a given one is the nearest.

This file models the reading and printing of floating-point numbers, which turn up in reports
on configuration values.

* `Double.nearest` — the double nearest to `c · 10 ^ e`, of two the one with an even mantissa.
* `Double.shortest` — the number with the fewest digits that reads back.
* `Double.text` — the printed double, never with an exponent.
-/

namespace Hotplug

/-- A double: `mantissa · 2 ^ exponent` with a sign, an infinity, or no number at all. -/
inductive Double where
  | finite (isNegative : Bool) (mantissa : Nat) (exponent : Int)
  | infinite (isNegative : Bool)
  | nan
  deriving DecidableEq, Repr, Inhabited

namespace Double

/-! ## Quotients -/

/-- `base ^ e` as a factor above and a factor below the line. -/
def power (base : Nat) (e : Int) : Nat × Nat :=
  (Nat.pow base e.toNat, Nat.pow base (-e).toNat)

/-- The whole number nearest to a quotient; a half goes to the even neighbour. -/
def roundDiv (n d : Nat) : Nat :=
  let q := n / d
  let r := 2 * (n % d)
  if r < d ∨ (r = d ∧ q % 2 = 0) then q else q + 1

/-- The result is within half a unit of the quotient. -/
theorem roundDiv_near (n : Nat) {d : Nat} (h : 0 < d) :
    2 * n ≤ 2 * (roundDiv n d * d) + d ∧ 2 * (roundDiv n d * d) ≤ 2 * n + d := by
  have hn := Nat.div_add_mod n d
  have hr := Nat.mod_lt n h
  have hc : d * (n / d) = n / d * d := Nat.mul_comm ..
  unfold roundDiv
  simp only
  split
  · omega
  · rw [Nat.add_mul]
    omega

/-! ## From decimal to binary -/

/-- Mantissas are below this, which is the 53rd power of two. -/
def bound : Nat := 9007199254740992

/-- The exponent of the least positive double. -/
def least : Int := -1074

/-- The exponent of the greatest double. -/
def greatest : Int := 971

/-- Exponents from which on everything is infinite or zero, whatever the digits in front. -/
def span : Nat := 400

/-- The double nearest to `n / d`. -/
def ofQuotient (isNegative : Bool) (n d : Nat) : Double :=
  let scaled (q : Int) : Nat × Nat := let (up, down) := power 2 q; (n * down, d * up)
  let q := max ((n.log2 : Int) - d.log2 - 53) least
  let q := if (scaled q).1 / (scaled q).2 < bound then q else q + 1
  let m := roundDiv (scaled q).1 (scaled q).2
  let (m, q) := if m = bound then (bound / 2, q + 1) else (m, q)
  if greatest < q then infinite isNegative else finite isNegative m q

/-- The double nearest to a decimal number. -/
def nearest (isNegative : Bool) (x : Decimal) : Double :=
  let size : Int := (Numeral.digits 10 x.coefficient).length + x.exponent
  if x.coefficient = 0 ∨ size < -span then finite isNegative 0 least
  else if span < size then infinite isNegative
  else
    let (up, down) := power 10 x.exponent
    ofQuotient isNegative (x.coefficient * up) down

/-! ## From binary to decimal -/

/-- The greatest `k` with `10 ^ k ≤ n / d`. -/
def magnitude (n d : Nat) : Int :=
  let k : Int := (Numeral.digits 10 n).length - (Numeral.digits 10 d).length
  let (up, down) := power 10 k
  if d * up ≤ n * down then k else k - 1

/-- The number `c · 10 ^ k` on the grid of step `10 ^ k` that lies closest to `m · 2 ^ q`, if
one of the two neighbours there reads back as that double; of two equally close ones the
greater.  Everything is compared in quarters of `2 ^ q`, as a power of two has a neighbour
below that is only half as far away as the one above. -/
def onGrid (m : Nat) (q k : Int) : Option Decimal :=
  let (qUp, qDown) := power 2 q
  let (kUp, kDown) := power 10 k
  let unit := qUp * kDown
  let step := 4 * kUp * qDown
  let below := if m = bound / 2 ∧ least < q then 1 else 2
  let reads (c : Nat) : Bool :=
    let x := c * step
    let low := (4 * m - below) * unit
    let high := (4 * m + 2) * unit
    if m % 2 = 0 then low ≤ x && x ≤ high else low < x && x < high
  let c := 4 * m * unit / step
  match reads c, reads (c + 1) with
  | false, false => none
  | true, false => some ⟨c, k⟩
  | false, true => some ⟨c + 1, k⟩
  | true, true =>
    if 4 * m * unit - c * step < (c + 1) * step - 4 * m * unit then some ⟨c, k⟩
    else some ⟨c + 1, k⟩

/-- The decimal number with the fewest digits that reads back as `m · 2 ^ q`; seventeen
digits are always enough. -/
def shortest (m : Nat) (q : Int) : Decimal :=
  if m = 0 then ⟨0, 0⟩
  else
    let (up, down) := power 2 q
    let top := magnitude (m * up) down
    (((List.range 17).findSome? fun (n : Nat) => onGrid m q (top - n)).getD ⟨0, 0⟩).trimmed

/-- The printed double. -/
def text : Double → String
  | finite isNegative m q => (if isNegative then "-" else "") ++ (shortest m q).positional
  | infinite false => "inf"
  | infinite true => "-inf"
  | nan => "NaN"

end Double

end Hotplug
