import Hotplug.Toml.Lexeme
import Hotplug.Toml.Value

/-!
# Scalars

Numbers, dates and times, truth values.

This file models the scalar part of the document parser behind the configuration component.

* `Scalar.integer` — decimal with a sign, or hexadecimal, octal or binary without one.
* `Scalar.float` — decimal with a fraction or an exponent, infinities and not-a-number.
* `Scalar.moment` — dates of the calendar and times of the day.
* `Scalar.value` — any scalar.

A number that fits neither 64 bits nor a finite double is no number, but a negative one too
large for a double is minus infinity.
-/

namespace Hotplug.Toml.Scalar

open Reader

/-! ## Numbers -/

/-- Takes a sign; says whether it is a minus. -/
def sign : Reader Bool :=
  (char '-' *> pure true) <|> (char '+' *> pure false) <|> pure false

/-- Takes decimal digits with no zero in front of others. -/
def whole : Reader (List Nat) := do
  let ds ← digits 10
  guard (ds.length = 1 || ds.head? ≠ some 0)
  return ds

/-- The number with its sign, if it fits 64 bits. -/
def bounded? (isNegative : Bool) (n : Nat) : Option Int :=
  (some (if isNegative then -(n : Int) else n)).filter Value.isLong

/-- Takes digits in another base after the letter that announces it. -/
def based (letter : Char) (base : Nat) : Reader Int := do
  word ['0', letter]
  let ds ← digits base
  StateT.lift (bounded? false (Numeral.value base ds))

/-- Takes an integer. -/
def integer : Reader Int :=
  based 'x' 16 <|> based 'o' 8 <|> based 'b' 2 <|> do
    let isNegative ← sign
    let ds ← whole
    StateT.lift (bounded? isNegative (Numeral.value 10 ds))

/-- Takes a point and the digits after it. -/
def fraction : Reader (List Nat) :=
  char '.' *> digits 10

/-- Takes an exponent. -/
def exponent : Reader Int := do
  discard (one fun c => c = 'e' || c = 'E')
  let isNegative ← sign
  let n := Numeral.value 10 (← digits 10)
  return if isNegative then -n else n

/-- Takes a number with a fraction, an exponent or both. -/
def fractional : Reader Double := do
  let isNegative ← sign
  let ds ← whole
  let places? ← optional? fraction
  let exponent? ← optional? exponent
  guard (places?.isSome || exponent?.isSome)
  let places := places?.getD []
  let x := Double.nearest isNegative
    ⟨Numeral.value 10 (ds ++ places), exponent?.getD 0 - places.length⟩
  guard (x ≠ .infinite false)
  return x

/-- Takes an infinity or not-a-number. -/
def special : Reader Double := do
  let isNegative ← sign
  (word ['i', 'n', 'f'] *> pure (.infinite isNegative)) <|>
    (word ['n', 'a', 'n'] *> pure .nan)

/-- Takes a floating-point number. -/
def float : Reader Double :=
  fractional <|> special

/-! ## Dates and times -/

/-- Whether a year has a leap day. -/
def isLeap (year : Nat) : Bool :=
  year % 4 = 0 && (year % 100 ≠ 0 || year % 400 = 0)

/-- How many days a month has. -/
def daysIn (year month : Nat) : Nat :=
  match month with
  | 2 => if isLeap year then 29 else 28
  | 4 | 6 | 9 | 11 => 30
  | _ => 31

/-- Takes a date. -/
def date : Reader Unit := do
  let year ← fixed 10 4
  char '-'
  let month ← fixed 10 2
  char '-'
  let day ← fixed 10 2
  guard (1 ≤ month && month ≤ 12 && 1 ≤ day && day ≤ daysIn year month)

/-- Takes hours and minutes. -/
def clock : Reader Unit := do
  let hour ← fixed 10 2
  char ':'
  let minute ← fixed 10 2
  guard (hour ≤ 23 && minute ≤ 59)

/-- Takes a time of the day; a minute may have a leap second. -/
def time : Reader Unit := do
  clock
  char ':'
  let second ← fixed 10 2
  guard (second ≤ 60)
  discard (optional? (char '.' *> someRun Char.isDigit))

/-- Takes the distance to universal time. -/
def offset : Reader Unit :=
  discard (one fun c => c = 'Z' || c = 'z') <|>
    (discard (one fun c => c = '+' || c = '-') *> clock)

/-- Takes a date, a time, or both. -/
def moment : Reader Unit :=
  (do
    date
    let separator := one fun c => c = 'T' || c = 't' || c = ' '
    discard (optional? (separator *> time *> optional? offset))) <|> time

/-! ## All of them -/

/-- Takes a scalar. -/
def value : Reader Value :=
  (.string <$> Lexeme.string) <|>
  (word ['t', 'r', 'u', 'e'] *> pure (.boolean true)) <|>
  (word ['f', 'a', 'l', 's', 'e'] *> pure (.boolean false)) <|>
  (moment *> pure .moment) <|>
  (.float <$> float) <|>
  (.integer <$> integer)

end Hotplug.Toml.Scalar
