import Hotplug.Text.Numeral

/-!
# Readers

A reader takes something from the front of a text and leaves the rest, or finds that it is
not there and takes nothing.  Readers are combined as any monad is; `<|>` tries a second
reader where the first one finds nothing.

The documents of the configuration component, its addresses and the log filters are read with
them.

* `Reader.one`, `Reader.char`, `Reader.word` — single characters and fixed texts.
* `Reader.run` — characters for as long as a condition holds.
* `Reader.repeated` — one reader over and over.
* `Reader.digits` — digits with single underscores between them.
-/

namespace Hotplug

/-- Takes something from the front of a text, if it is there. -/
abbrev Reader := StateT (List Char) Option

namespace Reader

variable {α : Type}

/-! ## Characters -/

/-- Takes one character for which `p` holds. -/
def one (p : Char → Bool) : Reader Char
  | [] => none
  | c :: cs => if p c then some (c, cs) else none

/-- Takes the character `c`. -/
def char (c : Char) : Reader Unit :=
  discard (one (· = c))

/-- Takes the given characters. -/
def word (cs : List Char) : Reader Unit :=
  cs.forM char

/-- Takes characters for as long as `p` holds, perhaps none. -/
def run (p : Char → Bool) : Reader (List Char) := fun cs =>
  some (cs.takeWhile p, cs.dropWhile p)

/-- Takes characters for as long as `p` holds, at least one. -/
def someRun (p : Char → Bool) : Reader (List Char) := do
  let cs ← run p
  guard (!cs.isEmpty)
  return cs

/-- Whether nothing is left. -/
def isAtEnd : Reader Bool := do
  return (← get).isEmpty

/-- Succeeds where nothing is left. -/
def atEnd : Reader Unit := do
  guard (← isAtEnd)

/-! ## Combinations -/

/-- What a reader takes, if it finds anything. -/
def optional? (r : Reader α) : Reader (Option α) :=
  (some <$> r) <|> pure none

/-- What a reader takes from a text when it is run over and over, and what is left.  A
reader that takes nothing is not run again. -/
def collect (r : Reader α) (cs : List Char) : List α × List Char :=
  match r cs with
  | none => ([], cs)
  | some (a, rest) =>
    if _ : rest.length < cs.length then
      let (as, rest) := collect r rest
      (a :: as, rest)
    else ([], cs)
termination_by cs.length

/-- Runs a reader for as long as it takes something. -/
def repeated (r : Reader α) : Reader (List α) := fun cs =>
  some (collect r cs)

/-- Runs a reader at least once, then for as long as it takes something after `separator`. -/
def separated (separator : Reader Unit) (r : Reader α) : Reader (List α) := do
  let first ← r
  let rest ← repeated (separator *> r)
  return first :: rest

/-- What a reader takes from a whole text. -/
def whole? (r : Reader α) (s : String) : Option α :=
  match r s.toList with
  | some (a, []) => some a
  | _ => none

/-! ## Digits -/

/-- Takes one digit in a base. -/
def digit (base : Nat) : Reader Nat := fun cs =>
  match cs with
  | [] => none
  | c :: rest => ((Numeral.digitValue? c).filter (· < base)).map (·, rest)

/-- Takes digits, single underscores being allowed between them. -/
def digits (base : Nat) : Reader (List Nat) := do
  let first ← digit base
  let rest ← repeated (digit base <|> (char '_' *> digit base))
  return first :: rest

/-- Takes a number of exactly `count` digits. -/
def fixed (base count : Nat) : Reader Nat := do
  let ds ← (List.replicate count ()).mapM fun _ => digit base
  return Numeral.value base ds

end Reader

end Hotplug
