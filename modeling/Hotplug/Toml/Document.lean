import Hotplug.Toml.Draft
import Hotplug.Toml.Scalar

/-!
# TOML documents

A document is a list of keys with values, followed by blocks of them under headers.

This file models the document parser behind the loader of the configuration component.

* `Document.read` — the keys and blocks as they are written.
* `Document.table?` — the table they make, if no two of them are in each other's way.
* `Document.parse?` — the table of a text.
-/

namespace Hotplug.Toml

/-- Keys with values under one header. -/
structure Block where
  /-- Whether the header is one of several with the same name. -/
  isItem : Bool
  path : List String
  pairs : List (List String × Value)
  deriving Repr, Inhabited

/-- A document as it is written. -/
structure Document where
  pairs : List (List String × Value)
  blocks : List Block
  deriving Repr, Inhabited

namespace Document

open Reader Lexeme

/-- Values may be nested less than this deep, and a path has fewer keys. -/
def depthLimit : Nat := 80

/-! ## Keys and values -/

/-- Whether a character may stand in a key without quotes. -/
def isBare (c : Char) : Bool :=
  c.isAlphanum || c = '_' || c = '-'

/-- Takes one key with the blanks around it. -/
def key : Reader String := do
  blanks
  let k ← basic <|> literal <|> (String.ofList <$> someRun isBare)
  blanks
  return k

/-- Takes keys with points between them. -/
def path : Reader (List String) := do
  let ks ← separated (char '.') key
  guard (ks.length < depthLimit)
  return ks

/-- Takes a path, an equals sign and a value. -/
def pair (value : Reader Value) : Reader (List String × Value) := do
  let ks ← path
  char '='
  blanks
  let v ← value
  return (ks, v)

/-- Takes the values between brackets. -/
def array (value : Reader Value) : Reader Value := do
  char '['
  let item := filler *> value <* filler
  let items ← optional? (separated (char ',') item <* optional? (char ','))
  filler
  char ']'
  return .array (items.getD [])

/-- Takes the keys and values between braces, all on one line. -/
def inlineTable (value : Reader Value) : Reader Value := do
  char '\x7b'
  let pairs ← optional? (separated (char ',') (pair value <* blanks))
  blanks
  char '\x7d'
  let entries ← StateT.lift (Draft.assignAll? (pairs.getD []) [])
  return .table (Draft.finishEntries entries)

/-- Takes a value with at most the given number of others around each other. -/
def value : (depth : Nat) → Reader Value
  | 0 => Scalar.value
  | depth + 1 => array (value depth) <|> inlineTable (value depth) <|> Scalar.value

/-! ## Lines -/

/-- Takes lines that hold nothing, and the blanks in front of the next one. -/
def emptyLines : Reader Unit := do
  blanks
  discard (repeated ((newline <|> (comment *> lineEnd)) <* blanks))

/-- Takes a line with a key and a value, and the empty ones after it. -/
def pairLine : Reader (List String × Value) :=
  pair (value (depthLimit - 1)) <* trailing <* emptyLines

/-- Takes a header, and the empty lines after it. -/
def header : Reader (Bool × List String) := do
  let isItem := (← optional? (word ['[', '['])).isSome
  unless isItem do char '['
  let ks ← path
  word (if isItem then [']', ']'] else [']'])
  trailing
  emptyLines
  return (isItem, ks)

/-- Takes a header with the lines below it. -/
def block : Reader Block := do
  let (isItem, ks) ← header
  return ⟨isItem, ks, ← repeated pairLine⟩

/-- Takes a whole document; a byte order mark in front of it is left out. -/
def read : Reader Document := do
  discard (optional? (char '\uFEFF'))
  emptyLines
  return ⟨← repeated pairLine, ← repeated block⟩

/-! ## Tables -/

/-- The entries of the table that a document describes. -/
def table? (d : Document) : Option (List (String × Value)) := do
  let start ← Draft.assignAll? d.pairs []
  let all ← d.blocks.foldlM (fun es b =>
    if b.isItem then Draft.append? b.path b.pairs es else Draft.define? b.path b.pairs es) start
  return Draft.finishEntries all

/-- The table that a text describes. -/
def parse? (s : String) : Option (List (String × Value)) :=
  (whole? read s).bind table?

end Document

end Hotplug.Toml
