import Hotplug.Text.Reader

/-!
# Lexemes

The small parts of a document: blanks, line ends, comments, and strings with their escapes.

This file models the lexical part of the document parser behind the configuration component.

* `Lexeme.blanks`, `Lexeme.lineEnd`, `Lexeme.filler` — what separates the rest.
* `Lexeme.basic`, `Lexeme.literal` — strings in double and in single quotes.
* `Lexeme.longBasic`, `Lexeme.longLiteral` — strings that may go over several lines.
-/

namespace Hotplug.Toml.Lexeme

open Reader

/-! ## Blanks and comments -/

/-- Whether a character separates within a line. -/
def isBlank (c : Char) : Bool :=
  c = ' ' || c = '\t'

/-- Whether a character may stand in text: no control character but the tabulator. -/
def isTextual (c : Char) : Bool :=
  c = '\t' || (' ' ≤ c && c ≠ '\x7f')

/-- Takes blanks, perhaps none. -/
def blanks : Reader Unit :=
  discard (run isBlank)

/-- Takes a line feed, perhaps with a carriage return before it. -/
def newline : Reader Unit :=
  char '\n' <|> word ['\r', '\n']

/-- Takes a comment up to the end of its line. -/
def comment : Reader Unit :=
  char '#' *> discard (run isTextual)

/-- Takes the end of a line, or finds the end of the text. -/
def lineEnd : Reader Unit :=
  newline <|> atEnd

/-- Takes what may follow at the end of a line that holds something. -/
def trailing : Reader Unit := do
  blanks
  discard (optional? comment)
  lineEnd

/-- Takes blanks, line ends and comments, perhaps none. -/
def filler : Reader Unit :=
  discard (repeated (discard (someRun isBlank) <|> newline <|> (comment *> newline)))

/-! ## Escapes -/

/-- Takes the number of a character in `count` hexadecimal digits. -/
def codePoint (count : Nat) : Reader Char := do
  let n ← fixed 16 count
  guard (n.isValidChar)
  return Char.ofNat n

/-- Takes an escape. -/
def escape : Reader Char := do
  char '\\'
  match ← one fun _ => true with
  | 'b' => return '\x08'
  | 't' => return '\t'
  | 'n' => return '\n'
  | 'f' => return '\x0c'
  | 'r' => return '\r'
  | '"' => return '"'
  | '\\' => return '\\'
  | 'u' => codePoint 4
  | 'U' => codePoint 8
  | _ => failure

/-! ## Strings on one line -/

/-- Whether a character stands for itself between double quotes. -/
def isBasic (c : Char) : Bool :=
  isTextual c && c ≠ '"' && c ≠ '\\'

/-- Whether a character stands for itself between single quotes. -/
def isLiteral (c : Char) : Bool :=
  isTextual c && c ≠ '\''

/-- Takes a string in double quotes. -/
def basic : Reader String := do
  char '"'
  let pieces ← repeated (someRun isBasic <|> List.singleton <$> escape)
  char '"'
  return String.ofList pieces.flatten

/-- Takes a string in single quotes. -/
def literal : Reader String := do
  char '\''
  let cs ← run isLiteral
  char '\''
  return String.ofList cs

/-! ## Strings on several lines -/

/-- Takes a line end, which stands for a line feed. -/
def lineFeed : Reader (List Char) :=
  newline *> pure ['\n']

/-- Takes one or two quotes that do not end the string. -/
def innerQuotes (quote : Char) : Reader (List Char) := do
  let qs ← someRun (· = quote)
  guard (qs.length ≤ 2 && !(← isAtEnd))
  return qs

/-- Takes the three quotes that end the string, and up to two before them that belong to it. -/
def closingQuotes (quote : Char) : Reader (List Char) :=
  let ending (extra : Nat) : Reader (List Char) :=
    word (List.replicate (extra + 3) quote) *> pure (List.replicate extra quote)
  ending 2 <|> ending 1 <|> ending 0

/-- Takes a backslash at the end of a line and everything blank after it. -/
def continuation : Reader (List Char) := do
  char '\\'
  blanks
  newline
  discard (repeated (discard (someRun isBlank) <|> newline))
  return []

/-- Takes a string in three double quotes.  A line end right after them is left out. -/
def longBasic : Reader String := do
  word ['"', '"', '"']
  discard (optional? newline)
  let plain := someRun isBasic <|> lineFeed
  let escaped := continuation <|> List.singleton <$> escape
  let pieces ← repeated (plain <|> escaped <|> innerQuotes '"')
  let rest ← closingQuotes '"'
  return String.ofList (pieces.flatten ++ rest)

/-- Takes a string in three single quotes.  A line end right after them is left out. -/
def longLiteral : Reader String := do
  word ['\'', '\'', '\'']
  discard (optional? newline)
  let pieces ← repeated (someRun isLiteral <|> lineFeed <|> innerQuotes '\'')
  let rest ← closingQuotes '\''
  return String.ofList (pieces.flatten ++ rest)

/-- Takes a string of any kind. -/
def string : Reader String :=
  longBasic <|> basic <|> longLiteral <|> literal

end Hotplug.Toml.Lexeme
