import Hotplug.Text.Numeral
import Hotplug.Text.Shapeless

/-!
# Quoted text

A text between double quotes, with an escape for everything that could not be told there.

This file serves the log lines and reports in which a text is quoted.

* `Quoted.escape` — how one character is written.
* `Quoted.quote` — the quoted text.
-/

namespace Hotplug.Quoted

/-- A character as it is written between quotes. -/
def escape (c : Char) : List Char :=
  match c with
  | '\x00' => ['\\', '0']
  | '\t' => ['\\', 't']
  | '\r' => ['\\', 'r']
  | '\n' => ['\\', 'n']
  | '\\' => ['\\', '\\']
  | '"' => ['\\', '"']
  | c =>
    if Shapeless.isShapeless c then "\\u\x7b".toList ++ Numeral.padded 16 1 c.toNat ++ ['}']
    else [c]

/-- A text between double quotes. -/
def quote (s : String) : String :=
  String.ofList ('"' :: s.toList.flatMap escape ++ ['"'])

end Hotplug.Quoted
