import Hotplug.Chronicle.Message
import Hotplug.Text.Reader

/-!
# Log filters

Which messages are shown.  A filter is a list of directives such as `info`, `name=debug` or
`name[span]=trace`, with commas between them.

This file models how the logging component chooses what is logged: by the filter in the
environment if that can be read, and by the configured level otherwise.

* `Threshold.parse?` — how much is shown: a level by name or number, or nothing at all.
* `Directive.parse?` — one directive.
* `Filter.strict?`, `Filter.lenient` — a whole filter, of which every part has to be readable
  or the unreadable parts are left out.
* `Filter.shows` — whether a message is shown.  Of the directives whose name its target
  begins with, the longest one decides.
* `Filter.choose` — the filter of a program.
-/

namespace Hotplug

/-! ## Thresholds -/

/-- The rank of the least important level that is shown; zero shows nothing. -/
abbrev Threshold := Nat

namespace Threshold

/-- The names of all thresholds in the order of their ranks. -/
def names : List String :=
  ["OFF", "ERROR", "WARN", "INFO", "DEBUG", "TRACE"]

/-- Shows everything. -/
def everything : Threshold := Level.trace.rank

/-- A number in decimal, perhaps with a plus sign. -/
def number : Reader Nat := do
  discard (Reader.optional? (Reader.char '+'))
  let first ← Reader.digit 10
  let rest ← Reader.repeated (Reader.digit 10)
  return Numeral.value 10 (first :: rest)

/-- The threshold that a text stands for: a rank, or a name in any case. -/
def parse? (s : String) : Option Threshold :=
  match (Reader.whole? number s).filter (· ≤ everything) with
  | some n => some n
  | none => names.findIdx? (· = s.map Char.toUpper)

/-- The threshold after an equals sign; if nothing follows, everything is shown. -/
def ofSuffix? (cs : List Char) : Option Threshold :=
  if cs.isEmpty then some everything else parse? (String.ofList cs)

end Threshold

/-! ## Directives -/

/-- What a directive asks of the span around a message. -/
structure SpanPattern where
  name : String
  /-- Whether it asks for fields too. -/
  hasFields : Bool := false
  deriving DecidableEq, Repr, Inhabited

/-- One part of a filter. -/
structure Directive where
  /-- What the target of a message has to begin with. -/
  target : String := ""
  span : Option SpanPattern := none
  threshold : Threshold
  deriving DecidableEq, Repr, Inhabited

namespace Directive

/-- Whether a directive may begin with a character: letters of any kind, digits and three
signs.  Every character beyond ASCII counts as a letter. -/
def isStart (c : Char) : Bool :=
  c.isAlphanum || '\x7f' < c || c = '-' || c = ':' || c = '_'

/-- The end of a directive after a bracket: nothing, or an equals sign and a threshold. -/
def close? (target : String) (span : Option SpanPattern) : List Char → Option Directive
  | [] => some ⟨target, span, Threshold.everything⟩
  | '=' :: level => (Threshold.ofSuffix? level).map (⟨target, span, ·⟩)
  | _ => none

/-- The rest of a directive after an opening bracket.  A bracket that is never closed counts
for nothing. -/
def bracket? (target : String) (cs : List Char) : Option Directive :=
  let name := String.ofList (cs.takeWhile fun c => c ≠ ']' && c ≠ '\x7b')
  match cs.dropWhile fun c => c ≠ ']' && c ≠ '\x7b' with
  | [] => some ⟨target, none, Threshold.everything⟩
  | ']' :: rest => close? target (some ⟨name, false⟩) rest
  | _ :: rest =>
    match rest.takeWhile (· ≠ '\x7d'), rest.dropWhile (· ≠ '\x7d') with
    | _, [] =>
      some ⟨target, if name.isEmpty then none else some ⟨name, false⟩, Threshold.everything⟩
    | [], _ => none
    | _, [_] => some ⟨target, some ⟨name, true⟩, Threshold.everything⟩
    | _, _ :: ']' :: rest => close? target (some ⟨name, true⟩) rest
    | _, _ => none

/-- The directive that a text stands for. -/
def parse? (s : String) : Option Directive :=
  match s.toList with
  | [] => some ⟨"", none, Threshold.everything⟩
  | '[' :: cs => bracket? "" cs
  | c :: cs =>
    if isStart c then
      let isName d := d ≠ '=' && d ≠ '['
      let name := String.ofList (c :: cs.takeWhile isName)
      match cs.dropWhile isName with
      | [] =>
        match Threshold.parse? name with
        | some t => some ⟨"", none, t⟩
        | none => some ⟨name, none, Threshold.everything⟩
      | '=' :: level => (Threshold.ofSuffix? level).map (⟨name, none, ·⟩)
      | _ :: rest => bracket? name rest
    else none

/-- Whether a directive is about a target. -/
def concerns (d : Directive) (target : String) : Bool :=
  d.target.toList.isPrefixOf target.toList

end Directive

/-! ## Filters -/

/-- Directives in the order in which they were given. -/
abbrev Filter := List Directive

/-- The span around a message. -/
structure Span where
  name : String
  target : String
  level : Level
  deriving DecidableEq, Repr, Inhabited

namespace Filter

/-- The parts of a text between commas that are not empty. -/
def parts (s : String) : List String :=
  (s.splitOn ",").filter (!·.isEmpty)

/-- The filter of a text with nothing unreadable in it. -/
def strict? (s : String) : Option Filter :=
  (parts s).mapM Directive.parse?

/-- The filter of whatever can be read in a text; only errors are shown if that is nothing. -/
def lenient (s : String) : Filter :=
  match (parts s).filterMap Directive.parse? with
  | [] => [⟨"", none, Level.error.rank⟩]
  | f => f

/-- The directive without a span that decides about a target: the longest one, and of equal
ones the last. -/
def decisive? (f : Filter) (target : String) : Option Directive :=
  (f.filter fun d => d.span.isNone && d.concerns target).foldl (fun best d =>
    if best.any fun b => d.target.length < b.target.length then best else some d) none

/-- Whether a level is shown for a target, whatever the spans are. -/
def showsTarget (f : Filter) (target : String) (level : Level) : Bool :=
  (f.decisive? target).any (level.rank ≤ ·.threshold)

/-- Whether a directive asks for this span. -/
def isFor (s : Span) (d : Directive) : Bool :=
  d.span.any (fun p => !p.hasFields && p.name = s.name) && d.concerns s.target

/-- Whether a message of a target is shown within a span. -/
def shows (f : Filter) (target : String) (level : Level) (span : Option Span) : Bool :=
  f.showsTarget target level ||
    span.any fun s => f.any fun d => isFor s d && level.rank ≤ d.threshold

/-- Whether a span itself is shown in front of the messages within it. -/
def showsSpan (f : Filter) (s : Span) : Bool :=
  f.showsTarget s.target s.level || f.any (isFor s)

/-- The name that all targets of the program begin with. -/
def program : String := "driver_supervisor"

/-- The filter for a configured level: a bare level is for the program alone. -/
def ofLevel (level : String) : Filter :=
  lenient
    (if level.toList.any fun c => c = '=' || c = ',' then level else program ++ "=" ++ level)

/-- The filter that the environment asks for, if all of it can be read, and otherwise the
one for the configured level. -/
def choose (environment : Option String) (level : String) : Filter :=
  (environment.bind strict?).getD (ofLevel level)

end Filter

end Hotplug
