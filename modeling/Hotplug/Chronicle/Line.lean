import Hotplug.Chronicle.Filter
import Hotplug.Text.Quoted

/-!
# Lines of a log

How a message is written to the log of a program, as text or as a JSON object.

This file models the two formats of the logging component, and the span that carries the
session and its device.

* `Line` — a message with the session it was logged for, if that is shown.
* `Line.text` — the level, the session, the target, the words and the fields.
* `Line.json` — the same as an object, its keys in alphabetical order.
* `Line.timedText`, `Line.timedJson` — both with the time in front or among the keys.
-/

namespace Hotplug

/-- One line of a log. -/
structure Line where
  message : Message
  /-- The session that is shown in front of the message, with its device. -/
  session : Option (SessionId × DeviceId) := none
  deriving DecidableEq, Repr, Inhabited

namespace Line

/-! ## Sessions -/

/-- The span around the messages of a session. -/
def span : Span where
  name := "session"
  target := (Message.sessionEnded 0).target
  level := .info

/-- The fields of the span of a session. -/
def spanFields (id : SessionId) (device : DeviceId) : List (String × String) :=
  [("id", SessionId.name id), ("device", device.path)]

/-- The line for a message, if a filter shows it. -/
def ofMessage? (f : Filter) (device : DeviceId) (m : Message) (session : Option SessionId) :
    Option Line :=
  if f.shows m.target m.level (session.map fun _ => span) then
    some ⟨m, if f.showsSpan span then session.map (·, device) else none⟩
  else none

/-! ## As text -/

/-- A field as it is written in a line of text. -/
def fieldText (key : String) (v : FieldValue) : String :=
  key ++ "=" ++
    match v with
    | .quoted s => Quoted.quote s
    | v => v.text

/-- The text of a line but for its level. -/
def body (l : Line) : String :=
  let context :=
    match l.session with
    | none => ""
    | some (id, device) =>
      span.name ++ "\x7b" ++
        " ".intercalate ((spanFields id device).map fun (k, v) => k ++ "=" ++ v) ++ "\x7d: "
  let e := l.message.entry
  context ++ l.message.target ++ ": " ++
    " ".intercalate (e.words :: e.fields.map fun (k, v) => fieldText k v)

/-- The text of a line. -/
def text (l : Line) : String :=
  l.message.level.name ++ " " ++ l.body

/-- The text of a line with its time, the levels being aligned. -/
def timedText (time : String) (l : Line) : String :=
  let level := l.message.level.name
  time ++ " " ++ String.ofList (List.replicate (5 - level.length) ' ') ++ level ++ " " ++ l.body

/-! ## As an object -/

/-- A character within a JSON string. -/
def jsonEscape (c : Char) : List Char :=
  match c with
  | '"' => ['\\', '"']
  | '\\' => ['\\', '\\']
  | '\x08' => ['\\', 'b']
  | '\x0c' => ['\\', 'f']
  | '\n' => ['\\', 'n']
  | '\r' => ['\\', 'r']
  | '\t' => ['\\', 't']
  | c => if c < ' ' then ['\\', 'u'] ++ Numeral.padded 16 4 c.toNat else [c]

/-- A text as a JSON string. -/
def jsonString (s : String) : String :=
  String.ofList ('"' :: s.toList.flatMap jsonEscape ++ ['"'])

/-- An object with its keys in alphabetical order. -/
def jsonObject (members : List (String × String)) : String :=
  let sorted := members.mergeSort fun a b => decide (a.1 ≤ b.1)
  "\x7b" ++ ",".intercalate (sorted.map fun (k, v) => jsonString k ++ ":" ++ v) ++ "\x7d"

/-- The value of a field in an object. -/
def jsonValue : FieldValue → String
  | .number n => Numeral.decimal n
  | v => jsonString v.text

/-- The members of the object of a line. -/
def members (l : Line) : List (String × String) :=
  let e := l.message.entry
  let fields := ("message", jsonString e.words) :: e.fields.map fun (k, v) => (k, jsonValue v)
  let context :=
    match l.session with
    | none => []
    | some (id, device) =>
      let members := (spanFields id device).map fun (k, v) => (k, jsonString v)
      let object := jsonObject (("name", jsonString span.name) :: members)
      [("span", object), ("spans", "[" ++ object ++ "]")]
  [("level", jsonString l.message.level.name), ("fields", jsonObject fields),
    ("target", jsonString l.message.target)] ++ context

/-- The object of a line. -/
def json (l : Line) : String :=
  jsonObject l.members

/-- The object of a line with its time. -/
def timedJson (time : String) (l : Line) : String :=
  jsonObject (("timestamp", jsonString time) :: l.members)

end Line

end Hotplug
