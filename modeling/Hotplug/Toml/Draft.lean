import Hotplug.Toml.Value

/-!
# Tables in the making

The keys of one table may be spread over a document, so a table is put together piece by
piece.  A draft remembers how each table came about, which decides what may still be added
to it.

This file models how the document parser of the configuration component puts tables together.

* `Draft.at?` — changes the table at the end of a path, making the tables on the way.
* `Draft.assign?` — adds a key with a value.
* `Draft.define?`, `Draft.append?` — add a table under a header, or one more of several.
* `Draft.finish` — the table itself.
-/

namespace Hotplug.Toml

/-- Something that a key stands for while a table is put together. -/
inductive Draft where
  | value (v : Value)
  /-- A table, which may be there only because a path led through it, and may have been
  made by the path in front of a value rather than by a header. -/
  | table (isImplicit isDotted : Bool) (entries : List (String × Draft))
  | tables (items : List (List (String × Draft)))
  deriving Inhabited

namespace Draft

/-- Keys in order with what they stand for. -/
abbrev Entries := List (String × Draft)

/-! ## Entries -/

/-- What a key stands for. -/
def find? (key : String) (es : Entries) : Option Draft :=
  (es.find? (·.1 = key)).map (·.2)

/-- Gives a key that is there another meaning, and adds one that is not at the end. -/
def put (key : String) (d : Draft) : Entries → Entries
  | [] => [(key, d)]
  | (k, e) :: es => if k = key then (k, d) :: es else (k, e) :: put key d es

/-- Leaves a key out. -/
def erase (key : String) (es : Entries) : Entries :=
  es.filter (·.1 ≠ key)

/-! ## Paths -/

/-- Changes the entries of the table at the end of a path; the change sees whether that table
is dotted.  Missing tables on the way are made.  A path through several tables leads to
the last one; a path in front of a value does not lead into a table with a header. -/
def at? (isDotted : Bool) (change : Bool → Entries → Option Entries) :
    List String → Bool → Entries → Option Entries
  | [], here, es => change here es
  | key :: path, _, es => do
    match find? key es with
    | none =>
      let inner ← at? isDotted change path isDotted []
      return put key (.table true isDotted inner) es
    | some (.value _) => none
    | some (.tables items) =>
      let inner ← at? isDotted change path false (items.getLastD [])
      return put key (.tables (items.dropLast ++ [inner])) es
    | some (.table isImplicit dotted inner) =>
      guard (!isDotted || isImplicit)
      let inner ← at? isDotted change path dotted inner
      return put key (.table isImplicit dotted inner) es

/-- Adds a key with a value; the keys before the last one are a path.  The table must have
been made by such paths itself if there is one, and must not if there is none. -/
def assign? (path : List String) (v : Value) (es : Entries) : Option Entries := do
  let key ← path.getLast?
  let parents := path.dropLast
  at? true (fun isDotted es => do
      guard (isDotted ≠ parents.isEmpty)
      guard (find? key es).isNone
      return es ++ [(key, .value v)])
    parents false es

/-- Adds keys with values in order. -/
def assignAll? (pairs : List (List String × Value)) (es : Entries) : Option Entries :=
  pairs.foldlM (fun es (path, v) => assign? path v es) es

/-! ## Headers -/

/-- Adds a table with its keys under a header.  A table that is there only because headers
led through it keeps what it has and moves to the end. -/
def define? (path : List String) (pairs : List (List String × Value)) (es : Entries) :
    Option Entries := do
  let key ← path.getLast?
  at? false (fun _ es => do
      let start ←
        match find? key es with
        | none => some []
        | some (.table true false inner) => some inner
        | some _ => none
      let inner ← assignAll? pairs start
      return erase key es ++ [(key, .table false false inner)])
    path.dropLast false es

/-- Adds one more table with its keys to those of the same header. -/
def append? (path : List String) (pairs : List (List String × Value)) (es : Entries) :
    Option Entries := do
  let key ← path.getLast?
  at? false (fun _ es => do
      let items ←
        match find? key es with
        | none => some []
        | some (.tables items) => some items
        | some _ => none
      let inner ← assignAll? pairs []
      return put key (.tables (items ++ [inner])) es)
    path.dropLast false es

/-! ## The finished table -/

mutual

/-- The finished value. -/
def finish : Draft → Value
  | .value v => v
  | .table _ _ es => .table (finishEntries es)
  | .tables items => .tables (finishTables items)

/-- The finished entries of a table. -/
def finishEntries : List (String × Draft) → List (String × Value)
  | [] => []
  | (key, d) :: es => (key, d.finish) :: finishEntries es

/-- The finished tables under one header. -/
def finishTables : List (List (String × Draft)) → List Value
  | [] => []
  | es :: rest => .table (finishEntries es) :: finishTables rest

end

end Draft

end Hotplug.Toml
