import Hotplug.Text.Numeral

/-!
# Manager options

The named integers and switches, the two directories and the override line that are
handed to the device library when its manager starts.

This file models the options of the manager component, and the table in which the manager
section of the settings keeps them.

* `OptionTable` — named values in increasing order of their names, each name once.
* `OptionTable.insert` — sets a value.
* `OptionTable.get?_insert` — the last value set for a name is the one it has.
* `ManagerOptions` — a table with the paths and overrides.

Names are compared by code points, which is the order of their UTF-8 bytes.
-/

namespace Hotplug

/-- The value of an option. -/
inductive OptionValue where
  | int (n : Int)
  | bool (b : Bool)
  deriving DecidableEq, Repr, Inhabited

namespace OptionValue

/-- The printed value. -/
def text : OptionValue → String
  | int n => Numeral.signed n
  | bool true => "true"
  | bool false => "false"

end OptionValue

/-! ## Tables -/

/-- Puts a value into a list that is ordered by names, in the place of the one that the name
had before. -/
def OptionTable.insertInto (name : String) (value : OptionValue) :
    List (String × OptionValue) → List (String × OptionValue)
  | [] => [(name, value)]
  | (other, v) :: rest =>
    if name < other then (name, value) :: (other, v) :: rest
    else if name = other then (name, value) :: rest
    else (other, v) :: insertInto name value rest

theorem OptionTable.mem_insertInto {name : String} {value : OptionValue} {e : String × OptionValue}
    {es : List (String × OptionValue)} (h : e ∈ insertInto name value es) :
    e = (name, value) ∨ e ∈ es := by
  fun_induction insertInto name value es <;> grind

theorem OptionTable.pairwise_insertInto (name : String) (value : OptionValue)
    {es : List (String × OptionValue)} (h : es.Pairwise (·.1 < ·.1)) :
    (insertInto name value es).Pairwise (·.1 < ·.1) := by
  fun_induction insertInto name value es with
  | case1 => simp
  | case2 other v rest hlt =>
    refine List.pairwise_cons.2 ⟨fun e he => ?_, h⟩
    rcases List.mem_cons.1 he with rfl | he
    · exact hlt
    · exact String.lt_trans hlt ((List.pairwise_cons.1 h).1 e he)
  | case3 v rest hlt => exact List.pairwise_cons.2 (List.pairwise_cons.1 h)
  | case4 other v rest hlt hne ih =>
    obtain ⟨hfirst, hrest⟩ := List.pairwise_cons.1 h
    refine List.pairwise_cons.2 ⟨fun e he => ?_, ih hrest⟩
    rcases mem_insertInto he with rfl | he
    · by_cases hgt : other < name
      · exact hgt
      · exact absurd (String.le_antisymm (String.not_lt.1 hgt) (String.not_lt.1 hlt)) hne
    · exact hfirst e he

/-- Named values, each name once and in increasing order. -/
structure OptionTable where
  entries : List (String × OptionValue)
  ordered : entries.Pairwise (·.1 < ·.1)
  deriving DecidableEq, Repr

namespace OptionTable

/-- The table without names. -/
def empty : OptionTable :=
  ⟨[], .nil⟩

instance : Inhabited OptionTable := ⟨empty⟩

/-- The table with `name` set to `value`. -/
def insert (name : String) (value : OptionValue) (t : OptionTable) : OptionTable :=
  ⟨insertInto name value t.entries, pairwise_insertInto name value t.ordered⟩

/-- The value set for a name. -/
def get? (t : OptionTable) (name : String) : Option OptionValue :=
  (t.entries.find? (·.1 = name)).map (·.2)

/-- The table that a list of settings leaves, the last one for a name winning. -/
def ofList (settings : List (String × OptionValue)) : OptionTable :=
  settings.foldl (fun t (name, value) => t.insert name value) empty

/-- How many names have a value. -/
def size (t : OptionTable) : Nat :=
  t.entries.length

/-- Whether no name has a value. -/
def isEmpty (t : OptionTable) : Bool :=
  t.entries.isEmpty

/-- The last value set for a name is the one it has, and other names keep theirs. -/
theorem get?_insert (name : String) (value : OptionValue) (t : OptionTable) (other : String) :
    (t.insert name value).get? other = if other = name then some value else t.get? other := by
  obtain ⟨es, _⟩ := t
  unfold get? insert
  simp only
  fun_induction insertInto name value es <;> grind

end OptionTable

/-! ## Options -/

/-- Everything that is fixed about a manager before it starts. -/
structure ManagerOptions where
  configPath : String := ""
  userPath : String := ""
  overrides : String := ""
  values : OptionTable := .empty
  deriving DecidableEq, Repr, Inhabited

namespace ManagerOptions

/-- The options with one value set. -/
def set (o : ManagerOptions) (name : String) (value : OptionValue) : ManagerOptions :=
  { o with values := o.values.insert name value }

/-- The value of a named option. -/
def get? (o : ManagerOptions) (name : String) : Option OptionValue :=
  o.values.get? name

/-- How many options are set. -/
def size (o : ManagerOptions) : Nat :=
  o.values.size

/-- Whether no option is set. -/
def isEmpty (o : ManagerOptions) : Bool :=
  o.values.isEmpty

end ManagerOptions

end Hotplug
