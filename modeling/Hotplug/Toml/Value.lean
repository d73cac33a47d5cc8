import Hotplug.Number.Double

/-!
# TOML values

What a configuration document holds: scalars, arrays, and tables with their keys in the order
of the document.

This file models what the document parser hands to the configuration component.

* `Value` — the values.
* `Value.same` — whether two values are equal, by their parts.
-/

namespace Hotplug.Toml

/-- A value of a document. -/
inductive Value where
  | string (s : String)
  | integer (n : Int)
  | float (x : Double)
  | boolean (b : Bool)
  /-- A date, a time of day, or both.  Nothing reads which one. -/
  | moment
  | array (items : List Value)
  /-- The tables that were written one by one under headers in double brackets. -/
  | tables (items : List Value)
  | table (entries : List (String × Value))
  deriving Repr, Inhabited

namespace Value

/-- Whether an integer fits 64 bits. -/
def isLong (n : Int) : Bool :=
  -9223372036854775808 ≤ n && n ≤ 9223372036854775807

/-- What kind of value it is, in one word. -/
def kind : Value → String
  | string _ => "string"
  | integer _ => "integer"
  | float _ => "float"
  | boolean _ => "boolean"
  | moment => "datetime"
  | array _ => "array"
  | tables _ => "array of tables"
  | table _ => "table"

/-! ## Equality -/

mutual

/-- Whether two values are the same. -/
def same : Value → Value → Bool
  | string s, string t => s = t
  | integer m, integer n => m = n
  | float x, float y => x = y
  | boolean b, boolean c => b = c
  | moment, moment => true
  | array vs, array ws => sameItems vs ws
  | tables vs, tables ws => sameItems vs ws
  | table es, table fs => sameEntries es fs
  | _, _ => false

/-- Whether two lists have the same values. -/
def sameItems : List Value → List Value → Bool
  | [], [] => true
  | v :: vs, w :: ws => v.same w && sameItems vs ws
  | _, _ => false

/-- Whether two lists have the same keys with the same values. -/
def sameEntries : List (String × Value) → List (String × Value) → Bool
  | [], [] => true
  | (key, v) :: es, (key', w) :: fs => key = key' && v.same w && sameEntries es fs
  | _, _ => false

end

mutual

theorem same_iff : ∀ v w : Value, v.same w = true ↔ v = w
  | string _, w | integer _, w | float _, w | boolean _, w | moment, w => by
    cases w <;> simp [same]
  | array vs, w | tables vs, w => by
    cases w <;> simp [same, sameItems_iff vs]
  | table es, w => by
    cases w <;> simp [same, sameEntries_iff es]

theorem sameItems_iff : ∀ vs ws : List Value, sameItems vs ws = true ↔ vs = ws
  | [], ws => by cases ws <;> simp [sameItems]
  | v :: vs, ws => by cases ws <;> simp [sameItems, same_iff v, sameItems_iff vs]

theorem sameEntries_iff : ∀ es fs : List (String × Value), sameEntries es fs = true ↔ es = fs
  | [], fs => by cases fs <;> simp [sameEntries]
  | (key, v) :: es, fs => by
    cases fs <;> simp [sameEntries, same_iff v, sameEntries_iff es, Prod.ext_iff]

end

instance : DecidableEq Value := fun v w => decidable_of_iff _ (v.same_iff w)

end Value

end Hotplug.Toml
