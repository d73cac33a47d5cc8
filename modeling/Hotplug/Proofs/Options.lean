import Hotplug.Proofs.ByteOrder
import Hotplug.Proofs.OptionTables
import Hotplug.Settings.Basic
import Mathlib.Data.List.Dedup

/-!
# Options set one after the other

The options of a manager forget every value of a name but the last one, whatever their kinds, and
list the names in the order of their bytes.  So it does not matter in which order they were set.

The subject is the options of the manager component.

* `ManagerOptions.setAll` — options set one after the other.
* `LastSet` — the last call for a name.
* `OptionTable.ofList_entries` — a table is what its own entries make of an empty one.
* `ManagerOptions.last_call_wins` — what options hold, by the calls that set them.
-/

namespace Hotplug

/-- One of some calls sets a name to `x`, and none after it sets that name. -/
def LastSet (calls : List (String × OptionValue)) (name : String) (x : OptionValue) : Prop :=
  ∃ before after, calls = before ++ (name, x) :: after ∧ name ∉ after.map (·.1)

/-! ## Tables -/

namespace OptionTable

variable {calls calls' : List (String × OptionValue)} {name : String} {x : OptionValue}

theorem nodup_names (t : OptionTable) : (t.entries.map (·.1)).Nodup := by
  rw [List.Nodup, List.pairwise_map]
  exact t.ordered.imp fun hlt => String.ne_of_lt hlt

theorem get?_ofList_iff_lastSet : (ofList calls).get? name = some x ↔ LastSet calls name x := by
  rw [get?_ofList, List.lookup_eq_some_iff]
  constructor
  · rintro ⟨later, earlier, hcalls, hlater⟩
    refine ⟨earlier.reverse, later.reverse, ?_, ?_⟩
    · rw [← calls.reverse_reverse, hcalls]
      simp
    · simpa using fun y hy => hlater (name, y) hy
  · rintro ⟨before, after, rfl, hafter⟩
    refine ⟨after.reverse, before.reverse, by simp, ?_⟩
    rintro ⟨other, y⟩ hy
    rw [List.mem_reverse] at hy
    simpa using fun heq : name = other => hafter (List.mem_map.2 ⟨_, hy, heq.symm⟩)

theorem get?_ofList_eq_none : (ofList calls).get? name = none ↔ name ∉ calls.map (·.1) := by
  rw [get?_ofList, lookup_eq_none_iff_not_mem, List.map_reverse, List.mem_reverse]

/-- The names of a table are those that were set. -/
theorem mem_names_ofList : name ∈ (ofList calls).entries.map (·.1) ↔ name ∈ calls.map (·.1) := by
  have hlisted : name ∈ (ofList calls).entries.map (·.1) ↔
      ∃ x, (ofList calls).get? name = some x := by
    simp [get?_eq_some]
  rw [hlisted, ← Option.ne_none_iff_exists', ne_eq, get?_ofList_eq_none, not_not]

/-- No name is set twice in a table, so each is counted once. -/
theorem size_ofList : (ofList calls).size = (calls.map (·.1)).dedup.length := by
  have hperm : ((ofList calls).entries.map (·.1)).Perm (calls.map (·.1)).dedup := by
    rw [List.perm_ext_iff_of_nodup (nodup_names _) (List.nodup_dedup _)]
    intro name
    rw [List.mem_dedup, mem_names_ofList]
  simpa [size] using hperm.length_eq

theorem isEmpty_ofList : (ofList calls).isEmpty = true ↔ calls = [] := by
  have hsize : (ofList calls).isEmpty = true ↔ (ofList calls).size = 0 := by
    simp [isEmpty, size]
  rw [hsize, size_ofList, List.length_eq_zero_iff, List.dedup_eq_nil, List.map_eq_nil_iff]

/-- A table is what its own entries make of an empty one. -/
theorem ofList_entries (t : OptionTable) : ofList t.entries = t := by
  refine ext_get? fun name => Option.ext fun x => ?_
  rw [get?_ofList_eq_some t.nodup_names, get?_eq_some]

/-- Calls make the same table if they set each name to the same value in the end. -/
theorem ofList_eq_ofList :
    ofList calls = ofList calls' ↔ ∀ name x, LastSet calls name x ↔ LastSet calls' name x := by
  constructor
  · intro heq name x
    rw [← get?_ofList_iff_lastSet, ← get?_ofList_iff_lastSet, heq]
  · intro hsame
    refine ext_get? fun name => Option.ext fun x => ?_
    rw [get?_ofList_iff_lastSet, get?_ofList_iff_lastSet, hsame]

end OptionTable

/-! ## Options -/

namespace ManagerOptions

/-- Options without any value. -/
def new (configPath userPath overrides : String) : ManagerOptions where
  configPath := configPath
  userPath := userPath
  overrides := overrides

/-- Sets options one after the other, each to an integer or to a truth value. -/
def setAll (o : ManagerOptions) (calls : List (String × OptionValue)) : ManagerOptions :=
  calls.foldl (fun o (name, value) => o.set name value) o

theorem setAll_eq (o : ManagerOptions) (calls : List (String × OptionValue)) :
    o.setAll calls =
      { o with values := calls.foldl (fun t (name, value) => t.insert name value) o.values } := by
  induction calls generalizing o with
  | nil => rfl
  | cons e calls ih => exact ih (o.set e.1 e.2)

theorem setAll_new (configPath userPath overrides : String)
    (calls : List (String × OptionValue)) :
    (new configPath userPath overrides).setAll calls =
      { configPath := configPath
        userPath := userPath
        overrides := overrides
        values := .ofList calls } :=
  setAll_eq _ _

/-- What the options `o` hold after `calls` have set them, the first options being `start`. -/
structure Recalls (start : ManagerOptions) (calls : List (String × OptionValue))
    (o : ManagerOptions) : Prop where
  /-- A name has the value that the last call for it has set, … -/
  get : ∀ name x, o.get? name = some x ↔ LastSet calls name x
  /-- … and none if there was no call for it. -/
  unset : ∀ name, o.get? name = none ↔ name ∉ calls.map (·.1)
  /-- The names are listed once and by their bytes, each with its value. -/
  ordered : o.values.entries.Pairwise fun e e' => Utf8.bytes e.1 < Utf8.bytes e'.1
  nodup : (o.values.entries.map (·.1)).Nodup
  listed : ∀ name x, (name, x) ∈ o.values.entries ↔ o.get? name = some x
  size : o.size = (calls.map (·.1)).dedup.length
  isEmpty : o.isEmpty = true ↔ calls = []
  paths : o.configPath = start.configPath ∧ o.userPath = start.userPath
  overrides : o.overrides = start.overrides
  /-- Calls lead to the same options just if they leave each name with the same value. -/
  same : ∀ calls', o = start.setAll calls' ↔
    ∀ name x, LastSet calls name x ↔ LastSet calls' name x

theorem recalls_setAll (configPath userPath overrides : String)
    (calls : List (String × OptionValue)) :
    Recalls (new configPath userPath overrides) calls
      ((new configPath userPath overrides).setAll calls) := by
  rw [setAll_new]
  exact
    { get := fun _ _ => OptionTable.get?_ofList_iff_lastSet
      unset := fun _ => OptionTable.get?_ofList_eq_none
      ordered := (OptionTable.ofList calls).ordered.imp Utf8.bytes_lt_bytes.2
      nodup := OptionTable.nodup_names _
      listed := fun _ _ => OptionTable.get?_eq_some.symm
      size := OptionTable.size_ofList
      isEmpty := OptionTable.isEmpty_ofList
      paths := ⟨rfl, rfl⟩
      overrides := rfl
      same := fun calls' => by
        rw [setAll_new, ← OptionTable.ofList_eq_ofList]
        simp }

/-- **The last call for a name wins.**  Options hold what the calls have set in the end, and the
options of settings hold just what the settings list. -/
theorem last_call_wins (configPath userPath overrides : String)
    (calls : List (String × OptionValue)) (s : Settings) :
    Recalls (new configPath userPath overrides) calls
        ((new configPath userPath overrides).setAll calls) ∧
      s.managerOptions =
        { configPath := s.manager.configPath
          userPath := s.manager.userPath
          overrides := s.manager.overrides
          values := s.manager.options } := by
  refine ⟨recalls_setAll configPath userPath overrides calls, ?_⟩
  have hnew := setAll_new s.manager.configPath s.manager.userPath s.manager.overrides
    s.manager.options.entries
  rw [OptionTable.ofList_entries] at hnew
  exact hnew

/-- A name that is set twice, once as an integer and once as a truth value. -/
example :
    let o := (new "/etc/zwave" "." "").setAll
      [("Poll", .int 500), ("Logging", .bool false), ("Poll", .bool true)]
    o.values.entries = [("Logging", .bool false), ("Poll", .bool true)] ∧ o.size = 2 := by
  decide +kernel

end ManagerOptions

end Hotplug
