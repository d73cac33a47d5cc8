import Hotplug.Proofs.Merging
import Hotplug.Settings.Load

/-!
# Sections by position

A section may be written as a list of values.  It is then read as the table that gives the values
to the keys of the section in order; values for which there is no key are left out.

* `Settings.positional` — the list and the table have the same outcome, and each value goes to the
  key at its place.
-/

namespace Hotplug

open Toml (Value)

/-! ## Reading -/

namespace Field

variable {σ : Type} {fields : List (Field σ)}

theorem readSection_list (h : (fields.map (·.name)).Nodup) (label : String) (s : σ)
    {vs : List Value} {list : Value} (hlist : list = .array vs ∨ list = .tables vs) :
    readSection label fields s list =
      readSection label fields s (.table ((fields.map (·.name)).zip vs)) := by
  rcases hlist with rfl | rfl <;> exact readList_eq_readTable h vs s

theorem readTable_append (entries entries' : List (String × Value)) (s : σ) :
    readTable fields (entries ++ entries') s =
      readTable fields entries s >>= fun t => readTable fields entries' t :=
  List.foldlM_append

end Field

namespace Part

variable {p : Part}

theorem mem_fields (hp : p ∈ all) : p.field ∈ Settings.fields :=
  List.mem_map_of_mem hp

theorem readEntry_name (hp : p ∈ all) (v : Value) (s : Settings) :
    Field.readEntry Settings.fields s (p.name, v) = p.field.put v s :=
  Field.readEntry_of_mem (by decide) (mem_fields hp) v s

/-- Only the entry of a part changes it. -/
theorem view_of_readTable {name : String} {entries : List (String × Value)} {s t : Settings}
    (hname : name ∉ entries.map (·.1))
    (hread : Field.readTable Settings.fields entries s = .ok t) : t.view name = s.view name := by
  induction entries generalizing s with
  | nil =>
    obtain rfl := Except.ok.inj hread
    rfl
  | cons e entries ih =>
    obtain ⟨key, v⟩ := e
    simp only [List.map_cons, List.mem_cons, not_or] at hname
    obtain ⟨hne, hname⟩ := hname
    rw [Field.readTable_cons] at hread
    obtain ⟨s', hentry, hread⟩ := bind_eq_ok.1 hread
    rw [ih hname hread]
    by_cases hkey : key ∈ Settings.fields.map (·.name)
    · obtain ⟨f, hf, rfl⟩ := List.mem_map.1 hkey
      rw [Settings.fields_eq_map_part] at hf
      obtain ⟨p, hp, rfl⟩ := List.mem_map.1 hf
      rw [p.field_name, readEntry_name hp] at hentry
      obtain ⟨c, -, rfl⟩ := Field.put_other_eq_ok.1 hentry
      rw [p.field_name] at hne
      rw [p.view_set, Function.update_of_ne hne]
    · rw [Field.readEntry_of_not_mem hkey] at hentry
      rw [Except.ok.inj hentry]

end Part

namespace Settings

variable {name : String} {keys : List String} {before after : List (String × Value)}

theorem exists_part (hsection : (name, keys) ∈ layout) :
    ∃ p ∈ Part.all, p.name = name ∧ p.fields.map (·.name) = keys := by
  rw [layout_eq_map_part] at hsection
  obtain ⟨p, hp, heq⟩ := List.mem_map.1 hsection
  obtain ⟨hname, hkeys⟩ := Prod.mk.inj heq
  exact ⟨p, hp, hname, p.tabular.names_eq.trans hkeys⟩

theorem nodup_of_mem_layout (hsection : (name, keys) ∈ layout) : keys.Nodup := by
  obtain ⟨p, -, -, rfl⟩ := exists_part hsection
  exact p.tabular.names_eq ▸ p.tabular.outlined.nodup

/-- A section that is written as a list is read as the table of its values. -/
theorem readEntry_list (hsection : (name, keys) ∈ layout) {vs : List Value} {list : Value}
    (hlist : list = .array vs ∨ list = .tables vs) (s : Settings) :
    Field.readEntry fields s (name, list) =
      Field.readEntry fields s (name, .table (keys.zip vs)) := by
  obtain ⟨p, hp, rfl, rfl⟩ := exists_part hsection
  have hkeys := nodup_of_mem_layout hsection
  rw [Part.readEntry_name hp, Part.readEntry_name hp]
  simp only [Part.field, Field.other, Field.readSection_list hkeys p.label p.start hlist]

theorem ofTable_list (hsection : (name, keys) ∈ layout) {vs : List Value} {list : Value}
    (hlist : list = .array vs ∨ list = .tables vs) :
    ofTable (before ++ (name, list) :: after) =
      ofTable (before ++ (name, .table (keys.zip vs)) :: after) := by
  simp only [ofTable, Field.readTable_append, Field.readTable_cons,
    readEntry_list hsection hlist]

/-- A section that is written as a table holds what the table says. -/
theorem holds_of_ofTable (hsection : (name, keys) ∈ layout) {entries : List (String × Value)}
    (hentries : (Value.table entries).Distinct) (hname : name ∉ after.map (·.1)) {s : Settings}
    (hread : ofTable (before ++ (name, .table entries) :: after) = .ok s) :
    s.Holds name entries := by
  obtain ⟨p, hp, rfl, -⟩ := exists_part hsection
  -- What comes before is overwritten, since a section starts from its defaults.
  rw [ofTable, Field.readTable_append] at hread
  obtain ⟨s₁, -, hread⟩ := bind_eq_ok.1 hread
  rw [Field.readTable_cons, Part.readEntry_name hp] at hread
  obtain ⟨s₂, hput, hafter⟩ := bind_eq_ok.1 hread
  obtain ⟨x, hgives, hview⟩ := (p.field_fills hentries).of_put hput
  rw [p.field_name] at hgives hview
  obtain ⟨_, rows, ⟨⟩, hrows, hover⟩ := hgives
  have hs : s.view p.name = some x := by
    rw [Part.view_of_readTable hname hafter, hview]
    exact Function.update_self ..
  intro key default hdefault
  rw [row_of_lookup hrows] at hdefault
  obtain ⟨y, hy, hgiven⟩ := (Datum.overlaid_iff.1 hover).2 key default hdefault
  exact ⟨y, by rw [row_eq_bind_view, hs, Option.bind_some, hy], hgiven⟩

theorem distinct_zip (hkeys : keys.Nodup) {vs : List Value} (hvs : ∀ v ∈ vs, v.Distinct) :
    (Value.table (keys.zip vs)).Distinct := by
  refine .table ?_ fun e he => hvs e.2 (List.of_mem_zip he).2
  rw [List.zip_eq_zip_take_min, List.map_fst_zip (by simp)]
  exact hkeys.sublist (List.take_sublist ..)

/-- A section that is written as a list of values has the same outcome as the table that gives them
to the keys of the section in order, as many as there are of both: the same settings or problems,
or none.  If no table has a key twice, each value goes to the key at its place, and keys for which
there is no value keep their defaults. -/
theorem positional (hsection : (name, keys) ∈ layout) (vs : List Value) {list : Value}
    (hlist : list = .array vs ∨ list = .tables vs) (before after : List (String × Value)) :
    ofTable (before ++ (name, list) :: after) =
        ofTable (before ++ (name, .table (keys.zip vs)) :: after) ∧
      ofEntries (before ++ (name, list) :: after) =
        ofEntries (before ++ (name, .table (keys.zip vs)) :: after) ∧
      ((Value.table (before ++ (name, list) :: after)).Distinct →
        ∀ s, ofTable (before ++ (name, list) :: after) = .ok s → s.Holds name (keys.zip vs)) := by
  have hsame : ofTable (before ++ (name, list) :: after) =
      ofTable (before ++ (name, .table (keys.zip vs)) :: after) := ofTable_list hsection hlist
  refine ⟨hsame, by rw [ofEntries, ofEntries, hsame], fun hdistinct s hread => ?_⟩
  cases hdistinct with
  | table hnames hvalues =>
    have hlistDistinct : list.Distinct := hvalues (name, list) (by simp)
    have hvs : ∀ v ∈ vs, v.Distinct := by
      rcases hlist with rfl | rfl
      all_goals
        cases hlistDistinct
        assumption
    have hname : name ∉ after.map (·.1) := by
      rw [List.map_append, List.map_cons] at hnames
      exact (List.nodup_cons.1 hnames.of_append_right).1
    exact holds_of_ofTable hsection (distinct_zip (nodup_of_mem_layout hsection) hvs) hname
      (hsame ▸ hread)

/-- A driver section by position, with one value too many. -/
def crowded : String :=
  "v = 1\ndriver = [7, 0, \x7b skip_cycle = [] \x7d, true]\n"

/-- The values of that section. -/
def crowdedValues : List Value :=
  [.integer 7, .integer 0, .table [("skip_cycle", .array [])], .boolean true]

theorem parse?_crowded : Toml.Document.parse? crowded =
    some [("v", .integer 1), ("driver", .array crowdedValues)] := by
  decide +kernel

theorem positional_crowded :
    ("driver", ["activation_timeout_ms", "removal_timeout_ms", "on_activation_failure"]) ∈ layout ∧
      ofTable [("v", .integer 1), ("driver", .array crowdedValues)] =
        .ok { driver := ⟨7, 0, .skipCycle⟩ } ∧
      ofTable [("v", .integer 1), ("driver", .table [("activation_timeout_ms", .integer 7),
        ("removal_timeout_ms", .integer 0),
        ("on_activation_failure", .table [("skip_cycle", .array [])])])] =
        .ok { driver := ⟨7, 0, .skipCycle⟩ } ∧
      Holds { driver := ⟨7, 0, .skipCycle⟩ } "driver" [("activation_timeout_ms", .integer 7),
        ("removal_timeout_ms", .integer 0),
        ("on_activation_failure", .table [("skip_cycle", .array [])])] := by
  have hsection : ("driver", ["activation_timeout_ms", "removal_timeout_ms",
      "on_activation_failure"]) ∈ layout := by decide
  have hread : ofTable [("v", .integer 1), ("driver", .array crowdedValues)] =
      .ok { driver := ⟨7, 0, .skipCycle⟩ } := rfl
  obtain ⟨hsame, -, hholds⟩ := positional hsection crowdedValues (.inl rfl) [("v", .integer 1)] []
  exact ⟨hsection, hread, hsame.symm.trans hread,
    hholds (Toml.Document.distinct_of_parse? parse?_crowded) _ hread⟩

end Settings

end Hotplug
