import Hotplug.Proofs.Reading

/-!
# Merging a document with the defaults

What is read from a document whose sections are tables, setting by setting.

* `Settings.given` — what a document says about a setting.
* `Settings.Fits` — everything that it says fits.
* `Settings.Merges` — settings that hold what it says, and otherwise their defaults.
* `Settings.Sectioned.ofTable_eq_ok_iff_merges` — just these settings are read.
* `Settings.Sectioned.exists_ofTable_eq_ok_iff_fits` — they are if what it says fits, and only then.
-/

namespace Hotplug

open Toml (Value)

/-! ## One section -/

namespace Datum

variable {entries : List (String × Value)} {rows : List (String × Datum)}
  {x : String → Option Datum}

/-- A table is laid over rows if each row keeps its kind and holds what the table says, or what it
held before if the table says nothing. -/
theorem overlaid_iff :
    Overlaid (rows.map (·.1)) (Gives (outline rows)) entries (fun key => rows.lookup key) x ↔
      (∀ key, (x key).map kind = (rows.lookup key).map kind) ∧
        ∀ key held, rows.lookup key = some held → ∃ y, x key = some y ∧
          match entries.lookup key with
          | some v => Spells v y
          | none => y = held := by
  constructor
  · intro h
    refine ⟨fun key => ?_, fun key held hheld => ?_⟩
    · by_cases hkey : key ∈ rows.map (·.1)
      · cases hlookup : entries.lookup key with
        | none => rw [h.kept key fun _ => hlookup]
        | some v =>
          obtain ⟨y, hy, -, hkind⟩ := h.given key hkey v hlookup
          rw [hy, ← lookup_outline, hkind, Option.map_some]
      · rw [h.kept key fun hmem => absurd hmem hkey]
    · have hkey : key ∈ rows.map (·.1) := List.mem_map_of_mem (mem_of_lookup_eq_some hheld)
      cases hlookup : entries.lookup key with
      | none => exact ⟨held, (h.kept key fun _ => hlookup).trans hheld, rfl⟩
      | some v =>
        obtain ⟨y, hy, hspells, -⟩ := h.given key hkey v hlookup
        exact ⟨y, hy, hspells⟩
  · rintro ⟨hkinds, hrows⟩
    refine ⟨fun key hkey v hv => ?_, fun key hkept => ?_⟩
    · cases hheld : rows.lookup key with
      | none => exact absurd hkey (lookup_eq_none_iff_not_mem.1 hheld)
      | some held =>
        obtain ⟨y, hy, hspells⟩ := hrows key held hheld
        rw [hv] at hspells
        exact ⟨y, hy, hspells, by rw [lookup_outline, ← hkinds, hy, Option.map_some]⟩
    · cases hheld : rows.lookup key with
      | none => simpa [hheld] using hkinds key
      | some held =>
        have hkey : key ∈ rows.map (·.1) := List.mem_map_of_mem (mem_of_lookup_eq_some hheld)
        obtain ⟨y, hy, hsame⟩ := hrows key held hheld
        rw [hkept hkey] at hsame
        rw [hy, hsame]

/-- A table can be laid over rows if each of its values fits the row with its key. -/
theorem exists_overlaid_iff (hentries : (Value.table entries).Distinct) :
    (∃ x, Overlaid (rows.map (·.1)) (Gives (outline rows)) entries (fun key => rows.lookup key) x) ↔
      ∀ key held v, rows.lookup key = some held → entries.lookup key = some v →
        held.kind.Admits v := by
  have hadmits : ∀ key held v, rows.lookup key = some held → entries.lookup key = some v →
      (held.kind.Admits v ↔ ∃ y, Gives (outline rows) key v y) := by
    intro key held v hheld hv
    cases hentries with
    | table _ hvalues =>
      rw [Kind.admits_iff fun inner hinner => ?_]
      · simp only [Gives, lookup_outline, hheld, Option.map_some, Option.some.injEq]
        exact exists_congr fun y => ⟨fun h => ⟨h.2, h.1.symm⟩, fun h => ⟨h.2.symm, h.1⟩⟩
      · obtain rfl := hinner
        cases hvalues _ (mem_of_lookup_eq_some hv) with
        | table hkeys _ => exact hkeys
  rw [Overlaid.exists_iff]
  constructor
  · intro h key held v hheld hv
    exact (hadmits key held v hheld hv).2
      (h key (List.mem_map_of_mem (mem_of_lookup_eq_some hheld)) v hv)
  · intro h key hkey v hv
    cases hheld : rows.lookup key with
    | none => exact absurd hkey (lookup_eq_none_iff_not_mem.1 hheld)
    | some held => exact (hadmits key held v hheld hv).1 (h key held v hheld hv)

end Datum

namespace Settings

variable {document document' : List (String × Value)}

/-! ## What a document says -/

/-- The entries of a section. -/
def entriesOf (document : List (String × Value)) (name : String) : List (String × Value) :=
  match document.lookup name with
  | some (.table entries) => entries
  | _ => []

/-- What a document says about a key of a section. -/
def given (document : List (String × Value)) (name key : String) : Option Value :=
  (entriesOf document name).lookup key

/-- What kind of setting there is under a key of a section, if there is one. -/
def kind? (name key : String) : Option Datum.Kind :=
  (({} : Settings).row name key).map Datum.kind

/-- A section holds what entries say about its keys, and its defaults where they say nothing. -/
def Holds (s : Settings) (name : String) (entries : List (String × Value)) : Prop :=
  ∀ key default, ({} : Settings).row name key = some default →
    ∃ x, s.row name key = some x ∧
      match entries.lookup key with
      | some v => Datum.Spells v x
      | none => x = default

/-- The settings hold what a document says about them, and their defaults where it says nothing. -/
def Merges (document : List (String × Value)) (s : Settings) : Prop :=
  ∀ name, s.Holds name (entriesOf document name)

/-- What a document says about settings fits them. -/
def Fits (document : List (String × Value)) : Prop :=
  ∀ name key k v, kind? name key = some k → given document name key = some v → k.Admits v

/-! ## All sections -/

theorem mem_layout_iff {name : String} :
    name ∈ layout.map (·.1) ↔ ({} : Settings).sections.lookup name ≠ none := by
  rw [ne_eq, lookup_eq_none_iff_not_mem, not_not]
  rfl

theorem mem_layout {name : String} {keys : List String} : (name, keys) ∈ layout ↔
    ∃ rows, ({} : Settings).sections.lookup name = some rows ∧ rows.map (·.1) = keys := by
  rw [← lookup_eq_some_iff_mem nodup_layout, layout, lookup_map_snd, Option.map_eq_some_iff]

/-- There is a setting under each key of each section, and no other. -/
theorem kind?_ne_none_iff {name key : String} :
    kind? name key ≠ none ↔ ∃ keys, (name, keys) ∈ layout ∧ key ∈ keys := by
  simp only [mem_layout]
  constructor
  · intro h
    obtain ⟨k, hk⟩ := Option.ne_none_iff_exists'.1 h
    obtain ⟨x, hx, -⟩ := Option.map_eq_some_iff.1 hk
    obtain ⟨rows, hrows, hx⟩ := Option.bind_eq_some_iff.1 hx
    exact ⟨_, ⟨rows, hrows, rfl⟩, List.mem_map_of_mem (mem_of_lookup_eq_some hx)⟩
  · rintro ⟨_, ⟨rows, hrows, rfl⟩, hkey⟩
    rw [kind?, row_of_lookup hrows, ne_eq, Option.map_eq_none_iff, lookup_eq_none_iff_not_mem,
      not_not]
    exact hkey

namespace Sectioned

theorem entriesOf_distinct (h : Sectioned document) (name : String) :
    (Value.table (entriesOf document name)).Distinct := by
  unfold entriesOf
  split
  · next entries hlookup =>
    cases h.distinct with
    | table _ hvalues => exact hvalues _ (mem_of_lookup_eq_some hlookup)
  · exact .table (by simp) nofun

/-- The document is laid over the default settings section by section. -/
theorem overlaid_iff (h : Sectioned document) {x : String → Option (String → Option Datum)}
    (hnone : ∀ name, ({} : Settings).sections.lookup name = none → x name = none) :
    Overlaid (layout.map (·.1)) Gives document ({} : Settings).view x ↔
      ∀ name rows, ({} : Settings).sections.lookup name = some rows →
        ∃ r, x name = some r ∧ Overlaid (rows.map (·.1)) (Datum.Gives (Datum.outline rows))
          (entriesOf document name) (fun key => rows.lookup key) r := by
  have hname : ∀ {name rows}, ({} : Settings).sections.lookup name = some rows →
      name ∈ layout.map (·.1) := fun hrows => mem_layout_iff.2 (by simp [hrows])
  constructor
  · intro hover name rows hrows
    cases hlookup : document.lookup name with
    | none =>
      refine ⟨fun key => rows.lookup key, ?_, ?_⟩
      · rw [hover.kept name fun _ => hlookup, view, hrows, Option.map_some]
      · rw [entriesOf, hlookup]
        exact Overlaid.nil_iff.2 rfl
    | some v =>
      obtain ⟨r, hr, entries, rows', rfl, hrows', hover⟩ := hover.given name (hname hrows) v hlookup
      obtain rfl := Option.some.inj (hrows.symm.trans hrows')
      exact ⟨r, hr, by rwa [entriesOf, hlookup]⟩
  · intro hall
    refine ⟨fun name hmem v hv => ?_, fun name hkept => ?_⟩
    · obtain ⟨entries, rfl⟩ := h.tables name hmem v (mem_of_lookup_eq_some hv)
      cases hrows : ({} : Settings).sections.lookup name with
      | none => exact absurd hrows (mem_layout_iff.1 hmem)
      | some rows =>
        obtain ⟨r, hr, hover⟩ := hall name rows hrows
        rw [entriesOf, hv] at hover
        exact ⟨r, hr, entries, rows, rfl, hrows, hover⟩
    · cases hrows : ({} : Settings).sections.lookup name with
      | none => rw [hnone name hrows, view, hrows, Option.map_none]
      | some rows =>
        obtain ⟨r, hr, hover⟩ := hall name rows hrows
        rw [entriesOf, hkept (hname hrows)] at hover
        rw [hr, Overlaid.nil_iff.1 hover, view, hrows, Option.map_some]

end Sectioned

/-- All settings have the same rows, of the same kinds. -/
theorem lookup_sections_map_outline (s : Settings) (name : String) :
    (s.sections.lookup name).map Datum.outline =
      (({} : Settings).sections.lookup name).map Datum.outline := by
  rw [← lookup_map_snd, ← lookup_map_snd]
  rfl

theorem view_eq_none (s : Settings) {name : String}
    (hnone : ({} : Settings).sections.lookup name = none) : s.view name = none := by
  have houtline := lookup_sections_map_outline s name
  rw [hnone, Option.map_none, Option.map_eq_none_iff] at houtline
  rw [view, houtline, Option.map_none]

theorem exists_rows (s : Settings) {name : String} {rows : List (String × Datum)}
    (hrows : ({} : Settings).sections.lookup name = some rows) :
    ∃ held, s.sections.lookup name = some held ∧ Datum.outline held = Datum.outline rows := by
  have houtline := lookup_sections_map_outline s name
  rw [hrows, Option.map_some] at houtline
  exact Option.map_eq_some_iff.1 houtline

/-- Settings are read from a document whose sections are tables if and only if they hold what the
document says, and otherwise the defaults. -/
theorem Sectioned.ofTable_eq_ok_iff_merges (h : Sectioned document) {s : Settings} :
    ofTable document = .ok s ↔ Merges document s := by
  -- Settings are known by their views.
  have hread : ofTable document = .ok s ↔ ∃ t, ofTable document = .ok t ∧ t.view = s.view := by
    constructor
    · exact fun h => ⟨s, h, rfl⟩
    · rintro ⟨t, ht, hview⟩
      rwa [← view_injective hview]
  rw [hread, ofTable_eq_ok h, h.overlaid_iff fun _ => s.view_eq_none]
  constructor
  · intro hall name key default hdefault
    obtain ⟨rows, hrows, hheld⟩ := Option.bind_eq_some_iff.1 hdefault
    obtain ⟨r, hr, hover⟩ := hall name rows hrows
    obtain ⟨x, hx, hgiven⟩ := (Datum.overlaid_iff.1 hover).2 key default hheld
    exact ⟨x, by rw [row_eq_bind_view, hr, Option.bind_some, hx], hgiven⟩
  · intro hmerges name rows hrows
    obtain ⟨held, hheld, houtline⟩ := s.exists_rows hrows
    refine ⟨fun key => held.lookup key, by rw [view, hheld, Option.map_some], ?_⟩
    refine Datum.overlaid_iff.2 ⟨fun key => ?_, fun key default hdefault => ?_⟩
    · rw [← Datum.lookup_outline, houtline, Datum.lookup_outline]
    · obtain ⟨x, hx, hgiven⟩ := hmerges name key default ((row_of_lookup hrows).trans hdefault)
      exact ⟨x, (row_of_lookup hheld).symm.trans hx, hgiven⟩

/-- Settings are read from a document whose sections are tables if and only if what it says about
them fits. -/
theorem Sectioned.exists_ofTable_eq_ok_iff_fits (h : Sectioned document) :
    (∃ s, ofTable document = .ok s) ↔ Fits document := by
  have hread : (∃ s, ofTable document = .ok s) ↔
      ∃ x, Overlaid (layout.map (·.1)) Gives document ({} : Settings).view x := by
    simp only [← ofTable_eq_ok h]
    exact ⟨fun ⟨s, hs⟩ => ⟨s.view, s, hs, rfl⟩, fun ⟨_, s, hs, _⟩ => ⟨s, hs⟩⟩
  rw [hread, Overlaid.exists_iff]
  constructor
  · intro hgives name key k v hkind hgiven
    obtain ⟨held, hheld, rfl⟩ := Option.map_eq_some_iff.1 hkind
    obtain ⟨rows, hrows, hheld⟩ := Option.bind_eq_some_iff.1 hheld
    cases hlookup : document.lookup name with
    | none => simp [given, entriesOf, hlookup] at hgiven
    | some w =>
      obtain ⟨r, entries, rows', rfl, hrows', hover⟩ :=
        hgives name (mem_layout_iff.2 (by simp [hrows])) w hlookup
      obtain rfl := Option.some.inj (hrows.symm.trans hrows')
      have hentries := h.entriesOf_distinct name
      rw [given] at hgiven
      rw [entriesOf, hlookup] at hentries hgiven
      exact (Datum.exists_overlaid_iff hentries).1 ⟨r, hover⟩ key held v hheld hgiven
  · intro hfits name hname v hlookup
    obtain ⟨entries, rfl⟩ := h.tables name hname v (mem_of_lookup_eq_some hlookup)
    obtain ⟨rows, hrows⟩ := Option.ne_none_iff_exists'.1 (mem_layout_iff.1 hname)
    have hentries := h.entriesOf_distinct name
    rw [entriesOf, hlookup] at hentries
    obtain ⟨r, hover⟩ := (Datum.exists_overlaid_iff hentries).2
      fun key held w (hheld : rows.lookup key = some held) hw => hfits name key held.kind w
        (by rw [kind?, row_of_lookup hrows, hheld, Option.map_some])
        (by rw [given, entriesOf, hlookup, hw])
    exact ⟨r, entries, rows, rfl, hrows, hover⟩

end Settings

end Hotplug
