import Hotplug.Proofs.DistinctKeys
import Hotplug.Proofs.Rows

/-!
# Reading sections

Each field of a section fills the row of its name with what a value says, if it says something of
the row's kind.  So a table is laid over the rows of its section, and a document over the sections.

* `Datum.Outlined` — rows of fixed kinds under fixed keys.
* `Field.fills_text`, `Field.fills_count`, … — fields fill the row of their name.
* `Tabular` — a section that is read row by row.
* `Part` — a section as a part of settings; `Part.all` has all of them.
* `Settings.ofTable_eq_ok` — a document is laid over the default settings.
-/

namespace Hotplug

open Toml (Value)

variable {σ : Type}

/-! ## Fields -/

namespace Datum

/-- What a value makes of the row under a key, where each row keeps its kind. -/
def Gives (kinds : List (String × Kind)) (key : String) (v : Value) (x : Datum) : Prop :=
  Spells v x ∧ kinds.lookup key = some x.kind

/-- The kinds of rows. -/
def outline (rows : List (String × Datum)) : List (String × Kind) :=
  rows.map fun (key, x) => (key, x.kind)

theorem outline_map_fst (rows : List (String × Datum)) :
    (outline rows).map (·.1) = rows.map (·.1) := by
  simp [outline]

theorem lookup_outline (rows : List (String × Datum)) (key : String) :
    (outline rows).lookup key = (rows.lookup key).map kind :=
  lookup_map_snd kind rows key

/-- Rows of fixed kinds under fixed keys, none of which comes twice. -/
structure Outlined (rows : σ → List (String × Datum)) (kinds : List (String × Kind)) : Prop where
  outline_eq : ∀ s, outline (rows s) = kinds
  nodup : (kinds.map (·.1)).Nodup

namespace Outlined

variable {rows : σ → List (String × Datum)} {kinds : List (String × Kind)} {i : Nat}
  {name : String} {k : Kind}

theorem map_fst (h : Outlined rows kinds) (s : σ) : (rows s).map (·.1) = kinds.map (·.1) := by
  rw [← outline_map_fst, h.outline_eq]

theorem lookup_eq (h : Outlined rows kinds) (hplace : kinds[i]? = some (name, k)) :
    kinds.lookup name = some k :=
  (lookup_eq_some_iff_mem h.nodup).2 (List.mem_of_getElem? hplace)

/-- What stands in the row at one place is replaced, and the other rows stay as they are. -/
theorem lookup_set (h : Outlined rows kinds) (hplace : kinds[i]? = some (name, k)) {s t : σ}
    {x : Datum} (hset : rows t = (rows s).set i (name, x)) :
    (fun key => (rows t).lookup key) =
      Function.update (fun key => (rows s).lookup key) name (some x) := by
  rw [hset]
  exact Hotplug.lookup_set (h.map_fst s ▸ h.nodup) (by simp [h.map_fst, hplace]) x

end Outlined

end Datum

namespace Field

section Kinds

variable {α : Type} {rows : σ → List (String × Datum)} {kinds : List (String × Datum.Kind)}
  {i : Nat} {name : String} {v : Value}

/-- A field that puts what a value says, and nothing else, fills the row of its name. -/
theorem fills_of_put {f : Field σ} {k : Datum.Kind} {mk : α → Datum} {set : α → σ → σ}
    (hrows : Datum.Outlined rows kinds) (hplace : kinds[i]? = some (f.name, k))
    (hset : ∀ a s, rows (set a s) = (rows s).set i (f.name, mk a))
    (hmk : ∀ x : Datum, x.kind = k ↔ ∃ a, mk a = x)
    (hput : ∀ s t, f.put v s = .ok t ↔ ∃ a, Datum.Spells v (mk a) ∧ set a s = t) :
    f.Fills (fun s key => (rows s).lookup key) (Datum.Gives kinds) v where
  of_put {s t} h := by
    obtain ⟨a, hspells, rfl⟩ := (hput s t).1 h
    exact ⟨mk a, ⟨hspells, by rw [hrows.lookup_eq hplace, (hmk _).2 ⟨a, rfl⟩]⟩,
      hrows.lookup_set hplace (hset a s)⟩
  put_of {x} hgives s := by
    obtain ⟨hspells, hx⟩ := hgives
    obtain ⟨a, rfl⟩ := (hmk x).1 (Option.some.inj (hx.symm.trans (hrows.lookup_eq hplace)))
    exact ⟨set a s, (hput s _).2 ⟨a, hspells, rfl⟩, hrows.lookup_set hplace (hset a s)⟩

theorem fills_text {set : String → σ → σ} (hrows : Datum.Outlined rows kinds)
    (hplace : kinds[i]? = some (name, .text))
    (hset : ∀ t s, rows (set t s) = (rows s).set i (name, .text t)) :
    (text name set).Fills (fun s key => (rows s).lookup key) (Datum.Gives kinds) v := by
  refine fills_of_put hrows hplace hset (fun x => ?_) (fun s t => ?_)
  · cases x <;> simp [Datum.kind]
  · cases v with
    | string u => exact ⟨fun h => ⟨u, .text u, Except.ok.inj h⟩, by rintro ⟨_, ⟨⟩, rfl⟩; rfl⟩
    | _ => exact ⟨nofun, by rintro ⟨_, ⟨⟩, _⟩⟩

theorem fills_count {set : Nat → σ → σ} (hrows : Datum.Outlined rows kinds)
    (hplace : kinds[i]? = some (name, .count))
    (hset : ∀ n s, rows (set n s) = (rows s).set i (name, .count n)) :
    (count name set).Fills (fun s key => (rows s).lookup key) (Datum.Gives kinds) v := by
  refine fills_of_put hrows hplace hset (fun x => ?_) (fun s t => ?_)
  · cases x <;> simp [Datum.kind]
  · cases v with
    | integer n =>
      cases n with
      | ofNat n => exact ⟨fun h => ⟨n, .count n, Except.ok.inj h⟩, by rintro ⟨_, ⟨⟩, rfl⟩; rfl⟩
      | negSucc n => exact ⟨nofun, by rintro ⟨_, ⟨⟩, _⟩⟩
    | _ => exact ⟨nofun, by rintro ⟨_, ⟨⟩, _⟩⟩

theorem fills_truth {set : Bool → σ → σ} (hrows : Datum.Outlined rows kinds)
    (hplace : kinds[i]? = some (name, .truth))
    (hset : ∀ b s, rows (set b s) = (rows s).set i (name, .truth b)) :
    (truth name set).Fills (fun s key => (rows s).lookup key) (Datum.Gives kinds) v := by
  refine fills_of_put hrows hplace hset (fun x => ?_) (fun s t => ?_)
  · cases x <;> simp [Datum.kind]
  · cases v with
    | boolean b => exact ⟨fun h => ⟨b, .truth b, Except.ok.inj h⟩, by rintro ⟨_, ⟨⟩, rfl⟩; rfl⟩
    | _ => exact ⟨nofun, by rintro ⟨_, ⟨⟩, _⟩⟩

theorem put_other_eq_ok {read : Value → Except Misfit α} {set : α → σ → σ} {s t : σ} :
    (other name read set).put v s = .ok t ↔ ∃ a, read v = .ok a ∧ set a s = t := by
  simp only [other, bind_eq_ok]
  exact exists_congr fun a => and_congr_right' ⟨Except.ok.inj, congrArg _⟩

theorem fills_policy {set : ActivationPolicy → σ → σ} (hrows : Datum.Outlined rows kinds)
    (hplace : kinds[i]? = some (name, .policy))
    (hset : ∀ p s, rows (set p s) = (rows s).set i (name, .policy p)) :
    (other name ActivationPolicy.ofValue set).Fills (fun s key => (rows s).lookup key)
      (Datum.Gives kinds) v := by
  refine fills_of_put hrows hplace hset (fun x => ?_) (fun s t => ?_)
  · cases x <;> simp [Datum.kind]
  · rw [put_other_eq_ok]
    refine exists_congr fun p => and_congr_left' ?_
    rw [ActivationPolicy.ofValue_eq_ok]
    exact ⟨.policy, by rintro ⟨⟩; assumption⟩

theorem fills_options {set : OptionTable → σ → σ} (hrows : Datum.Outlined rows kinds)
    (hplace : kinds[i]? = some (name, .options))
    (hset : ∀ t s, rows (set t s) = (rows s).set i (name, .options t)) (hv : v.Distinct) :
    (other name OptionTable.ofValue set).Fills (fun s key => (rows s).lookup key)
      (Datum.Gives kinds) v := by
  have hkeys : ∀ entries, v = .table entries → (entries.map (·.1)).Nodup := by
    rintro entries rfl
    cases hv with
    | table hkeys _ => exact hkeys
  refine fills_of_put hrows hplace hset (fun x => ?_) (fun s t => ?_)
  · cases x <;> simp [Datum.kind]
  · rw [put_other_eq_ok]
    exact exists_congr fun t => and_congr_left' (OptionTable.ofValue_eq_ok hkeys)

end Kinds

end Field

/-! ## Sections -/

/-- A section whose fields fill its rows, and that can be put together from them. -/
structure Tabular (fields : List (Field σ)) (rows : σ → List (String × Datum))
    (kinds : List (String × Datum.Kind)) (ofRows? : List (String × Datum) → Option σ) : Prop where
  outlined : Datum.Outlined rows kinds
  names_eq : fields.map (·.name) = kinds.map (·.1)
  fills : ∀ v, v.Distinct → ∀ f ∈ fields,
    f.Fills (fun s key => (rows s).lookup key) (Datum.Gives kinds) v
  ofRows?_rows : ∀ s, ofRows? (rows s) = some s

namespace Tabular

variable {fields : List (Field σ)} {rows : σ → List (String × Datum)}
  {kinds : List (String × Datum.Kind)} {ofRows? : List (String × Datum) → Option σ}
  {entries : List (String × Value)}

/-- A table is laid over the rows of a section. -/
theorem readTable_eq_ok (h : Tabular fields rows kinds ofRows?)
    (hentries : (Value.table entries).Distinct) {s : σ} {row : String → Option Datum} :
    (∃ t, Field.readTable fields entries s = .ok t ∧ (fun key => (rows t).lookup key) = row) ↔
      Overlaid (kinds.map (·.1)) (Datum.Gives kinds) entries (fun key => (rows s).lookup key)
        row := by
  cases hentries with
  | table hkeys hentries =>
    rw [← h.names_eq]
    exact Field.readTable_eq_ok (h.names_eq ▸ h.outlined.nodup) hkeys
      fun f hf v hv => h.fills v (hentries _ hv) f hf

/-- Sections with the same rows are equal. -/
theorem ext (h : Tabular fields rows kinds ofRows?) {s t : σ}
    (hrows : ∀ key, (rows s).lookup key = (rows t).lookup key) : s = t := by
  have hkeys := h.outlined.map_fst
  have hsame : rows s = rows t :=
    eq_of_lookup_eq (hkeys s ▸ h.outlined.nodup) ((hkeys s).trans (hkeys t).symm) hrows
  exact Option.some.inj (by rw [← h.ofRows?_rows s, hsame, h.ofRows?_rows t])

end Tabular

namespace DeviceSettings

/-- The kinds of what stands in the device section. -/
def kinds : List (String × Datum.Kind) :=
  [("path", .text), ("poll_interval_ms", .count)]

/-- The device section with these rows. -/
def ofRows? : List (String × Datum) → Option DeviceSettings
  | [(_, .text path), (_, .count pollInterval)] => some ⟨path, pollInterval⟩
  | _ => none

theorem outlined : Datum.Outlined rows kinds :=
  ⟨fun _ => rfl, by decide⟩

theorem tabular : Tabular fields rows kinds ofRows? where
  outlined := outlined
  names_eq := rfl
  fills v _ := by
    simp only [fields, List.forall_mem_cons]
    exact ⟨Field.fills_text (i := 0) outlined rfl fun _ _ => rfl,
      Field.fills_count (i := 1) outlined rfl fun _ _ => rfl, nofun⟩
  ofRows?_rows _ := rfl

end DeviceSettings

namespace DriverSettings

/-- The kinds of what stands in the driver section. -/
def kinds : List (String × Datum.Kind) :=
  [("activation_timeout_ms", .count), ("removal_timeout_ms", .count),
    ("on_activation_failure", .policy)]

/-- The driver section with these rows. -/
def ofRows? : List (String × Datum) → Option DriverSettings
  | [(_, .count activationTimeout), (_, .count removalTimeout), (_, .policy onActivationFailure)] =>
    some ⟨activationTimeout, removalTimeout, onActivationFailure⟩
  | _ => none

theorem outlined : Datum.Outlined rows kinds :=
  ⟨fun _ => rfl, by decide⟩

theorem tabular : Tabular fields rows kinds ofRows? where
  outlined := outlined
  names_eq := rfl
  fills v _ := by
    simp only [fields, List.forall_mem_cons]
    exact ⟨Field.fills_count (i := 0) outlined rfl fun _ _ => rfl,
      Field.fills_count (i := 1) outlined rfl fun _ _ => rfl,
      Field.fills_policy (i := 2) outlined rfl fun _ _ => rfl, nofun⟩
  ofRows?_rows _ := rfl

end DriverSettings

namespace ShutdownSettings

/-- The kinds of what stands in the shutdown section. -/
def kinds : List (String × Datum.Kind) :=
  [("grace_period_ms", .count)]

/-- The shutdown section with these rows. -/
def ofRows? : List (String × Datum) → Option ShutdownSettings
  | [(_, .count gracePeriod)] => some ⟨gracePeriod⟩
  | _ => none

theorem outlined : Datum.Outlined rows kinds :=
  ⟨fun _ => rfl, by decide⟩

theorem tabular : Tabular fields rows kinds ofRows? where
  outlined := outlined
  names_eq := rfl
  fills v _ := by
    simp only [fields, List.forall_mem_cons]
    exact ⟨Field.fills_count (i := 0) outlined rfl fun _ _ => rfl, nofun⟩
  ofRows?_rows _ := rfl

end ShutdownSettings

namespace ManagerSettings

/-- The kinds of what stands in the manager section. -/
def kinds : List (String × Datum.Kind) :=
  [("config_path", .text), ("user_path", .text), ("overrides", .text), ("options", .options)]

/-- The manager section with these rows. -/
def ofRows? : List (String × Datum) → Option ManagerSettings
  | [(_, .text configPath), (_, .text userPath), (_, .text overrides), (_, .options options)] =>
    some ⟨configPath, userPath, overrides, options⟩
  | _ => none

theorem outlined : Datum.Outlined rows kinds :=
  ⟨fun _ => rfl, by decide⟩

theorem tabular : Tabular fields rows kinds ofRows? where
  outlined := outlined
  names_eq := rfl
  fills v hv := by
    simp only [fields, List.forall_mem_cons]
    exact ⟨Field.fills_text (i := 0) outlined rfl fun _ _ => rfl,
      Field.fills_text (i := 1) outlined rfl fun _ _ => rfl,
      Field.fills_text (i := 2) outlined rfl fun _ _ => rfl,
      Field.fills_options (i := 3) outlined rfl (fun _ _ => rfl) hv, nofun⟩
  ofRows?_rows _ := rfl

end ManagerSettings

namespace ObservabilitySettings

/-- The kinds of what stands in the observability section. -/
def kinds : List (String × Datum.Kind) :=
  [("log_level", .text), ("json_logs", .truth), ("metrics_enabled", .truth),
    ("metrics_address", .text)]

/-- The observability section with these rows. -/
def ofRows? : List (String × Datum) → Option ObservabilitySettings
  | [(_, .text logLevel), (_, .truth jsonLogs), (_, .truth metricsEnabled),
      (_, .text metricsAddress)] => some ⟨logLevel, jsonLogs, metricsEnabled, metricsAddress⟩
  | _ => none

theorem outlined : Datum.Outlined rows kinds :=
  ⟨fun _ => rfl, by decide⟩

theorem tabular : Tabular fields rows kinds ofRows? where
  outlined := outlined
  names_eq := rfl
  fills v _ := by
    simp only [fields, List.forall_mem_cons]
    exact ⟨Field.fills_text (i := 0) outlined rfl fun _ _ => rfl,
      Field.fills_truth (i := 1) outlined rfl fun _ _ => rfl,
      Field.fills_truth (i := 2) outlined rfl fun _ _ => rfl,
      Field.fills_text (i := 3) outlined rfl fun _ _ => rfl, nofun⟩
  ofRows?_rows _ := rfl

end ObservabilitySettings

/-! ## Documents -/

namespace Settings

/-- The sections of settings, each with its rows. -/
def view (s : Settings) (name : String) : Option (String → Option Datum) :=
  (s.sections.lookup name).map fun rows key => rows.lookup key

theorem row_of_lookup {s : Settings} {name key : String} {rows : List (String × Datum)}
    (hrows : s.sections.lookup name = some rows) : s.row name key = rows.lookup key := by
  rw [row, hrows, Option.bind_some]

theorem row_eq_bind_view (s : Settings) (name key : String) :
    s.row name key = (s.view name).bind (· key) := by
  rw [row, view, Option.bind_map]
  rfl

theorem nodup_layout : (layout.map (·.1)).Nodup := by decide

/-- The view of settings in which one section is replaced. -/
theorem view_eq_update {s t : Settings} {i : Nat} {name : String} {rows : List (String × Datum)}
    (hplace : (layout.map (·.1))[i]? = some name)
    (hset : t.sections = s.sections.set i (name, rows)) :
    t.view = Function.update s.view name (some fun key => rows.lookup key) := by
  have hlookup : (fun other => t.sections.lookup other) =
      Function.update (fun other => s.sections.lookup other) name (some rows) := by
    have hnames : (s.sections.map (·.1)).Nodup := nodup_layout
    rw [hset]
    exact lookup_set hnames hplace rows
  funext other
  rw [view, congrFun hlookup other, Function.update_apply, Function.update_apply]
  split <;> rfl

/-- What a value makes of a section: a table is laid over the rows that the section has by
default. -/
def Gives (name : String) (v : Value) (x : String → Option Datum) : Prop :=
  ∃ entries rows, v = .table entries ∧ ({} : Settings).sections.lookup name = some rows ∧
    Overlaid (rows.map (·.1)) (Datum.Gives (Datum.outline rows)) entries
      (fun key => rows.lookup key) x

end Settings

/-- A section as a part of settings: what it is called, what reads it and where it goes. -/
structure Part where
  Content : Type
  name : String
  label : String
  fields : List (Field Content)
  rows : Content → List (String × Datum)
  kinds : List (String × Datum.Kind)
  ofRows? : List (String × Datum) → Option Content
  start : Content
  set : Content → Settings → Settings
  /-- The place of the section among all sections. -/
  place : Nat
  tabular : Tabular fields rows kinds ofRows?
  rows_start : ({} : Settings).sections.lookup name = some (rows start)
  layout_place : (Settings.layout.map (·.1))[place]? = some name
  sections_set : ∀ c s, (set c s).sections = s.sections.set place (name, rows c)

namespace Part

/-- The field that a part is. -/
def field (p : Part) : Field Settings :=
  .other p.name (Field.readSection p.label p.fields p.start) p.set

@[simp] theorem field_name (p : Part) : p.field.name = p.name := rfl

/-- Where a part is set, the other sections stay as they are. -/
theorem view_set (p : Part) (c : p.Content) (s : Settings) : (p.set c s).view =
    Function.update s.view p.name (some fun key => (p.rows c).lookup key) :=
  Settings.view_eq_update p.layout_place (p.sections_set c s)

/-- A table fills a part with what it gives when it is laid over the defaults. -/
theorem field_fills (p : Part) {entries : List (String × Value)}
    (hentries : (Value.table entries).Distinct) :
    p.field.Fills Settings.view Settings.Gives (.table entries) where
  of_put {s t} hput := by
    obtain ⟨c, hread, rfl⟩ := Field.put_other_eq_ok.1 hput
    refine ⟨fun key => (p.rows c).lookup key, ⟨entries, p.rows p.start, rfl, p.rows_start, ?_⟩,
      p.view_set c s⟩
    rw [← Datum.outline_map_fst, p.tabular.outlined.outline_eq]
    exact (p.tabular.readTable_eq_ok hentries).1 ⟨c, hread, rfl⟩
  put_of {x} hgives s := by
    obtain ⟨entries', rows', hentries', hrows', hover⟩ := hgives
    obtain rfl := Value.table.inj hentries'
    obtain rfl := Option.some.inj (hrows'.symm.trans p.rows_start)
    rw [← Datum.outline_map_fst, p.tabular.outlined.outline_eq] at hover
    obtain ⟨c, hread, rfl⟩ := (p.tabular.readTable_eq_ok hentries).2 hover
    exact ⟨p.set c s, Field.put_other_eq_ok.2 ⟨c, hread, rfl⟩, p.view_set c s⟩

/-- The device section. -/
def device : Part where
  Content := DeviceSettings
  name := "device"
  label := "DeviceConfig"
  fields := DeviceSettings.fields
  rows := DeviceSettings.rows
  kinds := DeviceSettings.kinds
  ofRows? := DeviceSettings.ofRows?
  start := {}
  set c s := { s with device := c }
  place := 0
  tabular := DeviceSettings.tabular
  rows_start := rfl
  layout_place := rfl
  sections_set _ _ := rfl

/-- The driver section. -/
def driver : Part where
  Content := DriverSettings
  name := "driver"
  label := "DriverConfig"
  fields := DriverSettings.fields
  rows := DriverSettings.rows
  kinds := DriverSettings.kinds
  ofRows? := DriverSettings.ofRows?
  start := {}
  set c s := { s with driver := c }
  place := 1
  tabular := DriverSettings.tabular
  rows_start := rfl
  layout_place := rfl
  sections_set _ _ := rfl

/-- The shutdown section. -/
def shutdown : Part where
  Content := ShutdownSettings
  name := "shutdown"
  label := "ShutdownConfig"
  fields := ShutdownSettings.fields
  rows := ShutdownSettings.rows
  kinds := ShutdownSettings.kinds
  ofRows? := ShutdownSettings.ofRows?
  start := {}
  set c s := { s with shutdown := c }
  place := 2
  tabular := ShutdownSettings.tabular
  rows_start := rfl
  layout_place := rfl
  sections_set _ _ := rfl

/-- The manager section. -/
def manager : Part where
  Content := ManagerSettings
  name := "manager"
  label := "ManagerConfig"
  fields := ManagerSettings.fields
  rows := ManagerSettings.rows
  kinds := ManagerSettings.kinds
  ofRows? := ManagerSettings.ofRows?
  start := {}
  set c s := { s with manager := c }
  place := 3
  tabular := ManagerSettings.tabular
  rows_start := rfl
  layout_place := rfl
  sections_set _ _ := rfl

/-- The observability section. -/
def observability : Part where
  Content := ObservabilitySettings
  name := "observability"
  label := "ObservabilityConfig"
  fields := ObservabilitySettings.fields
  rows := ObservabilitySettings.rows
  kinds := ObservabilitySettings.kinds
  ofRows? := ObservabilitySettings.ofRows?
  start := {}
  set c s := { s with observability := c }
  place := 4
  tabular := ObservabilitySettings.tabular
  rows_start := rfl
  layout_place := rfl
  sections_set _ _ := rfl

/-- All parts. -/
def all : List Part :=
  [device, driver, shutdown, manager, observability]

end Part

namespace Settings

/-- The fields of settings are their parts. -/
theorem fields_eq_map_part : fields = Part.all.map Part.field := rfl

theorem layout_eq_map_part :
    layout = Part.all.map fun p => (p.name, p.kinds.map (·.1)) := rfl

/-- Settings with the same rows are equal. -/
theorem ext_row {s t : Settings} (h : ∀ name key, s.row name key = t.row name key) : s = t := by
  have hdevice := DeviceSettings.tabular.ext (h "device")
  have hdriver := DriverSettings.tabular.ext (h "driver")
  have hshutdown := ShutdownSettings.tabular.ext (h "shutdown")
  have hmanager := ManagerSettings.tabular.ext (h "manager")
  have hobservability := ObservabilitySettings.tabular.ext (h "observability")
  cases s
  cases t
  rw [Settings.mk.injEq]
  exact ⟨hdevice, hdriver, hshutdown, hmanager, hobservability⟩

theorem view_injective : Function.Injective view := fun s t h =>
  ext_row fun name key => by rw [row_eq_bind_view, row_eq_bind_view, h]

/-- A document in which every section is written as a table, and no table has a key twice. -/
structure Sectioned (document : List (String × Value)) : Prop where
  distinct : (Value.table document).Distinct
  tables : ∀ name ∈ layout.map (·.1), ∀ v, (name, v) ∈ document → ∃ entries, v = .table entries

/-- A document is laid over the default settings. -/
theorem ofTable_eq_ok {document : List (String × Value)} (h : Sectioned document)
    {x : String → Option (String → Option Datum)} :
    (∃ s, ofTable document = .ok s ∧ s.view = x) ↔
      Overlaid (layout.map (·.1)) Gives document ({} : Settings).view x := by
  cases h.distinct with
  | table hkeys hentries =>
    refine Field.readTable_eq_ok (by decide) hkeys fun f hf v hv => ?_
    obtain ⟨entries, rfl⟩ := h.tables f.name (List.mem_map_of_mem (f := Field.name) hf) v hv
    rw [fields_eq_map_part] at hf
    obtain ⟨p, -, rfl⟩ := List.mem_map.1 hf
    exact p.field_fills (hentries _ hv)

end Settings

end Hotplug
