import Hotplug.Proofs.OptionTables
import Hotplug.Proofs.Overlay
import Hotplug.Settings.Schema
import Mathlib.Data.List.Forall2

/-!
# Settings as rows

Settings seen as a table: five sections, each with its keys in order and what they hold.  It says
which keys there are, in which order, what each of them takes and what it holds by default.

The subject is the schema of the configuration component, which these rows say once more, without
a word about how a document is read.

* `Datum`, `Datum.Kind` — what a setting holds.
* `Datum.Spells` — what a value of a document says.
* `Settings.sections`, `Settings.row` — all settings with their keys.
-/

namespace Hotplug

/-! ## Data -/

/-- What a setting holds. -/
inductive Datum where
  | text (t : String)
  | count (n : Nat)
  | truth (b : Bool)
  | policy (p : ActivationPolicy)
  | options (t : OptionTable)
  deriving DecidableEq, Repr, Inhabited

namespace Datum

/-- What a setting can hold. -/
inductive Kind where
  | text
  /-- A whole number that is not negative. -/
  | count
  | truth
  | policy
  | options
  deriving DecidableEq, Repr, Inhabited

/-- The kind of what a setting holds. -/
def kind : Datum → Kind
  | text _ => .text
  | count _ => .count
  | truth _ => .truth
  | policy _ => .policy
  | options _ => .options

end Datum

/-! ## Values of a document -/

/-- A value that says which policy to follow: its name, or the name as the only key of a table,
with nothing behind it. -/
inductive ActivationPolicy.Spells : Toml.Value → ActivationPolicy → Prop
  | name (p : ActivationPolicy) : Spells (.string p.name) p
  | table (p : ActivationPolicy) : Spells (.table [(p.name, .table [])]) p
  | array (p : ActivationPolicy) : Spells (.table [(p.name, .array [])]) p
  | tables (p : ActivationPolicy) : Spells (.table [(p.name, .tables [])]) p

/-- A value that says what an option is: an integer of 64 bits, or a truth value. -/
inductive OptionValue.Spells : Toml.Value → OptionValue → Prop
  | int (n : Int) (hleast : -9223372036854775808 ≤ n) (hmost : n ≤ 9223372036854775807) :
    Spells (.integer n) (.int n)
  | bool (b : Bool) : Spells (.boolean b) (.bool b)

namespace Datum

/-- What a value of a document says about a setting. -/
inductive Spells : Toml.Value → Datum → Prop
  | text (t : String) : Spells (.string t) (.text t)
  | count (n : Nat) : Spells (.integer n) (.count n)
  | truth (b : Bool) : Spells (.boolean b) (.truth b)
  | policy {v : Toml.Value} {p : ActivationPolicy} (hspells : ActivationPolicy.Spells v p) :
    Spells v (.policy p)
  /-- A table with an option under each of its keys. -/
  | options {entries : List (String × Toml.Value)} {t : OptionTable}
      (hall : ∀ e ∈ entries, ∃ x, OptionValue.Spells e.2 x)
      (hget : ∀ name x, t.get? name = some x ↔ ∃ v, (name, v) ∈ entries ∧ OptionValue.Spells v x) :
    Spells (.table entries) (.options t)

/-- The values that fit a setting. -/
def Kind.Admits : Kind → Toml.Value → Prop
  | text, v => ∃ t, v = .string t
  | count, v => ∃ n : Int, v = .integer n ∧ 0 ≤ n
  | truth, v => ∃ b, v = .boolean b
  | policy, v => ∃ p, ActivationPolicy.Spells v p
  | options, v => ∃ entries, v = .table entries ∧ ∀ e ∈ entries, ∃ x, OptionValue.Spells e.2 x

end Datum

/-! ## Rows -/

namespace DeviceSettings

/-- The device section, key by key. -/
def rows (s : DeviceSettings) : List (String × Datum) :=
  [("path", .text s.path), ("poll_interval_ms", .count s.pollInterval)]

end DeviceSettings

namespace DriverSettings

/-- The driver section, key by key. -/
def rows (s : DriverSettings) : List (String × Datum) :=
  [("activation_timeout_ms", .count s.activationTimeout),
    ("removal_timeout_ms", .count s.removalTimeout),
    ("on_activation_failure", .policy s.onActivationFailure)]

end DriverSettings

namespace ShutdownSettings

/-- The shutdown section, key by key. -/
def rows (s : ShutdownSettings) : List (String × Datum) :=
  [("grace_period_ms", .count s.gracePeriod)]

end ShutdownSettings

namespace ManagerSettings

/-- The manager section, key by key. -/
def rows (s : ManagerSettings) : List (String × Datum) :=
  [("config_path", .text s.configPath), ("user_path", .text s.userPath),
    ("overrides", .text s.overrides), ("options", .options s.options)]

end ManagerSettings

namespace ObservabilitySettings

/-- The observability section, key by key. -/
def rows (s : ObservabilitySettings) : List (String × Datum) :=
  [("log_level", .text s.logLevel), ("json_logs", .truth s.jsonLogs),
    ("metrics_enabled", .truth s.metricsEnabled), ("metrics_address", .text s.metricsAddress)]

end ObservabilitySettings

namespace Settings

/-- All settings: the sections with their rows. -/
def sections (s : Settings) : List (String × List (String × Datum)) :=
  [("device", s.device.rows), ("driver", s.driver.rows), ("shutdown", s.shutdown.rows),
    ("manager", s.manager.rows), ("observability", s.observability.rows)]

/-- What settings hold under a key of a section, if there is such a key. -/
def row (s : Settings) (name key : String) : Option Datum :=
  (s.sections.lookup name).bind (·.lookup key)

/-- The sections with their keys, in order. -/
def layout : List (String × List String) :=
  ({} : Settings).sections.map fun (name, rows) => (name, rows.map (·.1))

end Settings

/-! ## What is read from a value -/

theorem ActivationPolicy.ofName_eq_ok {s : String} {p : ActivationPolicy} :
    ofName s = .ok p ↔ s = p.name := by
  constructor
  · intro h
    unfold ofName at h
    split at h
    · next q hfind =>
      obtain rfl := Except.ok.inj h
      have hname : q.name = s := by simpa using List.find?_some hfind
      exact hname.symm
    · cases h
  · rintro rfl
    cases p <;> rfl

theorem ActivationPolicy.isBare_eq_true {content : Toml.Value} :
    isBare content = true ↔ content = .table [] ∨ content = .array [] ∨ content = .tables [] := by
  cases content <;> simp [isBare]

/-- A policy is read from the values that spell it. -/
theorem ActivationPolicy.ofValue_eq_ok {v : Toml.Value} {p : ActivationPolicy} :
    ofValue v = .ok p ↔ Spells v p := by
  constructor
  · intro h
    unfold ofValue at h
    split at h
    · obtain rfl := ofName_eq_ok.1 h
      exact .name p
    · cases h
    · next name content =>
      obtain ⟨q, hname, hbare⟩ := bind_eq_ok.1 h
      obtain rfl := ofName_eq_ok.1 hname
      split at hbare
      · next hcontent =>
        obtain rfl := Except.ok.inj hbare
        rcases isBare_eq_true.1 hcontent with rfl | rfl | rfl
        · exact .table q
        · exact .array q
        · exact .tables q
      · cases hbare
    · cases h
    · cases h
  · rintro (_ | _ | _ | _) <;> cases p <;> rfl

theorem OptionValue.ofValue_eq_ok {v : Toml.Value} {x : OptionValue} :
    ofValue v = .ok x ↔ Spells v x := by
  constructor
  · intro h
    cases v with
    | integer n =>
      by_cases hlong : Toml.Value.isLong n = true
      · simp only [ofValue, if_pos hlong, Except.ok.injEq] at h
        subst h
        simp only [Toml.Value.isLong, Bool.and_eq_true, decide_eq_true_eq] at hlong
        exact .int n hlong.1 hlong.2
      · simp [ofValue, hlong] at h
    | boolean b =>
      obtain rfl := Except.ok.inj h
      exact .bool b
    | _ => cases h
  · rintro (⟨n, hleast, hmost⟩ | _)
    · simp [ofValue, Toml.Value.isLong, hleast, hmost]
    · rfl

/-- No value spells two options. -/
theorem OptionValue.Spells.eq {v : Toml.Value} {x y : OptionValue} (hx : Spells v x)
    (hy : Spells v y) : x = y := by
  cases hx <;> cases hy <;> rfl

theorem mapM_eq_ok {ε α β : Type} {f : α → Except ε β} {as : List α} {bs : List β} :
    as.mapM f = .ok bs ↔ List.Forall₂ (fun a b => f a = .ok b) as bs := by
  induction as generalizing bs with
  | nil => simp [pure, Except.pure, eq_comm]
  | cons a as ih =>
    rw [List.mapM_cons, bind_eq_ok, List.forall₂_cons_left_iff]
    constructor
    · rintro ⟨b, hb, h⟩
      obtain ⟨bs, hbs, h⟩ := bind_eq_ok.1 h
      exact ⟨b, bs, hb, ih.1 hbs, (Except.ok.inj h).symm⟩
    · rintro ⟨b, bs, hb, hbs, rfl⟩
      exact ⟨b, hb, bind_eq_ok.2 ⟨bs, ih.2 hbs, rfl⟩⟩

namespace OptionTable

/-- Options under the names of their values, one for one. -/
abbrev Listed (entries : List (String × Toml.Value)) (settings : List (String × OptionValue)) :
    Prop :=
  List.Forall₂ (fun e o => e.1 = o.1 ∧ OptionValue.Spells e.2 o.2) entries settings

variable {entries : List (String × Toml.Value)} {settings : List (String × OptionValue)}
  {t : OptionTable}

namespace Listed

theorem map_fst (h : Listed entries settings) : settings.map (·.1) = entries.map (·.1) := by
  induction h with
  | nil => rfl
  | cons hhead _ ih => rw [List.map_cons, List.map_cons, hhead.1, ih]

theorem mem_iff (h : Listed entries settings) {name : String} {x : OptionValue} :
    (name, x) ∈ settings ↔ ∃ v, (name, v) ∈ entries ∧ OptionValue.Spells v x := by
  induction h with
  | nil => simp
  | @cons e o entries settings hhead _ ih =>
    obtain ⟨key, v⟩ := e
    obtain ⟨_, y⟩ := o
    obtain ⟨rfl, hspells⟩ := hhead
    rw [List.mem_cons, ih]
    constructor
    · rintro (hhead | ⟨w, hw, hx⟩)
      · obtain ⟨rfl, rfl⟩ := Prod.mk.inj hhead
        exact ⟨v, List.mem_cons_self, hspells⟩
      · exact ⟨w, List.mem_cons_of_mem _ hw, hx⟩
    · rintro ⟨w, hw, hx⟩
      rcases List.mem_cons.1 hw with hhead | hw
      · obtain ⟨rfl, rfl⟩ := Prod.mk.inj hhead
        exact .inl (by rw [hx.eq hspells])
      · exact .inr ⟨w, hw, hx⟩

end Listed

theorem exists_listed :
    (∃ settings, Listed entries settings) ↔ ∀ e ∈ entries, ∃ x, OptionValue.Spells e.2 x := by
  induction entries with
  | nil => simp
  | cons e entries ih =>
    rw [List.forall_mem_cons, ← ih]
    constructor
    · rintro ⟨_, hlisted⟩
      obtain ⟨o, settings, hhead, htail, -⟩ := List.forall₂_cons_left_iff.1 hlisted
      exact ⟨⟨o.2, hhead.2⟩, settings, htail⟩
    · rintro ⟨⟨x, hx⟩, settings, htail⟩
      exact ⟨(e.1, x) :: settings, .cons ⟨rfl, hx⟩ htail⟩

theorem ofValue_table_eq_ok :
    ofValue (.table entries) = .ok t ↔
      ∃ settings, Listed entries settings ∧ ofList settings = t := by
  have hread : ∀ (e : String × Toml.Value) (o : String × OptionValue),
      (do return (e.1, ← OptionValue.ofValue e.2) : Except Misfit (String × OptionValue)) = .ok o ↔
        e.1 = o.1 ∧ OptionValue.Spells e.2 o.2 := by
    rintro ⟨name, v⟩ ⟨name', x⟩
    rw [bind_eq_ok]
    constructor
    · rintro ⟨y, hy, h⟩
      obtain ⟨rfl, rfl⟩ := Prod.mk.inj (Except.ok.inj h)
      exact ⟨rfl, OptionValue.ofValue_eq_ok.1 hy⟩
    · rintro ⟨rfl, hx⟩
      exact ⟨x, OptionValue.ofValue_eq_ok.2 hx, rfl⟩
  simp only [ofValue, bind_eq_ok, mapM_eq_ok, hread]
  exact exists_congr fun settings => and_congr_right' ⟨Except.ok.inj, congrArg _⟩

/-- Options are read from the tables that spell them. -/
theorem ofValue_eq_ok {v : Toml.Value}
    (hkeys : ∀ entries, v = .table entries → (entries.map (·.1)).Nodup) :
    ofValue v = .ok t ↔ Datum.Spells v (.options t) := by
  cases v with
  | table entries =>
    have hget : ∀ {settings}, Listed entries settings → ∀ name x,
        (ofList settings).get? name = some x ↔ ∃ v, (name, v) ∈ entries ∧ OptionValue.Spells v x :=
      fun hlisted name x => by
        rw [get?_ofList_eq_some (hlisted.map_fst ▸ hkeys entries rfl), hlisted.mem_iff]
    rw [ofValue_table_eq_ok]
    constructor
    · rintro ⟨settings, hlisted, rfl⟩
      exact .options (exists_listed.1 ⟨settings, hlisted⟩) (hget hlisted)
    · rintro (_ | _ | _ | ⟨⟨⟩⟩ | ⟨hall, hspelled⟩)
      obtain ⟨settings, hlisted⟩ := exists_listed.2 hall
      refine ⟨settings, hlisted, ext_get? fun name => Option.ext fun x => ?_⟩
      exact (hget hlisted name x).trans (hspelled name x).symm
  | _ => exact ⟨nofun, by rintro (_ | _ | _ | ⟨⟨⟩⟩ | _)⟩

end OptionTable

namespace Datum

/-- A value fits a setting if it says something of its kind. -/
theorem Kind.admits_iff {k : Kind} {v : Toml.Value}
    (hkeys : ∀ entries, v = .table entries → (entries.map (·.1)).Nodup) :
    k.Admits v ↔ ∃ x : Datum, x.kind = k ∧ Spells v x := by
  cases k with
  | text =>
    constructor
    · rintro ⟨t, rfl⟩
      exact ⟨.text t, rfl, .text t⟩
    · rintro ⟨_, hkind, ⟨t⟩ | _ | _ | _ | _⟩
      · exact ⟨t, rfl⟩
      all_goals cases hkind
  | count =>
    constructor
    · rintro ⟨n, rfl, hn⟩
      lift n to Nat using hn
      exact ⟨.count n, rfl, .count n⟩
    · rintro ⟨_, hkind, _ | ⟨n⟩ | _ | _ | _⟩
      case count => exact ⟨n, rfl, Int.natCast_nonneg n⟩
      all_goals cases hkind
  | truth =>
    constructor
    · rintro ⟨b, rfl⟩
      exact ⟨.truth b, rfl, .truth b⟩
    · rintro ⟨_, hkind, _ | _ | ⟨b⟩ | _ | _⟩
      case truth => exact ⟨b, rfl⟩
      all_goals cases hkind
  | policy =>
    constructor
    · rintro ⟨p, hspells⟩
      exact ⟨.policy p, rfl, .policy hspells⟩
    · rintro ⟨_, hkind, _ | _ | _ | ⟨hspells⟩ | _⟩
      case policy => exact ⟨_, hspells⟩
      all_goals cases hkind
  | options =>
    constructor
    · rintro ⟨entries, rfl, hall⟩
      obtain ⟨settings, hlisted⟩ := OptionTable.exists_listed.2 hall
      exact ⟨.options (.ofList settings), rfl, (OptionTable.ofValue_eq_ok hkeys).1
        (OptionTable.ofValue_table_eq_ok.2 ⟨settings, hlisted, rfl⟩)⟩
    · rintro ⟨_, hkind, _ | _ | _ | _ | ⟨hall, _⟩⟩
      case options => exact ⟨_, rfl, hall⟩
      all_goals cases hkind

end Datum

end Hotplug
