import Hotplug.CommandLine.Program
import Hotplug.Proofs.Flaws
import Hotplug.Proofs.Options

/-!
# What was accepted can be started

Settings that were accepted can still be worked with once the command line has had its say, and
the loopback library starts with their options.  It refuses options just if one of them has no
name.  No name comes before the empty one, so nothing has been applied by then.

The subject is the entry point of the program, from the loader of the configuration component to
the start of the manager.

* `Settings.IsAccepted` — settings that were loaded, or read from a text, without a complaint.
* `Loopback.Begins` — what the loopback library makes of options.
* `Program.IsReady` — a program with nothing in the way of its run.
* `Program.accepted_starts` — accepted settings make such a program, whatever was asked for.
-/

namespace Hotplug

/-! ## The library and its options -/

/-- The names that have a value, in their order. -/
def ManagerOptions.names (o : ManagerOptions) : List String :=
  o.values.entries.map (·.1)

/-- The empty name comes first in a table. -/
theorem OptionTable.entries_of_unnamed {t : OptionTable} (h : "" ∈ t.entries.map (·.1)) :
    ∃ value rest, t.entries = ("", value) :: rest := by
  have hordered := t.ordered
  cases hentries : t.entries with
  | nil => simp [hentries] at h
  | cons e rest =>
    obtain ⟨name, value⟩ := e
    rw [hentries] at h hordered
    rcases List.mem_cons.1 h with rfl | hrest
    · exact ⟨value, rest, rfl⟩
    · obtain ⟨e', he', hempty⟩ := List.mem_map.1 hrest
      have hlt : Utf8.bytes name < Utf8.bytes e'.1 :=
        Utf8.bytes_lt_bytes.2 ((List.pairwise_cons.1 hordered).1 e' he')
      rw [hempty] at hlt
      exact absurd hlt (List.not_lt_nil _)

namespace Loopback

/-- What is recorded of options that are applied one after the other. -/
def applied (es : List (String × OptionValue)) : List Happening :=
  es.map fun (name, value) => .logged (.optionApplied name value) none

theorem applyOptions_of_named {c : Chronicle} {es : List (String × OptionValue)}
    (h : "" ∉ es.map (·.1)) : applyOptions c es = (none, c.recordAll (applied es)) := by
  induction es generalizing c with
  | nil => rfl
  | cons e es ih =>
    obtain ⟨name, value⟩ := e
    rw [List.map_cons, List.mem_cons, not_or] at h
    have hname : name.isEmpty = false := by simpa using fun heq => h.1 heq.symm
    rw [applyOptions, hname]
    exact ih h.2

theorem start_of_named {c : Chronicle} {o : ManagerOptions} (h : "" ∉ o.names) :
    start c o =
      (none, c.recordAll (applied o.values.entries ++ [.logged (.loopbackStarted o) none])) := by
  rw [start, applyOptions_of_named h]
  simp [Chronicle.recordAll, Chronicle.log]

theorem start_of_unnamed {c : Chronicle} {o : ManagerOptions} (h : "" ∈ o.names) :
    start c o = (some (.invalidOption "" "empty name"), c) := by
  obtain ⟨value, rest, hentries⟩ := OptionTable.entries_of_unnamed h
  rw [start, hentries]
  rfl

/-- What the loopback library makes of options. -/
structure Begins (c : Chronicle) (o : ManagerOptions) : Prop where
  /-- It refuses them just if one has no name, … -/
  refuses : ∀ r, (start c o).1 = some r ↔ "" ∈ o.names ∧ r = .invalidOption "" "empty name"
  /-- … and then it has not applied any. -/
  untouched : "" ∈ o.names → (start c o).2 = c
  /-- Otherwise it applies all of them, in the order of their names, and has started. -/
  applies : "" ∉ o.names → start c o =
    (none, c.recordAll (applied o.values.entries ++ [.logged (.loopbackStarted o) none]))

theorem begins (c : Chronicle) (o : ManagerOptions) : Begins c o := by
  refine ⟨fun r => ?_, fun h => by rw [start_of_unnamed h], start_of_named⟩
  by_cases h : "" ∈ o.names
  · simp [start_of_unnamed h, h, eq_comm]
  · simp [start_of_named h, h]

end Loopback

/-! ## Accepted settings -/

namespace Settings

/-- Settings that a file, the lack of a file, or a text was accepted for. -/
inductive IsAccepted (s : Settings) : Prop
  | loaded (file : Option (Except FileFault (List UInt8))) (h : load file = .ok s)
  | read (text : String) (h : ofText text = .ok s)

variable {s t : Settings}

theorem workable_of_checked (h : s.checked = .ok t) : t.Workable := by
  by_cases hworkable : s.Workable
  · rw [checked_of_workable hworkable] at h
    obtain rfl := Except.ok.inj h
    exact hworkable
  · rw [checked_of_not_workable hworkable] at h
    cases h

theorem workable_of_ofText {text : String} (h : ofText text = .ok s) : s.Workable := by
  unfold ofText ofEntries at h
  split at h
  · split at h
    · exact workable_of_checked h
    · cases h
  · cases h

theorem workable_of_load {file : Option (Except FileFault (List UInt8))}
    (h : load file = .ok s) : s.Workable := by
  unfold load ofBytes at h
  split at h
  · exact workable_of_checked h
  · split at h
    · exact workable_of_ofText h
    · cases h
  · cases h

theorem IsAccepted.workable (h : s.IsAccepted) : s.Workable := by
  cases h with
  | loaded file h => exact workable_of_load h
  | read text h => exact workable_of_ofText h

/-- The command line has no say in what is checked. -/
theorem Workable.apply (h : s.Workable) (a : Arguments) : (a.apply s).Workable where
  pollInterval := h.pollInterval
  activationTimeout := h.activationTimeout
  removalTimeout := h.removalTimeout
  gracePeriod := h.gracePeriod
  names := h.names
  address := h.address

theorem names_managerOptions (s : Settings) : s.managerOptions.names = s.optionNames := by
  have hvalues : s.managerOptions.values = s.manager.options := by
    calc s.managerOptions.values = .ofList s.manager.options.entries :=
          congrArg ManagerOptions.values (ManagerOptions.setAll_new _ _ _ _)
      _ = s.manager.options := OptionTable.ofList_entries _
  rw [ManagerOptions.names, hvalues, optionNames]

theorem Workable.start (h : s.Workable) (c : Chronicle) :
    (Loopback.start c s.managerOptions).1 = none := by
  have hnamed : "" ∉ s.managerOptions.names := by
    rw [names_managerOptions]
    exact fun hmem => (h.names "" hmem).1 rfl
  rw [Loopback.start_of_named hnamed]

end Settings

theorem DeviceId.ofPath_ne_empty (path : String) : (ofPath path).path ≠ "" := by
  unfold ofPath
  split
  · decide
  · next h => simpa using h

/-! ## The program -/

namespace Program

variable {p : Program}

/-- A program with nothing in the way of its run. -/
structure IsReady (p : Program) : Prop where
  /-- Its settings would still be accepted. -/
  checked : p.settings.checked = .ok p.settings
  device : p.settings.deviceId.path ≠ ""
  address : p.settings.observability.metricsEnabled = true →
    ∃ a, SocketAddress.parse? p.settings.observability.metricsAddress = some a
  /-- It never reports an address that cannot be read. -/
  readable : ∀ address, .metricsUnreadable address ∉ p.opening
  /-- The loopback library starts with its options. -/
  starts : ∀ c, (Loopback.start c p.settings.managerOptions).1 = none
  /-- The run is not over before it begins. -/
  launched : ∀ files, (p.launch files).outcome? = none

theorem not_mem_opening (h : p.settings.Workable) (address : String) :
    .metricsUnreadable address ∉ p.opening := by
  have hreport : .metricsUnreadable address ∉ p.metricsReport := by
    unfold metricsReport
    cases henabled : p.settings.observability.metricsEnabled with
    | false => simp
    | true =>
      obtain ⟨a, ha⟩ := h.address henabled
      simp [ha]
  simp [opening, hreport]

theorem outcome?_launch (h : p.settings.Workable) (files : FileTree) :
    (p.launch files).outcome? = none := by
  have hstart := h.start
  unfold launch World.launch
  simp only [setup, library, Library.start, Bool.false_eq_true, if_false, hstart]
  rfl

theorem isReady_of_workable (h : p.settings.Workable) : p.IsReady where
  checked := Settings.checked_of_workable h
  device := DeviceId.ofPath_ne_empty _
  address := h.address
  readable := not_mem_opening h
  starts := h.start
  launched := outcome?_launch h

/-- Whatever program a command line and a file lead to, it is ready. -/
theorem isReady_of_prepare {a : Arguments} {environment : Option String}
    {file : Option (Except FileFault (List UInt8))} (h : prepare a environment file = .ok p) :
    p.IsReady := by
  cases hload : Settings.load file with
  | error f => simp [prepare, hload, bind, Except.bind] at h
  | ok s =>
    simp only [prepare, hload, bind, Except.bind, pure, Except.pure, Except.ok.injEq] at h
    subst h
    exact isReady_of_workable ((Settings.workable_of_load hload).apply a)

/-- **What was accepted can be started.**  Whatever the command line asks for, accepted settings
make a program that is ready to run; and whatever the options, the loopback library refuses them
just for the empty name and before it has applied any. -/
theorem accepted_starts {s : Settings} (hs : s.IsAccepted) (a : Arguments) (filter : Filter)
    (c : Chronicle) (o : ManagerOptions) :
    IsReady ⟨a.apply s, filter⟩ ∧ Loopback.Begins c o :=
  ⟨isReady_of_workable (hs.workable.apply a), Loopback.begins c o⟩

/-- Settings with metrics and two options, and without a device. -/
def metered : String :=
  "observability = \x7b metrics_enabled = true, metrics_address = \"[::1]:90\" \x7d\n" ++
    "manager.options = \x7b Poll = 500, Logging = false \x7d\ndevice.path = \"\"\n"

/-- What they are. -/
def meteredSettings : Settings where
  device := { path := "" }
  manager := { options := .ofList [("Logging", .bool false), ("Poll", .int 500)] }
  observability := { metricsEnabled := true, metricsAddress := "[::1]:90" }

/-- The document that the text spells. -/
def meteredTable : List (String × Toml.Value) :=
  [("observability", .table [("metrics_enabled", .boolean true),
      ("metrics_address", .string "[::1]:90")]),
    ("manager", .table [("options", .table [("Poll", .integer 500),
      ("Logging", .boolean false)])]),
    ("device", .table [("path", .string "")])]

theorem parse?_metered : Toml.Document.parse? metered = some meteredTable := by
  decide +kernel

theorem ofText_metered : Settings.ofText metered = .ok meteredSettings := by
  have hread : Settings.ofTable meteredTable = .ok meteredSettings := rfl
  have hchecked : meteredSettings.checked = .ok meteredSettings :=
    Settings.checked_of_workable (Settings.problems_eq_nil.1 (by decide +kernel))
  simp only [Settings.ofText, parse?_metered, Settings.ofEntries, hread, hchecked]

/-- Options one of which has no name, though it was set last. -/
def unnamedOptions : ManagerOptions :=
  (ManagerOptions.new "" "." "").setAll [("Poll", .int 500), (" ", .bool true), ("", .int 0)]

theorem accepted_starts_metered :
    Settings.ofText metered = .ok meteredSettings ∧
      IsReady ⟨Arguments.apply { device := some "", logLevel := some "debug" } meteredSettings,
        Filter.choose none "debug"⟩ ∧
      Loopback.start {} unnamedOptions = (some (.invalidOption "" "empty name"), {}) := by
  have hs : meteredSettings.IsAccepted := .read metered ofText_metered
  obtain ⟨hready, hbegins⟩ := accepted_starts hs { device := some "", logLevel := some "debug" }
    (Filter.choose none "debug") {} unnamedOptions
  have hunnamed : "" ∈ unnamedOptions.names := by decide +kernel
  exact ⟨ofText_metered, hready,
    Prod.ext ((hbegins.refuses _).2 ⟨hunnamed, rfl⟩) (hbegins.untouched hunnamed)⟩

end Program

end Hotplug
