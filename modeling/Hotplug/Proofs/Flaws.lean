import Hotplug.Proofs.ByteOrder
import Hotplug.Settings.Load
import Mathlib.Data.List.Sort

/-!
# What is wrong with settings

Settings can be worked with, or all their flaws are reported: each of them once, durations first
and in their order, then the names of options in the order of their bytes, then the address.

The subject is the validation of the configuration component.

* `Settings.Workable` — the settings that can be worked with.
* `Settings.Flawed` — one thing that is wrong, whatever else is.
* `Problem.Before` — the order in which problems are reported.
* `Settings.judged` — which settings are refused, and with which report.
-/

namespace Hotplug

/-! ## What may be wrong -/

namespace Settings

variable (s : Settings)

/-- The names of the options that are set. -/
def optionNames : List String :=
  s.manager.options.entries.map (·.1)

/-- Settings that can be worked with. -/
structure Workable : Prop where
  pollInterval : 0 < s.device.pollInterval
  activationTimeout : 0 < s.driver.activationTimeout
  removalTimeout : 0 < s.driver.removalTimeout
  gracePeriod : 0 < s.shutdown.gracePeriod
  names : ∀ name ∈ s.optionNames, name ≠ "" ∧ ∀ c ∈ name.toList, Blank.isBlank c = false
  address : s.observability.metricsEnabled = true →
    ∃ a, SocketAddress.parse? s.observability.metricsAddress = some a

/-- One thing that is wrong with settings. -/
inductive Flawed : Problem → Prop
  | pollInterval (hzero : s.device.pollInterval = 0) :
    Flawed (.zeroDuration "device.poll_interval_ms")
  | activationTimeout (hzero : s.driver.activationTimeout = 0) :
    Flawed (.zeroDuration "driver.activation_timeout_ms")
  | removalTimeout (hzero : s.driver.removalTimeout = 0) :
    Flawed (.zeroDuration "driver.removal_timeout_ms")
  | gracePeriod (hzero : s.shutdown.gracePeriod = 0) :
    Flawed (.zeroDuration "shutdown.grace_period_ms")
  | emptyName (hname : "" ∈ s.optionNames) : Flawed .emptyOptionName
  | blankName (name : String) (hname : name ∈ s.optionNames) (c : Char) (hc : c ∈ name.toList)
      (hblank : Blank.isBlank c = true) : Flawed (.invalidOptionName name)
  /-- The address is of no interest unless metrics are published. -/
  | address (henabled : s.observability.metricsEnabled = true)
      (hparse : SocketAddress.parse? s.observability.metricsAddress = none) :
    Flawed (.invalidMetricsAddress s.observability.metricsAddress)

end Settings

/-! ## The order of a report -/

namespace Problem

/-- The durations in the order in which they are reported. -/
def durationNames : List String :=
  ["device.poll_interval_ms", "driver.activation_timeout_ms", "driver.removal_timeout_ms",
    "shutdown.grace_period_ms"]

/-- How late a problem is reported: durations by their place, then options, then the address. -/
def rank : Problem → Nat
  | zeroDuration field => durationNames.idxOf field
  | emptyOptionName | invalidOptionName _ => durationNames.length
  | invalidMetricsAddress _ => durationNames.length + 1

/-- The name of the option that a problem is about. -/
def optionName : Problem → String
  | invalidOptionName name => name
  | _ => ""

/-- One problem is reported before another: by rank, and options by the bytes of their names. -/
def Before (p q : Problem) : Prop :=
  p.rank < q.rank ∨
    p.rank = q.rank ∧ Utf8.bytes p.optionName < Utf8.bytes q.optionName

theorem not_before_self (p : Problem) : ¬ p.Before p := by
  rintro (hlt | ⟨-, hlt⟩)
  · exact Nat.lt_irrefl _ hlt
  · exact List.lt_irrefl _ hlt

theorem Before.not_before {p q : Problem} (h : p.Before q) : ¬ q.Before p := by
  rcases h with hlt | ⟨heq, hlt⟩
  · rintro (hgt | ⟨heq, -⟩) <;> omega
  · rintro (hgt | ⟨-, hgt⟩)
    · omega
    · exact List.lt_asymm hlt hgt

instance : Std.Irrefl Before := ⟨not_before_self⟩

instance : Std.Antisymm Before := ⟨fun _ _ h h' => absurd h' h.not_before⟩

end Problem

/-! ## What is reported -/

namespace Problem

theorem ofOptionName_eq_some {name : String} {p : Problem} :
    ofOptionName name = some p ↔
      name = "" ∧ p = .emptyOptionName ∨
        name ≠ "" ∧ (∃ c ∈ name.toList, Blank.isBlank c = true) ∧ p = .invalidOptionName name := by
  unfold ofOptionName Blank.hasBlank
  by_cases hempty : name = ""
  · simp [hempty, @eq_comm _ p]
  · simp [hempty, @eq_comm _ p]

/-- A problem with the name of an option is ranked as such, by the name. -/
theorem of_ofOptionName {name : String} {p : Problem} (h : ofOptionName name = some p) :
    p.rank = durationNames.length ∧ p.optionName = name := by
  rcases ofOptionName_eq_some.1 h with ⟨rfl, rfl⟩ | ⟨-, -, rfl⟩ <;> exact ⟨rfl, rfl⟩

end Problem

namespace Settings

variable {s : Settings} {p : Problem}

/-- The address that metrics should be published under cannot be read. -/
theorem metricsAddress?_isNone :
    (s.observability.metricsEnabled && s.metricsAddress?.isNone) = true ↔
      s.observability.metricsEnabled = true ∧
        SocketAddress.parse? s.observability.metricsAddress = none := by
  unfold metricsAddress?
  cases s.observability.metricsEnabled <;> simp

theorem mem_optionNames {name : String} :
    name ∈ s.optionNames ↔ ∃ v, (name, v) ∈ s.manager.options.entries := by
  simp [optionNames]

/-- What is reported is wrong, and what is wrong is reported. -/
theorem mem_problems : p ∈ s.problems ↔ s.Flawed p := by
  simp only [problems, namedDurations, List.mem_append, List.mem_map, List.mem_filter,
    List.mem_filterMap, Problem.ofOptionName_eq_some]
  rw [or_assoc]
  constructor
  · rintro (⟨⟨field, n⟩, ⟨hmem, hzero⟩, rfl⟩ | ⟨⟨name, v⟩, hmem, hname⟩ | haddress)
    · simp only [List.mem_cons, Prod.mk.injEq, List.not_mem_nil, or_false] at hmem
      rcases hmem with ⟨rfl, rfl⟩ | ⟨rfl, rfl⟩ | ⟨rfl, rfl⟩ | ⟨rfl, rfl⟩
      · exact .pollInterval (by simpa using hzero)
      · exact .activationTimeout (by simpa using hzero)
      · exact .removalTimeout (by simpa using hzero)
      · exact .gracePeriod (by simpa using hzero)
    · have hset : name ∈ s.optionNames := mem_optionNames.2 ⟨v, hmem⟩
      rcases hname with ⟨rfl, rfl⟩ | ⟨-, ⟨c, hc, hblank⟩, rfl⟩
      · exact .emptyName hset
      · exact .blankName name hset c hc hblank
    · split at haddress
      · next hbad =>
        obtain ⟨henabled, hparse⟩ := metricsAddress?_isNone.1 hbad
        rw [List.mem_singleton.1 haddress]
        exact .address henabled hparse
      · cases haddress
  · intro h
    cases h with
    | pollInterval hzero | activationTimeout hzero | removalTimeout hzero | gracePeriod hzero =>
      exact .inl (by simp [hzero])
    | emptyName hname =>
      obtain ⟨v, hmem⟩ := mem_optionNames.1 hname
      exact .inr (.inl ⟨_, hmem, .inl ⟨rfl, rfl⟩⟩)
    | blankName name hname c hc hblank =>
      obtain ⟨v, hmem⟩ := mem_optionNames.1 hname
      refine .inr (.inl ⟨_, hmem, .inr ⟨?_, ⟨c, hc, hblank⟩, rfl⟩⟩)
      rintro rfl
      cases hc
    | address henabled hparse =>
      rw [if_pos (metricsAddress?_isNone.2 ⟨henabled, hparse⟩)]
      exact .inr (.inr (List.mem_singleton_self _))

theorem pairwise_zeroDurations (s : Settings) :
    ((s.namedDurations.filter (·.2 = 0)).map fun (field, _) =>
      Problem.zeroDuration field).Pairwise Problem.Before := by
  have hall : (s.namedDurations.map fun (field, _) =>
      Problem.zeroDuration field).Pairwise Problem.Before := by
    have hlt : (Problem.durationNames.map Problem.zeroDuration).Pairwise
        (fun p q => p.rank < q.rank) := by
      decide
    exact hlt.imp .inl
  exact hall.sublist (List.filter_sublist.map _)

/-- Each name is looked at once, in the order of the table. -/
theorem pairwise_optionProblems (s : Settings) :
    (s.manager.options.entries.filterMap fun (name, _) =>
      Problem.ofOptionName name).Pairwise Problem.Before := by
  refine s.manager.options.ordered.filterMap _ fun e e' hlt p hp q hq => .inr ?_
  obtain ⟨hrank, hname⟩ := Problem.of_ofOptionName hp
  obtain ⟨hrank', hname'⟩ := Problem.of_ofOptionName hq
  rw [hrank, hrank', hname, hname']
  exact ⟨rfl, Utf8.bytes_lt_bytes.2 hlt⟩

theorem rank_of_mem_zeroDurations
    (hp : p ∈ (s.namedDurations.filter (·.2 = 0)).map fun (field, _) =>
      Problem.zeroDuration field) : p.rank < Problem.durationNames.length := by
  obtain ⟨e, he, rfl⟩ := List.mem_map.1 hp
  have hnames : e.1 ∈ Problem.durationNames := List.mem_map_of_mem (List.mem_filter.1 he).1
  exact List.idxOf_lt_length_of_mem hnames

theorem rank_of_mem_optionProblems
    (hp : p ∈ s.manager.options.entries.filterMap fun (name, _) => Problem.ofOptionName name) :
    p.rank = Problem.durationNames.length := by
  obtain ⟨e, -, he⟩ := List.mem_filterMap.1 hp
  exact (Problem.of_ofOptionName he).1

/-- The report is in order. -/
theorem pairwise_problems (s : Settings) : s.problems.Pairwise Problem.Before := by
  refine List.pairwise_append.2 ⟨List.pairwise_append.2
    ⟨s.pairwise_zeroDurations, s.pairwise_optionProblems, fun p hp q hq => ?_⟩, ?_,
      fun p hp q hq => ?_⟩
  · have hlast := rank_of_mem_optionProblems hq
    exact .inl (hlast ▸ rank_of_mem_zeroDurations hp)
  · split
    · exact List.pairwise_singleton _ _
    · exact .nil
  · refine .inl ?_
    have hlast : q.rank = Problem.durationNames.length + 1 := by
      split at hq
      · rw [List.mem_singleton.1 hq]
        rfl
      · cases hq
    rcases List.mem_append.1 hp with hp | hp
    · have := rank_of_mem_zeroDurations hp
      omega
    · have := rank_of_mem_optionProblems hp
      omega

/-! ## Which settings are refused -/

/-- Settings can be worked with just if nothing is wrong with them. -/
theorem workable_iff : s.Workable ↔ ∀ p, ¬ s.Flawed p := by
  constructor
  · rintro h p (hzero | hzero | hzero | hzero | hname | ⟨name, hname, c, hc, hblank⟩ |
      ⟨henabled, hparse⟩)
    · exact absurd hzero h.pollInterval.ne'
    · exact absurd hzero h.activationTimeout.ne'
    · exact absurd hzero h.removalTimeout.ne'
    · exact absurd hzero h.gracePeriod.ne'
    · exact (h.names "" hname).1 rfl
    · rw [(h.names name hname).2 c hc] at hblank
      cases hblank
    · obtain ⟨a, ha⟩ := h.address henabled
      rw [hparse] at ha
      cases ha
  · intro h
    refine
      { pollInterval := Nat.pos_of_ne_zero fun hzero => h _ (.pollInterval hzero)
        activationTimeout := Nat.pos_of_ne_zero fun hzero => h _ (.activationTimeout hzero)
        removalTimeout := Nat.pos_of_ne_zero fun hzero => h _ (.removalTimeout hzero)
        gracePeriod := Nat.pos_of_ne_zero fun hzero => h _ (.gracePeriod hzero)
        names := fun name hname => ⟨?_, fun c hc => ?_⟩
        address := fun henabled => ?_ }
    · rintro rfl
      exact h _ (.emptyName hname)
    · exact Bool.eq_false_iff.2 fun hblank => h _ (.blankName name hname c hc hblank)
    · exact Option.ne_none_iff_exists'.1 fun hparse => h _ (.address henabled hparse)

theorem problems_eq_nil : s.problems = [] ↔ s.Workable := by
  rw [workable_iff, List.eq_nil_iff_forall_not_mem]
  exact forall_congr' fun p => not_congr mem_problems

theorem checked_of_workable (h : s.Workable) : s.checked = .ok s := by
  rw [checked, problems_eq_nil.2 h]
  rfl

theorem checked_of_not_workable (h : ¬ s.Workable) : s.checked = .error (.invalid s.problems) := by
  have hsome : s.problems.isEmpty = false :=
    List.isEmpty_eq_false_iff.2 fun hnil => h (problems_eq_nil.1 hnil)
  rw [checked, hsome]
  rfl

/-- What becomes of settings that are checked. -/
structure Judged (s : Settings) : Prop where
  /-- Settings that can be worked with are accepted as they are, and no others. -/
  accepted : ∀ t, s.checked = .ok t ↔ t = s ∧ s.Workable
  /-- The others are refused with everything that is wrong: each flaw once, and in order. -/
  refused : ∀ f, s.checked = .error f ↔
    ¬ s.Workable ∧ ∃ ps, f = .invalid ps ∧ (∀ p, p ∈ ps ↔ s.Flawed p) ∧
      ps.Pairwise Problem.Before ∧ ps.Nodup

/-- **Settings are refused just for their flaws.** -/
theorem judged (s : Settings) : s.Judged := by
  have hnodup : s.problems.Nodup := s.pairwise_problems.imp fun hlt heq => by
    subst heq
    exact Problem.not_before_self _ hlt
  by_cases hworkable : s.Workable
  · have hchecked := checked_of_workable hworkable
    constructor <;> simp [hchecked, hworkable, eq_comm]
  · have hchecked := checked_of_not_workable hworkable
    refine ⟨by simp [hchecked, hworkable], fun f => ?_⟩
    rw [hchecked]
    constructor
    · intro h
      obtain rfl := Except.error.inj h
      exact ⟨hworkable, _, rfl, fun _ => mem_problems, s.pairwise_problems, hnodup⟩
    · rintro ⟨-, ps, rfl, hmem, hordered, -⟩
      have heq : s.problems = ps :=
        s.pairwise_problems.eq_of_mem_iff hordered fun p => mem_problems.trans (hmem p).symm
      rw [heq]

/-- All kinds of flaws at once. -/
example :
    let s : Settings :=
      { device := { pollInterval := 0 }
        shutdown := { gracePeriod := 0 }
        manager := { options := .ofList [("b c", .int 1), ("", .bool true), ("a b", .int 1)] }
        observability := { metricsEnabled := true, metricsAddress := "nowhere" } }
    s.problems =
      [.zeroDuration "device.poll_interval_ms", .zeroDuration "shutdown.grace_period_ms",
        .emptyOptionName, .invalidOptionName "a b", .invalidOptionName "b c",
        .invalidMetricsAddress "nowhere"] := by
  decide +kernel

end Settings

end Hotplug
