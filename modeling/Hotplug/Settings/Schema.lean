import Hotplug.Settings.Field

/-!
# The fields of all sections

Which settings there are, what each of them takes, and how a document becomes settings.

This file models the keys of the configuration component, section by section.

* `Settings.fields`, `DeviceSettings.fields`, … — the fields in their order.
* `Settings.ofTable` — the settings of a document; what is not given has its default.
-/

namespace Hotplug

/-! ## Single settings -/

/-- The policy with a name. -/
def ActivationPolicy.ofName (s : String) : Except Misfit ActivationPolicy :=
  match [proceed, skipCycle].find? (·.name = s) with
  | some p => .ok p
  | none => .error (.unknownPolicy s)

/-- Whether there is nothing behind the name of a policy. -/
def ActivationPolicy.isBare : Toml.Value → Bool
  | .array items | .tables items => items.isEmpty
  | .table entries => entries.isEmpty
  | _ => false

/-- The policy that a value stands for: its name, or a table with nothing but the name. -/
def ActivationPolicy.ofValue : Toml.Value → Except Misfit ActivationPolicy
  | .string s => ofName s
  | .table [] => .error .noPolicy
  | .table [(name, content)] => do
    let p ← ofName name
    if isBare content then return p else throw (.policyContent content)
  | .table _ => .error .severalPolicies
  | _ => .error .policyShape

/-- The option value that a value stands for. -/
def OptionValue.ofValue : Toml.Value → Except Misfit OptionValue
  | .integer n => if Toml.Value.isLong n then .ok (.int n) else .error .optionValue
  | .boolean b => .ok (.bool b)
  | _ => .error .optionValue

/-- The options that a value stands for. -/
def OptionTable.ofValue : Toml.Value → Except Misfit OptionTable
  | .table entries => do
    let settings ← entries.mapM fun (name, v) => do return (name, ← OptionValue.ofValue v)
    return OptionTable.ofList settings
  | .moment => .error .optionValue
  | v => .error (.unexpected v .options)

/-! ## Sections -/

/-- The fields of the device section. -/
def DeviceSettings.fields : List (Field DeviceSettings) :=
  [.text "path" fun v s => { s with path := v },
    .count "poll_interval_ms" fun v s => { s with pollInterval := v }]

/-- The fields of the driver section. -/
def DriverSettings.fields : List (Field DriverSettings) :=
  [.count "activation_timeout_ms" fun v s => { s with activationTimeout := v },
    .count "removal_timeout_ms" fun v s => { s with removalTimeout := v },
    .other "on_activation_failure" ActivationPolicy.ofValue
      fun v s => { s with onActivationFailure := v }]

/-- The fields of the shutdown section. -/
def ShutdownSettings.fields : List (Field ShutdownSettings) :=
  [.count "grace_period_ms" fun v s => { s with gracePeriod := v }]

/-- The fields of the manager section. -/
def ManagerSettings.fields : List (Field ManagerSettings) :=
  [.text "config_path" fun v s => { s with configPath := v },
    .text "user_path" fun v s => { s with userPath := v },
    .text "overrides" fun v s => { s with overrides := v },
    .other "options" OptionTable.ofValue fun v s => { s with options := v }]

/-- The fields of the observability section. -/
def ObservabilitySettings.fields : List (Field ObservabilitySettings) :=
  [.text "log_level" fun v s => { s with logLevel := v },
    .truth "json_logs" fun v s => { s with jsonLogs := v },
    .truth "metrics_enabled" fun v s => { s with metricsEnabled := v },
    .text "metrics_address" fun v s => { s with metricsAddress := v }]

/-! ## Settings -/

/-- The sections. -/
def Settings.fields : List (Field Settings) :=
  [.other "device" (Field.readSection "DeviceConfig" DeviceSettings.fields {})
      fun v s => { s with device := v },
    .other "driver" (Field.readSection "DriverConfig" DriverSettings.fields {})
      fun v s => { s with driver := v },
    .other "shutdown" (Field.readSection "ShutdownConfig" ShutdownSettings.fields {})
      fun v s => { s with shutdown := v },
    .other "manager" (Field.readSection "ManagerConfig" ManagerSettings.fields {})
      fun v s => { s with manager := v },
    .other "observability" (Field.readSection "ObservabilityConfig" ObservabilitySettings.fields {})
      fun v s => { s with observability := v }]

/-- The settings of a document. -/
def Settings.ofTable (entries : List (String × Toml.Value)) : Except Misfit Settings :=
  Field.readTable Settings.fields entries {}

end Hotplug
