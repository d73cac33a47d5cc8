import Hotplug.Net.SocketAddress
import Hotplug.Settings.Basic
import Hotplug.Text.Blank

/-!
# Validation

Which settings can be worked with, and what is wrong with the others.

This file models the validation of the configuration component.

* `Problem` — one thing that is wrong.
* `Settings.problems` — everything that is wrong, in a fixed order.
-/

namespace Hotplug

/-- One thing that is wrong with settings. -/
inductive Problem where
  | zeroDuration (field : String)
  | emptyOptionName
  /-- The name of an option has a blank in it. -/
  | invalidOptionName (name : String)
  | invalidMetricsAddress (address : String)
  deriving DecidableEq, Repr, Inhabited

namespace Problem

/-- The report. -/
def text : Problem → String
  | zeroDuration field => field ++ " must be greater than zero"
  | emptyOptionName => "manager option names must not be empty"
  | invalidOptionName name => "manager option '" ++ name ++ "' contains whitespace"
  | invalidMetricsAddress address => "invalid metrics address '" ++ address ++ "'"

/-- What is wrong with the name of an option. -/
def ofOptionName (name : String) : Option Problem :=
  if name.isEmpty then some emptyOptionName
  else if Blank.hasBlank name then some (invalidOptionName name)
  else none

end Problem

namespace Settings

/-- The durations with the names they are reported by. -/
def namedDurations (s : Settings) : List (String × Nat) :=
  [("device.poll_interval_ms", s.device.pollInterval),
    ("driver.activation_timeout_ms", s.driver.activationTimeout),
    ("driver.removal_timeout_ms", s.driver.removalTimeout),
    ("shutdown.grace_period_ms", s.shutdown.gracePeriod)]

/-- The address under which metrics are published, if they are and it can be read. -/
def metricsAddress? (s : Settings) : Option SocketAddress :=
  if s.observability.metricsEnabled then SocketAddress.parse? s.observability.metricsAddress
  else none

/-- Everything that is wrong: durations in their order, options in the order of their names,
the address. -/
def problems (s : Settings) : List Problem :=
  (s.namedDurations.filter (·.2 = 0)).map (fun (field, _) => .zeroDuration field) ++
  s.manager.options.entries.filterMap (fun (name, _) => Problem.ofOptionName name) ++
  if s.observability.metricsEnabled && (metricsAddress? s).isNone then
    [.invalidMetricsAddress s.observability.metricsAddress]
  else []

end Settings

end Hotplug
