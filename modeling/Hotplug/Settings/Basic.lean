import Hotplug.Device.Identity
import Hotplug.Library.Options

/-!
# Settings

Everything that a user can configure, in five sections, with a default for every field.
All durations are in milliseconds.

This file models the schema of the configuration component, with its defaults.
-/

namespace Hotplug

/-- What to do when a library refuses to add a driver. -/
inductive ActivationPolicy where
  /-- Run the event loop anyway. -/
  | proceed
  /-- Leave the event loop out and wait for the device to go away. -/
  | skipCycle
  deriving DecidableEq, Repr, Inhabited

namespace ActivationPolicy

/-- The name of a policy. -/
def name : ActivationPolicy → String
  | proceed => "proceed"
  | skipCycle => "skip_cycle"

end ActivationPolicy

/-- The device and how often to look for it. -/
structure DeviceSettings where
  path : String := DeviceId.fallback.path
  pollInterval : Nat := 1000
  deriving DecidableEq, Repr, Inhabited

/-- The deadlines of the library's calls. -/
structure DriverSettings where
  activationTimeout : Nat := 5000
  removalTimeout : Nat := 5000
  onActivationFailure : ActivationPolicy := .proceed
  deriving DecidableEq, Repr, Inhabited

/-- How long a run may take to end. -/
structure ShutdownSettings where
  gracePeriod : Nat := 5000
  deriving DecidableEq, Repr, Inhabited

/-- What is handed to the device library. -/
structure ManagerSettings where
  configPath : String := "/usr/local/etc/openzwave"
  userPath : String := "."
  overrides : String := ""
  options : OptionTable := .empty
  deriving DecidableEq, Repr, Inhabited

/-- Logs and metrics. -/
structure ObservabilitySettings where
  logLevel : String := "info"
  jsonLogs : Bool := false
  metricsEnabled : Bool := false
  metricsAddress : String := "127.0.0.1:9090"
  deriving DecidableEq, Repr, Inhabited

/-- All settings. -/
structure Settings where
  device : DeviceSettings := {}
  driver : DriverSettings := {}
  shutdown : ShutdownSettings := {}
  manager : ManagerSettings := {}
  observability : ObservabilitySettings := {}
  deriving DecidableEq, Repr, Inhabited

namespace Settings

/-- The device that the settings name. -/
def deviceId (s : Settings) : DeviceId :=
  .ofPath s.device.path

/-- The options handed to the device library, set one after the other. -/
def managerOptions (s : Settings) : ManagerOptions :=
  s.manager.options.entries.foldl (fun o (name, value) => o.set name value)
    { configPath := s.manager.configPath
      userPath := s.manager.userPath
      overrides := s.manager.overrides }

/-- The four durations: poll interval, activation and removal timeout, grace period. -/
def durations (s : Settings) : List Nat :=
  [s.device.pollInterval, s.driver.activationTimeout, s.driver.removalTimeout,
    s.shutdown.gracePeriod]

end Settings

end Hotplug
