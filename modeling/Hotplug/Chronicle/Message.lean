import Hotplug.Device.FileTree
import Hotplug.Device.Identity
import Hotplug.Library.Options
import Hotplug.Notification.Text
import Hotplug.Session.Quit
import Hotplug.Session.State
import Hotplug.Shutdown.Signal
import Hotplug.Shutdown.Termination

/-!
# Log messages

Everything that is worth a line in the log, as data.

This file models the log calls of the whole supervisor, of which every component makes its own.

* `Message` — what is reported.
* `Message.entry` — its level, its words and its fields.
* `Message.line` — the level, the words and the fields in one line.
* `Message.target` — the part of the program that reports it.
-/

namespace Hotplug

/-! ## Entries -/

/-- How important a message is, the most important level first. -/
inductive Level where
  | error
  | warn
  | info
  | debug
  | trace
  deriving DecidableEq, Repr, Inhabited

namespace Level

/-- Every level, the most important one first. -/
def all : List Level := [error, warn, info, debug, trace]

/-- The name of a level. -/
def name : Level → String
  | error => "ERROR"
  | warn => "WARN"
  | info => "INFO"
  | debug => "DEBUG"
  | trace => "TRACE"

/-- The place of a level, the most important one being first. -/
def rank : Level → Nat
  | error => 1
  | warn => 2
  | info => 3
  | debug => 4
  | trace => 5

end Level

/-- The value of a field. -/
inductive FieldValue where
  /-- Text that is shown as it is. -/
  | shown (s : String)
  /-- Text that a log file quotes. -/
  | quoted (s : String)
  | number (n : Nat)
  deriving DecidableEq, Repr, Inhabited

namespace FieldValue

/-- The text of a value. -/
def text : FieldValue → String
  | shown s => s
  | quoted s => s
  | number n => Numeral.decimal n

end FieldValue

/-- A message taken apart. -/
structure Entry where
  level : Level
  words : String
  fields : List (String × FieldValue) := []
  deriving DecidableEq, Repr, Inhabited

/-- The name under which a session is known. -/
def SessionId.name (n : SessionId) : String :=
  "session-" ++ Numeral.decimal n

/-! ## Messages -/

/-- What is reported in the log. -/
inductive Message where
  | managerStarted (device : DeviceId) (options : Nat)
  | waitingForDevice (device : DeviceId)
  | deviceAvailable (session : SessionId)
  | stoppingManager
  | stopPanicked (reason : String)
  | loopPanicked (reason : String)
  | finished (t : Termination)
  | aborted (t : Termination)
  | signalReceived (s : Signal)
  | secondSignal (s : Signal)
  | signalCoalesced (s : Signal)
  | timerCancelled (t : Termination)
  | timerFired (t : Termination) (deadline : Nat)
  | terminationIgnored (t : Termination)
  | checkFailed (device : DeviceId) (fault : FileFault)
  | activationFailedProceeding
  | activationFailedSkipping
  | addPanicked (reason : String)
  | removalFailed
  | removalPanicked (reason : String)
  | deviceRemoved (device : DeviceId)
  | quitRequested (r : QuitReason)
  | stateChanged (before after : SessionState)
  | staleDiscarded (e : Event)
  | leftoversReleased (count : Nat)
  | sessionEnded (elapsed : Nat)
  | notificationDropped (k : EventKind)
  | optionApplied (name : String) (value : OptionValue)
  | loopbackStarted (options : ManagerOptions)
  | loopbackAdded (device : DeviceId)
  | loopbackRemoved (device : DeviceId)
  | loopbackStopped (outstanding : Int)
  | starting
  | configurationLoaded (device : DeviceId) (poll removal grace : Nat)
  | metricsListening (address : String)
  | metricsUnreadable (address : String)
  | eventLoopStarted (session : SessionId) (device : DeviceId)
  | eventLoopTook (e : Event)
  | eventLoopFinished (session : SessionId)
  | startFailed (reason : String)
  deriving DecidableEq, Repr, Inhabited

namespace Message

/-- How a panic in a task is described. -/
def panicText (reason : String) : String :=
  "task N panicked with message \"" ++ reason ++ "\""

/-- The level, the words and the fields of a message. -/
def entry : Message → Entry
  | managerStarted d n =>
    ⟨.info, "Device manager started", [("device", .shown d.path), ("options", .number n)]⟩
  | waitingForDevice d => ⟨.info, "Waiting until device is available", [("device", .shown d.path)]⟩
  | deviceAvailable s =>
    ⟨.info, "Device available, starting session", [("session", .shown s.name)]⟩
  | stoppingManager => ⟨.info, "Stopping device manager", []⟩
  | stopPanicked r =>
    ⟨.error, "Device manager stop panicked", [("error", .shown (panicText r))]⟩
  | loopPanicked r => ⟨.error, "Supervision loop panicked", [("error", .shown (panicText r))]⟩
  | finished t => ⟨.info, "Supervisor finished", [("termination", .shown t.name)]⟩
  | aborted t =>
    ⟨.warn, "Supervisor aborted",
      [("termination", .shown t.name), ("exit_code", .number t.status.code)]⟩
  | signalReceived s =>
    ⟨.info, "Received signal, commencing shutdown", [("signal", .shown s.name)]⟩
  | secondSignal s =>
    ⟨.warn, "Received second signal, aborting now", [("signal", .shown s.name)]⟩
  | signalCoalesced s => ⟨.debug, "Signal coalesced", [("signal", .shown s.name)]⟩
  | timerCancelled t => ⟨.trace, "Abort timer cancelled", [("termination", .shown t.name)]⟩
  | timerFired t d =>
    ⟨.error, "Abort timer fired", [("termination", .shown t.name), ("deadline_ms", .number d)]⟩
  | terminationIgnored t =>
    ⟨.debug, "Termination requested after coordinator finished",
      [("termination", .shown t.name)]⟩
  | checkFailed d f =>
    ⟨.debug, "Presence check failed, treating device as present",
      [("device", .shown d.path), ("error", .shown f.message)]⟩
  | activationFailedProceeding =>
    ⟨.warn, "Driver activation failed, running event loop anyway", []⟩
  | activationFailedSkipping =>
    ⟨.warn, "Driver activation failed, skipping cycle until device is removed", []⟩
  | addPanicked r =>
    ⟨.error, "Add-driver call panicked, waiting for abort", [("error", .shown (panicText r))]⟩
  | removalFailed => ⟨.error, "Driver removal failed, waiting for abort", []⟩
  | removalPanicked r =>
    ⟨.error, "Remove-driver call panicked, waiting for abort", [("error", .shown (panicText r))]⟩
  | deviceRemoved d => ⟨.info, "Device removed", [("device", .shown d.path)]⟩
  | quitRequested r => ⟨.info, "Quit requested", [("reason", .shown r.text)]⟩
  | stateChanged a b =>
    ⟨.debug, "Session state changed", [("from", .shown a.name), ("to", .shown b.name)]⟩
  | staleDiscarded e =>
    ⟨.trace, "Discarding stale notification", [("notification", .shown e.text)]⟩
  | leftoversReleased n =>
    ⟨.debug, "Released notifications left by the event loop", [("discarded", .number n)]⟩
  | sessionEnded ms => ⟨.info, "Session ended", [("elapsed_ms", .number ms)]⟩
  | notificationDropped k =>
    ⟨.debug, "Notification dropped, no consumer", [("kind", .shown k.text)]⟩
  | optionApplied n v =>
    ⟨.debug, "Applying manager option", [("option", .quoted n), ("value", .shown v.text)]⟩
  | loopbackStarted o =>
    ⟨.info, "Loopback manager started",
      [("config_path", .shown o.configPath), ("user_path", .shown o.userPath),
        ("options", .number o.size)]⟩
  | loopbackAdded d => ⟨.debug, "Loopback driver added", [("device", .shown d.path)]⟩
  | loopbackRemoved d => ⟨.debug, "Loopback driver removed", [("device", .shown d.path)]⟩
  | loopbackStopped n =>
    ⟨.info, "Loopback manager stopped", [("outstanding", .number n.toNat)]⟩
  | starting => ⟨.info, "driver-supervisor v0.1.0 starting", []⟩
  | configurationLoaded d poll removal grace =>
    ⟨.info, "Configuration loaded",
      [("device", .shown d.path), ("poll_interval_ms", .number poll),
        ("removal_timeout_ms", .number removal), ("grace_period_ms", .number grace)]⟩
  | metricsListening a => ⟨.info, "Metrics exporter listening", [("address", .shown a)]⟩
  | metricsUnreadable a =>
    ⟨.error, "Failed to parse metrics address", [("metrics_address", .shown a)]⟩
  | eventLoopStarted s d =>
    ⟨.info, "Event loop started", [("session", .shown s.name), ("device", .shown d.path)]⟩
  | eventLoopTook e => ⟨.info, "Notification", [("notification", .shown e.text)]⟩
  | eventLoopFinished s => ⟨.info, "Event loop finished", [("session", .shown s.name)]⟩
  | startFailed r => ⟨.error, "Supervisor failed to start", [("error", .shown r)]⟩

/-- The level of a message. -/
def level (m : Message) : Level :=
  m.entry.level

/-- The words and fields of a message in one line. -/
def body (m : Message) : String :=
  m.entry.fields.foldl (fun s (key, v) => s ++ " " ++ key ++ "=" ++ v.text) m.entry.words

/-- A message in one line, its level first. -/
def line (m : Message) : String :=
  m.level.name ++ " " ++ m.body

/-- The part of the program that reports a message. -/
def target : Message → String
  | managerStarted .. | waitingForDevice .. | deviceAvailable .. | stoppingManager
  | stopPanicked .. | loopPanicked .. | finished .. | aborted .. =>
    "driver_supervisor::supervisor"
  | signalReceived .. | secondSignal .. | terminationIgnored .. =>
    "driver_supervisor::lifecycle::shutdown"
  | signalCoalesced .. => "driver_supervisor::lifecycle::signals"
  | timerCancelled .. | timerFired .. => "driver_supervisor::lifecycle::abort"
  | checkFailed .. => "driver_supervisor::device::presence"
  | activationFailedProceeding | activationFailedSkipping | addPanicked .. | removalFailed
  | removalPanicked .. | deviceRemoved .. | quitRequested .. | stateChanged ..
  | staleDiscarded .. | leftoversReleased .. | sessionEnded .. =>
    "driver_supervisor::session::controller"
  | notificationDropped .. => "driver_supervisor::manager::notification"
  | optionApplied .. | loopbackStarted .. | loopbackAdded .. | loopbackRemoved ..
  | loopbackStopped .. => "driver_supervisor::manager::loopback"
  | metricsListening .. => "driver_supervisor::observability::metrics"
  | starting | configurationLoaded .. | metricsUnreadable .. | eventLoopStarted ..
  | eventLoopTook .. | eventLoopFinished .. | startFailed .. => "driver_supervisor"

end Message

end Hotplug
