import Hotplug.Chronicle.Line
import Hotplug.CommandLine.Arguments
import Hotplug.Session.Script
import Hotplug.Settings.Load
import Hotplug.Shutdown.Listener
import Hotplug.World.Schedule

/-!
# The program

A supervisor of a loopback device whose event loop logs every notification.

This file models the entry point of the program: settings from a file and the command line, the
logging, the metrics address, the signals, one supervised run, and the exit code.

* `Program.prepare` — the program for a command line, a file and the environment.
* `Program.launch` — the world in which it runs.
* `Program.log` — its log so far.
* `Program.signal` — a signal reaches it.
* `Program.exitCode?` — how it ends.
-/

namespace Hotplug

/-- The settings with what was asked for on the command line in their place. -/
def Arguments.apply (a : Arguments) (s : Settings) : Settings :=
  { s with
    device := { s.device with path := a.device.getD s.device.path }
    observability :=
      { s.observability with logLevel := a.logLevel.getD s.observability.logLevel } }

/-- A program that is about to run. -/
structure Program where
  settings : Settings
  filter : Filter

namespace Program

/-- The world of a program; its event loop takes notifications for as long as there are any. -/
abbrev Run := World (Script.loop [])

/-- The program for a command line.  `environment` is the filter that the environment asks
for, `file` what was found where the command line names a file. -/
def prepare (a : Arguments) (environment : Option String)
    (file : Option (Except FileFault (List UInt8))) : Except LoadFault Program := do
  let s := a.apply (← Settings.load file)
  return { settings := s, filter := Filter.choose environment s.observability.logLevel }

/-- The home id of the loopback library. -/
def homeId : UInt32 := 1

/-- The library that is supervised. -/
def library : Library where
  loopback := some homeId
  removing _ := Library.settling {}

/-- What is fixed about the run. -/
def setup (p : Program) : Setup where
  settings := p.settings
  library := library

/-- The world at the start of the run. -/
def launch (p : Program) (files : FileTree) : Run :=
  World.launch p.setup {} files 2

/-! ## The log -/

/-- What is logged about the address under which metrics are to be published. -/
def metricsReport (p : Program) : List Message :=
  if p.settings.observability.metricsEnabled then
    match SocketAddress.parse? p.settings.observability.metricsAddress with
    | some a => [.metricsListening a.text]
    | none => [.metricsUnreadable p.settings.observability.metricsAddress]
  else []

/-- What is logged before the run. -/
def opening (p : Program) : List Message :=
  [.starting,
    .configurationLoaded p.settings.deviceId p.settings.device.pollInterval
      p.settings.driver.removalTimeout p.settings.shutdown.gracePeriod] ++ p.metricsReport

/-- The message for something that happened, with the session it belongs to. -/
def report : Happening → Option (Message × Option SessionId)
  | .logged m session => some (m, session)
  | .stateChanged s before after => some (.stateChanged before after, some s)
  | .loopStarted s d => some (.eventLoopStarted s d, some s)
  | .loopReplied s (.event e) => some (.eventLoopTook e, some s)
  | .loopEnded s => some (.eventLoopFinished s, some s)
  | _ => none

/-- What is logged after a run that could not start. -/
def closing (w : Run) : List Message :=
  match w.outcome? with
  | some (.error r) => [.startFailed r.message]
  | _ => []

/-- The messages of a run so far, the first one first, with the sessions they belong to. -/
def messages (w : Run) : List (Message × Option SessionId) :=
  w.chronicle.happenings.reverse.filterMap fun (_, h) => report h

/-- The run with everything forgotten that happened so far. -/
def forget (w : Run) : Run :=
  w.write fun c => { c with happenings := [] }

/-- The lines for messages, as far as the filter shows them. -/
def lines (p : Program) (ms : List (Message × Option SessionId)) : List Line :=
  ms.filterMap fun (m, session) => Line.ofMessage? p.filter p.settings.deviceId m session

/-- The log of a run so far. -/
def log (p : Program) (w : Run) : List Line :=
  p.lines (p.opening.map (·, none) ++ messages w ++ (closing w).map (·, none))

/-- A line in the form that the settings ask for, without a time. -/
def untimed (p : Program) (l : Line) : String :=
  if p.settings.observability.jsonLogs then l.json else l.text

/-- A line in the form that the settings ask for. -/
def timed (p : Program) (time : String) (l : Line) : String :=
  if p.settings.observability.jsonLogs then l.timedJson time else l.timedText time

/-! ## Signals -/

/-- A signal of the operating system reaches the program. -/
def signal (w : Run) (s : Signal) : Run :=
  let (_, b, c) := w.coordinator.signals.forward w.chronicle s
  { w with coordinator := { w.coordinator with signals := b }, chronicle := c }

/-! ## The end -/

/-- The exit code of a command line that does not lead to a run. -/
def misuseCode : Nat := 2

/-- The exit code of a run that has ended. -/
def exitCode? (w : Run) : Option Nat :=
  w.outcome?.map fun outcome =>
    match outcome with
    | .ok t => t.status.code
    | .error _ => 1

/-- The report on settings that cannot be used. -/
def complaint (f : LoadFault) : String :=
  "driver-supervisor: " ++ f.message

end Program

end Hotplug
