/-!
# How a run ends

A run ends with one `Termination`.  Only a completed one is graceful; all others are
forced and tell the caller to leave with a failure code.

This file models the terminations and exit statuses of the lifecycle component.
-/

namespace Hotplug

/-- The two ways in which a process ends. -/
inductive ExitStatus where
  | graceful
  | forced
  deriving DecidableEq, Repr, Inhabited

namespace ExitStatus

/-- The exit code of the process. -/
def code : ExitStatus → Nat
  | graceful => 0
  | forced => 1

/-- The word for a status. -/
def name : ExitStatus → String
  | graceful => "graceful"
  | forced => "forced"

end ExitStatus

/-- Why a run ended. -/
inductive Termination where
  /-- Stop was asked for and every session was removed cleanly. -/
  | completed
  /-- A second signal came while the run was ending. -/
  | repeatedSignal
  /-- The run did not end within the grace period. -/
  | shutdownTimeout
  /-- The removal of a driver, or its event loop, missed the deadline or failed. -/
  | driverRemovalTimeout
  /-- Adding a driver missed its deadline. -/
  | driverActivationTimeout
  /-- The supervision loop panicked. -/
  | supervisorPanicked
  deriving DecidableEq, Repr, Inhabited

namespace Termination

/-- Every termination. -/
def all : List Termination :=
  [completed, repeatedSignal, shutdownTimeout, driverRemovalTimeout, driverActivationTimeout,
    supervisorPanicked]

theorem mem_all (t : Termination) : t ∈ all := by
  cases t <;> decide

/-- The exit status that a termination stands for. -/
def status : Termination → ExitStatus
  | completed => .graceful
  | _ => .forced

/-- The name of a termination. -/
def name : Termination → String
  | completed => "completed"
  | repeatedSignal => "repeated_signal"
  | shutdownTimeout => "shutdown_timeout"
  | driverRemovalTimeout => "driver_removal_timeout"
  | driverActivationTimeout => "driver_activation_timeout"
  | supervisorPanicked => "supervisor_panicked"

/-- The termination of a name. -/
def ofName? (s : String) : Option Termination :=
  all.find? (·.name = s)

theorem ofName?_name (t : Termination) : ofName? t.name = some t := by
  cases t <;> rfl

end Termination

end Hotplug
