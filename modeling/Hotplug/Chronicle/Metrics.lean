import Hotplug.Notification.Text
import Hotplug.Shutdown.Termination

/-!
# Metrics

Counters and gauges that the parts of the program keep as they go.

This file models the metrics component: the counters of sessions, aborts and notifications, the
durations of sessions, and the gauge for the device.  The page on which an exporter publishes
them is left out.

* `Tally` — one count for each of any number of things.
* `Metrics` — the counters of a run.
* `Metrics.rows` — those that were ever touched, by the name they are published under.
-/

namespace Hotplug

/-! ## Counts of many things -/

/-- A count for each of a number of things; what is not listed was never counted. -/
abbrev Tally (α : Type) := List (α × Nat)

namespace Tally

variable {α : Type} [DecidableEq α]

/-- Counts a thing once more. -/
def bump (a : α) : Tally α → Tally α
  | [] => [(a, 1)]
  | (b, n) :: rest => if a = b then (b, n + 1) :: rest else (b, n) :: bump a rest

/-- How often a thing was counted. -/
def count (a : α) : Tally α → Nat
  | [] => 0
  | (b, n) :: rest => if a = b then n else count a rest

theorem count_bump (a b : α) (t : Tally α) :
    count b (bump a t) = count b t + if a = b then 1 else 0 := by
  induction t with
  | nil => grind [bump, count]
  | cons x t ih => grind [bump, count]

end Tally

/-! ## The metrics of a run -/

/-- The counters, the gauge and the samples of a run. -/
structure Metrics where
  sessionsStarted : Nat := 0
  sessionsRemoved : Nat := 0
  /-- How long each session lasted that was removed. -/
  durations : List Nat := []
  aborts : Tally Termination := []
  notifications : Tally String := []
  devicePresent : Option Bool := none
  deriving DecidableEq, Repr, Inhabited

namespace Metrics

/-- The published metrics that were ever touched. -/
def rows (m : Metrics) : List (String × Nat) :=
  (if m.sessionsStarted = 0 then []
    else [("supervisor_sessions_started_total", m.sessionsStarted)]) ++
  (if m.sessionsRemoved = 0 then []
    else [("supervisor_sessions_removed_total", m.sessionsRemoved)]) ++
  (if m.durations.isEmpty then []
    else [("supervisor_session_duration_seconds", m.durations.length)]) ++
  m.aborts.map (fun (t, n) =>
    ("supervisor_aborts_total\x7breason=" ++ t.name ++ "\x7d", n)) ++
  m.notifications.map (fun (label, n) =>
    ("supervisor_notifications_total\x7bkind=" ++ label ++ "\x7d", n)) ++
  match m.devicePresent with
  | none => []
  | some b => [("supervisor_device_present", if b then 1 else 0)]

end Metrics

end Hotplug
