/-!
# Refusals to start

Why a device library does not give out a manager.

This file models the start errors of the manager component.
-/

namespace Hotplug

/-- Why a manager could not be started. -/
inductive Refusal where
  | start (reason : String)
  | invalidOption (name reason : String)
  deriving DecidableEq, Repr, Inhabited

namespace Refusal

/-- The text of a refusal. -/
def message : Refusal → String
  | start reason => "failed to start device manager: " ++ reason
  | invalidOption name reason => "option '" ++ name ++ "' rejected: " ++ reason

end Refusal

end Hotplug
