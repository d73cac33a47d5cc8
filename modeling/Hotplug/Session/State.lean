/-!
# The states of a session

A session is one attachment of the driver to a present device.  It goes from inactive
through activating and running to its removal; it ends removed, or aborted if the removal
failed.

This file models the states of the session controller.
-/

namespace Hotplug

/-- The states of a session. -/
inductive SessionState where
  | inactive
  | activating
  | running
  | removalRequested
  | removing
  | removed
  | aborted
  deriving DecidableEq, Repr, Inhabited

namespace SessionState

/-- The name of a state. -/
def name : SessionState → String
  | inactive => "inactive"
  | activating => "activating"
  | running => "running"
  | removalRequested => "removal_requested"
  | removing => "removing"
  | removed => "removed"
  | aborted => "aborted"

end SessionState

/-- Sessions are counted from one. -/
abbrev SessionId := Nat

end Hotplug
