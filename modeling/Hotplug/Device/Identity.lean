import Hotplug.Text.Utf8

/-!
# Device identity

A device is known by the path of its endpoint.  The path is fixed while a supervisor
runs, and a missing path stands for the default endpoint, so it is never empty.

This file models the identities of the device component.
-/

namespace Hotplug

/-- The path of a device's endpoint. -/
structure DeviceId where
  path : String
  deriving DecidableEq, Repr, Inhabited

namespace DeviceId

/-- The endpoint used when none is configured. -/
def fallback : DeviceId := ⟨"/dev/ttyUSB0"⟩

/-- The device at a path, the default endpoint for the empty path. -/
def ofPath (path : String) : DeviceId :=
  if path.isEmpty then fallback else ⟨path⟩

/-- The device at a path given as bytes; what is not UTF-8 in it becomes U+FFFD. -/
def ofBytes (bs : List UInt8) : DeviceId :=
  ofPath (Utf8.decodeLossy bs)

end DeviceId

end Hotplug
