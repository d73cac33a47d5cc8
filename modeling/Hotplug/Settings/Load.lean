import Hotplug.Device.FileTree
import Hotplug.Settings.Schema
import Hotplug.Settings.Validation
import Hotplug.Text.Utf8
import Hotplug.Toml.Document

/-!
# Loading settings

From the text or the bytes of a file to settings that can be worked with.

This file models the loader of the configuration component.  Reports on the syntax of a
document are left out but for the fact that there is one.

* `Settings.checked` — settings without problems.
* `Settings.ofText`, `Settings.ofBytes` — the settings of a document.
* `Settings.load` — those of a file if one is named, and the defaults otherwise.
-/

namespace Hotplug

/-- Why there are no settings. -/
inductive LoadFault where
  /-- The file could not be opened or read. -/
  | unreadable (f : FileFault)
  /-- The file is not text. -/
  | notText
  /-- The text is not a document. -/
  | malformed
  /-- The document does not describe settings. -/
  | misfit (m : Misfit)
  /-- The settings cannot be worked with. -/
  | invalid (problems : List Problem)
  deriving Repr, Inhabited

namespace LoadFault

/-- The report, as far as this library words it: it does not say where a text stops being
a document. -/
def message : LoadFault → String
  | unreadable f => "IO error: " ++ f.message
  | notText => "IO error: stream did not contain valid UTF-8"
  | malformed => "Parse error"
  | misfit m => "Parse error: " ++ m.text
  | invalid ps => "Validation failed: " ++ ", ".intercalate (ps.map (·.text))

end LoadFault

namespace Settings

/-- The same settings, if nothing is wrong with them. -/
def checked (s : Settings) : Except LoadFault Settings :=
  if s.problems.isEmpty then .ok s else .error (.invalid s.problems)

/-- The settings that a table describes. -/
def ofEntries (entries : List (String × Toml.Value)) : Except LoadFault Settings :=
  match ofTable entries with
  | .ok s => checked s
  | .error m => .error (.misfit m)

/-- The settings that a text describes. -/
def ofText (text : String) : Except LoadFault Settings :=
  match Toml.Document.parse? text with
  | some entries => ofEntries entries
  | none => .error .malformed

/-- The settings that the bytes of a file describe. -/
def ofBytes (bytes : List UInt8) : Except LoadFault Settings :=
  match Utf8.decode? bytes with
  | some text => ofText text
  | none => .error .notText

/-- The settings of a file, and the defaults where none is named. -/
def load (file : Option (Except FileFault (List UInt8))) : Except LoadFault Settings :=
  match file with
  | none => checked {}
  | some (.ok bytes) => ofBytes bytes
  | some (.error f) => .error (.unreadable f)

end Settings

end Hotplug
