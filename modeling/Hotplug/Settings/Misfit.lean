import Hotplug.Settings.Basic
import Hotplug.Text.Quoted
import Hotplug.Toml.Value

/-!
# Misfits

Why a value of a document does not fit the setting it is given for.

This file models the reports of the configuration component on values of the wrong type.

* `Misfit` — the reasons.
* `Misfit.text` — how a reason is reported.
-/

namespace Hotplug

/-- What a setting takes. -/
inductive Shape where
  | text
  /-- A whole number that is not negative. -/
  | count
  | truth
  | options
  /-- The fields of the section with this name. -/
  | record (name : String)
  deriving DecidableEq, Repr, Inhabited

namespace Shape

/-- The name of a shape. -/
def name : Shape → String
  | text => "a string"
  | count => "u64"
  | truth => "a boolean"
  | options => "a map"
  | record n => "struct " ++ n

end Shape

/-- Why a value does not fit. -/
inductive Misfit where
  | unexpected (found : Toml.Value) (wanted : Shape)
  | negative (n : Int)
  /-- An option that is neither an integer of 64 bits nor a truth value. -/
  | optionValue
  | unknownPolicy (name : String)
  /-- A policy that is neither text nor a table. -/
  | policyShape
  | noPolicy
  | severalPolicies
  /-- The name of a policy with something behind it. -/
  | policyContent (found : Toml.Value)
  deriving Repr, Inhabited

namespace Misfit

/-- A value as it is shown in a report. -/
def shown : Toml.Value → String
  | .string s => "string " ++ Quoted.quote s
  | .integer n => "integer `" ++ Numeral.signed n ++ "`"
  | .float x => "floating point `" ++ x.text ++ "`"
  | .boolean true => "boolean `true`"
  | .boolean false => "boolean `false`"
  | .array _ | .tables _ => "sequence"
  | .moment | .table _ => "map"

/-- The report. -/
def text : Misfit → String
  | unexpected found wanted => "invalid type: " ++ shown found ++ ", expected " ++ wanted.name
  | negative n =>
    "invalid value: integer `" ++ Numeral.signed n ++ "`, expected " ++ Shape.count.name
  | optionValue => "data did not match any variant of untagged enum OptionValue"
  | unknownPolicy name =>
    "unknown variant `" ++ name ++ "`, expected `" ++ ActivationPolicy.proceed.name ++ "` or `" ++
      ActivationPolicy.skipCycle.name ++ "`"
  | policyShape => "wanted string or table"
  | noPolicy => "wanted exactly 1 element, found 0 elements"
  | severalPolicies => "wanted exactly 1 element, more than 1 element"
  | policyContent (.tables _) => "expected empty array"
  | policyContent (.array _) | policyContent (.table _) => "expected empty table"
  | policyContent found => "expected table, found " ++ found.kind

end Misfit

end Hotplug
