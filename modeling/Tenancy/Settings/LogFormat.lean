import Tenancy.Text.Blank

/-!
# Format of the log
-/

namespace Tenancy

/-- How the log is written: one JSON object a line, or for a human reader. -/
inductive LogFormat where
  | json
  | pretty
deriving DecidableEq, Repr

namespace LogFormat

/-- The format that a setting asks for, in capital or small letters and with blanks around it.
Without the setting and for an unknown one the log is JSON. -/
def ofSetting : Option String → LogFormat
  | none => .json
  | some s =>
    if ["pretty", "text", "human"].contains (Text.trim s).toLower then .pretty else .json

end LogFormat

end Tenancy
