import Tenancy.Value.Basic
import Tenancy.Text.Quoted

/-!
# Values in descriptions

The text of a value inside the description of a condition: the kind of the value with its content
in parentheses, text quoted.
-/

namespace Tenancy

/-- Floats in descriptions have an exponent when they are below `10 ^ -4` or not below `10 ^ 16`.
Of two equally near decimals the greater one is written. -/
def descriptionLayout : DecimalLayout := ⟨-4, 16, "", true⟩

namespace Json

mutual

/-- A JSON value with the kind of every part. -/
def describe : Json → String
  | .null => "Null"
  | .bool b => "Bool(" ++ toString b ++ ")"
  | .number n => "Number(" ++ n.text ++ ")"
  | .string s => "String(" ++ Text.quoted s ++ ")"
  | .array items => "Array [" ++ ", ".intercalate (describeItems items) ++ "]"
  | .object fields => "Object \x7b" ++ ", ".intercalate (describeFields fields) ++ "\x7d"

def describeItems : List Json → List String
  | [] => []
  | j :: rest => j.describe :: describeItems rest

def describeFields : List (String × Json) → List String
  | [] => []
  | (k, j) :: rest => (Text.quoted k ++ ": " ++ j.describe) :: describeFields rest

end

end Json

namespace Value

def describe : Value → String
  | .null => "Null"
  | .bool b => "Bool(" ++ toString b ++ ")"
  | .int i => "Int(" ++ toString i.toInt ++ ")"
  | .float x => "Float(" ++ descriptionLayout.text x ++ ")"
  | .text s => "Text(" ++ Text.quoted s ++ ")"
  | .uuid u => "Uuid(" ++ u.text ++ ")"
  | .timestamp t => "Timestamp(" ++ Rfc3339.text t ++ ")"
  | .json j => "Json(" ++ j.describe ++ ")"

end Value

end Tenancy
