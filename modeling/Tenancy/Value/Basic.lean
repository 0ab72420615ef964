import Tenancy.Json.Basic
import Tenancy.Time.Rfc3339
import Tenancy.Uuid

/-!
# Typed values

A `Value` is what filters compare with and patches assign. Each has a JSON form; of the JSON
forms only scalars other than identifiers and instants are read back as typed values.
-/

namespace Tenancy

/-- A typed scalar, or a JSON value as it is. -/
inductive Value where
  | null
  | bool (value : Bool)
  | int (value : Int64)
  | float (value : Double)
  | text (value : String)
  | uuid (value : Uuid)
  | timestamp (value : Instant)
  | json (value : Json)

namespace Value

def isNull : Value → Bool
  | .null => true
  | _ => false

/-- Equality of values of one kind; as in arithmetic, `nan` differs from itself and the two zeros
are equal. -/
def same : Value → Value → Bool
  | .null, .null => true
  | .bool a, .bool b => a == b
  | .int a, .int b => a == b
  | .float a, .float b => a.same b
  | .text a, .text b => a == b
  | .uuid a, .uuid b => a == b
  | .timestamp a, .timestamp b => a == b
  | .json a, .json b => a.same b
  | _, _ => false

def ofTenant (t : TenantId) : Value := .uuid t.uuid

/-- A natural number; one that does not fit wraps around. -/
def ofNat (n : Nat) : Value := .int (Int64.ofNat n)

/-! ## JSON form -/

/-- The JSON form; identifiers and instants become text, and floats without a JSON number become
`null`. -/
def toJson : Value → Json
  | .null => .null
  | .bool b => .bool b
  | .int i => Json.ofInt64 i
  | .float x => Json.ofDouble x
  | .text s => .string s
  | .uuid u => .string u.text
  | .timestamp t => .string (Rfc3339.text t)
  | .json j => j

/-- The value of a JSON scalar; text stays text. Integers beyond the signed 64-bit range become
floats. -/
def ofJson : Json → Value
  | .null => .null
  | .bool b => .bool b
  | .number n => match n.asInt64? with
    | some i => .int i
    | none => .float n.toDouble
  | .string s => .text s
  | other => .json other

/-! ## Text -/

/-- The text for messages: text as it is, `NULL`, and all else as JSON. -/
def display : Value → String
  | .null => "NULL"
  | .text s => s
  | other => other.toJson.text

end Value

end Tenancy
