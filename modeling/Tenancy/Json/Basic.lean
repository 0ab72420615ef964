import Tenancy.Json.Number
import Tenancy.Text.Hex

/-!
# JSON values

The type of JSON values, their equality and their compact text. The fields of an object stand in
ascending order of their names; `Row` builds objects that way.
-/

namespace Tenancy

/-- A JSON value. -/
inductive Json where
  | null
  | bool (value : Bool)
  | number (value : Json.Number)
  | string (value : String)
  | array (items : List Json)
  | object (fields : List (String × Json))

namespace Json

def isNull : Json → Bool
  | .null => true
  | _ => false

def asString? : Json → Option String
  | .string s => some s
  | _ => none

/-- A number for every finite double, `null` for the others. -/
def ofDouble (x : Double) : Json := match Number.ofDouble? x with
  | some n => .number n
  | none => .null

def ofInt64 (i : Int64) : Json := .number (.ofInt64 i)

/-- A number for every natural number of 64 bits, `null` for greater ones. -/
def ofNat (n : Nat) : Json := match Number.ofInt? n with
  | some n => .number n
  | none => .null

/-! ## Equality -/

mutual

/-- Equality of JSON values; numbers are equal if kind and value are. -/
def same : Json → Json → Bool
  | .null, .null => true
  | .bool a, .bool b => a == b
  | .number a, .number b => a.same b
  | .string a, .string b => a == b
  | .array a, .array b => sameItems a b
  | .object a, .object b => sameFields a b
  | _, _ => false

def sameItems : List Json → List Json → Bool
  | [], [] => true
  | a :: as, b :: bs => a.same b && sameItems as bs
  | _, _ => false

def sameFields : List (String × Json) → List (String × Json) → Bool
  | [], [] => true
  | (j, a) :: as, (k, b) :: bs => j == k && a.same b && sameFields as bs
  | _, _ => false

end

/-! ## Compact text -/

/-- One character of a string; only quotes, backslashes and control characters are escaped. -/
def escapedChar (c : Char) : String :=
  if c = '"' then "\\\""
  else if c = '\\' then "\\\\"
  else if c = '\n' then "\\n"
  else if c = '\r' then "\\r"
  else if c = '\t' then "\\t"
  else if c.toNat = 8 then "\\b"
  else if c.toNat = 12 then "\\f"
  else if c.toNat < 32 then "\\u" ++ String.ofList (Text.hexDigits 4 c.toNat)
  else String.singleton c

def stringText (s : String) : String :=
  "\"" ++ String.join (s.toList.map escapedChar) ++ "\""

mutual

/-- The text without any blanks. -/
def text : Json → String
  | .null => "null"
  | .bool b => if b then "true" else "false"
  | .number n => n.text
  | .string s => stringText s
  | .array items => "[" ++ ",".intercalate (itemTexts items) ++ "]"
  | .object fields => "\x7b" ++ ",".intercalate (fieldTexts fields) ++ "\x7d"

def itemTexts : List Json → List String
  | [] => []
  | j :: rest => j.text :: itemTexts rest

def fieldTexts : List (String × Json) → List String
  | [] => []
  | (k, j) :: rest => (stringText k ++ ":" ++ j.text) :: fieldTexts rest

end

end Json

end Tenancy
