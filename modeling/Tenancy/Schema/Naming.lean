import Tenancy.Text.Pieces

/-!
# Naming conventions

How a field name becomes a column name. Only ASCII letters take part in the change between words
with capitals and words with underscores; all other characters are kept.
-/

namespace Tenancy

/-- A rule that derives column names from field names. -/
inductive Naming where
  | identity
  | snake
  | camel
deriving DecidableEq, Repr

namespace Naming

def isCapital (c : Char) : Bool := 'A' ≤ c && c ≤ 'Z'

def isSmall (c : Char) : Bool := 'a' ≤ c && c ≤ 'z'

/-- A capital after `prev` and before `next` begins a word: after a small letter or a numeral,
and as the last capital of a run that a small letter follows. -/
def beginsWord (prev next : Option Char) : Bool :=
  match prev with
  | none => false
  | some p => isSmall p || Text.isDigit p || (isCapital p && next.any isSmall)

/-- The snake form of the characters after `prev`. -/
def snakeFrom (prev : Option Char) : List Char → List Char
  | [] => []
  | c :: rest =>
    if isCapital c then
      if beginsWord prev rest.head? then '_' :: c.toLower :: snakeFrom (some c) rest
      else c.toLower :: snakeFrom (some c) rest
    else c :: snakeFrom (some c) rest

/-- The camel form of the characters that are left. `started` tells that something was written
before them, `raise` that the next letter begins a word. -/
def camelFrom (started raise : Bool) : List Char → List Char
  | [] => []
  | c :: rest =>
    if c = '_' then camelFrom started started rest
    else (if raise then c.toUpper else c) :: camelFrom true false rest

/-- Words in small letters with underscores between them. -/
def toSnake (s : String) : String := String.ofList (snakeFrom none s.toList)

/-- Words that each begin with a capital, other than the first. -/
def toCamel (s : String) : String := String.ofList (camelFrom false false s.toList)

/-- The column name of a field. -/
def apply : Naming → String → String
  | .identity, field => field
  | .snake, field => toSnake field
  | .camel, field => toCamel field

end Naming

end Tenancy
