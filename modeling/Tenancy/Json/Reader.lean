import Tenancy.Row
import Tenancy.Text.Pieces

/-!
# Reading JSON text

A reader of JSON text. Integers that fit 64 bits, signed or unsigned, become integer numbers and
all other numbers floats. Of two fields of one name the later one counts.
-/

namespace Tenancy.Json

open Text (isDigit digitsValue)

/-- The blanks of JSON. -/
def skipBlanks : List Char → List Char
  | c :: rest => if c = ' ' ∨ c = '\n' ∨ c = '\r' ∨ c = '\t' then skipBlanks rest else c :: rest
  | [] => []

/-! ## Strings -/

/-- The character of a simple escape. -/
def unescape? (c : Char) : Option Char :=
  if c = '"' ∨ c = '\\' ∨ c = '/' then some c
  else if c = 'n' then some '\n'
  else if c = 'r' then some '\r'
  else if c = 't' then some '\t'
  else if c = 'b' then some (Char.ofNat 8)
  else if c = 'f' then some (Char.ofNat 12)
  else none

/-- A code point; none for surrogates. -/
def scalar? (n : Nat) : Option Char := if h : n.isValidChar then some (Char.ofNatAux n h) else none

/-- Reads the rest of a string up to its closing quote. The characters read so far stand in
reverse order; two escaped surrogates name one character. -/
def readString (read : List Char) : List Char → Option (String × List Char)
  | '"' :: rest => some (String.ofList read.reverse, rest)
  | '\\' :: 'u' :: a :: b :: c :: d :: '\\' :: 'u' :: e :: f :: g :: h :: rest => do
    let high ← Text.readHex? [a, b, c, d]
    if 0xd800 ≤ high ∧ high < 0xdc00 then
      let low ← Text.readHex? [e, f, g, h]
      if 0xdc00 ≤ low ∧ low < 0xe000 then
        let char ← scalar? (0x10000 + (high - 0xd800) * 0x400 + (low - 0xdc00))
        readString (char :: read) rest
      else none
    else
      let char ← scalar? high
      readString (char :: read) ('\\' :: 'u' :: e :: f :: g :: h :: rest)
  | '\\' :: 'u' :: a :: b :: c :: d :: rest => do
    let char ← scalar? (← Text.readHex? [a, b, c, d])
    readString (char :: read) rest
  | '\\' :: c :: rest => do readString ((← unescape? c) :: read) rest
  | c :: rest => if c.toNat < 32 then none else readString (c :: read) rest
  | [] => none
termination_by cs => cs.length

/-! ## Numbers -/

/-- The exponent part of a number, if there is one. -/
def readExponent (cs : List Char) : Option (Option Int × List Char) :=
  match cs with
  | c :: rest =>
    if c = 'e' ∨ c = 'E' then
      let (negative, rest) := match rest with
        | '-' :: rest => (true, rest)
        | '+' :: rest => (false, rest)
        | _ => (false, rest)
      let digits := rest.takeWhile isDigit
      if digits.isEmpty then none
      else
        let value : Int := digitsValue digits
        some (some (if negative then -value else value), rest.dropWhile isDigit)
    else some (none, cs)
  | [] => some (none, cs)

/-- Reads a number; text with a point or an exponent is a float, and so is an integer that does
not fit and the negative zero. -/
def readNumber (cs : List Char) : Option (Number × List Char) := do
  let (negative, cs) := match cs with
    | '-' :: rest => (true, rest)
    | _ => (false, cs)
  let whole := cs.takeWhile isDigit
  if whole.isEmpty || (whole.head? == some '0' && 1 < whole.length) then none
  let cs := cs.dropWhile isDigit
  let (fraction, cs) ← match cs with
    | '.' :: rest =>
      let digits := rest.takeWhile isDigit
      if digits.isEmpty then none else some (some digits, rest.dropWhile isDigit)
    | _ => some (none, cs)
  let (exponent, cs) ← readExponent cs
  let value := digitsValue whole
  let float := Number.ofDouble?
    (Double.ofDecimal negative (digitsValue (whole ++ fraction.getD []))
      (exponent.getD 0 - (fraction.getD []).length))
  match fraction, exponent with
  | none, none =>
    if negative && value == 0 then float.map (·, cs)
    else match Number.ofInt? (if negative then -(value : Int) else value) with
      | some n => some (n, cs)
      | none => float.map (·, cs)
  | _, _ => float.map (·, cs)

/-! ## Values -/

mutual

/-- Reads a value; every step down into an array or object uses one unit of fuel. -/
def readValue : Nat → List Char → Option (Json × List Char)
  | 0, _ => none
  | fuel + 1, cs =>
    match skipBlanks cs with
    | 'n' :: 'u' :: 'l' :: 'l' :: rest => some (.null, rest)
    | 't' :: 'r' :: 'u' :: 'e' :: rest => some (.bool true, rest)
    | 'f' :: 'a' :: 'l' :: 's' :: 'e' :: rest => some (.bool false, rest)
    | '"' :: rest => (readString [] rest).map fun (s, rest) => (.string s, rest)
    | '[' :: rest =>
      match skipBlanks rest with
      | ']' :: rest => some (.array [], rest)
      | rest => (readItems fuel rest).map fun (items, rest) => (.array items, rest)
    | '{' :: rest =>
      match skipBlanks rest with
      | '}' :: rest => some (.object [], rest)
      | rest => (readFields fuel rest).map fun (fields, rest) =>
          (.object (Row.ofEntries fields).entries, rest)
    | cs => (readNumber cs).map fun (n, rest) => (.number n, rest)

/-- Reads the items of an array that is not empty, up to its closing bracket. -/
def readItems : Nat → List Char → Option (List Json × List Char)
  | 0, _ => none
  | fuel + 1, cs => do
    let (item, rest) ← readValue fuel cs
    match skipBlanks rest with
    | ']' :: rest => some ([item], rest)
    | ',' :: rest =>
      let (items, rest) ← readItems fuel rest
      some (item :: items, rest)
    | _ => none

/-- Reads the fields of an object that is not empty, up to its closing brace. -/
def readFields : Nat → List Char → Option (List (String × Json) × List Char)
  | 0, _ => none
  | fuel + 1, cs =>
    match skipBlanks cs with
    | '"' :: rest => do
      let (name, rest) ← readString [] rest
      match skipBlanks rest with
      | ':' :: rest =>
        let (value, rest) ← readValue fuel rest
        match skipBlanks rest with
        | '}' :: rest => some ([(name, value)], rest)
        | ',' :: rest =>
          let (fields, rest) ← readFields fuel rest
          some ((name, value) :: fields, rest)
        | _ => none
      | _ => none
    | _ => none

end

/-- The value that the whole text writes. -/
def ofText? (s : String) : Option Json := do
  let cs := s.toList
  let (value, rest) ← readValue (cs.length + 1) cs
  if (skipBlanks rest).isEmpty then some value else none

end Tenancy.Json
