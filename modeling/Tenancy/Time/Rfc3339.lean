import Tenancy.Time.Instant

/-!
# Internet timestamps

Reading and writing of instants as RFC 3339 text. Text is read with any offset below a day and
written in UTC with the fewest fraction digits, in groups of three, that lose nothing.
-/

namespace Tenancy.Rfc3339

/-! ## Writing -/

/-- The last `width` decimal digits of a number. -/
def digits : Nat → Nat → List Char
  | 0, _ => []
  | width + 1, n => digits width (n / 10) ++ [Char.ofNat (48 + n % 10)]

/-- Years of four digits stand alone; all others carry a sign. -/
def yearChars (year : Int) : List Char :=
  if 0 ≤ year ∧ year ≤ 9999 then digits 4 year.toNat
  else
    let sign := if year < 0 then '-' else '+'
    sign :: if year.natAbs ≤ 9999 then digits 4 year.natAbs else year.natAbs.repr.toList

/-- The fraction of a second in 0, 3, 6 or 9 digits. -/
def fractionChars (nano : Nat) : List Char :=
  if nano = 0 then []
  else if nano % 1000000 = 0 then '.' :: digits 3 (nano / 1000000)
  else if nano % 1000 = 0 then '.' :: digits 6 (nano / 1000)
  else '.' :: digits 9 nano

def toChars (t : Instant) : List Char :=
  let date := Date.ofDayNumber (t.second / 86400)
  let inDay := (t.second % 86400).toNat
  let second := inDay % 60 + t.nano / nanosPerSecond
  yearChars date.year ++ '-' :: digits 2 date.month ++ '-' :: digits 2 date.day ++
    'T' :: digits 2 (inDay / 3600) ++ ':' :: digits 2 (inDay / 60 % 60) ++
    ':' :: digits 2 second ++ fractionChars (t.nano % nanosPerSecond) ++ ['Z']

def text (t : Instant) : String := String.ofList (toChars t)

/-! ## Reading -/

def digitValue? (c : Char) : Option Nat :=
  if 48 ≤ c.toNat ∧ c.toNat ≤ 57 then some (c.toNat - 48) else none

/-- Reads exactly `width` digits onto a number that has been read already. -/
def readDigitsFrom (read : Nat) : Nat → List Char → Option (Nat × List Char)
  | 0, cs => some (read, cs)
  | _ + 1, [] => none
  | width + 1, c :: cs => do readDigitsFrom (10 * read + (← digitValue? c)) width cs

/-- Reads exactly `width` digits. -/
def readDigits (width : Nat) (cs : List Char) : Option (Nat × List Char) :=
  readDigitsFrom 0 width cs

def expect (c : Char) : List Char → Option (List Char)
  | d :: cs => if d = c then some cs else none
  | [] => none

/-- A number of exactly two digits between two bounds. -/
def readField (least greatest : Nat) (cs : List Char) : Option (Nat × List Char) := do
  let (n, rest) ← readDigits 2 cs
  if least ≤ n ∧ n ≤ greatest then some (n, rest) else none

def isDigit (c : Char) : Bool := (digitValue? c).isSome

/-- A fraction after its point: at least one digit, of which the first nine count. -/
def readFraction (cs : List Char) : Option (Nat × List Char) := do
  let run := cs.takeWhile isDigit
  if run.isEmpty then none
  let (nano, _) ← readDigits 9 ((run ++ List.replicate 9 '0').take 9)
  some (nano, cs.dropWhile isDigit)

/-- The offset from UTC in minutes: `Z`, or a sign, hours below 24, and minutes. -/
def readOffset (cs : List Char) : Option (Int × List Char) := do
  match cs with
  | [] => none
  | c :: rest =>
    if c = 'Z' ∨ c = 'z' then some (0, rest)
    else
      let negative ←
        if c = '+' then some false else if c = '-' ∨ c.toNat = 0x2212 then some true else none
      let (hours, rest) ← readField 0 23 rest
      let rest ← expect ':' rest
      let (minutes, rest) ← readField 0 59 rest
      let offset : Int := 60 * hours + minutes
      some (if negative then -offset else offset, rest)

def isSeparator (c : Char) : Bool := c == 'T' || c == 't' || c == ' '

/-- A full date. -/
def readDate (cs : List Char) : Option (Date × List Char) := do
  let (year, cs) ← readDigits 4 cs
  let (month, cs) ← readField 1 12 (← expect '-' cs)
  let (day, cs) ← readField 1 31 (← expect '-' cs)
  let date : Date := ⟨year, month, day⟩
  if date.isValid then some (date, cs) else none

/-- Seconds of a day and nanoseconds; second 60 is a leap second. -/
def readTime (cs : List Char) : Option (Nat × Nat × List Char) := do
  let (hour, cs) ← readField 0 23 cs
  let (minute, cs) ← readField 0 59 (← expect ':' cs)
  let (second, cs) ← readField 0 60 (← expect ':' cs)
  let (nano, cs) ← match cs with
    | '.' :: rest => readFraction rest
    | _ => some (0, cs)
  let inDay := 3600 * hour + 60 * minute
  if second = 60 then some (inDay + 59, nanosPerSecond + nano, cs)
  else some (inDay + second, nano, cs)

def ofChars? (cs : List Char) : Option Instant := do
  let (date, cs) ← readDate cs
  let cs ← match cs with
    | c :: rest => if isSeparator c then some rest else none
    | [] => none
  let (inDay, nano, cs) ← readTime cs
  let (offset, cs) ← readOffset cs
  if cs.isEmpty then Instant.of? (86400 * date.dayNumber + inDay - 60 * offset) nano else none

/-- The instant that the text names. -/
def ofText? (s : String) : Option Instant := ofChars? s.toList

end Tenancy.Rfc3339
