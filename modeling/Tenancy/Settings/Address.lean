import Tenancy.Number.Power
import Tenancy.Text.Hex
import Tenancy.Text.Pieces

/-!
# Network addresses

Addresses of the two versions of the internet protocol. An address of version 6 is eight numbers
of 16 bits; its text leaves out the first of its longest runs of zeros.
-/

namespace Tenancy.Address

/-- A number below 256 in digits without leading zeros. -/
def readByte? (cs : List Char) : Option Nat := do
  if cs.isEmpty || !cs.all Text.isDigit || (cs.head? == some '0' && 1 < cs.length) then none
  let n := Text.digitsValue cs
  if n < 256 then some n else none

/-- The four numbers of an address of version 4. -/
def readVersion4? (cs : List Char) : Option (List Nat) := do
  let bytes ← (Text.pieces '.' cs).mapM readByte?
  if bytes.length = 4 then some bytes else none

/-- One to four hexadecimal digits. -/
def readGroup? (cs : List Char) : Option Nat :=
  if cs.isEmpty || 4 < cs.length then none else Text.readHex? cs

/-- Numbers between colons; the last of them may be an address of version 4, which makes two
numbers. -/
def readGroups? : List (List Char) → Option (List Nat)
  | [] => some []
  | [last] =>
    if last.contains '.' then do
      match ← readVersion4? last with
      | [a, b, c, d] => some [256 * a + b, 256 * c + d]
      | _ => none
    else (readGroup? last).map ([·])
  | piece :: rest => do some ((← readGroup? piece) :: (← readGroups? rest))

/-- The text before and after the first two colons in a row. -/
def splitGap : List Char → Option (List Char × List Char)
  | ':' :: ':' :: rest => some ([], rest)
  | c :: rest => (splitGap rest).map fun (before, behind) => (c :: before, behind)
  | [] => none

/-- The numbers of a part that may be empty. -/
def readPart? (cs : List Char) : Option (List Nat) :=
  if cs.isEmpty then some [] else readGroups? (Text.pieces ':' cs)

/-- The eight numbers of an address of version 6; two colons in a row stand for one or more
zeros. -/
def readVersion6? (cs : List Char) : Option (List Nat) := do
  match splitGap cs with
  | none =>
    let groups ← readPart? cs
    if groups.length = 8 then some groups else none
  | some (before, behind) =>
    if before.contains '.' then none
    let front ← readPart? before
    let back ← readPart? behind
    let given := front.length + back.length
    if given < 8 then some (front ++ List.replicate (8 - given) 0 ++ back) else none

/-- The text is an address of either version. -/
def isAddress (s : String) : Bool :=
  (readVersion4? s.toList).isSome || (readVersion6? s.toList).isSome

/-! ## Version 4 in URLs -/

/-- The value of octal digits. -/
def readOctal? (cs : List Char) : Option Nat :=
  if cs.all fun c => '0' ≤ c && c ≤ '7' then
    some (cs.foldl (fun n c => 8 * n + (c.toNat - 48)) 0)
  else none

/-- A number in hexadecimal digits behind `0x`, in octal digits behind a zero, or else in decimal
digits; behind `0x` and a zero there may be no digits. -/
def readNumber? : List Char → Option Nat
  | [] => none
  | '0' :: 'x' :: digits => Text.readHex? digits
  | '0' :: 'X' :: digits => Text.readHex? digits
  | '0' :: digits => readOctal? digits
  | digits => if digits.all Text.isDigit then some (Text.digitsValue digits) else none

/-- An address of up to four numbers, the last of which fills all bytes that are left; a dot may
stand at the end. -/
def readNumbers? (cs : List Char) : Option Nat := do
  let parts := Text.pieces '.' cs
  let numbers ← (if parts.getLast? == some [] then parts.dropLast else parts).mapM readNumber?
  let last ← numbers.getLast?
  let front := numbers.dropLast
  if 3 < front.length || front.any (255 < ·) || 256 ^ (4 - front.length) ≤ last then none
  else some (front.zipIdx.foldl (fun sum (n, place) => sum + n * 256 ^ (3 - place)) last)

/-- The four numbers of an address between dots. -/
def version4Text (address : Nat) : String :=
  ".".intercalate ([3, 2, 1, 0].map fun place => toString (address / 256 ^ place % 256))

/-! ## Text of version 6 -/

/-- The start and the length of the first longest run of zeros; `here` is the place of the first
group and `run` the number of zeros right before it. -/
def longestZeros (here run : Nat) (best : Nat × Nat) : List Nat → Nat × Nat
  | [] => best
  | 0 :: rest =>
    let run := run + 1
    longestZeros (here + 1) run (if best.2 < run then (here + 1 - run, run) else best) rest
  | _ :: rest => longestZeros (here + 1) 0 best rest

def groupsText (groups : List Nat) : String := ":".intercalate (groups.map Text.hexText)

/-- The shortest text of the eight numbers. -/
def version6Text (groups : List Nat) : String :=
  let (start, length) := longestZeros 0 0 (0, 0) groups
  if length < 2 then groupsText groups
  else groupsText (groups.take start) ++ "::" ++ groupsText (groups.drop (start + length))

end Tenancy.Address
