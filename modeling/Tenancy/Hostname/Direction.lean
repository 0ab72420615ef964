import Tenancy.Hostname.Marks

/-!
# Directions of writing

A host name with letters that are written from right to left must not be open to two readings, so
each of its labels keeps to one direction: the rule of RFC 5893.
-/

namespace Tenancy.Hostname

/-- Ranges of characters that are not written from left to right, marks apart: `0` for letters from
right to left, `1` for Arabic numerals, `2` for European numerals and `3` for signs without a
direction. -/
def directionRows : List String :=
  ["0 2f 3,30 39 2,3a 60 3,7b d7 3,f7 f7 3,2b9 2ba 3,2c2 2cf 3,2d2 2ed 3,2ef 2ff 3,375 375 3",
   "3f6 3f6 3,58a 58f 3,5be 5f4 0,606 607 3,608 608 0,609 60a 3,60b 60b 0,60c 60c 3,60d 60d 0",
   "60e 60f 3,61b 64a 0,660 669 1,66a 66a 3,66b 66c 1,66d 6d5 0,6de 6de 3,6e5 6e6 0,6e9 6e9 3",
   "6ee 6ef 0,6f0 6f9 2,6fa 7f5 0,7f6 7f9 3,7fa 8c9 0,9f2 9f3 3,9fb 9fb 3,af1 af1 3,bf3 bfa 3",
   "c78 c7e 3,e3f e3f 3,f3a f3d 3,1390 1399 3,1400 1400 3,169b 169c 3,17db 17db 3,17f0 180a 3",
   "1940 1945 3,19de 19ff 3,200c 214d 3,218a 2335 3,237b 2394 3,2396 26ab 3,26ad 27ff 3",
   "2900 2bff 3,2ce5 2cea 3,2cf9 2cff 3,2e00 3004 3,3008 3020 3,3030 3030 3,3037 3037 3",
   "303d 303f 3,30a0 30a0 3,30fb 30fb 3,31c0 31e5 3,4dc0 4dff 3,a490 a4c6 3,a60d a60f 3",
   "a673 a67f 3,a700 a721 3,a788 a788 3,a828 a82b 3,a838 a839 3,a874 a877 3,ab6a ab6b 3",
   "fbb2 fbc2 0,fbc3 fe46 3,fe73 fe73 0,10101 10101 3,10140 1018c 3,10190 101a0 3,102e1 102fb 2",
   "10800 1091b 0,1091f 1091f 3,10920 10b35 0,10b39 10b3f 3,10b40 10d23 0,10d30 10d49 1",
   "10d4a 10d4f 0,10d6e 10d6e 3,10d6f 10d8f 0,10e60 10e7e 1,10e80 10eca 0,10ed0 10ed8 3",
   "10ed9 10ff6 0,11052 11065 3,11660 1166c 3,11fd5 11ff1 3,16fe2 16fe2 3,1cc00 1cefd 3",
   "1d127 1d128 3,1d1e9 1d281 3,1d300 1d356 3,1db00 1db1c 3,1e2ff 1e2ff 3,1e800 1ed3d 0",
   "1eef0 1f12f 3,1f16d 1f16f 3,1f1ad 1f1ae 3,1f260 1fbfa 3"]

/-- Ranges of marks that are written from left to right like the letters they belong to. -/
def leftMarkRows : List String :=
  ["cbf cbf,cc6 cc6,1b3a 1b3a,1b3c 1b3c,1b42 1b42,11a07 11a08,11c3f 11c3f"]

/-- How a character takes part in the direction of a text. -/
inductive Direction where
  | left
  | right
  | arabicNumeral
  | europeanNumeral
  | neutral
  | mark
deriving DecidableEq, Repr

def directions : List Span := readSpans directionRows

def leftMarks : List Span := readSpans leftMarkRows

namespace Direction

/-- The direction of a character. -/
def ofChar (c : Char) : Direction :=
  if isNonspacing c then (if Span.cover leftMarks c then .left else .mark)
  else match Span.value? directions c with
    | none => .left
    | some 0 => .right
    | some 1 => .arabicNumeral
    | some 2 => .europeanNumeral
    | some _ => .neutral

/-- The character makes a host name subject to the rule. -/
def isRightToLeft (d : Direction) : Bool := d == .right || d == .arabicNumeral

/-- The last character that is no mark has one of these directions. -/
def endsIn (allowed : List Direction) (label : List Direction) : Bool :=
  ((label.reverse.dropWhile (· == .mark)).head?.any allowed.contains)

/-- The label keeps to the direction of its first character, which has to be a letter. -/
def isConsistent (label : List Direction) : Bool :=
  match label with
  | [] => true
  | .left :: _ =>
    label.all [left, europeanNumeral, neutral, mark].contains &&
      endsIn [left, europeanNumeral] label
  | .right :: _ =>
    !label.contains left && endsIn [right, europeanNumeral, arabicNumeral] label &&
      !(label.contains europeanNumeral && label.contains arabicNumeral)
  | _ :: _ => false

end Direction

end Tenancy.Hostname
