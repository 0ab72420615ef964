import Tenancy.Hostname.Composition
import Tenancy.Hostname.Direction
import Tenancy.Hostname.Joining
import Tenancy.Hostname.Mapping
import Tenancy.Hostname.Punycode

/-!
# Host names

A host name may be written in any script, and `toAscii?` gives the one form in which it is looked
up (Unicode Technical Standard 46, without the rules on hyphens and lengths). Labels that are not
ASCII are written in Punycode behind `xn--`; such labels have a limit, far beyond those of any name
in use, so that Punycode takes little time on all of them.
-/

namespace Tenancy.Hostname

def isAscii (label : List Char) : Bool := label.all (·.toNat < 128)

/-- What stands before a label in Punycode. -/
def punycodeMark : List Char := "xn--".toList

/-- A label that is not ASCII has at most this many characters. -/
def longestText : Nat := 1000

/-- A label in Punycode has at most this many characters behind `xn--`. -/
def longestPunycode : Nat := 2000

/-- The text of a label. One in Punycode has to stand for something that ASCII cannot write and
that is in its final form. -/
def readLabel? (label : List Char) : Option (List Char) :=
  if punycodeMark.isPrefixOf label then do
    if longestPunycode < label.length - 4 then none
    let text ← Punycode.decode? (label.drop 4)
    if isAscii text || compose text != text then none else some text
  else some label

/-- The label as it is looked up. -/
def writeLabel (label : List Char) : List Char :=
  if isAscii label then label else punycodeMark ++ Punycode.encode label

/-- The label does not begin with a mark, keeps all its characters, has its joiners in their
places and is not too long. -/
def isProper (label : List Char) : Bool :=
  !label.head?.any isMark && label.all isKept && joinersFit [] label &&
    (isAscii label || label.length ≤ longestText)

/-- No label is open to two readings by its direction. -/
def areConsistent (labels : List (List Char)) : Bool :=
  let directions := labels.map (·.map Direction.ofChar)
  !directions.any (·.any Direction.isRightToLeft) || directions.all Direction.isConsistent

/-- The form in which a host name is looked up; none if it is not a proper name. -/
def toAscii? (name : List Char) : Option (List Char) := do
  let mapped ← name.mapM mapChar?
  let labels ← (Text.pieces '.' (compose mapped.flatten)).mapM readLabel?
  if labels.all isProper && areConsistent labels then
    some (['.'].intercalate (labels.map writeLabel))
  else none

end Tenancy.Hostname
