import Tenancy.Number.Power
import Tenancy.Text.Hex

/-!
# Unique identifiers

A `Uuid` is a 128-bit number. It is written as 32 lower-case hexadecimal digits in groups of
8, 4, 4, 4 and 12, and read from that form, from the bare digits, and from the grouped form in
braces or after `urn:uuid:`. A `TenantId` is the identifier of a tenant.
-/

namespace Tenancy

/-- A 128-bit identifier. -/
structure Uuid where
  value : Nat
  value_lt : value < 2 ^ 128
deriving DecidableEq

namespace Uuid

open Text

def ofNat? (n : Nat) : Option Uuid := if h : n < 2 ^ 128 then some ⟨n, h⟩ else none

/-- Identifiers are ordered as their bytes are, hence as numbers. -/
def compare (a b : Uuid) : Ordering := Ord.compare a.value b.value

/-! ## Text -/

/-- Puts a hyphen after the first 8, 12, 16 and 20 digits. -/
def grouped (digits : List Char) : List Char :=
  digits.take 8 ++ '-' :: (digits.drop 8).take 4 ++ '-' :: (digits.drop 12).take 4 ++
    '-' :: (digits.drop 16).take 4 ++ '-' :: digits.drop 20

def toChars (u : Uuid) : List Char := grouped (hexDigits 32 u.value)

/-- The grouped lower-case form. -/
def text (u : Uuid) : String := String.ofList u.toChars

/-- Reads exactly 32 digits. -/
def ofDigits? (digits : List Char) : Option Uuid :=
  if digits.length = 32 then readHex? digits >>= ofNat? else none

/-- Reads the grouped form. -/
def ofGrouped? (cs : List Char) : Option Uuid :=
  let digits := cs.take 8 ++ (cs.drop 9).take 4 ++ (cs.drop 14).take 4 ++ (cs.drop 19).take 4 ++
    cs.drop 24
  if cs.length = 36 ∧ cs[8]? = some '-' ∧ cs[13]? = some '-' ∧ cs[18]? = some '-' ∧
      cs[23]? = some '-' then
    ofDigits? digits
  else none

/-- The letters in front of the grouped form of a name. -/
def nameStart : List Char := "urn:uuid:".toList

/-- Reads any of the accepted forms; the number of characters tells them apart. -/
def ofChars? (cs : List Char) : Option Uuid :=
  if cs.length = 32 then ofDigits? cs
  else if cs.length = 36 then ofGrouped? cs
  else if cs.length = 38 then
    if cs.head? = some '{' ∧ cs.getLast? = some '}' then ofGrouped? ((cs.drop 1).take 36) else none
  else if cs.length = 45 then
    if (cs.take 9).map Char.toLower = nameStart then ofGrouped? (cs.drop 9) else none
  else none

def ofText? (s : String) : Option Uuid := ofChars? s.toList

end Uuid

/-- The identifier of a tenant. -/
structure TenantId where
  uuid : Uuid
deriving DecidableEq

namespace TenantId

def text (t : TenantId) : String := t.uuid.text

end TenantId

/-- The failure to read an identifier of some kind. -/
structure InvalidIdentifier where
  kind : String
  reason : String
deriving DecidableEq, Repr

namespace InvalidIdentifier

def message (e : InvalidIdentifier) : String := s!"invalid identifier: {e.kind}: {e.reason}"

end InvalidIdentifier

/-- The tenant identifier that the text writes. -/
def TenantId.ofText (s : String) : Except InvalidIdentifier TenantId :=
  match Uuid.ofText? s with
  | some u => .ok ⟨u⟩
  | none => .error ⟨"TenantId", "no accepted form of an identifier"⟩

end Tenancy
