import Tenancy.Hostname.Basic
import Tenancy.Settings.Address
import Tenancy.Text.Percent
import Tenancy.Text.Utf8

/-!
# Hosts of URLs

A host is an address, in brackets if it is one of version 6, or a name. The schemes of the web
know what a host name is, so there the name is brought into its final form, and one that ends in a
number has to be an address of version 4. For other schemes a name is any text without the
characters that end it.
-/

namespace Tenancy

/-- Why a text is no URL. -/
inductive UrlFault where
  | noScheme
  | emptyHost
  | badName
  | badCharacter
  | badVersion4
  | badVersion6
  | badPort
deriving DecidableEq, Repr

namespace UrlFault

def text : UrlFault → String
  | .noScheme => "relative URL without a base"
  | .emptyHost => "empty host"
  | .badName => "invalid international domain name"
  | .badCharacter => "invalid domain character"
  | .badVersion4 => "invalid IPv4 address"
  | .badVersion6 => "invalid IPv6 address"
  | .badPort => "invalid port number"

end UrlFault

namespace Host

/-- A character that no host may hold. -/
def isForbidden (c : Char) : Bool :=
  c.toNat == 0 || [' ', '#', '/', ':', '<', '>', '?', '@', '[', '\\', ']', '^', '|'].contains c

/-- A character that no host name may hold. -/
def isForbiddenInName (c : Char) : Bool :=
  isForbidden c || c.toNat < 0x20 || c.toNat == 0x7f || c == '%'

/-- Reads a host that is any text. -/
def readOpaque (cs : List Char) : Except UrlFault (List Char) :=
  if cs.any isForbidden then .error .badCharacter else .ok (Text.percentEncodeInvisible cs)

/-- The last part of a name between dots, with a dot at the end left aside, is a number. -/
def endsInNumber (name : List Char) : Bool :=
  let parts := (Text.pieces '.' name).reverse
  let last := match parts with
    | [] :: rest => rest.head?
    | _ => parts.head?
  last.any fun part =>
    (!part.isEmpty && part.all Text.isDigit) || (Address.readNumber? part).isSome

/-- Reads a host name or an address of version 4; parts of it may be percent-encoded. -/
def readName (cs : List Char) : Except UrlFault (List Char) :=
  match (Text.ofBytes? (Text.percentDecode cs)).bind (Hostname.toAscii? ·.toList) with
  | none => .error .badName
  | some name =>
    if name.any isForbiddenInName then .error .badName
    else if name.isEmpty then .error .emptyHost
    else if endsInNumber name then
      match Address.readNumbers? name with
      | some n => .ok (Address.version4Text n).toList
      | none => .error .badVersion4
    else .ok name

/-- Reads the host of a URL, which is a name for the schemes that know host names. -/
def read (isName : Bool) (cs : List Char) : Except UrlFault (List Char) :=
  match cs with
  | '[' :: inner =>
    if inner.getLast? == some ']' then
      match Address.readVersion6? inner.dropLast with
      | some groups => .ok ("[".toList ++ (Address.version6Text groups).toList ++ "]".toList)
      | none => .error .badVersion6
    else .error .badVersion6
  | _ => if isName then readName cs else readOpaque cs

end Host

end Tenancy
