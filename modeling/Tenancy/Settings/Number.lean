import Tenancy.Number.Power
import Tenancy.Text.Blank
import Tenancy.Text.Pieces
import Tenancy.Text.Quoted

/-!
# Settings by name

Settings are texts under names. `SettingError` says which setting cannot be used, and the readers
here take a natural number up to a limit out of a setting that may be absent.
-/

namespace Tenancy

/-- The texts of the settings that are there. -/
abbrev Lookup := String → Option String

/-- Why a setting cannot be used. -/
inductive SettingError where
  | missing (name : String)
  | invalid (name value : String)
deriving DecidableEq, Repr

namespace SettingError

def message : SettingError → String
  | .missing name => s!"missing required setting {name}"
  | .invalid name value => s!"invalid value for {name}: " ++ Text.quoted value

end SettingError

namespace Setting

/-- The digits of a number with an optional plus sign, if there is nothing else. -/
def unsignedDigits? (cs : List Char) : Option (List Char) :=
  let digits := match cs with
    | '+' :: rest => rest
    | _ => cs
  if !digits.isEmpty && digits.all Text.isDigit then some digits else none

/-- A natural number up to a limit, in digits with an optional plus sign. -/
def readNat? (limit : Nat) (text : String) : Option Nat := do
  let n := Text.digitsValue (← unsignedDigits? text.toList)
  if n ≤ limit then some n else none

/-- The largest unsigned number of 32 bits. -/
def limit32 : Nat := 2 ^ 32 - 1

/-- The largest unsigned number of 64 bits. -/
def limit64 : Nat := 2 ^ 64 - 1

/-- The number of a setting, with blanks around it left aside; none if the setting is absent. -/
def number (limit : Nat) (lookup : Lookup) (name : String) : Except SettingError (Option Nat) :=
  match lookup name with
  | none => .ok none
  | some text => match readNat? limit (Text.trim text) with
    | some n => .ok (some n)
    | none => .error (.invalid name text)

end Setting

end Tenancy
