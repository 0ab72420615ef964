import Tenancy.Text.Pieces

/-!
# Quoted names and literals

Names and text inside SQL statements: a name stands between double quotes and a literal between
single quotes, and a quote of the same kind inside is written twice. A table name is quoted part
by part, as its parts are separated by dots.
-/

namespace Tenancy.Sql

/-- The characters with every `quote` among them written twice. -/
def doubled (quote : Char) (cs : List Char) : List Char :=
  cs.flatMap fun c => if c = quote then [quote, quote] else [c]

/-- The characters between quotes. -/
def enclose (quote : Char) (cs : List Char) : List Char := quote :: doubled quote cs ++ [quote]

/-- A quoted name. -/
def quoteName (name : String) : String := String.ofList (enclose '"' name.toList)

/-- A quoted literal. -/
def quoteLiteral (text : String) : String := String.ofList (enclose '\'' text.toList)

/-- A table name with each of its parts quoted. -/
def quoteTable (name : String) : String :=
  ".".intercalate ((Text.pieces '.' name.toList).map fun part => String.ofList (enclose '"' part))

end Tenancy.Sql
