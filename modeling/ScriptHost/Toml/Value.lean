import ScriptHost.Decimal.Binary64

/-!
# TOML values

What a TOML document says, without how it is written: scalars, arrays and tables, with the entries
of a table in the order in which they came up. A document is the entries of its root table.
-/

namespace ScriptHost.Toml

/-- A TOML value. -/
inductive Value where
  | string (s : String)
  | integer (i : Int)
  | float (x : Binary64)
  | boolean (b : Bool)
  /-- A date, a time or both, as it was written. -/
  | datetime (text : List Char)
  | array (elements : List Value)
  | table (entries : List (String × Value))
  deriving Inhabited

end ScriptHost.Toml
