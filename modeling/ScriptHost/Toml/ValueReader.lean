import ScriptHost.Toml.Date
import ScriptHost.Toml.Quotation
import ScriptHost.Toml.Table

/-!
# Reading keys and values

The first character of a value tells its kind. Arrays may run over several lines and end with a
comma; inline tables may not. Arrays and inline tables are nested to a limited depth, and so are
dotted keys.
-/

namespace ScriptHost.Toml

open Reader

/-! ## 1. Keys -/

/-- Whether the character may stand in a key without quotes. -/
def isBareKeyChar (c : Char) : Bool := c.isAlphanum || c == '_' || c == '-'

/-- A key without dots. -/
def simpleKey : Reader String := do
  let c ← peek
  if c == '"' then Quotes.double.line
  else if c == '\'' then Quotes.single.line
  else
    let text ← takeWhile isBareKeyChar
    if text.isEmpty then failure else return String.ofList text

/-- Keys have fewer parts than this, and values fewer levels. -/
def depthLimit : Nat := 80

/-- The parts of a key: those before its last dot, and the last one. -/
def key : Reader (List String × String) := do
  let parts ← separated '.' do
    blanks
    let part ← simpleKey
    blanks
    return part
  if parts.length < depthLimit then return (parts.dropLast, parts.getLastD "") else failure

/-- A key, an equality sign and a value, with blanks around each. -/
def assignment (value : Reader Value) : Reader Assignment := do
  let (path, last) ← key
  char '='
  blanks
  let v ← value
  blanks
  return ⟨path, last, v⟩

/-! ## 2. Scalars -/

/-- A date, a time or a number. -/
def numeral : Reader Value :=
  (Value.datetime <$> taken datetime) <|> (Value.float <$> float) <|> (Value.integer <$> integer)

/-- A value behind a first character that neither opens an array nor an inline table. -/
def scalar (first : Char) : Reader Value :=
  if first == '"' then Value.string <$> Quotes.double.string
  else if first == '\'' then Value.string <$> Quotes.single.string
  else if first == 't' then do word ['t', 'r', 'u', 'e']; return .boolean true
  else if first == 'f' then do word ['f', 'a', 'l', 's', 'e']; return .boolean false
  else if first == 'i' || first == 'n' then Value.float <$> float
  else if first == '+' || first == '-' || Numeral.isDigit first then numeral
  else failure

/-! ## 3. Arrays and inline tables -/

/-- The elements of an array, with its brackets. -/
def array (value : Reader Value) : Reader (List Value) := do
  char '['
  let elements ← optional do
    let elements ← separated ',' do
      void
      let v ← value
      void
      return v
    let _ ← optional (char ',')
    return elements
  void
  char ']'
  return elements.getD []

/-- The entries of an inline table, with its braces. -/
def inlineTable (value : Reader Value) : Reader (List (String × Value)) := do
  char '\x7b'
  let assignments ← optional (separated ',' (assignment value))
  blanks
  char '\x7d'
  let entries ← (putAll (assignments.getD []) [] : Option Entries)
  return finishedEntries entries

/-- A value with at most so many arrays and inline tables around each other. -/
def valueWithin : Nat → Reader Value
  | 0 => do scalar (← peek)
  | depth + 1 => do
    let first ← peek
    if first == '[' then return .array (← array (valueWithin depth))
    else if first == '\x7b' then return .table (← inlineTable (valueWithin depth))
    else scalar first

/-- A value. -/
def value : Reader Value := valueWithin (depthLimit - 1)

end ScriptHost.Toml
