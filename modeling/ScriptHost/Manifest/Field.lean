import ScriptHost.Decimal.Shortest
import ScriptHost.Path.Basic
import ScriptHost.Text.Quoted
import ScriptHost.Toml.Value

/-!
# Fields of a manifest

Reads a TOML value as what a field of a manifest holds: a text, a path, a number or a flag. A value
of another kind is a fault, and so are a number that is out of range and a field that is missing.
-/

namespace ScriptHost.Manifest

/-! ## 1. Faults -/

/-- What a place in a manifest is to hold. -/
inductive Demand where
  | sequence
  | script
  | interpreter
  | uint32
  | path
  | string
  | boolean
  deriving DecidableEq, Repr

/-- The demand in words. -/
def Demand.text : Demand → String
  | .sequence => "a sequence"
  | .script => "struct ScriptEntry"
  | .interpreter => "struct InterpreterEntry"
  | .uint32 => "u32"
  | .path => "path string"
  | .string => "a string"
  | .boolean => "a boolean"

/-- What is wrong with a document that is no manifest. -/
inductive Fault where
  | wrongKind (found : Toml.Value) (demand : Demand)
  | outOfRange (i : Int)
  | missing (field : String)
  /-- An entry that is written as an array ends too early. -/
  | tooShort (length : Nat) (demand : Demand) (elements : Nat)
  deriving Inhabited

/-- An integer in words. -/
def integerText (i : Int) : String := s!"integer `{i}`"

/-- The kind of a value in words, with the value itself if it is a scalar. -/
def kindText : Toml.Value → String
  | .string s => "string " ++ Text.quoted s
  | .integer i => integerText i
  | .float x => s!"floating point `{Decimal.text x}`"
  | .boolean b => s!"boolean `{b}`"
  | .array _ => "sequence"
  | .datetime _ | .table _ => "map"

/-- The fault in words. -/
def Fault.message : Fault → String
  | .wrongKind found demand => s!"invalid type: {kindText found}, expected {demand.text}"
  | .outOfRange i => s!"invalid value: {integerText i}, expected {Demand.uint32.text}"
  | .missing field => s!"missing field `{field}`"
  | .tooShort length demand elements =>
    s!"invalid length {length}, expected {demand.text} with {elements} elements"

/-! ## 2. Readings -/

/-- A text. -/
def string : Toml.Value → Except Fault String
  | .string s => .ok s
  | v => .error (.wrongKind v .string)

/-- A path, written as a text. -/
def path : Toml.Value → Except Fault Path
  | .string s => .ok (Path.ofString s)
  | v => .error (.wrongKind v .path)

/-- A flag. -/
def boolean : Toml.Value → Except Fault Bool
  | .boolean b => .ok b
  | v => .error (.wrongKind v .boolean)

/-- A number of 32 bits without a sign. -/
def uint32 : Toml.Value → Except Fault UInt32
  | .integer i =>
    if 0 ≤ i ∧ i ≤ 4294967295 then .ok (UInt32.ofNat i.toNat) else .error (.outOfRange i)
  | v => .error (.wrongKind v .uint32)

/-- The elements of an array. -/
def sequence : Toml.Value → Except Fault (List Toml.Value)
  | .array elements => .ok elements
  | v => .error (.wrongKind v .sequence)

/-- What a field holds that has to be there. -/
def required {α : Type} (field : String) : Option α → Except Fault α
  | some a => .ok a
  | none => .error (.missing field)

end ScriptHost.Manifest
