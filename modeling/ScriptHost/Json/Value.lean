/-!
# JSON values and their compact text

Numbers are integers, which is all that the host has to say. The text of a value holds no blank
between its tokens; the fields of an object stand in the order given. In a string, quotes,
backslashes and characters below U+0020 are escaped, so that the text is one line; every other
character stands for itself.

The host's JSON is written by serde_json in its compact form, and this is that text for the values
that the host has. Where JSON has a short escape for a character, it is the one that is written.
-/

namespace ScriptHost.Json

/-! ## 1. Values -/

/-- A JSON value. -/
inductive Value where
  | null
  | bool (b : Bool)
  | number (i : Int)
  | string (s : String)
  | array (elements : List Value)
  | object (fields : List (String × Value))
  deriving Inhabited

/-! ## 2. Text -/

/-- How a character is written in a string. -/
def escaped (c : Char) : List Char :=
  match c with
  | '"' => ['\\', '"']
  | '\\' => ['\\', '\\']
  | '\x08' => ['\\', 'b']
  | '\t' => ['\\', 't']
  | '\n' => ['\\', 'n']
  | '\x0c' => ['\\', 'f']
  | '\r' => ['\\', 'r']
  | c =>
    if c.toNat < 0x20 then
      ['\\', 'u', '0', '0', Nat.digitChar (c.toNat / 16), Nat.digitChar (c.toNat % 16)]
    else [c]

/-- A string with its quotes. -/
def stringText (s : String) : List Char := '"' :: s.toList.flatMap escaped ++ ['"']

mutual

/-- The compact text of a value. -/
def Value.text : Value → List Char
  | .null => "null".toList
  | .bool true => "true".toList
  | .bool false => "false".toList
  | .number i => (toString i).toList
  | .string s => stringText s
  | .array elements => '[' :: elementsText elements ++ [']']
  | .object fields => '\x7b' :: fieldsText fields ++ ['\x7d']

/-- The elements of an array with commas between them. -/
def elementsText : List Value → List Char
  | [] => []
  | [v] => v.text
  | v :: rest => v.text ++ ',' :: elementsText rest

/-- The fields of an object with commas between them. -/
def fieldsText : List (String × Value) → List Char
  | [] => []
  | [(name, v)] => stringText name ++ ':' :: v.text
  | (name, v) :: rest => stringText name ++ ':' :: v.text ++ ',' :: fieldsText rest

end

/-- The compact text of a value as a string. -/
def Value.write (v : Value) : String := String.ofList v.text

end ScriptHost.Json
