import ScriptHost.Json.Value
import ScriptHost.Text.Numeral
import ScriptHost.Toml.Reader

/-!
# Reading JSON

A JSON text is one value; blanks may stand around every token. Strings may hold escapes, and a
character beyond U+FFFF may be written as two of them. Numbers are integers here, so a text with
any other number is not read. Arrays and objects are nested to a limited depth.

The grammar is that of JSON itself, and the depth is the one that serde_json reads by default. The
host writes JSON and does not read it: the reader is there to say what its texts mean, and knows
nothing of how they are written.
-/

namespace ScriptHost.Json

open Toml (Reader)
open Toml.Reader

/-! ## 1. Strings -/

/-- A part of a string as it is written. -/
inductive Piece where
  /-- A character that stands for itself, or that an escape names by a letter. -/
  | char (c : Char)
  /-- A unit of UTF-16 that an escape names by its number. -/
  | unit (n : Nat)

/-- The character that a letter behind a backslash stands for. -/
def letters : List (Char × Char) :=
  [('"', '"'), ('\\', '\\'), ('/', '/'), ('b', '\x08'), ('f', '\x0c'), ('n', '\n'), ('r', '\r'),
    ('t', '\t')]

/-- The pieces of a string behind its first quote, and what follows its last one. -/
def piecesFrom : List Char → Option (List Piece × List Char)
  | [] => none
  | '"' :: r => some ([], r)
  | '\\' :: 'u' :: a :: b :: c :: d :: r =>
    (Numeral.readFrom 16 0 [a, b, c, d]).bind fun n =>
      (piecesFrom r).map fun more => (.unit n :: more.1, more.2)
  | '\\' :: letter :: r =>
    (letters.lookup letter).bind fun c =>
      (piecesFrom r).map fun more => (.char c :: more.1, more.2)
  | c :: r =>
    if c.toNat < 0x20 || c == '\\' then none
    else (piecesFrom r).map fun more => (.char c :: more.1, more.2)

/-- Whether two units are the two halves of one character. -/
def isPair (high low : Nat) : Bool :=
  0xD800 ≤ high && high < 0xDC00 && 0xDC00 ≤ low && low < 0xE000

/-- The character with these two halves. -/
def pairChar (high low : Nat) : Char :=
  Char.ofNat (0x10000 + (high - 0xD800) * 0x400 + (low - 0xDC00))

/-- The characters that the pieces are. Half a character is none. -/
def chars? : List Piece → Option (List Char)
  | [] => some []
  | .char c :: rest => (chars? rest).map (c :: ·)
  | .unit n :: rest =>
    if n.isValidChar then (chars? rest).map (Char.ofNat n :: ·)
    else
      match rest with
      | .unit low :: behind =>
        if isPair n low then (chars? behind).map (pairChar n low :: ·) else none
      | _ => none

/-- A string. -/
def string : Reader String := do
  char '"'
  let pieces ← (piecesFrom : Reader (List Piece))
  let text ← (chars? pieces : Option (List Char))
  return String.ofList text

/-! ## 2. Numbers and names -/

/-- Whether no digit is a zero that could be left out. -/
def isTight (digits : List Char) : Bool := digits.head? != some '0' || digits.length == 1

/-- An integer. -/
def number : Reader Int := do
  let minus ← optional (char '-')
  let digits ← takeWhile Numeral.isDigit
  let n ← (Numeral.natural? 10 digits : Option Nat)
  if isTight digits then return if minus.isSome then -Int.ofNat n else Int.ofNat n
  else failure

/-- A value without parts that begins with this character. -/
def scalar (first : Char) : Reader Value :=
  if first == '"' then Value.string <$> string
  else if first == 'n' then do word "null".toList; return .null
  else if first == 't' then do word "true".toList; return .bool true
  else if first == 'f' then do word "false".toList; return .bool false
  else Value.number <$> number

/-! ## 3. Arrays and objects -/

/-- Whether the character is a blank. -/
def isBlank (c : Char) : Bool := c == ' ' || c == '\t' || c == '\n' || c == '\r'

/-- Any blanks. -/
def blanks : Reader Unit := do
  let _ ← takeWhile isBlank

/-- What the reader makes of the first character behind blanks, with the blanks that follow. -/
def between {α : Type} (read : Char → Reader α) : Reader α := do
  blanks
  let a ← read (← peek)
  blanks
  return a

/-- What stands between an opening and a closing character, with commas between each two. -/
def list {α : Type} (opening closing : Char) (member : Reader α) : Reader (List α) := do
  char opening
  let members ← optional (separated ',' member)
  blanks
  char closing
  return members.getD []

/-- A field of an object. -/
def field (value : Reader Value) : Reader (String × Value) := do
  let name ← between fun _ => string
  char ':'
  let v ← value
  return (name, v)

/-- A value with at most so many arrays and objects around each other. -/
def valueWithin : Nat → Reader Value
  | 0 => between scalar
  | depth + 1 => between fun first =>
    if first == '[' then Value.array <$> list '[' ']' (valueWithin depth)
    else if first == '\x7b' then Value.object <$> list '\x7b' '\x7d' (field (valueWithin depth))
    else scalar first

/-! ## 4. Texts -/

/-- How many arrays and objects may stand around each other. -/
def depthLimit : Nat := 127

/-- The value that the text is. -/
def read? (text : String) : Option Value :=
  let document : Reader Value := do
    let v ← valueWithin depthLimit
    atEnd
    return v
  (document text.toList).map (·.1)

end ScriptHost.Json
