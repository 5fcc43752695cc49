/-!
# Readers

A reader takes the beginning of a text and leaves the rest, or fails. Here are the readers that all
parts of the TOML grammar are made of: single characters, repetition, blanks, comments and the ends
of lines. Line breaks are single line feeds here.
-/

namespace ScriptHost.Toml

/-- Reads a value at the beginning of a text. -/
abbrev Reader (α : Type) := StateT (List Char) Option α

namespace Reader

variable {α : Type}

/-! ## 1. Characters -/

/-- The next character, if the test holds for it. -/
def satisfy (test : Char → Bool) : Reader Char := fun s =>
  match s with
  | c :: r => if test c then some (c, r) else none
  | [] => none

/-- This character. -/
def char (c : Char) : Reader Unit := do
  let _ ← satisfy (· == c)

/-- These characters. -/
def word (w : List Char) : Reader Unit := fun s =>
  if w.isPrefixOf s then some ((), s.drop w.length) else none

/-- The characters up to the first one for which the test does not hold. -/
def takeWhile (test : Char → Bool) : Reader (List Char) := fun s =>
  some (s.takeWhile test, s.dropWhile test)

/-- The next character, which stays. -/
def peek : Reader Char := fun s =>
  match s with
  | c :: _ => some (c, s)
  | [] => none

/-- The end of the text. -/
def atEnd : Reader Unit := fun s => if s.isEmpty then some ((), s) else none

/-- The text that the reader takes. -/
def taken (p : Reader Unit) : Reader (List Char) := fun s =>
  (p s).map fun read => (s.take (s.length - read.2.length), read.2)

/-! ## 2. Repetition and choice -/

/-- The values that the reader finds one after the other, each of which takes a character or more,
and what is left. -/
def manyFrom (p : Reader α) (s : List Char) : List α × List Char :=
  match p s with
  | none => ([], s)
  | some (a, r) =>
    if _h : r.length < s.length then
      let more := manyFrom p r
      (a :: more.1, more.2)
    else ([], s)
termination_by s.length

/-- As many values as the reader finds. -/
def many (p : Reader α) : Reader (List α) := fun s => some (manyFrom p s)

/-- One value or more, with this character between each two. -/
def separated (sep : Char) (p : Reader α) : Reader (List α) := do
  let first ← p
  let rest ← many (do char sep; p)
  return first :: rest

/-! ## 3. Blanks, comments and lines -/

/-- Whether the character is a blank within a line. -/
def isBlank (c : Char) : Bool := c == ' ' || c == '\t'

/-- Whether the character may stand in a comment. -/
def isPlain (c : Char) : Bool := c == '\t' || (' ' ≤ c && c != '\x7f')

/-- Any blanks. -/
def blanks : Reader Unit := do
  let _ ← takeWhile isBlank

/-- A comment up to the end of its line. -/
def comment : Reader Unit := do
  char '#'
  let _ ← takeWhile isPlain

/-- A line break, or the end of the text. -/
def lineEnd : Reader Unit := char '\n' <|> atEnd

/-- The rest of a line that holds nothing but blanks and a comment. -/
def lineRest : Reader Unit := do
  blanks
  let _ ← optional comment
  lineEnd

/-- What is left behind blanks, line breaks and comments. -/
def voidFrom (inComment : Bool) : List Char → List Char
  | [] => []
  | c :: r =>
    if inComment && isPlain c then voidFrom true r
    else if isBlank c || c == '\n' then voidFrom false r
    else if c == '#' then voidFrom true r
    else c :: r

/-- Any blanks, line breaks and comments. -/
def void : Reader Unit := fun s => some ((), voidFrom false s)

end Reader

end ScriptHost.Toml
