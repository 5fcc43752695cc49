import ScriptHost.Text.Numeral
import ScriptHost.Toml.Reader

/-!
# Quoted strings

A string stands between two marks on one line, or between two runs of three marks on any number of
lines. Between double quotes a backslash begins an escape; between single quotes every character
stands for itself.

* A line break right behind the opening run does not count.
* Behind a backslash at the end of a line, all blanks and line breaks are left out.
* One or two marks may stand anywhere within a string of several lines, and also before the run that
  closes it.
-/

namespace ScriptHost.Toml

/-! ## 1. Marks and escapes -/

/-- How a string is quoted. -/
structure Quotes where
  mark : Char
  /-- Whether a backslash begins an escape. -/
  escapes : Bool

/-- Double quotes. -/
def Quotes.double : Quotes := ⟨'"', true⟩

/-- Single quotes. -/
def Quotes.single : Quotes := ⟨'\'', false⟩

/-- What has been read of an escape. -/
inductive Escape where
  /-- There is no escape. -/
  | nothing
  /-- A backslash. -/
  | backslash
  /-- The beginning of a character number, with so many digits to come behind the next one. -/
  | number (missing value : Nat)
  /-- A backslash and blanks, before a line break. -/
  | lineTail
  /-- A backslash, a line break, and more of what is left out. -/
  | margin
  deriving DecidableEq

/-- Whether a mark would be one here, and not a part of an escape. -/
def Escape.isSettled (e : Escape) : Bool := e == .nothing || e == .margin

/-- The character that an escape with one letter stands for. -/
def Escape.named : List (Char × Char) :=
  [('b', '\x08'), ('t', '\t'), ('n', '\n'), ('f', '\x0c'), ('r', '\r'), ('"', '"'), ('\\', '\\')]

/-- The character with the number; surrogates have none. -/
def charOf? (n : Nat) : Option Char := if n.isValidChar then some (Char.ofNat n) else none

namespace Quotes

/-! ## 2. One character after the other -/

/-- What a character within the string stands for, when it is not a mark. -/
def plainStep (q : Quotes) (multiline : Bool) (c : Char) : Option (List Char × Escape) :=
  if q.escapes && c == '\\' then some ([], .backslash)
  else if Reader.isPlain c || (multiline && c == '\n') then some ([c], .nothing)
  else none

/-- What a character behind a backslash stands for. -/
def escapeStep (multiline : Bool) (c : Char) : Option (List Char × Escape) :=
  if c == 'u' then some ([], .number 3 0)
  else if c == 'U' then some ([], .number 7 0)
  else if multiline && Reader.isBlank c then some ([], .lineTail)
  else if multiline && c == '\n' then some ([], .margin)
  else (Escape.named.lookup c).map fun x => ([x], .nothing)

/-- What a character stands for, and what is held back behind it. -/
def step (q : Quotes) (multiline : Bool) (e : Escape) (c : Char) : Option (List Char × Escape) :=
  match e with
  | .nothing => q.plainStep multiline c
  | .backslash => escapeStep multiline c
  | .number missing value =>
    (Numeral.digit? 16 c).bind fun d =>
      match missing with
      | 0 => (charOf? (value * 16 + d)).map fun x => ([x], .nothing)
      | m + 1 => some ([], .number m (value * 16 + d))
  | .lineTail =>
    if Reader.isBlank c then some ([], .lineTail)
    else if c == '\n' then some ([], .margin)
    else none
  | .margin =>
    if Reader.isBlank c || c == '\n' then some ([], .margin) else q.plainStep multiline c

/-- The string of one line, behind its first mark. -/
def lineFrom (q : Quotes) : Escape → List Char → Option (List Char × List Char)
  | _, [] => none
  | e, c :: r =>
    if c == q.mark && e.isSettled then some ([], r)
    else
      (q.step false e c).bind fun read =>
        (q.lineFrom read.2 r).map fun more => (read.1 ++ more.1, more.2)

/-- The most marks that stand in a row at the end of a string: two of its own and those that close
it. -/
def longestRun : Nat := 5

/-- The marks of a closing run that belong to the string. -/
def ownMarks (q : Quotes) (run : Nat) : List Char := List.replicate (run - 3) q.mark

/-- The string of several lines, behind its opening and a run of marks. -/
def linesFrom (q : Quotes) : Nat → Escape → List Char → Option (List Char × List Char)
  | run, _, [] => if 3 ≤ run then some (q.ownMarks run, []) else none
  | run, e, c :: r =>
    if c == q.mark && e.isSettled then
      if run < longestRun then q.linesFrom (run + 1) .nothing r else none
    else if 3 ≤ run then some (q.ownMarks run, c :: r)
    else
      (q.step true e c).bind fun read =>
        (q.linesFrom 0 read.2 r).map fun more =>
          (List.replicate run q.mark ++ read.1 ++ more.1, more.2)

/-! ## 3. Strings -/

/-- A string on one line. -/
def line (q : Quotes) : Reader String := do
  Reader.char q.mark
  let text ← q.lineFrom .nothing
  return String.ofList text

/-- A string on one line or on several. -/
def string (q : Quotes) : Reader String := do
  let opening ← optional (Reader.word (List.replicate 3 q.mark))
  if opening.isSome then
    let _ ← optional (Reader.char '\n')
    let text ← q.linesFrom 0 .nothing
    return String.ofList text
  else q.line

end Quotes

end ScriptHost.Toml
