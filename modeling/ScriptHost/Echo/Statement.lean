import ScriptHost.Echo.Expansion
import ScriptHost.Text.Blank
import ScriptHost.Text.Split

/-!
# Statements

An Echo script is a list of lines with one statement each. Blanks at the ends of a line do not
count; an empty line and a line that begins with `#` say nothing. A statement begins with a keyword,
and its text follows the blanks behind it.

What statement a line holds depends on the line alone: parameters and variables come in later.
-/

namespace ScriptHost.Echo

/-! ## 1. Statements and lines -/

/-- What a line says. -/
inductive Statement where
  /-- Nothing. -/
  | blank
  /-- Print the text. -/
  | print (text : List Char)
  /-- Set the variable to the text. -/
  | assign (name text : List Char)
  /-- End with the code that the text denotes. -/
  | exit (text : List Char)
  /-- End with a failure. -/
  | fail (text : List Char)
  /-- A variable is to be set whose name is none. -/
  | badName (name : List Char)
  /-- The keyword is none. -/
  | unknown (keyword : List Char)
  deriving DecidableEq, Repr

/-- The statement that begins with the keyword. -/
def Statement.ofWords (keyword text : List Char) : Statement :=
  if keyword = "print".toList then .print text
  else if keyword = "set".toList then
    let (name, value) := Text.splitWord text
    if isName name then .assign name value else .badName name
  else if keyword = "exit".toList then .exit text
  else if keyword = "fail".toList then .fail text
  else .unknown keyword

/-- The statement of a line. -/
def Statement.ofLine (line : List Char) : Statement :=
  match Text.trim line with
  | [] => .blank
  | '#' :: _ => .blank
  | c :: r =>
    let (keyword, text) := Text.splitWord (c :: r)
    .ofWords keyword text

/-! ## 2. Scripts -/

/-- The lines of a text. What follows the last line break is a line only if it is not empty. -/
def lines (text : List Char) : List (List Char) :=
  let parts := Text.split '\n' text
  if parts.getLast? = some [] then parts.dropLast else parts

/-- The statements of a script, one per line. -/
def statements (script : List Char) : List Statement := (lines script).map .ofLine

end ScriptHost.Echo
