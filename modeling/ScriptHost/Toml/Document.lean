import ScriptHost.Toml.ValueReader

/-!
# Documents

A document is a list of lines: blank ones, headers and assignments. The assignments before the first
header belong to the root, all others to the header before them.

The language is TOML 1.0.0, as its specification has it. The host reads it with the toml package,
whose behaviour is followed where the specification leaves a choice: keys and values nested too
deeply are refused, as are integers beyond 64 bits and floats that come out too large.
-/

namespace ScriptHost.Toml

open Reader

/-! ## 1. Lines -/

/-- What a line says. -/
inductive Line where
  | blank
  | header (h : Header)
  | assignment (a : Assignment)

/-- A header between one pair of brackets or two. -/
def header : Reader Header := do
  char '['
  let double ← optional (char '[')
  let (path, last) ← key
  char ']'
  if double.isSome then
    char ']'
    return .member path last
  else return .table path last

/-- A line that begins with this character. -/
def lineFrom (first : Char) : Reader Line :=
  if first == '#' then do comment; lineEnd; return .blank
  else if first == '\n' then do char '\n'; return .blank
  else if first == '[' then do
    let h ← header
    lineRest
    return .header h
  else do
    let a ← assignment value
    lineRest
    return .assignment a

/-- A line, with the blanks at the beginning of the next one. A line takes a character or more. -/
def line : Reader Line := do
  let read ← lineFrom (← peek)
  blanks
  return read

/-- Each carriage return before a line feed is left out; no other one may be in a document. -/
def lineFeeds : List Char → List Char
  | [] => []
  | '\r' :: '\n' :: r => '\n' :: lineFeeds r
  | c :: r => c :: lineFeeds r

/-- The lines of a text. A byte order mark at the beginning does not count. -/
def lines? (text : List Char) : Option (List Line) :=
  let body := match text with
    | '\uFEFF' :: r => r
    | _ => text
  let document : Reader (List Line) := do
    blanks
    let read ← many line
    atEnd
    return read
  (document (lineFeeds body)).map (·.1)

/-! ## 2. Sections -/

/-- The assignments before the first header, and the sections. -/
def sectionsOf : List Line → List Assignment × List Section
  | [] => ([], [])
  | .blank :: rest => sectionsOf rest
  | .assignment a :: rest =>
    let (before, sections) := sectionsOf rest
    (a :: before, sections)
  | .header h :: rest =>
    let (behind, sections) := sectionsOf rest
    ([], ⟨h, behind⟩ :: sections)

/-- The entries of the root table of the document, if the text is one. -/
def read? (text : String) : Option (List (String × Value)) := do
  let lines ← lines? text.toList
  let (before, sections) := sectionsOf lines
  let root ← putAll before []
  let root ← sections.foldlM (fun root s => s.add root) root
  return finishedEntries root

end ScriptHost.Toml
