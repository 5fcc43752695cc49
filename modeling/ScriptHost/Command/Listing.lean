import ScriptHost.Json.Value
import ScriptHost.Manifest.Basic

/-!
# Listings

The entries of a manifest as text, one entry per line in columns, or as one JSON object with its
keys in ascending order.
-/

namespace ScriptHost.Command

/-! ## 1. Text -/

/-- The spaces that fill a text up to a width. -/
def filling (width : Nat) (s : String) : String :=
  String.ofList (List.replicate (width - s.length) ' ')

/-- How wide the column of languages is at least. -/
def languageWidth : Nat := 16

/-- How wide the column of ids is at least. -/
def idWidth : Nat := 6

/-- A language in its column. -/
def languageColumn (language : String) : String := language ++ filling languageWidth language

/-- The line of an interpreter. -/
def interpreterLine (e : InterpreterEntry) : String :=
  s!"  {languageColumn e.language} {e.module.display}\n"

/-- The line of a script. -/
def scriptLine (e : ScriptEntry) : String :=
  let id := toString e.id
  let cached := if e.cached then " (cached)" else ""
  s!"  {filling idWidth id}{id}  {languageColumn e.language} {e.path.display}{cached}\n"

/-- The manifest as text. -/
def listText (m : Manifest) : String :=
  "interpreters:\n" ++ String.join (m.interpreters.map interpreterLine) ++
    "scripts:\n" ++ String.join (m.scripts.map scriptLine)

/-! ## 2. JSON -/

/-- An interpreter as JSON; a path without a text has none. -/
def interpreterJson (e : InterpreterEntry) : Option Json.Value :=
  e.module.text?.map fun module =>
    .object [("language", .string e.language), ("module", .string module)]

/-- A script as JSON; a path without a text has none. -/
def scriptJson (e : ScriptEntry) : Option Json.Value :=
  e.path.text?.map fun path =>
    .object [("cache_in_memory", .bool e.cached), ("id", .number e.id.toNat),
      ("language", .string e.language), ("path", .string path),
      ("priority", .number e.priority.toNat)]

/-- The manifest as JSON. -/
def listJson (m : Manifest) : Option Json.Value := do
  let interpreters ← m.interpreters.mapM interpreterJson
  let scripts ← m.scripts.mapM scriptJson
  return .object [("interpreters", .array interpreters), ("scripts", .array scripts)]

end ScriptHost.Command
