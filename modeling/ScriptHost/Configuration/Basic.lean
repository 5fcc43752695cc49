import ScriptHost.Catalog
import ScriptHost.Entry
import ScriptHost.Text.Quoted

/-!
# Configurations

What an embedder is to work with: the host interface, one interpreter module per language and one
script per id. Nothing is loaded or read here.

Adding under a key that is taken replaces the entry; adding and removing answer with the entry that
is gone.
-/

namespace ScriptHost

/-! ## 1. Parts -/

/-- A host interface, interpreters by language and scripts by id. An entry stands under its own
language or id. -/
structure Configuration where
  api : Option ApiHandle
  interpreters : Catalog String InterpreterEntry
  scripts : Catalog UInt32 ScriptEntry
  interpreters_keyed : interpreters.Keyed (·.language)
  scripts_keyed : scripts.Keyed (·.id)
  deriving DecidableEq

namespace Configuration

/-- The configuration without parts. -/
def empty : Configuration :=
  ⟨none, Catalog.empty, Catalog.empty, Catalog.keyed_empty _, Catalog.keyed_empty _⟩

instance : Inhabited Configuration := ⟨empty⟩

/-- Sets the host interface. -/
def setApi (c : Configuration) (api : ApiHandle) : Configuration := { c with api := some api }

/-- The interpreter of the language. -/
def interpreter? (c : Configuration) (language : String) : Option InterpreterEntry :=
  c.interpreters.get? language

/-- The script with the id. -/
def script? (c : Configuration) (id : UInt32) : Option ScriptEntry := c.scripts.get? id

/-- Registers an interpreter; answers with the entry it replaces. -/
def addInterpreter (c : Configuration) (entry : InterpreterEntry) :
    Option InterpreterEntry × Configuration :=
  (c.interpreter? entry.language,
    { c with interpreters := c.interpreters.insert entry.language entry,
             interpreters_keyed := c.interpreters_keyed.insert rfl })

/-- Takes out the interpreter of the language and answers with it. -/
def removeInterpreter (c : Configuration) (language : String) :
    Option InterpreterEntry × Configuration :=
  (c.interpreter? language,
    { c with interpreters := c.interpreters.erase language,
             interpreters_keyed := c.interpreters_keyed.erase language })

/-- Registers a script; answers with the entry it replaces. -/
def addScript (c : Configuration) (entry : ScriptEntry) : Option ScriptEntry × Configuration :=
  (c.script? entry.id,
    { c with scripts := c.scripts.insert entry.id entry,
             scripts_keyed := c.scripts_keyed.insert rfl })

/-- Takes out the script with the id and answers with it. -/
def removeScript (c : Configuration) (id : UInt32) : Option ScriptEntry × Configuration :=
  (c.script? id,
    { c with scripts := c.scripts.erase id, scripts_keyed := c.scripts_keyed.erase id })

/-- The configuration with these parts; of entries with equal keys the last one stays. -/
def ofParts (api : Option ApiHandle) (interpreters : List InterpreterEntry)
    (scripts : List ScriptEntry) : Configuration :=
  let withInterpreters :=
    interpreters.foldl (fun c e => (c.addInterpreter e).2) { empty with api := api }
  scripts.foldl (fun c e => (c.addScript e).2) withInterpreters

/-- Whether the configurations have the same handle and, key by key, alike entries. -/
def alike (c d : Configuration) : Bool :=
  c.api == d.api &&
    c.interpreters.keys == d.interpreters.keys &&
    (c.interpreters.values.zip d.interpreters.values).all (fun e => e.1.alike e.2) &&
    c.scripts.keys == d.scripts.keys &&
    (c.scripts.values.zip d.scripts.values).all (fun e => e.1.alike e.2)

/-! ## 2. The configuration on one line -/

/-- A record on one line. -/
def recordText (name : String) (fields : List (String × String)) : String :=
  name ++ " \x7b " ++
    String.intercalate ", " (fields.map fun f => f.1 ++ ": " ++ f.2) ++ " \x7d"

/-- A catalog on one line. -/
def catalogText (entries : List (String × String)) : String :=
  "\x7b" ++ String.intercalate ", " (entries.map fun e => e.1 ++ ": " ++ e.2) ++ "\x7d"

/-- An interpreter entry on one line. -/
def interpreterText (e : InterpreterEntry) : String :=
  recordText "InterpreterEntry"
    [("language", Text.quoted e.language), ("module_path", Text.quotedBytes e.module.bytes)]

/-- A script entry on one line. -/
def scriptText (e : ScriptEntry) : String :=
  recordText "ScriptEntry"
    [("id", toString e.id), ("path", Text.quotedBytes e.path.bytes),
      ("language", Text.quoted e.language), ("cache_in_memory", toString e.cached),
      ("priority", toString e.priority)]

/-- The configuration on one line; of the host interface it shows only whether it is set. -/
def text (c : Configuration) : String :=
  recordText "Configuration"
    [("script_api", if c.api.isSome then "Some(\"<ScriptApi>\")" else "None"),
      ("interpreters",
        catalogText (c.interpreters.entries.map fun e => (Text.quoted e.1, interpreterText e.2))),
      ("scripts", catalogText (c.scripts.entries.map fun e => (toString e.1, scriptText e.2)))]

end Configuration

end ScriptHost
