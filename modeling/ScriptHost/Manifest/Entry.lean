import ScriptHost.Entry
import ScriptHost.Manifest.Field

/-!
# Entries of a manifest

An entry is a table. Its fields are read in the order in which they stand there, and the first fault
counts; then those that are missing are looked for. Keys that name no field do not count.

An entry may also be written as an array: its elements are the fields in order, and the fields that
need not be there come last.
-/

namespace ScriptHost.Manifest

/-- The entries of a TOML table. -/
abbrev Table := List (String × Toml.Value)

/-! ## 1. Interpreters -/

/-- The fields of an interpreter entry that have been read. -/
structure InterpreterDraft where
  language : Option String := none
  module : Option Path := none
  deriving DecidableEq

/-- The draft with one more field. -/
def InterpreterDraft.read (d : InterpreterDraft) (field : String × Toml.Value) :
    Except Fault InterpreterDraft :=
  if field.1 = "language" then (string field.2).map fun s => { d with language := some s }
  else if field.1 = "module" then (path field.2).map fun p => { d with module := some p }
  else .ok d

/-- The entry, if no field is missing. -/
def InterpreterDraft.finish (d : InterpreterDraft) : Except Fault InterpreterEntry := do
  let language ← required "language" d.language
  let module ← required "module" d.module
  return ⟨language, module⟩

/-- The interpreter entry of a table. -/
def interpreterOfTable (t : Table) : Except Fault InterpreterEntry := do
  let draft ← t.foldlM InterpreterDraft.read {}
  draft.finish

/-- The fields of an interpreter entry in the order of its elements. -/
def interpreterFields : List String := ["language", "module"]

/-- The interpreter entry of an array. -/
def interpreterOfArray (elements : List Toml.Value) : Except Fault InterpreterEntry := do
  let draft ← (interpreterFields.zip elements).foldlM InterpreterDraft.read {}
  if elements.length < interpreterFields.length then
    .error (.tooShort elements.length .interpreter interpreterFields.length)
  else draft.finish

/-- An interpreter entry. A date has none of the fields. -/
def interpreterEntry : Toml.Value → Except Fault InterpreterEntry
  | .table t => interpreterOfTable t
  | .array elements => interpreterOfArray elements
  | .datetime _ => interpreterOfTable []
  | v => .error (.wrongKind v .interpreter)

/-! ## 2. Scripts -/

/-- The fields of a script entry that have been read. -/
structure ScriptDraft where
  id : Option UInt32 := none
  path : Option Path := none
  language : Option String := none
  cached : Option Bool := none
  priority : Option UInt32 := none
  deriving DecidableEq

/-- The draft with one more field. -/
def ScriptDraft.read (d : ScriptDraft) (field : String × Toml.Value) : Except Fault ScriptDraft :=
  if field.1 = "id" then (uint32 field.2).map fun n => { d with id := some n }
  else if field.1 = "path" then (Manifest.path field.2).map fun p => { d with path := some p }
  else if field.1 = "language" then (string field.2).map fun s => { d with language := some s }
  else if field.1 = "cache_in_memory" then
    (boolean field.2).map fun b => { d with cached := some b }
  else if field.1 = "priority" then (uint32 field.2).map fun n => { d with priority := some n }
  else .ok d

/-- The entry, if no field is missing that has to be there. -/
def ScriptDraft.finish (d : ScriptDraft) : Except Fault ScriptEntry := do
  let id ← required "id" d.id
  let path ← required "path" d.path
  let language ← required "language" d.language
  return ⟨id, path, language, d.cached.getD false, d.priority.getD 0⟩

/-- The script entry of a table. -/
def scriptOfTable (t : Table) : Except Fault ScriptEntry := do
  let draft ← t.foldlM ScriptDraft.read {}
  draft.finish

/-- The fields of a script entry in the order of its elements. -/
def scriptFields : List String := ["id", "path", "language", "cache_in_memory", "priority"]

/-- How many fields of a script entry have to be there. -/
def scriptRequired : Nat := 3

/-- The script entry of an array. -/
def scriptOfArray (elements : List Toml.Value) : Except Fault ScriptEntry := do
  let draft ← (scriptFields.zip elements).foldlM ScriptDraft.read {}
  if elements.length < scriptRequired then
    .error (.tooShort elements.length .script scriptFields.length)
  else draft.finish

/-- A script entry. A date has none of the fields. -/
def scriptEntry : Toml.Value → Except Fault ScriptEntry
  | .table t => scriptOfTable t
  | .array elements => scriptOfArray elements
  | .datetime _ => scriptOfTable []
  | v => .error (.wrongKind v .script)

end ScriptHost.Manifest
