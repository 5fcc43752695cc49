import ScriptHost.Configuration.Basic
import ScriptHost.FileTree
import ScriptHost.Path.Library

/-!
# Validation

Five rules make a configuration valid: there is a host interface; there is an interpreter; every
script has an interpreter for its language; every script's path exists; every module path is named
like a library.

The rules are checked in this order, scripts by ascending id with both of their rules at once, then
interpreters by ascending language. `Configuration.violation?` is the first rule broken.
-/

namespace ScriptHost

/-! ## 1. Violations -/

/-- A rule that a configuration breaks. -/
inductive Violation where
  | missingApi
  | noInterpreters
  | noInterpreterFor (id : UInt32) (language : String)
  | missingFile (id : UInt32) (path : Path)
  | notLoadable (language : String) (path : Path)
  deriving DecidableEq, Repr

/-- The violation in words. -/
def Violation.message : Violation → String
  | .missingApi => "Script API has not been set."
  | .noInterpreters => "At least one interpreter has to be set."
  | .noInterpreterFor id language =>
    s!"No suitable interpreter for '{language}' required by script(id={id})."
  | .missingFile id path => s!"Path '{path.display}' for script(id={id}) does not exist."
  | .notLoadable language path =>
    s!"Module path '{path.display}' of the '{language}' interpreter is not a loadable library."

namespace Configuration

/-! ## 2. The first violation -/

/-- The rule that the script breaks. -/
def scriptViolation? (c : Configuration) (files : FileTree) (script : ScriptEntry) :
    Option Violation :=
  if !c.interpreters.contains script.language then
    some (.noInterpreterFor script.id script.language)
  else if !files.exists? script.path then some (.missingFile script.id script.path)
  else none

/-- The rule that the interpreter breaks. -/
def interpreterViolation? (entry : InterpreterEntry) : Option Violation :=
  if entry.module.isLoadable then none else some (.notLoadable entry.language entry.module)

/-- The first rule that the configuration breaks. -/
def violation? (c : Configuration) (files : FileTree) : Option Violation :=
  if c.api.isNone then some .missingApi
  else if c.interpreters.isEmpty then some .noInterpreters
  else
    (c.scripts.values.findSome? (c.scriptViolation? files)).or
      (c.interpreters.values.findSome? interpreterViolation?)

/-- Whether no rule is broken. -/
def isValid (c : Configuration) (files : FileTree) : Bool := (c.violation? files).isNone

/-- The first violation in words, empty if there is none. -/
def errorText (c : Configuration) (files : FileTree) : String :=
  match c.violation? files with
  | some v => v.message
  | none => ""

end Configuration

end ScriptHost
