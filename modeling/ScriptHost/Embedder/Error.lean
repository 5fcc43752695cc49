import ScriptHost.Configuration.Validation
import ScriptHost.Loader.Basic

/-!
# Embedder errors

Why an embedder does not take a configuration, a script or an interpreter, and why the execution of
a script has no return value.
-/

namespace ScriptHost

/-! ## 1. Changes that are refused -/

/-- Why a change is refused. -/
inductive EmbedderError where
  /-- The configuration breaks a rule. -/
  | invalidConfiguration (violation : Violation)
  /-- An interpreter of the configuration was not loaded. -/
  | interpreterNotLoaded (error : LoadError)
  /-- A script of the configuration that is to be kept in memory has no source. -/
  | cachedSourceUnreadable (id : UInt32) (path : Path)
  /-- There is no interpreter for a script to be added. -/
  | noInterpreterFor (id : UInt32) (language : String)
  /-- The file of a script to be added is missing. -/
  | missingFile (path : Path)
  /-- A script to be added and kept in memory has no source. -/
  | sourceUnreadable (id : UInt32) (path : Path)
  /-- An interpreter to be added was not loaded. -/
  | interpreterNotAdded (error : LoadError)
  /-- An interpreter is to be added without a host interface. -/
  | missingApi
  /-- The module of an interpreter to be added is not named like a library. -/
  | notLoadable (path : Path)
  deriving DecidableEq, Repr

/-- The error in words. -/
def EmbedderError.message : EmbedderError → String
  | .invalidConfiguration violation => s!"Configuration failed: {violation.message}"
  | .interpreterNotLoaded error => s!"Configuration failed: {error.message}."
  | .cachedSourceUnreadable id path =>
    s!"Configuration failed: source file '{path.display}' for script '{id}' " ++
      "does not open or is empty."
  | .noInterpreterFor id language =>
    s!"Could not add script '{id}': No suitable interpreter for language '{language}'."
  | .missingFile path => s!"Could not add script: file '{path.display}' does not exist."
  | .sourceUnreadable id path =>
    s!"Could not add script {id}: File '{path.display}' does not open or is empty."
  | .interpreterNotAdded error => s!"Could not add interpreter: {error.message}."
  | .missingApi => "Could not add interpreter: script API has not been set."
  | .notLoadable path =>
    s!"Could not add interpreter: module path '{path.display}' is not a loadable library."

/-! ## 2. Executions that fail -/

/-- Why an execution has no return value. -/
inductive ExecutionError where
  | noSuchScript (id : UInt32)
  | sourceUnreadable (path : Path)
  | noInterpreter (language : String)
  /-- The interpreter says so itself. -/
  | scriptFailed (message : String)
  deriving DecidableEq, Repr

/-- The error in words. -/
def ExecutionError.message : ExecutionError → String
  | .noSuchScript id => s!"Script '{id}' does not exist."
  | .sourceUnreadable path => s!"File '{path.display}' does not open or is empty."
  | .noInterpreter language => s!"No interpreter is loaded for language '{language}'."
  | .scriptFailed message => message

end ScriptHost
