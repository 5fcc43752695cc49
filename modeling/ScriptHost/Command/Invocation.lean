import ScriptHost.Path.Basic

/-!
# Invocations

What the command line asks for: an action, whether the reports are JSON, and which manifest to load;
and the ways in which the arguments can fail to ask for anything.
-/

namespace ScriptHost.Command

/-! ## 1. Invocations -/

/-- What is to be done. -/
inductive Action where
  /-- Validate the manifest and load every interpreter. -/
  | check
  /-- Run one script with arguments. -/
  | run (id : UInt32) (args : List String)
  /-- List the entries of the manifest. -/
  | list
  deriving DecidableEq, Repr

/-- The options, which may stand before and behind the name of the action. -/
structure Options where
  /-- The manifest to load. -/
  config : Option String := none
  /-- Whether reports and lists are JSON. -/
  json : Bool := false
  deriving DecidableEq, Repr

/-- The options of an action within those before it: a manifest given behind the action counts. -/
def Options.within (inner outer : Options) : Options :=
  ⟨inner.config.or outer.config, inner.json || outer.json⟩

/-- An action with its options. -/
structure Invocation where
  options : Options
  action : Action
  deriving DecidableEq, Repr

/-! ## 2. Failures -/

/-- Why arguments are no invocation. -/
inductive ArgumentError where
  | unknownArgument
  | unknownAction
  /-- There are options but no action. -/
  | missingAction
  | missingId
  /-- An option has no value, or an empty one. -/
  | missingValue
  | invalidId
  | repeatedOption
  /-- A flag has a value. -/
  | valueOfFlag
  | helpAsked
  /-- There are no arguments at all. -/
  | nothingGiven
  deriving DecidableEq, Repr

/-- The exit status for the failure. -/
def ArgumentError.status : ArgumentError → Nat
  | .helpAsked => 0
  | _ => 2

end ScriptHost.Command
