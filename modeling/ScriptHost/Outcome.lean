/-!
# Outcomes

How the run of a script ends: with a return value, or with a message that says why it failed.
-/

namespace ScriptHost

/-- The end of a run. -/
inductive Outcome where
  | success (value : Int32)
  | failure (message : String)
  deriving DecidableEq, Repr

end ScriptHost
