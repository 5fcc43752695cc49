import ScriptHost.Command.Invocation
import ScriptHost.Effect
import ScriptHost.Manifest.Basic
import ScriptHost.Text.Split

/-!
# Completions

How a command ends: an exit status and what it wrote to the two streams. The lines that scripts
print go to the output; reports and the error that ends the command go to the error stream.
-/

namespace ScriptHost.Command

/-! ## 1. Completions -/

/-- The end of a command. -/
structure Completion where
  status : Nat
  out : String := ""
  err : String := ""
  deriving DecidableEq, Repr

/-- The exit status for the return value of a script. A value that no status can show becomes 1. -/
def exitStatus (value : Int32) : Nat :=
  if 0 ≤ value.toInt ∧ value.toInt ≤ 255 then value.toInt.toNat else 1

/-! ## 2. Errors with causes -/

/-- A cause with its number, if there are several, and with its further lines indented. -/
def causeText (number : Option Nat) (cause : String) : String :=
  let lead := match number with
    | some n => String.ofList (List.replicate (5 - (toString n).length) ' ') ++ s!"{n}: "
    | none => "    "
  let indent := if number.isSome then "       " else "    "
  let lines := (Text.split '\n' cause.toList).map String.ofList
  "\n" ++ lead ++ String.intercalate ("\n" ++ indent) lines

/-- The causes of an error, the outermost first. -/
def causesText : List String → String
  | [] => ""
  | [cause] => "\n\nCaused by:" ++ causeText none cause
  | causes =>
    "\n\nCaused by:" ++ String.join (causes.zipIdx.map fun c => causeText (some c.2) c.1)

/-- The error that ends a command, with its causes. -/
def errorText (message : String) (causes : List String) : String :=
  s!"Error: {message}{causesText causes}\n"

/-- The end of a command with an error, behind what it has written to the error stream. -/
def Completion.failed (before message : String) (causes : List String) : Completion :=
  ⟨1, "", before ++ errorText message causes⟩

/-! ## 3. Streams -/

/-- The printed line of an effect. -/
def printedText : Effect → String
  | .printed _ line => line ++ "\n"
  | _ => ""

/-- The written report of an effect. -/
def reportedText (format : Report.Format) : Effect → String
  | .reported _ report => report.write format
  | _ => ""

/-- What the effects write to the output. -/
def outOf (effects : List Effect) : String := String.join (effects.map printedText)

/-- What the effects write to the error stream. -/
def errOf (format : Report.Format) (effects : List Effect) : String :=
  String.join (effects.map (reportedText format))

end ScriptHost.Command
