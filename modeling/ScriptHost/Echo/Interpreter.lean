import ScriptHost.Echo.Statement
import ScriptHost.Entry
import ScriptHost.Outcome
import ScriptHost.Text.Numeral

/-!
# The Echo interpreter

Runs the statements of a script in order until one of them ends the run; a run that reaches the end
returns 0. What is printed goes to the console of the host, without which no run begins. Variables
stay set for later runs, also when a run fails.
-/

namespace ScriptHost.Echo

/-! ## 1. Failures -/

/-- Why a run fails. -/
inductive Failure where
  /-- The host gave no interface. -/
  | noApi
  /-- The host's interface is no console. -/
  | noConsole
  | invalidName (line : Nat) (name : List Char)
  | invalidExit (line : Nat) (code : List Char)
  | unknownStatement (line : Nat) (keyword : List Char)
  /-- A `fail` statement. -/
  | declared (text : List Char)
  deriving DecidableEq, Repr

/-- The failure in words. -/
def Failure.message : Failure → String
  | .noApi => "host API has not been set"
  | .noConsole => "host API is not an EchoConsole"
  | .invalidName line name => s!"line {line}: invalid variable name '{String.ofList name}'"
  | .invalidExit line code => s!"line {line}: invalid exit code '{String.ofList code}'"
  | .unknownStatement line keyword => s!"line {line}: unknown statement '{String.ofList keyword}'"
  | .declared text => String.ofList text

/-! ## 2. Runs -/

/-- What a run leaves. -/
structure Run where
  result : Except Failure Int32
  /-- The printed lines in order. -/
  printed : List (List Char)
  globals : Globals

/-- The run with a line printed before it. -/
def Run.printing (line : List Char) (r : Run) : Run := { r with printed := line :: r.printed }

/-- The code that an expanded text denotes. -/
def exitCode (line : Nat) (text : List Char) : Except Failure Int32 :=
  match Numeral.int32? (Text.trim text) with
  | some value => .ok value
  | none => .error (.invalidExit line (Text.trim text))

/-- Runs the statements, the first of which stands on the given line. -/
def execute (params : List (List Char)) : Nat → List Statement → Globals → Run
  | _, [], globals => ⟨.ok 0, [], globals⟩
  | line, s :: rest, globals =>
    let expand := Scope.expand ⟨params, globals⟩
    match s with
    | .blank => execute params (line + 1) rest globals
    | .print text => (execute params (line + 1) rest globals).printing (expand text)
    | .assign name text => execute params (line + 1) rest (globals.insert name (expand text))
    | .exit text => ⟨exitCode line (expand text), [], globals⟩
    | .fail text => ⟨.error (.declared (expand text)), [], globals⟩
    | .badName name => ⟨.error (.invalidName line name), [], globals⟩
    | .unknown keyword => ⟨.error (.unknownStatement line keyword), [], globals⟩

/-! ## 3. Interpreters -/

/-- An interpreter: the interface it got from the host and the variables that are set. -/
structure Interpreter where
  api : Option ApiHandle := none
  globals : Globals := Catalog.empty
  deriving DecidableEq

namespace Interpreter

/-- The console to print to. -/
def console : Interpreter → Except Failure ApiHandle
  | ⟨none, _⟩ => .error .noApi
  | ⟨some (.other _), _⟩ => .error .noConsole
  | ⟨some (.console name), _⟩ => .ok (.console name)

/-- Runs a script; without a console it runs no statement. -/
def run (i : Interpreter) (script : String) (params : List String) : Run :=
  match i.console with
  | .error e => ⟨.error e, [], i.globals⟩
  | .ok _ => execute (params.map String.toList) 1 (statements script.toList) i.globals

/-- The variable's value. -/
def global? (i : Interpreter) (name : String) : Option String :=
  (i.globals.get? name.toList).map String.ofList

end Interpreter

/-- What the run answers to the host. -/
def Run.outcome (r : Run) : Outcome :=
  match r.result with
  | .ok value => .success value
  | .error e => .failure e.message

/-- The text of a console on one line. -/
def consoleText : String := "EchoConsole \x7b .. \x7d"

end ScriptHost.Echo
