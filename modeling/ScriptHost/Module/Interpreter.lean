import ScriptHost.Echo.Interpreter
import ScriptHost.Module.Host

/-!
# Interpreters of a module

An interpreter belongs to the instance of the module that made it and keeps a state of its own: that
of an Echo interpreter, the number of runs that succeeded, or all that it has gone through.

A recorder answers a run with the pending failure of the host if there is one, which is then used
up, and else with the number of its successful runs. A custom interpreter answers and prints as the
host says.
-/

namespace ScriptHost

/-! ## 1. States -/

/-- What an interpreter remembers. -/
inductive Memory where
  | echo (interpreter : Echo.Interpreter)
  | recorder (successes : Int32)
  | custom (name : String) (past : List Life)
  deriving DecidableEq

/-- What a new interpreter of the engine remembers. -/
def Engine.memory : Engine → Memory
  | .echo => .echo {}
  | .recorder _ => .recorder 0
  | .custom name => .custom name []

/-- An interpreter. -/
structure Interpreter where
  /-- The instance that made it. -/
  source : Instance
  memory : Memory
  deriving DecidableEq

namespace Interpreter

/-! ## 2. Operations -/

/-- The language of the interpreter. -/
def language (i : Interpreter) : String := i.source.plugin.language

/-- A new interpreter of the instance. -/
def create (source : Instance) : Interpreter × List Effect :=
  (⟨source, source.plugin.engine.memory⟩, source.record .created)

/-- Gives the interpreter the host's interface. -/
def equip (i : Interpreter) (api : ApiHandle) : Interpreter × List Effect :=
  match i.memory with
  | .echo e => ({ i with memory := .echo { e with api := some api } }, [])
  | .recorder _ => (i, i.source.record (.equipped api))
  | .custom name past =>
    ({ i with memory := .custom name (past ++ [.equipped api]) }, i.source.record (.equipped api))

/-- The effects of the lines that an Echo run prints. -/
def printedOn (e : Echo.Interpreter) (run : Echo.Run) : List Effect :=
  match e.console with
  | .ok console => run.printed.map fun line => .printed console (String.ofList line)
  | .error _ => []

/-- Runs a script. -/
def run (i : Interpreter) (host : Host) (script : String) (params : List String) :
    Turn (Outcome × Interpreter) :=
  let ran := i.source.record (.ran script params)
  match i.memory with
  | .echo e =>
    let r := e.run script params
    ⟨(r.outcome, { i with memory := .echo { e with globals := r.globals } }), host, printedOn e r⟩
  | .recorder successes =>
    match host.pendingFailure with
    | some message => ⟨(.failure message, i), { host with pendingFailure := none }, ran⟩
    | none =>
      ⟨(.success (successes + 1), { i with memory := .recorder (successes + 1) }), host, ran⟩
  | .custom name past =>
    let r := host.conduct name past script params
    ⟨(r.outcome, { i with memory := .custom name (past ++ [.ran script params]) }), host,
      ran ++ r.printed.map fun line => .printed line.1 line.2⟩

/-- The record of the interpreter's end. -/
def drop (i : Interpreter) : List Effect := i.source.record .dropped

end Interpreter

end ScriptHost
