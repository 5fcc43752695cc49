import ScriptHost.Embedder.Change
import ScriptHost.Embedder.Execution

/-!
# Steps of an embedder

Everything that can happen while an embedder lives: its own operations, and changes of the files
between them. A history of an embedder is a list of steps.
-/

namespace ScriptHost.Embedder

/-- What can be done. -/
inductive Step where
  | reset (conf : Configuration)
  /-- Reset with the committed configuration. -/
  | resetSame
  | addScript (script : ScriptEntry)
  | removeScript (id : UInt32)
  | addInterpreter (entry : InterpreterEntry)
  | execute (id : UInt32) (params : List String)
  | setObserver (observer : Option Observer)
  /-- Validate the committed configuration. -/
  | validate
  /-- Make the next run of a recorder fail. -/
  | failNext (message : String)
  /-- Put a node into the files. -/
  | write (path : Path) (node : Node)
  /-- Take a node out of the files. -/
  | delete (path : Path)
  deriving DecidableEq

/-- What a step answers. -/
inductive Answer where
  | nothing
  | done
  | refused (error : EmbedderError)
  | returned (value : Int32)
  | failed (error : ExecutionError)
  | removed (entry : Option ScriptEntry)
  | validity (violation : Option Violation)
  deriving DecidableEq

/-- The answer to a change. -/
def Answer.ofChange : Except EmbedderError Unit → Answer
  | .ok () => .done
  | .error err => .refused err

/-- The answer to an execution. -/
def Answer.ofExecution : Except ExecutionError Int32 → Answer
  | .ok value => .returned value
  | .error err => .failed err

/-- One step. -/
def step (e : Embedder) (host : Host) : Step → Turn (Answer × Embedder)
  | .reset conf => (e.reset conf host).map fun a => (.ofChange a.1, a.2)
  | .resetSame => (e.reset e.configuration host).map fun a => (.ofChange a.1, a.2)
  | .addScript script => (e.addScript host script).map fun a => (.ofChange a.1, a.2)
  | .removeScript id => (e.removeScript host id).map fun a => (.removed a.1, a.2)
  | .addInterpreter entry => (e.addInterpreter host entry).map fun a => (.ofChange a.1, a.2)
  | .execute id params => (e.execute host id params).map fun a => (.ofExecution a.1, a.2)
  | .setObserver observer => ⟨(.nothing, { e with observer }), host, []⟩
  | .validate => ⟨(.validity (e.configuration.violation? host.files), e), host, []⟩
  | .failNext message => ⟨(.nothing, e), { host with pendingFailure := some message }, []⟩
  | .write path node => ⟨(.nothing, e), { host with files := host.files.write path node }, []⟩
  | .delete path => ⟨(.nothing, e), { host with files := host.files.delete path }, []⟩

end ScriptHost.Embedder
