import ScriptHost.Trace

/-!
# Effects

What an operation of the host does to the world around it, in order: the lives of modules, the
lines that scripts print, the reports to observers, and the diagnostics.

An observer changes nothing but the reports: it is told, and that is all.
-/

namespace ScriptHost

/-! ## 1. Lives of modules -/

/-- What happens to an opened module and to the interpreter made from it. -/
inductive Life where
  /-- The module was opened. -/
  | opened
  /-- An interpreter was made. -/
  | created
  /-- The interpreter got the host's interface. -/
  | equipped (api : ApiHandle)
  /-- The interpreter ran a script. -/
  | ran (script : String) (params : List String)
  /-- The interpreter was destroyed. -/
  | dropped
  /-- The module was closed. -/
  | closed
  deriving DecidableEq, Repr

/-! ## 2. Effects -/

/-- One effect. -/
inductive Effect where
  /-- Something happens to the module that was opened as the `serial`-th. -/
  | life (serial : Nat) (label : Path) (event : Life)
  /-- A script prints a line on a console. -/
  | printed (console : ApiHandle) (line : String)
  /-- The observer of this name is told something. -/
  | reported (observer : String) (report : Report)
  /-- A diagnostic is written. -/
  | traced (event : TraceEvent)
  deriving DecidableEq, Repr

/-! ## 3. Observers -/

/-- Who is told about the embedder. -/
inductive Observer where
  /-- An observer of the host's own. -/
  | named (name : String)
  /-- The diagnostics. -/
  | diagnostics
  deriving DecidableEq, Repr

/-- The effect of telling the observer. -/
def Observer.tell (o : Observer) (report : Report) : Effect :=
  match o with
  | .named name => .reported name report
  | .diagnostics => .traced (.observed report)

/-- The effects of telling whoever listens. -/
def tell (observer : Option Observer) (report : Report) : List Effect :=
  match observer with
  | some o => [o.tell report]
  | none => []

end ScriptHost
