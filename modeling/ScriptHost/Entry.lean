import ScriptHost.Path.Basic

/-!
# Entries

What a host is told about: scripts by number, interpreter modules by language, and the interface
that the host hands to its interpreters.

Entries are alike when they agree in all fields, paths compared by their components; the spelling of
a path is kept but does not count.
-/

namespace ScriptHost

/-! ## 1. Host interfaces -/

/-- The interface that interpreters get from the host. A name is an identity: two handles are the
same exactly when kind and name are. -/
inductive ApiHandle where
  /-- A console that Echo scripts can print to. -/
  | console (name : String)
  /-- Anything else. -/
  | other (name : String)
  deriving DecidableEq, Repr

/-- The name of the handle. -/
def ApiHandle.name : ApiHandle → String
  | .console name => name
  | .other name => name

/-! ## 2. Scripts -/

/-- A script that the host knows. -/
structure ScriptEntry where
  id : UInt32
  path : Path
  language : String
  /-- Whether the source is kept in memory. -/
  cached : Bool := false
  priority : UInt32 := 0
  deriving DecidableEq, Repr

/-- Whether the entries agree, with paths compared by components. -/
def ScriptEntry.alike (a b : ScriptEntry) : Bool :=
  a.id == b.id && a.path.alike b.path && a.language == b.language && a.cached == b.cached &&
    a.priority == b.priority

/-- An entry that holds nothing but the id. -/
def ScriptEntry.unknown (id : UInt32) : ScriptEntry := ⟨id, ⟨[]⟩, "", false, 0⟩

/-! ## 3. Interpreters -/

/-- An interpreter module, registered for one language. -/
structure InterpreterEntry where
  language : String
  module : Path
  deriving DecidableEq, Repr

/-- Whether the entries agree, with paths compared by components. -/
def InterpreterEntry.alike (a b : InterpreterEntry) : Bool :=
  a.language == b.language && a.module.alike b.module

end ScriptHost
