import ScriptHost.Loader.Basic
import ScriptHost.Module.Interpreter

/-!
# Loaded interpreters

What an embedder holds for each language: the loader that keeps the module, and the one interpreter
made from it, which has the host's interface from the beginning.

Nothing else holds the module, so unloading closes it: first the interpreter is destroyed, then the
module is closed.
-/

namespace ScriptHost

/-- An interpreter and the loader of its module. -/
structure Active where
  loader : Loader
  interpreter : Interpreter
  deriving DecidableEq

namespace Active

/-- The instances that these hold. -/
def held (active : List Active) : List Instance := active.map (·.interpreter.source)

/-- Loads the module of the entry, makes an interpreter and equips it. These instances are held. -/
def load (entry : InterpreterEntry) (api : ApiHandle) (held : List Instance) (host : Host) :
    Turn (Except LoadError Active) :=
  let t := Loader.load { entry } held host
  match t.answer with
  | (.error e, _) => ⟨.error e, t.host, t.effects⟩
  | (.ok i, loader) =>
    let (made, created) := Interpreter.create i
    let (equipped, given) := made.equip api
    ⟨.ok ⟨loader, equipped⟩, t.host, t.effects ++ created ++ given⟩

/-- The effects of destroying the interpreter and closing its module. -/
def close (a : Active) : List Effect :=
  a.interpreter.drop ++ a.interpreter.source.record .closed

/-- The effects of unloading, diagnostic included. -/
def unload (a : Active) : List Effect := a.close ++ a.loader.unloadedTrace

end Active

end ScriptHost
