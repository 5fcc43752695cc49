import ScriptHost.Loader.Basic
import ScriptHost.Module.Interpreter

/-!
# Loading sessions

Any number of loaders, factories, interpreters and opened modules under names of their own. A
factory makes interpreters of one instance.

A module is held by each loader that keeps it, by each factory and interpreter of it, and by the
name it was opened under. **The instance is closed in the step in which its last holder lets go.**
Storing under a name that is taken lets go of the old value after the new one is made.
-/

namespace ScriptHost

/-! ## 1. Sessions and holders -/

/-- The values of a session by name. -/
structure Session where
  loaders : Catalog String Loader := Catalog.empty
  factories : Catalog String Instance := Catalog.empty
  interpreters : Catalog String Interpreter := Catalog.empty
  modules : Catalog String Instance := Catalog.empty
  deriving DecidableEq

namespace Session

/-- The instances that are held, once for each holder. -/
def held (s : Session) : List Instance :=
  s.loaders.values.filterMap (·.kept) ++ s.factories.values ++
    s.interpreters.values.map (·.source) ++ s.modules.values

/-- Whether anything holds the instance. -/
def holds (s : Session) (i : Instance) : Bool := s.held.any (·.serial == i.serial)

/-- The effects of letting go of an instance, in the session that is left. -/
def release (s : Session) : Option Instance → List Effect
  | none => []
  | some i => if s.holds i then [] else i.record .closed

/-! ## 2. Steps -/

/-- What can be done in a session. -/
inductive Step where
  /-- Open a module without a loader. -/
  | openModule (path : Path) (as : String)
  | newLoader (entry : InterpreterEntry) (loader : String)
  /-- Ask a loader for its module and store a factory of it. -/
  | load (loader as : String)
  | cloneFactory (factory target : String)
  | createInterpreter (factory target : String)
  | equip (interpreter : String) (api : Option ApiHandle)
  | run (interpreter script : String) (params : List String)
  /-- Make the next run of a recorder fail. -/
  | failNext (message : String)
  | unload (loader : String)
  | dropFactory (name : String)
  | dropInterpreter (name : String)
  | dropModule (name : String)
  | dropLoader (name : String)
  deriving DecidableEq

/-- What a step answers. -/
inductive Answer where
  | nothing
  /-- The step names a value that the session does not have. -/
  | unknownName
  | language (language : String)
  | outcome (outcome : Outcome)
  | existed (existed : Bool)
  | openFailed (error : OpenError)
  | loadFailed (error : LoadError)
  deriving DecidableEq

/-- The session with the factory stored, and what storing it lets go of. -/
def storeFactory (s : Session) (name : String) (i : Instance) : Session × List Effect :=
  let next := { s with factories := s.factories.insert name i }
  (next, next.release (s.factories.get? name))

/-- The effects of an interpreter's end, in the session that is left: the interpreter is destroyed,
then it lets go of its instance. -/
def forgetInterpreter (next : Session) : Option Interpreter → List Effect
  | none => []
  | some old => old.drop ++ next.release (some old.source)

/-- One step. -/
def step (s : Session) (host : Host) : Step → Turn (Answer × Session)
  | .openModule path as =>
    let t := host.openModule s.held path
    match t.answer with
    | .error e => ⟨(.openFailed e, s), t.host, t.effects⟩
    | .ok i =>
      let next := { s with modules := s.modules.insert as i }
      ⟨(.language i.plugin.language, next), t.host, t.effects ++ next.release (s.modules.get? as)⟩
  | .newLoader entry loader =>
    let next := { s with loaders := s.loaders.insert loader { entry } }
    ⟨(.nothing, next), host, next.release ((s.loaders.get? loader).bind (·.kept))⟩
  | .load loader as =>
    match s.loaders.get? loader with
    | none => ⟨(.unknownName, s), host, []⟩
    | some l =>
      let t := l.load s.held host
      let kept := { s with loaders := s.loaders.insert loader t.answer.2 }
      match t.answer.1 with
      | .error e => ⟨(.loadFailed e, kept), t.host, t.effects⟩
      | .ok i =>
        let (next, released) := kept.storeFactory as i
        ⟨(.language i.plugin.language, next), t.host, t.effects ++ released⟩
  | .cloneFactory factory target =>
    match s.factories.get? factory with
    | none => ⟨(.unknownName, s), host, []⟩
    | some i =>
      let (next, released) := s.storeFactory target i
      ⟨(.nothing, next), host, released⟩
  | .createInterpreter factory target =>
    match s.factories.get? factory with
    | none => ⟨(.unknownName, s), host, []⟩
    | some i =>
      let (made, created) := Interpreter.create i
      let next := { s with interpreters := s.interpreters.insert target made }
      ⟨(.language made.language, next), host,
        created ++ next.forgetInterpreter (s.interpreters.get? target)⟩
  | .equip interpreter api =>
    match s.interpreters.get? interpreter, api with
    | some i, some handle =>
      let (equipped, effects) := i.equip handle
      ⟨(.nothing, { s with interpreters := s.interpreters.insert interpreter equipped }), host,
        effects⟩
    | some _, none => ⟨(.nothing, s), host, []⟩
    | none, _ => ⟨(.unknownName, s), host, []⟩
  | .run interpreter script params =>
    match s.interpreters.get? interpreter with
    | none => ⟨(.unknownName, s), host, []⟩
    | some i =>
      let t := i.run host script params
      ⟨(.outcome t.answer.1,
        { s with interpreters := s.interpreters.insert interpreter t.answer.2 }), t.host, t.effects⟩
  | .failNext message => ⟨(.nothing, s), { host with pendingFailure := some message }, []⟩
  | .unload loader =>
    match s.loaders.get? loader with
    | none => ⟨(.unknownName, s), host, []⟩
    | some l =>
      let next := { s with loaders := s.loaders.insert loader l.unload.2 }
      ⟨(.nothing, next), host, next.release l.unload.1 ++ l.unloadedTrace⟩
  | .dropFactory name =>
    let next := { s with factories := s.factories.erase name }
    ⟨(.existed (s.factories.contains name), next), host, next.release (s.factories.get? name)⟩
  | .dropInterpreter name =>
    let next := { s with interpreters := s.interpreters.erase name }
    ⟨(.existed (s.interpreters.contains name), next), host,
      next.forgetInterpreter (s.interpreters.get? name)⟩
  | .dropModule name =>
    let next := { s with modules := s.modules.erase name }
    ⟨(.existed (s.modules.contains name), next), host, next.release (s.modules.get? name)⟩
  | .dropLoader name =>
    let next := { s with loaders := s.loaders.erase name }
    ⟨(.existed (s.loaders.contains name), next), host,
      next.release ((s.loaders.get? name).bind (·.kept))⟩

end Session

end ScriptHost
