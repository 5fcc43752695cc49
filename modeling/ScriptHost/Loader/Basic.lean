import ScriptHost.Module.Host

/-!
# Loaders

A loader opens the module of one interpreter entry and keeps it. Asked again, it hands out the
module that it keeps; the backend is asked only while none is kept.

* A module that declares another language than the entry is closed again at once.
* The error of the last attempt stays until the next attempt succeeds; unloading does not touch it.
-/

namespace ScriptHost

/-! ## 1. Errors -/

/-- Why a module was not loaded. -/
inductive LoadError where
  | cannotOpen (language : String) (path : Path) (reason : String)
  | noInterface (path : Path)
  | otherLanguage (path : Path) (expected found : String)
  deriving DecidableEq, Repr

/-- The error in words. -/
def LoadError.message : LoadError → String
  | .cannotOpen language path reason =>
    s!"Failed to load {language} plugin '{path.display}': {reason}"
  | .noInterface path => s!"Plugin '{path.display}' is not an interpreter plugin"
  | .otherLanguage path expected _ =>
    s!"Plugin '{path.display}' is not for desired language '{expected}'"

/-! ## 2. Loaders -/

/-- Loads the module of an entry. -/
structure Loader where
  entry : InterpreterEntry
  /-- The module that is kept. -/
  kept : Option Instance := none
  /-- The error of the last attempt. -/
  lastError : Option LoadError := none
  deriving DecidableEq, Repr

namespace Loader

/-- Whether a module is kept. -/
def isLoaded (l : Loader) : Bool := l.kept.isSome

/-- The error of the last attempt in words, empty if there is none. -/
def errorText (l : Loader) : String :=
  match l.lastError with
  | some e => e.message
  | none => ""

/-- Opens the module of the entry, while these instances are held, and checks its language. -/
def openVerified (l : Loader) (held : List Instance) (host : Host) :
    Turn (Except LoadError Instance) :=
  let path := l.entry.module
  let t := host.openModule held path
  match t.answer with
  | .error (.cannotOpen reason) =>
    ⟨.error (.cannotOpen l.entry.language path reason), t.host, t.effects⟩
  | .error (.noInterface reason) =>
    ⟨.error (.noInterface path), t.host, t.effects ++ [.traced (.interfaceRefused path reason)]⟩
  | .ok i =>
    if i.plugin.language = l.entry.language then ⟨.ok i, t.host, t.effects⟩
    else
      ⟨.error (.otherLanguage path l.entry.language i.plugin.language), t.host,
        t.effects ++ i.record .closed⟩

/-- Hands out the module: the one that is kept, or else a new one. These instances are held. -/
def load (l : Loader) (held : List Instance) (host : Host) :
    Turn (Except LoadError Instance × Loader) :=
  match l.kept with
  | some i => ⟨(.ok i, l), host, []⟩
  | none =>
    let t := l.openVerified held host
    match t.answer with
    | .ok i =>
      ⟨(.ok i, { l with kept := some i, lastError := none }), t.host,
        t.effects ++ [.traced (.moduleLoaded l.entry.language l.entry.module)]⟩
    | .error e =>
      ⟨(.error e, { l with lastError := some e }), t.host,
        t.effects ++ [.traced (.moduleRejected l.entry.language l.entry.module e.message)]⟩

/-- Lets go of the module. Answers with the module that was kept, which its holder may close. -/
def unload (l : Loader) : Option Instance × Loader := (l.kept, { l with kept := none })

/-- The diagnostic of letting go of a module. -/
def unloadedTrace (l : Loader) : List Effect :=
  match l.kept with
  | some _ => [.traced (.moduleUnloaded l.entry.language l.entry.module)]
  | none => []

end Loader

end ScriptHost
