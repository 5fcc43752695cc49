import ScriptHost.Effect
import ScriptHost.Module.Backend
import ScriptHost.Outcome

/-!
# The host and its modules

The surroundings of every operation: the files, the backend, how many modules it was asked for, and
a failure that a recorder is to answer with.

* An opened module is an instance; its serial number is the number of openings that came before, so
  no two instances share one.
* The library of a module stays in memory while an instance of the module is held. Openings are told
  which instances are.
* What happens to a module is an effect, unless it is an Echo module.
* What a custom interpreter answers and prints is the host's `Conduct`, which may be any. An
  interpreter is told apart from others of its engine by what it has gone through, so whatever it
  remembers is a function of that.
-/

namespace ScriptHost

/-! ## 1. The host -/

/-- What a run of a custom interpreter comes to. -/
structure CustomRun where
  outcome : Outcome
  /-- The lines that it prints, each with its console. -/
  printed : List (ApiHandle × String) := []
  deriving DecidableEq, Repr

/-- What the runs of custom interpreters come to: by the name of the engine, what the interpreter has
gone through so far, the script and the params. -/
abbrev Conduct := String → List Life → String → List String → CustomRun

/-- Every run returns 0 and prints nothing. -/
def Conduct.idle : Conduct := fun _ _ _ _ => { outcome := .success 0 }

/-- What operations work in. -/
structure Host where
  files : FileTree
  backend : Backend
  /-- How many modules the backend was asked for. -/
  asked : Nat := 0
  /-- The libraries that were in memory after the last opening. -/
  residents : List Library.Resident := []
  /-- The failure that the next run of a recorder answers with. -/
  pendingFailure : Option String := none
  /-- What custom interpreters answer and print. -/
  conduct : Conduct := Conduct.idle

/-- What an operation leaves: an answer, the host, and its effects in order. -/
structure Turn (α : Type) where
  answer : α
  host : Host
  effects : List Effect := []

/-- The turn with another answer. -/
def Turn.map {α β : Type} (f : α → β) (t : Turn α) : Turn β := ⟨f t.answer, t.host, t.effects⟩

/-- The turn with effects before its own. -/
def Turn.after {α : Type} (effects : List Effect) (t : Turn α) : Turn α :=
  { t with effects := effects ++ t.effects }

/-! ## 2. Instances -/

/-- An opened module. -/
structure Instance where
  serial : Nat
  plugin : Plugin
  /-- The library that it keeps in memory, if there is one. -/
  library : Option Library.LibraryId := none
  deriving DecidableEq, Repr

/-- The record of what happens to the instance. -/
def Instance.record (i : Instance) (event : Life) : List Effect :=
  match i.plugin.engine.label? with
  | some label => [.life i.serial label event]
  | none => []

/-- What the backend sees while these instances are held. -/
def Host.scene (h : Host) (held : List Instance) : Scene :=
  ⟨h.asked, h.files, h.residents, held.filterMap (·.library)⟩

/-- Asks the backend for the module at the path, while these instances are held. -/
def Host.openModule (h : Host) (held : List Instance) (path : Path) :
    Turn (Except OpenError Instance) :=
  let opening := h.backend.answer (h.scene held) path
  let after := { h with asked := h.asked + 1, residents := opening.residents }
  match opening.answer with
  | .error e => ⟨.error e, after, []⟩
  | .ok found =>
    let i : Instance := ⟨h.asked, found.plugin, found.library⟩
    let announced :=
      if h.backend.announces then [Effect.traced (.moduleOpened path found.plugin.language)] else []
    ⟨.ok i, after, i.record .opened ++ announced⟩

end ScriptHost
