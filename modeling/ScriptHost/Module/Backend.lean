import ScriptHost.Library.Resident

/-!
# Backends

A backend opens modules by path and checks their interface. It answers with the plugin behind the
module, or says why there is none.

* A backend may answer differently from one opening to the next; it sees how many came before, the
  files, which libraries it left in memory, and which of them are held.
* A registry is a backend within the process: it serves what was registered last under an alike
  path, whatever the files.
-/

namespace ScriptHost

/-! ## 1. Backends -/

/-- Why a backend has no plugin to offer. -/
inductive OpenError where
  /-- There is no module to open. -/
  | cannotOpen (reason : String)
  /-- The module does not declare the host's interface. -/
  | noInterface (reason : String)
  deriving DecidableEq, Repr

/-- The error in words. -/
def OpenError.message : OpenError → String
  | .cannotOpen reason => reason
  | .noInterface reason => reason

/-- What a backend sees of the host when it is asked for a module. -/
structure Scene where
  /-- How many openings came before. -/
  before : Nat
  files : FileTree
  /-- The libraries that were in memory after the last opening. -/
  residents : List Library.Resident := []
  /-- The libraries that are still held. -/
  held : List Library.LibraryId := []

/-- A module that a backend has found. -/
structure FoundModule where
  plugin : Plugin
  /-- The library that it is, if it is one. -/
  library : Option Library.LibraryId := none
  deriving DecidableEq, Repr

/-- What a backend answers to an opening. -/
structure Opening where
  answer : Except OpenError FoundModule
  /-- The libraries in memory afterwards. -/
  residents : List Library.Resident := []

/-- Opens modules. -/
structure Backend where
  /-- Whether a diagnostic is written for each opened module. -/
  announces : Bool
  /-- The answer to an opening. -/
  answer : Scene → Path → Opening

/-! ## 2. Registries -/

/-- What is registered under a path. -/
inductive Registered where
  | plugin (plugin : Plugin)
  /-- A module without the interface. -/
  | foreign
  deriving DecidableEq, Repr

/-- Registrations, the latest first. -/
structure Registry where
  registrations : List (Path × Registered)
  deriving DecidableEq, Repr

namespace Registry

/-- The registry without registrations. -/
def empty : Registry := ⟨[]⟩

/-- Registers under the path. -/
def register (r : Registry) (path : Path) (what : Registered) : Registry :=
  ⟨(path, what) :: r.registrations⟩

/-- The latest registration under an alike path. -/
def find? (r : Registry) (path : Path) : Option Registered :=
  (r.registrations.find? (·.1.alike path)).map (·.2)

/-- What opening the path answers. -/
def opening (r : Registry) (path : Path) : Except OpenError FoundModule :=
  match r.find? path with
  | some (.plugin plugin) => .ok ⟨plugin, none⟩
  | some .foreign => .error (.noInterface "no plugin declaration")
  | none => .error (.cannotOpen s!"no module registered at '{path.display}'")

/-- The backend that serves the registrations. -/
def backend (r : Registry) : Backend :=
  ⟨false, fun scene path => ⟨r.opening path, scene.residents⟩⟩

/-- **Alike paths reach the same registration.** -/
theorem find?_eq_of_alike (r : Registry) {p q : Path} (h : p.alike q = true) :
    r.find? p = r.find? q := by
  have hc := Path.alike_iff.1 h
  simp [find?, Path.alike, hc]

end Registry

end ScriptHost
