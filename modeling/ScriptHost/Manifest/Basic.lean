import ScriptHost.Configuration.Basic
import ScriptHost.Effect
import ScriptHost.FileTree
import ScriptHost.Manifest.Entry
import ScriptHost.Toml.Document

/-!
# Manifests

A manifest lists interpreters and scripts; it is written as a TOML document with an array
`interpreter` and an array `script`, either of which may be missing. The entries stay in the order
of the document, and entries with equal keys stay too.

Relative paths in a manifest file are meant from the directory of the file (`Manifest.resolve`).
-/

namespace ScriptHost

/-! ## 1. Manifests and errors -/

/-- Interpreters and scripts in the order of a document. -/
structure Manifest where
  interpreters : List InterpreterEntry := []
  scripts : List ScriptEntry := []
  deriving DecidableEq, Repr

/-- Why there is no manifest. -/
inductive ManifestError where
  | unreadable (path : Path) (error : FileError)
  /-- The text is no TOML document. -/
  | malformed
  /-- The document is no manifest. -/
  | unfit (fault : Manifest.Fault)

namespace ManifestError

/-- What lies behind the error, in words. -/
def cause : ManifestError → String
  | .unreadable _ error => error.message
  | .malformed => "TOML parse error"
  | .unfit fault => fault.message

/-- The error in words. -/
def message (e : ManifestError) : String :=
  match e with
  | .unreadable path _ => s!"cannot read manifest '{path.display}': {e.cause}"
  | _ => s!"invalid manifest: {e.cause}"

end ManifestError

namespace Manifest

/-! ## 2. Reading -/

/-- The manifest with one more entry of the root table. -/
def readField (m : Manifest) (field : String × Toml.Value) : Except Fault Manifest :=
  if field.1 = "interpreter" then
    ((sequence field.2).bind (·.mapM interpreterEntry)).map fun es => { m with interpreters := es }
  else if field.1 = "script" then
    ((sequence field.2).bind (·.mapM scriptEntry)).map fun es => { m with scripts := es }
  else .ok m

/-- The manifest that a root table says. -/
def ofTable (root : Table) : Except Fault Manifest := root.foldlM readField {}

/-- The manifest that is written in the text. -/
def parse (text : String) : Except ManifestError Manifest :=
  match Toml.read? text with
  | none => .error .malformed
  | some root =>
    match ofTable root with
    | .ok m => .ok m
    | .error fault => .error (.unfit fault)

/-! ## 3. Paths -/

/-- The manifest with its relative paths seen from the base. -/
def resolve (m : Manifest) (base : Path) : Manifest :=
  ⟨m.interpreters.map fun e => { e with module := base.join e.module },
    m.scripts.map fun e => { e with path := base.join e.path }⟩

/-- The manifest of a file, its paths seen from the directory of the file. -/
def ofFile (files : FileTree) (path : Path) : Except ManifestError Manifest :=
  match files.readText path with
  | .error error => .error (.unreadable path error)
  | .ok text =>
    match parse text with
    | .error error => .error error
    | .ok m =>
      match path.parent? with
      | some directory => .ok (m.resolve directory)
      | none => .ok m

/-- The effects of having read a manifest from the file. -/
def loadedTrace (m : Manifest) (path : Path) : List Effect :=
  [.traced (.manifestLoaded path m.interpreters.length m.scripts.length)]

/-- The name of a manifest file. -/
def fileName : Path := Path.ofString "scriptor.toml"

/-- The manifest of a user, below the user's home directory. -/
def userPath (home : Path) : Path := (home.join (Path.ofString ".scriptor")).join fileName

/-! ## 4. Configurations -/

/-- The configuration with the manifest's entries; of entries with equal keys the last one stays. -/
def configuration (m : Manifest) (api : ApiHandle) : Configuration :=
  .ofParts (some api) m.interpreters m.scripts

end Manifest

end ScriptHost
