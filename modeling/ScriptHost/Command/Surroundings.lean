import ScriptHost.Command.Perform
import ScriptHost.Library.Recognition

/-!
# Surroundings of a command

Which paths a command can look at. Those that may name a manifest depend on the arguments alone; the
others are what the manifest lists. Nothing else among the files plays a part.
-/

namespace ScriptHost.Command

/-- The paths that lead to the path, one for each of its segments. -/
def leads (p : Path) : List Path :=
  (List.range p.segments.length).map fun n => ⟨Text.joined Path.slash (p.segments.take (n + 1))⟩

/-- The paths that may name the manifest. -/
def manifestCandidates (home : Path) (args : List String) : List Path :=
  match Invocation.ofArguments args with
  | .error _ => []
  | .ok invocation =>
    match invocation.options.config with
    | some named => [Path.ofString named]
    | none => [Manifest.fileName, Manifest.userPath home]

/-- The paths that the manifest lists, with the manifest candidates already among the files. -/
def listedPaths (files : FileTree) (home : Path) (args : List String) : List Path :=
  match Invocation.ofArguments args with
  | .error _ => []
  | .ok invocation =>
    match manifestPath files home (invocation.options.config.map Path.ofString) with
    | .error _ => []
    | .ok path =>
      match Manifest.ofFile files path with
      | .error _ => []
      | .ok m => m.interpreters.map (·.module.place) ++ m.scripts.map (·.path)

end ScriptHost.Command
