import ScriptHost.Command.Arguments
import ScriptHost.Command.Completion
import ScriptHost.Command.Listing
import ScriptHost.Library.Opening
import ScriptHost.Embedder.Execution

/-!
# Performing a command

From arguments, a home directory and the files to a completion. The manifest is the one that the
options name, else the one in the working directory, else the user's.

An embedder is built from the manifest with a console on the output. When it is not valid, the
command ends with its error, whether it was to check or to run.

The modules of the manifest are opened by a backend, and custom interpreters answer as a conduct
says. Both may be any; the command itself opens dynamic libraries.
-/

namespace ScriptHost.Command

/-! ## 1. The manifest -/

/-- There is no manifest to load. -/
structure NoManifest where
  /-- Where the user's manifest would be. -/
  userPath : Path
  deriving DecidableEq, Repr

/-- The error in words. -/
def NoManifest.message (e : NoManifest) : String :=
  s!"no {Manifest.fileName.display} in the current directory and none at {e.userPath.display}"

/-- The path of the manifest to load. -/
def manifestPath (files : FileTree) (home : Path) (named : Option Path) :
    Except NoManifest Path :=
  match named with
  | some path => .ok path
  | none =>
    let userPath := Manifest.userPath home
    if files.exists? Manifest.fileName then .ok Manifest.fileName
    else if files.exists? userPath then .ok userPath
    else .error ⟨userPath⟩

/-! ## 2. Actions -/

/-- The console on the output. -/
def console : ApiHandle := .console "stdout"

/-- The observer that writes to the error stream. -/
def observer : Observer := .named "stderr"

/-- The format of the reports. -/
def Options.format (o : Options) : Report.Format := if o.json then .json else .text

/-- The embedder of a manifest. -/
def embed (m : Manifest) (host : Host) : Turn Embedder :=
  Embedder.new (m.configuration console) (some observer) host

/-- Builds the embedder and goes on if it is valid. -/
def withEmbedder (m : Manifest) (host : Host) (format : Report.Format)
    (next : Turn Embedder → Completion) : Completion :=
  let t := embed m host
  if t.answer.isValid then next t
  else .failed (errOf format t.effects) t.answer.errorText []

/-- Lists the entries. A path without a text cannot be listed as JSON, which ends the command. -/
def performList (m : Manifest) (json : Bool) : Completion :=
  if json then
    match listJson m with
    | some value => ⟨0, value.write ++ "\n", ""⟩
    | none => ⟨101, "", "path contains invalid UTF-8 characters\n"⟩
  else ⟨0, listText m, ""⟩

/-- Checks the manifest. -/
def performCheck (m : Manifest) (host : Host) (format : Report.Format) : Completion :=
  withEmbedder m host format fun t =>
    ⟨0, outOf t.effects ++ "configuration ok\n", errOf format t.effects⟩

/-- The exit status for the end of an execution. -/
def statusOf : Except ExecutionError Int32 → Nat
  | .ok value => exitStatus value
  | .error _ => 1

/-- Runs a script. -/
def performRun (m : Manifest) (host : Host) (format : Report.Format) (id : UInt32)
    (args : List String) : Completion :=
  withEmbedder m host format fun built =>
    let ran := built.answer.execute built.host id args
    let effects := built.effects ++ ran.effects
    ⟨statusOf ran.answer.1, outOf effects, errOf format effects⟩

/-- Performs the action on a manifest. -/
def performAction (m : Manifest) (host : Host) (invocation : Invocation) : Completion :=
  let format := invocation.options.format
  match invocation.action with
  | .list => performList m invocation.options.json
  | .check => performCheck m host format
  | .run id args => performRun m host format id args

/-! ## 3. Commands -/

/-- The error of a manifest that does not load. -/
def loadFailure (path : Path) (e : ManifestError) : Completion :=
  .failed "" s!"loading {path.display}" [e.message, e.cause]

/-- Performs the invocation. -/
def performInvocation (host : Host) (home : Path) (invocation : Invocation) : Completion :=
  match manifestPath host.files home (invocation.options.config.map Path.ofString) with
  | .error e => .failed "" e.message []
  | .ok path =>
    match Manifest.ofFile host.files path with
    | .error e => loadFailure path e
    | .ok m => performAction m host invocation

/-- What the command says about its arguments. -/
def usage : String :=
  "Usage: scriptor [--config <PATH>] [--json] check | list | run <ID> [ARGS]...\n"

/-- The completion for arguments that are no invocation. -/
def refuse (e : ArgumentError) : Completion :=
  if e = .helpAsked then ⟨e.status, usage, ""⟩ else ⟨e.status, "", usage⟩

/-- The host of a command, which has opened nothing yet. -/
def hostOf (files : FileTree) (backend : Backend) (conduct : Conduct) : Host :=
  { files, backend, conduct }

/-- Performs the command with these arguments. -/
def perform (files : FileTree) (home : Path) (args : List String)
    (backend : Backend := .dynamic) (conduct : Conduct := Conduct.idle) :
    Completion :=
  match Invocation.ofArguments args with
  | .error e => refuse e
  | .ok invocation => performInvocation (hostOf files backend conduct) home invocation

end ScriptHost.Command
