import ScriptHost.Command.Surroundings

/-!
# The command line

Takes in the files that the command can look at, performs the command and writes what it says.
-/

namespace ScriptHost.Main

/-- The tree with what stands at the path on disk, if anything does. -/
def takeIn (files : FileTree) (path : Path) : IO FileTree := do
  match path.text? with
  | none => return files
  | some text =>
    let place := (← IO.currentDir) / text
    if ← place.isDir then return files.write path .directory
    try
      let content ← IO.FS.readBinFile place
      return files.write path (.ofContent content.toList)
    catch _ => return files

/-- The tree with what stands on the way to each of the paths. -/
def takeInAll (files : FileTree) (paths : List Path) : IO FileTree :=
  (paths.flatMap Command.leads).foldlM takeIn files

/-- The tree with nothing but the working directory. -/
def surroundings : IO FileTree := do
  let here := Path.ofString (← IO.currentDir).toString
  return .empty (.ofPath here)

/-- The user's home directory. -/
def home : IO Path := do
  match ← IO.getEnv "HOME" with
  | none | some "" => return Path.ofString "."
  | some text => return Path.ofString text

end ScriptHost.Main

/-- Performs the command of the arguments. -/
def main (args : List String) : IO UInt32 := do
  let home ← ScriptHost.Main.home
  let empty ← ScriptHost.Main.surroundings
  let files ← ScriptHost.Main.takeInAll empty (ScriptHost.Command.manifestCandidates home args)
  let files ← ScriptHost.Main.takeInAll files (ScriptHost.Command.listedPaths files home args)
  let done := ScriptHost.Command.perform files home args
  (← IO.getStdout).putStr done.out
  (← IO.getStderr).putStr done.err
  return UInt32.ofNat done.status
