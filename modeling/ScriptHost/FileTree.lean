import ScriptHost.Catalog
import ScriptHost.Plugin

/-!
# File trees

The files that the host can see: a tree below the root, and the working directory in it.

* A place is named by the entries that lead to it from the root. The working directory and the
  directories above it are always there.
* `FileTree.locate` walks a path segment by segment. Every segment, an empty one too, needs a
  directory to start from, so a slash at the end asks for a directory.
* `FileTree.readText` reads a file as UTF-8 text. Dynamic libraries are files without a text.

Trees are plain. There are no symbolic links, so `..` always leads to the directory whose entry a
place is. There are no permissions and no failing devices: whatever is there can be walked and read.
Nothing changes while an operation goes on; between two of them anything may. The numbers of errors
and the limits of names and paths are those of Linux.
-/

namespace ScriptHost

/-! ## 1. Nodes and errors -/

/-- What stands at a place. -/
inductive Node where
  /-- A file with its bytes. -/
  | file (content : List UInt8)
  /-- A dynamic library and what it declares, if it declares anything. -/
  | library (declaration : Option Declaration)
  /-- A directory. -/
  | directory
  deriving DecidableEq, Repr

/-- Why a path cannot be walked or read. -/
inductive FileError where
  | notFound
  | notDirectory
  | isDirectory
  | nameTooLong
  /-- The path holds a zero byte. -/
  | holdsZero
  /-- The content is not UTF-8. -/
  | notText
  deriving DecidableEq, Repr

/-- What is wrong, without the number of the error. -/
def FileError.reason : FileError → String
  | .notFound => "No such file or directory"
  | .notDirectory => "Not a directory"
  | .isDirectory => "Is a directory"
  | .nameTooLong => "File name too long"
  | .holdsZero => "file name contained an unexpected NUL byte"
  | .notText => "stream did not contain valid UTF-8"

/-- The number that the operating system gives the error. -/
def FileError.number? : FileError → Option Nat
  | .notFound => some 2
  | .notDirectory => some 20
  | .isDirectory => some 21
  | .nameTooLong => some 36
  | .holdsZero => none
  | .notText => none

/-- The error as it stands in messages. -/
def FileError.message (e : FileError) : String :=
  match e.number? with
  | some n => s!"{e.reason} (os error {n})"
  | none => e.reason

/-! ## 2. Trees and places -/

/-- The names that lead from the root to an entry. -/
abbrev Location := List (List UInt8)

/-- The location that an absolute path without `..` spells. -/
def Location.ofPath (p : Path) : Location :=
  p.components.filterMap fun
    | .name name => some name
    | _ => none

/-- The entries below the root, and the working directory. -/
structure FileTree where
  nodes : Catalog Location Node
  /-- The working directory. -/
  base : Location
  deriving DecidableEq

namespace FileTree

/-- The tree with nothing but a working directory. -/
def empty (base : Location) : FileTree := ⟨Catalog.empty, base⟩

instance : Inhabited FileTree := ⟨empty []⟩

/-- What stands at a location. -/
def node? (t : FileTree) (location : Location) : Option Node :=
  if location.isPrefixOf t.base then some .directory else t.nodes.get? location

/-- The most bytes that a name has. -/
def nameLimit : Nat := 255

/-- The most bytes that a path has. -/
def pathLimit : Nat := 4095

/-- The location one segment further. Nothing is above the root. -/
def walk (t : FileTree) (location : Location) (segment : List UInt8) : Except FileError Location :=
  if t.node? location ≠ some .directory then .error .notDirectory
  else if Path.isIdle segment then .ok location
  else if segment = Path.dotDot then .ok location.dropLast
  else if nameLimit < segment.length then .error .nameTooLong
  else if (t.node? (location ++ [segment])).isSome then .ok (location ++ [segment])
  else .error .notFound

/-- The location along the segments. -/
def walkAll (t : FileTree) : Location → List (List UInt8) → Except FileError Location
  | location, [] => .ok location
  | location, segment :: rest =>
    match t.walk location segment with
    | .ok next => t.walkAll next rest
    | .error e => .error e

/-- Where a walk along the path begins. -/
def start (t : FileTree) (p : Path) : Location := if p.isAbsolute then [] else t.base

/-- The location that the path leads to. -/
def locate (t : FileTree) (p : Path) : Except FileError Location :=
  if p.bytes.contains 0 then .error .holdsZero
  else if p.bytes.isEmpty then .error .notFound
  else if pathLimit < p.bytes.length then .error .nameTooLong
  else t.walkAll (t.start p) p.segments

/-- Whether the path leads anywhere. -/
def exists? (t : FileTree) (p : Path) : Bool :=
  match t.locate p with
  | .ok _ => true
  | .error _ => false

/-- What stands where the path leads. -/
def nodeAt (t : FileTree) (p : Path) : Except FileError Node :=
  match t.locate p with
  | .error e => .error e
  | .ok location =>
    match t.node? location with
    | some node => .ok node
    | none => .error .notFound

/-- The text of the file at the path. -/
def readText (t : FileTree) (p : Path) : Except FileError String :=
  match t.nodeAt p with
  | .error e => .error e
  | .ok .directory => .error .isDirectory
  | .ok (.library _) => .error .notText
  | .ok (.file content) =>
    match Utf8.decode? content with
    | some text => .ok text
    | none => .error .notText

/-! ## 3. Changes -/

/-- The tree with a node at the location. -/
def put (t : FileTree) (location : Location) (node : Node) : FileTree :=
  { t with nodes := t.nodes.insert location node }

/-- Follows the steps from the location on and makes the directories that are not there yet. Answers
with the tree and where the steps lead; nothing is made below a file. -/
def makeDirectories (t : FileTree) (location : Location) :
    List Path.Component → Option (FileTree × Location)
  | [] => some (t, location)
  | .root :: rest => t.makeDirectories [] rest
  | .current :: rest => t.makeDirectories location rest
  | .parent :: rest => t.makeDirectories location.dropLast rest
  | .name name :: rest =>
    let next := location ++ [name]
    match t.node? next with
    | some .directory => t.makeDirectories next rest
    | some _ => none
    | none => (t.put next .directory).makeDirectories next rest

/-- Puts a file where the steps lead and makes the directories on the way. A directory stays a
directory, and nothing is put where a file is in the way. -/
def putFile (t : FileTree) (p : Path) (node : Node) : FileTree :=
  match t.makeDirectories (t.start p) p.components.dropLast, p.components.getLast? with
  | some (t', location), some (.name name) =>
    if t'.node? (location ++ [name]) = some .directory then t'
    else t'.put (location ++ [name]) node
  | some (t', _), _ => t'
  | none, _ => t

/-- Puts a node at the path and makes the directories on the way. -/
def write (t : FileTree) (p : Path) : Node → FileTree
  | .directory => ((t.makeDirectories (t.start p) p.components).map (·.1)).getD t
  | node => t.putFile p node

/-- Takes away what the path leads to, with everything below it. -/
def delete (t : FileTree) (p : Path) : FileTree :=
  match t.locate p with
  | .ok location =>
    if location.isPrefixOf t.base then t
    else
      { t with nodes := (t.nodes.keys.filter (location.isPrefixOf ·)).foldl Catalog.erase t.nodes }
  | .error _ => t

end FileTree

end ScriptHost
