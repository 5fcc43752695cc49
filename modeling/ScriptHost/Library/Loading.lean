import ScriptHost.Library.Memory

/-!
# Loading libraries

How a library comes into memory (`load`), and those that it asks for itself (`loadWanted`).

* A library in memory is taken as it is if one of its names is asked for; so is one whose file is
  found once more. Everything else is looked for among the files.
* A bare name that a library asks for is looked for where that library says, and then where the
  system's libraries are.
-/

namespace ScriptHost.Library

/-! ## 1. Faults -/

/-- Why a library cannot be loaded. -/
inductive LoadFault where
  | notFound (asked : Path) (reason : FileError)
  | faulty (told : Path) (fault : Fault)
  | unlinked (place : Path) (fault : LinkFault)
  /-- A library that is needed has no such version. -/
  | versionMissing (needed : Path) (version : List UInt8) (needing : Path)
  /-- The list of versions that are needed has a form that is not known. -/
  | unknownNeeds (place : Path) (form : Nat)
  /-- The list of versions that are defined has a form that is not known. -/
  | unknownDefinitions (place : Path) (form : Nat)
  /-- The library does not say that it needs a linker that can unpack relocations. -/
  | unmarkedPacking (place : Path)
  /-- The processor lacks instructions that are needed. -/
  | levelMissing (place : Path)
  /-- Memory that is to be write-protected is not there. -/
  | unsealed (place : Path)
  deriving DecidableEq, Repr

/-- The fault in words. -/
def LoadFault.message : LoadFault → String
  | .notFound asked reason =>
    s!"{asked.display}: cannot open shared object file: {reason.reason}"
  | .faulty told fault => s!"{told.display}: {fault.message}"
  | .unlinked place fault => s!"{(fault.library?.getD place).display}: {fault.message}"
  | .versionMissing needed version needing =>
    s!"{needed.display}: version `{Utf8.display version}' not found (required by {needing.display})"
  | .unknownNeeds place form =>
    s!"{place.display}: unsupported version {form} of Verneed record"
  | .unknownDefinitions place form =>
    s!"{place.display}: unsupported version {form} of Verdef record"
  | .levelMissing place => s!"{place.display}: CPU ISA level is lower than required"
  | .unmarkedPacking place => s!"{place.display}: DT_RELR without GLIBC_ABI_DT_RELR dependency"
  | .unsealed place =>
    s!"{place.display}: cannot apply additional memory protection after relocation: " ++
      "Cannot allocate memory"

/-! ## 2. Searching -/

/-- The directory of the library at the place, seen from the root. -/
def originOf (files : FileTree) (place : Path) : Path :=
  let base : Path := ⟨Path.slash :: Text.joined Path.slash files.base⟩
  ⟨Text.joined Path.slash (base.join place).segments.dropLast⟩

/-- What the directories that the entry of the library lists are spelled like before a name. An
empty list has none; an empty name in a list is the working directory, which needs no spelling. -/
def searchPath (files : FileTree) (r : Resident) (entry : Entry) : List (List UInt8) :=
  match r.binary?.bind (·.textOf? entry) with
  | none | some [] => []
  | some text =>
    (Text.split 0x3A text).map fun name =>
      if name = [] then []
      else
        let directory := (Path.expanded ⟨name⟩ (originOf files r.place)).bytes
        (directory.reverse.dropWhile (· == Path.slash)).reverse ++ [Path.slash]

/-- Whether the library has directories of its own for what it needs. -/
def hasOwnSearch (r : Resident) : Bool := (r.binary?.bind (·.value? .search)).isSome

/-- The directories that a library inherits to what it needs, followed by those of the library that
it was needed by, and so on. -/
def inheritedPath (files : FileTree) (residents : List Resident) :
    Nat → Resident → List (List UInt8)
  | 0, _ => []
  | fuel + 1, r =>
    let own := if hasOwnSearch r then [] else searchPath files r .inheritedSearch
    match r.neededBy.bind (Resident.get? residents) with
    | some above => own ++ inheritedPath files residents fuel above
    | none => own

/-- The places where a bare name is looked for when this library needs it. -/
def searchPlaces (files : FileTree) (residents : List Resident) (r : Resident) (name : Path) :
    List Path :=
  let directories :=
    if hasOwnSearch r then searchPath files r .search
    else inheritedPath files residents residents.length r
  directories.map fun directory => ⟨directory ++ name.bytes⟩

/-- The places where a path is looked for when a library, or the host, asks for it. -/
def places (files : FileTree) (residents : List Resident) (asking : Option Resident)
    (asked : Path) : List Path :=
  match asking with
  | none => [asked.place]
  | some r =>
    if asked.isBareName then searchPlaces files residents r asked ++ [systemPlace asked]
    else [asked]

/-- The library at the place. -/
def libraryAt (files : FileTree) (place : Path) : Except (FileError ⊕ Fault) LibraryId :=
  match files.locate place with
  | .error e => .error (.inl e)
  | .ok location =>
    match files.node? location with
    | none => .error (.inl .notFound)
    | some .directory => .error (.inr .directory)
    | some (.library (some d)) => .ok (.declared d)
    | some (.library none) => .ok (.stored location (.library none))
    | some (.file content) =>
      match Header.fault? content with
      | some fault => .error (.inr fault)
      | none => .ok (.stored location (.file content))

/-- The first library at one of the places. Places without a file are passed over, and files for
other machines; any other fault ends the search. -/
def firstLibrary (files : FileTree) (asked : Path) :
    LoadFault → List Path → Except LoadFault (LibraryId × Path)
  | last, [] => .error last
  | _, place :: rest =>
    match libraryAt files place with
    | .ok id => .ok (id, place)
    | .error (.inl e) => firstLibrary files asked (.notFound asked e) rest
    | .error (.inr fault) =>
      if fault.isPassedOver then firstLibrary files asked (.faulty asked fault) rest
      else .error (.faulty (if fault.tellsPlace then place else asked) fault)

/-! ## 3. Loading -/

/-- Whether the library can be put into memory. -/
def mappingFault? : LibraryId → Option Fault
  | .stored _ (.file content) =>
    match Binary.ofContent content with
    | .ok _ => none
    | .error fault => some fault
  | _ => none

/-- The library that is asked for, and what is in memory then. -/
def load (files : FileTree) (residents : List Resident) (asking : Option Resident)
    (asked : Path) : Except LoadFault (LibraryId × List Resident) :=
  match Resident.find? residents asked with
  | some r =>
    .ok (r.id, Resident.update residents r.id fun r => { r with names := asked :: r.names })
  | none =>
    match firstLibrary files asked (.notFound asked .notFound)
        (places files residents asking asked) with
    | .error fault => .error fault
    | .ok (id, place) =>
      if (Resident.get? residents id).isSome then
        .ok (id, Resident.update residents id fun r => { r with names := asked :: r.names })
      else
        match mappingFault? id with
        | some fault => .error (.faulty asked fault)
        | none => .ok (id, residents ++ [⟨id, place, [asked], [], asking.map (·.id)⟩])

/-- What the library asks for, in order. -/
def wantedBy (files : FileTree) (r : Resident) : List (Entry × Path) :=
  match r.binary? with
  | none => []
  | some b =>
    (b.wanted.filter (·.2 != [])).map fun w =>
      (w.1, Path.expanded ⟨w.2⟩ (originOf files r.place))

/-- Loads what a library asks for. Only an auxiliary may be missing. -/
def loadWanted (files : FileTree) (asking : LibraryId) :
    List (Entry × Path) → List Resident →
      Except LoadFault (List (Entry × LibraryId) × List Resident)
  | [], residents => .ok ([], residents)
  | (entry, asked) :: rest, residents =>
    match load files residents (Resident.get? residents asking) asked with
    | .error fault =>
      if entry = .auxiliary then loadWanted files asking rest residents else .error fault
    | .ok (id, residents) =>
      match loadWanted files asking rest residents with
      | .error fault => .error fault
      | .ok (found, residents) => .ok ((entry, id) :: found, residents)

end ScriptHost.Library
