import ScriptHost.Library.Loading
import ScriptHost.Library.Property
import ScriptHost.Library.System

/-!
# Libraries that are loaded together

A library comes into memory together with all libraries that it needs (`Group.load`).

* The needed libraries are loaded after the library itself, level by level.
* When all are there, each new one is linked, what is needed before what needs it. The first thing
  that is wrong ends it all.
-/

namespace ScriptHost.Library

/-! ## 1. Groups -/

/-- Libraries that are loaded together. -/
structure Group where
  /-- The library that was asked for. -/
  root : LibraryId
  /-- All of them in the order in which names are looked for, each with whether what it needs is
  loaded. -/
  members : List (LibraryId × Bool)
  /-- What is in memory. -/
  residents : List Resident

namespace Group

/-- Whether the library is a member. -/
def has (g : Group) (id : LibraryId) : Bool := g.members.any (·.1 = id)

/-- Adds what a member needs: behind the others, unless it is a member. What stands in for the
member goes right before it, unless it stands before it already. -/
def add (g : Group) (member : LibraryId) (found : Entry × LibraryId) : Group :=
  let before := g.members.takeWhile (·.1 ≠ member)
  let behind := g.members.dropWhile (·.1 ≠ member)
  if found.1 = .needed then
    if g.has found.2 then g else { g with members := g.members ++ [(found.2, false)] }
  else if before.any (·.1 = found.2) || member = found.2 then g
  else
    let moved := (behind.find? (·.1 = found.2)).getD (found.2, false)
    { g with members := before ++ moved :: behind.filter (·.1 ≠ found.2) }

/-- The group in which what the member needs is loaded. -/
def settle (g : Group) (member : LibraryId) : Group :=
  { g with members := g.members.map fun m => if m.1 = member then (m.1, true) else m }

/-- Loads what the members need, and what that needs. -/
def loadNeeds (files : FileTree) : Nat → Group → Except LoadFault Group
  | 0, g => .ok g
  | fuel + 1, g =>
    match g.members.find? (!·.2) with
    | none => .ok g
    | some (id, _) =>
      let wanted := ((Resident.get? g.residents id).map (wantedBy files)).getD []
      match loadWanted files id wanted g.residents with
      | .error fault => .error fault
      | .ok (found, residents) =>
        let needs := found.map (·.2)
        let settled := { g.settle id with
          residents := Resident.update residents id fun r => { r with needs := needs } }
        loadNeeds files fuel (found.foldl (·.add id) settled)

/-- The members in memory. -/
def libraries (g : Group) : List Resident :=
  g.members.filterMap fun m => Resident.get? g.residents m.1

/-- The offer of the first member that makes one. -/
def offer? (g : Group) : Option Offer := g.libraries.findSome? (·.offer?)

/-! ## 2. Versions -/

/-- The library of the system that is found by the name: its place, and the versions that it has. -/
def systemLibrary? (g : Group) (name : Path) : Option (Path × List (List UInt8)) :=
  let place := (Resident.find? g.residents name).elim (systemPlace name) (·.place)
  if place = systemPlace place.lastName then
    (System.versions? place.lastName.bytes).map (place, ·)
  else none

/-- What is wrong with a version that a library needs of another one. A library without definitions
will do for every version. -/
def versionFaultIn? (g : Group) (needed : Path) (needing : Resident) (v : Version) :
    Option LoadFault :=
  let missing (place : Path) : Option LoadFault :=
    if v.mayBeMissing then none else some (.versionMissing place v.name needing.place)
  match g.systemLibrary? needed with
  | some (place, versions) => if v.isRight && versions.contains v.name then none else missing place
  | none =>
    (Resident.find? g.residents needed).bind fun r =>
      (r.binary?.bind (·.definedVersions?)).bind fun definitions =>
        match v.isAmong definitions with
        | .ok true => none
        | .ok false => missing r.place
        | .error form => some (.unknownDefinitions r.place form)

/-- What is wrong with the versions that the library needs. -/
def versionFault? (g : Group) (r : Resident) : Option LoadFault :=
  r.binary?.bind fun b =>
    match b.neededVersions with
    | .error form => some (.unknownNeeds r.place form)
    | .ok needs =>
      (needs.findSome? fun need => need.versions.findSome? (g.versionFaultIn? ⟨need.library⟩ r)).or
        (if b.lacksPackingVersion then some (.unmarkedPacking r.place) else none)

/-! ## 3. Linking -/

/-- What is wrong with the levels of instructions that the library needs. -/
def levelFault? (r : Resident) : Option LoadFault :=
  r.binary?.bind fun b => if b.hasLevels then none else some (.levelMissing r.place)

/-- Who defines what is wanted: the system, or else the first member that does. -/
def definer? (g : Group) (w : Wanted) : Option Definer :=
  if System.defines w.name (w.version.map (·.name)) then some ⟨systemDirectory, true⟩
  else
    (g.libraries.find? (·.defines w)).map fun r => ⟨r.place, r.binary?.all (·.hasThreadRoom)⟩

/-- What is wrong with the relocations of the library. -/
def linkFault? (g : Group) (r : Resident) : Option LoadFault :=
  r.binary?.bind fun b =>
    match b.linkFault? g.definer? with
    | some fault => some (.unlinked r.place fault)
    | none => if b.canBeSealed then none else some (.unsealed r.place)

/-- Visits a library: first what it needs, then itself. Knows what was seen, and in which order
libraries were left. -/
def visit (residents : List Resident) : Nat → List LibraryId × List LibraryId → LibraryId →
    List LibraryId × List LibraryId
  | 0, state, _ => state
  | fuel + 1, (seen, left), id =>
    if seen.contains id then (seen, left)
    else
      let needs := ((Resident.get? residents id).map (·.needs)).getD []
      let after := needs.foldl (visit residents fuel) (id :: seen, left)
      (after.1, after.2 ++ [id])

/-- The members in the order in which they are linked: what is needed before what needs it, and last
the library that was asked for. -/
def linkOrder (g : Group) : List Resident :=
  let visited := (g.members.reverse.map (·.1)).foldl (visit g.residents g.residents.length) ([], [])
  (visited.2.filter (· ≠ g.root) ++ [g.root]).filterMap (Resident.get? g.residents)

/-- The first thing that is wrong with the members that are new in memory: all versions are looked
at before all levels, and these before anything is linked. -/
def fault? (g : Group) (before : List Resident) : Option LoadFault :=
  let isNew (r : Resident) := (Resident.get? before r.id).isNone
  let ordered := g.linkOrder.filter isNew
  ((g.libraries.filter isNew).findSome? g.versionFault?).or
    ((ordered.findSome? levelFault?).or (ordered.findSome? g.linkFault?))

/-- Loads the library that the host asks for, with all that it needs. -/
def load (files : FileTree) (residents : List Resident) (asked : Path) : Except LoadFault Group :=
  match Library.load files residents none asked with
  | .error fault => .error fault
  | .ok (id, after) =>
    let fuel := after.length + files.nodes.size + 1
    match loadNeeds files fuel ⟨id, [(id, false)], after⟩ with
    | .error fault => .error fault
    | .ok g =>
      match g.fault? residents with
      | some fault => .error fault
      | none => .ok g

end Group

end ScriptHost.Library
