import ScriptHost.Library.Place
import ScriptHost.Library.Relocation
import ScriptHost.Library.Resident

/-!
# The memory of libraries

A library in memory (`Resident`) is found by names, whatever has become of its file: the path that
it was asked for, the place where it was, the name that it gives itself.

* It stays while something holds it, while a library needs it that stays, or for good if it says so
  (`Resident.kept`).
* It may offer a plugin (`Resident.offer?`).
-/

namespace ScriptHost.Library

/-! ## 1. Offers -/

/-- What a library offers under the exported name. -/
inductive Offer where
  | plugin (plugin : Plugin)
  /-- Something that was made for another interface. -/
  | otherInterface (interface : String)
  deriving DecidableEq, Repr

/-- What a declaration offers. -/
def Offer.ofDeclaration (d : Declaration) : Offer :=
  if d.isCompatible then .plugin d.plugin else .otherInterface d.interface

namespace Resident

/-- The linked parts of the library, where they are known. -/
def binary? (r : Resident) : Option Binary :=
  match r.id with
  | .stored _ (.file content) => (Binary.ofContent content).toOption
  | _ => none

/-- Whether the library stays for good. -/
def isPinned (r : Resident) : Bool := r.binary?.any (·.isPinned)

/-- Whether the library is found by the name. -/
def answersTo (r : Resident) (name : Path) : Bool :=
  r.names.contains name || r.place == name || r.binary?.bind (·.textOf? .name) == some name.bytes

/-- What the library offers itself. -/
def offer? (r : Resident) : Option Offer :=
  match r.id with
  | .declared d => some (.ofDeclaration d)
  | _ => (r.binary?.bind (·.interface?)).map .otherInterface

/-- Whether the library defines what is wanted. -/
def defines (r : Resident) (w : Wanted) : Bool :=
  match r.id with
  | .declared _ => w.name == Utf8.encode symbolName
  | _ => (r.binary?.bind (·.definition? w)).isSome

/-! ## 2. Memory -/

/-- The library with this identity. -/
def get? (residents : List Resident) (id : LibraryId) : Option Resident :=
  residents.find? (·.id = id)

/-- The library that is found by the name. -/
def find? (residents : List Resident) (name : Path) : Option Resident :=
  residents.find? (·.answersTo name)

/-- Changes the library with this identity. -/
def update (residents : List Resident) (id : LibraryId) (f : Resident → Resident) :
    List Resident :=
  residents.map fun r => if r.id = id then f r else r

/-- The libraries that are needed by some of these, round after round, with these. -/
def closure (residents : List Resident) : Nat → List LibraryId → List LibraryId
  | 0, ids => ids
  | rounds + 1, ids =>
    let more := (residents.filter (ids.contains ·.id)).flatMap (·.needs)
    closure residents rounds (ids ++ (more.filter (!ids.contains ·)).eraseDups)

/-- The libraries that stay in memory while these are held. -/
def kept (residents : List Resident) (held : List LibraryId) : List Resident :=
  let roots := held ++ (residents.filter (·.isPinned)).map (·.id)
  let ids := closure residents residents.length roots
  residents.filter (ids.contains ·.id)

end Resident

end ScriptHost.Library
