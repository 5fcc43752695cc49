import ScriptHost.Library.Binary
import ScriptHost.Text.Utf8

/-!
# Versions of names

A library lists versions that it needs of others (`Binary.neededVersions`) and versions that its own
names have (`Binary.definedVersions?`). Its names refer to a version of either kind by number
(`Binary.versionOf?`).

* The number one stands for the library itself, and for no version.
* Of several versions with a number the last one counts.
* A needed version has to be among those that the other library defines (`Version.isAmong`).
-/

namespace ScriptHost.Library

/-! ## 1. Versions -/

/-- The hash of a name, as tables of names and versions have it. -/
def plainHash (name : List UInt8) : UInt32 :=
  name.foldl (fun h c =>
    let h := (h <<< 4) + c.toUInt32
    let top := h &&& 0xF0000000
    (h ^^^ (top >>> 24)) &&& ~~~top) 0

/-- A version of names. -/
structure Version where
  name : List UInt8
  /-- The hash that the library gives for the name. -/
  hash : Nat
  /-- The number by which names refer to the version. -/
  index : Nat
  /-- Whether nothing but this very version will do. -/
  isStrict : Bool := false
  /-- Whether nothing is wrong if there is no such version. -/
  mayBeMissing : Bool := false
  deriving DecidableEq, Repr

/-- The number of a version, without the mark that may be set on it. -/
def versionIndex (n : Nat) : Nat := n % 0x8000

/-- Whether the mark is set on the number of a version. -/
def isMarked (n : Nat) : Bool := versionIndex n != n

namespace Version

/-- Whether the hash is that of the name. -/
def isRight (v : Version) : Bool := v.hash == (plainHash v.name).toNat

/-- Whether both are the same for a search. -/
def agrees (v w : Version) : Bool := v.hash == w.hash && v.name == w.name

end Version

/-- Versions that are needed of a library. -/
structure VersionNeed where
  library : List UInt8
  versions : List Version
  deriving DecidableEq, Repr

/-- A version that a library defines. -/
structure VersionDefinition where
  /-- The number of the form of the definition. -/
  form : Nat
  /-- Whether it is the library itself. -/
  isBase : Bool
  version : Version
  deriving DecidableEq, Repr

/-- The one form of versions that is known. -/
def knownForm : Nat := 1

/-- Whether the version is among the definitions, as far as they have the known form; else the
number of the form that is not known. -/
def Version.isAmong (v : Version) : List VersionDefinition → Except Nat Bool
  | [] => .ok false
  | d :: rest =>
    if d.form ≠ knownForm then .error d.form
    else if d.version.agrees v then .ok true
    else v.isAmong rest

namespace Binary

/-! ## 2. Lists of versions -/

/-- The needed versions in the list at the address. -/
def versionsFrom (b : Binary) : Nat → UInt64 → List Version
  | 0, _ => []
  | fuel + 1, address =>
    let number := b.image.numberAt (address + 6) 2
    let next := b.image.numberAt (address + 12) 4
    { name := b.text (UInt64.ofNat (b.image.numberAt (address + 8) 4))
      hash := b.image.numberAt address 4
      index := versionIndex number
      isStrict := isMarked number
      mayBeMissing := b.image.numberAt (address + 4) 2 / 2 % 2 == 1 } ::
      if next = 0 then [] else b.versionsFrom fuel (address + UInt64.ofNat next)

/-- The needs in the list at the address. -/
def versionNeedsFrom (b : Binary) : Nat → UInt64 → List VersionNeed
  | 0, _ => []
  | fuel + 1, address =>
    let next := b.image.numberAt (address + 12) 4
    ⟨b.text (UInt64.ofNat (b.image.numberAt (address + 4) 4)),
      b.versionsFrom b.image.content.size
        (address + UInt64.ofNat (b.image.numberAt (address + 8) 4))⟩ ::
      if next = 0 then [] else b.versionNeedsFrom fuel (address + UInt64.ofNat next)

/-- The definitions in the list at the address. -/
def versionDefinitionsFrom (b : Binary) : Nat → UInt64 → List VersionDefinition
  | 0, _ => []
  | fuel + 1, address =>
    let name := address + UInt64.ofNat (b.image.numberAt (address + 12) 4)
    let next := b.image.numberAt (address + 16) 4
    { form := b.image.numberAt address 2
      isBase := b.image.numberAt (address + 2) 2 % 2 == 1
      version :=
        { name := b.text (UInt64.ofNat (b.image.numberAt name 4))
          hash := b.image.numberAt (address + 8) 4
          index := versionIndex (b.image.numberAt (address + 4) 2) } } ::
      if next = 0 then [] else b.versionDefinitionsFrom fuel (address + UInt64.ofNat next)

/-- The list that the entry leads to. A library without texts has none. -/
def versionTable? (b : Binary) (entry : Entry) : Option UInt64 :=
  (b.value? .texts).bind fun _ => b.value? entry

/-- The versions that the library needs, or the number of a form of the list that is not known. -/
def neededVersions (b : Binary) : Except Nat (List VersionNeed) :=
  match b.versionTable? .neededVersions with
  | none => .ok []
  | some table =>
    let form := b.image.numberAt table 2
    if form = knownForm then .ok (b.versionNeedsFrom b.image.content.size table) else .error form

/-- The versions that the library defines, if it has a list of them. -/
def definedVersions? (b : Binary) : Option (List VersionDefinition) :=
  (b.versionTable? .definedVersions).map (b.versionDefinitionsFrom b.image.content.size)

/-- Whether the library has packed relocations and needs versions and the C library, but not the
version that stands for linkers that can unpack them. -/
def lacksPackingVersion (b : Binary) : Bool :=
  (b.value? .packedRelocations).isSome && (b.versionTable? .neededVersions).isSome &&
    (b.wanted.any fun w => w.1 == .needed && (Utf8.encode "libc.so.").isPrefixOf w.2) &&
    !((b.neededVersions.toOption.getD []).any fun need =>
      need.versions.any (·.name == Utf8.encode "GLIBC_ABI_DT_RELR"))

/-! ## 3. Versions of names -/

/-- The versions that names of the library can refer to. -/
def versions (b : Binary) : List Version :=
  (b.neededVersions.toOption.getD []).flatMap (·.versions) ++
    ((b.definedVersions?.getD []).filter (!·.isBase)).map (·.version)

/-- Whether the library has a version with a number. -/
def hasVersions (b : Binary) : Bool :=
  (b.versions ++ (b.definedVersions?.getD []).map (·.version)).any (·.index != 0)

/-- The number of the version of the name with this index, and the mark on it. -/
def versionNumber? (b : Binary) (index : Nat) : Option Nat :=
  if b.hasVersions then
    (b.value? .symbolVersions).map fun table =>
      b.image.numberAt (table + UInt64.ofNat (2 * index)) 2
  else none

/-- The version with this number. One without a hash is none. -/
def versionWith? (b : Binary) (number : Nat) : Option Version :=
  ((b.versions.filter (·.index == number)).getLast?).filter (·.hash != 0)

/-- The version of the name with this index. -/
def versionOf? (b : Binary) (index : Nat) : Option Version :=
  (b.versionNumber? index).bind fun number => b.versionWith? (versionIndex number)

end Binary

end ScriptHost.Library
