import ScriptHost.Library.Image

/-!
# Linked parts of libraries

A library in memory has a list of numbered entries that say how it is linked (`Binary`): where its
tables are, which libraries it needs, how it wants to be treated.

* The list ends with an entry of number zero.
* Of several entries of a number the last one counts. Only the libraries that are needed are all
  taken, in order.
-/

namespace ScriptHost.Library

/-! ## 1. Entries -/

/-- What an entry of the list is for. -/
inductive Entry where
  /-- A library that is needed. -/
  | needed
  /-- A library that stands in for this one. -/
  | filter
  /-- A library that stands in for this one if it is there. -/
  | auxiliary
  /-- The library's own name. -/
  | name
  /-- Where needed libraries are searched for, also for those that they need in turn. -/
  | inheritedSearch
  /-- Where needed libraries are searched for. -/
  | search
  | texts
  | symbols
  | hash
  | bloomHash
  | symbolVersions
  | definedVersions
  | neededVersions
  | relocations
  | relocationsSize
  | callRelocations
  | callRelocationsSize
  | callRelocationsKind
  | packedRelocations
  /-- All calls are to be resolved when the library is opened. -/
  | immediate
  | flags
  | moreFlags
  deriving DecidableEq, Repr

/-- The number of the entry. -/
def Entry.number : Entry → UInt64
  | .needed => 1
  | .callRelocationsSize => 2
  | .hash => 4
  | .texts => 5
  | .symbols => 6
  | .relocations => 7
  | .relocationsSize => 8
  | .name => 14
  | .inheritedSearch => 15
  | .callRelocationsKind => 20
  | .callRelocations => 23
  | .immediate => 24
  | .search => 29
  | .flags => 30
  | .packedRelocations => 36
  | .bloomHash => 0x6FFFFEF5
  | .symbolVersions => 0x6FFFFFF0
  | .moreFlags => 0x6FFFFFFB
  | .definedVersions => 0x6FFFFFFC
  | .neededVersions => 0x6FFFFFFE
  | .auxiliary => 0x7FFFFFFD
  | .filter => 0x7FFFFFFF

/-! ## 2. Binaries -/

/-- A library in memory with its list. -/
structure Binary where
  image : Image
  /-- The numbers and values of the entries, in order. -/
  entries : List (UInt64 × UInt64)
  /-- The segment that is to be write-protected. -/
  sealing : Option Segment
  /-- The segment that every thread has of its own. -/
  threads : Option Segment
  /-- The segments that tell about the library, the last one first. -/
  notes : List Segment
  deriving DecidableEq, Repr

namespace Binary

/-- The entries from the address on. -/
def entriesFrom (i : Image) : Nat → UInt64 → List (UInt64 × UInt64)
  | 0, _ => []
  | fuel + 1, address =>
    let number := i.wordAt address
    if number = 0 then []
    else (number, i.wordAt (address + 8)) :: entriesFrom i fuel (address + 16)

/-- The value of the last entry of its kind. -/
def value? (b : Binary) (entry : Entry) : Option UInt64 :=
  ((b.entries.filter (·.1 == entry.number)).getLast?).map (·.2)

/-- Whether the bit is set in the value of the entry. -/
def hasFlag (b : Binary) (entry : Entry) (bit : UInt64) : Bool :=
  ((b.value? entry).getD 0) &&& bit != 0

/-- Whether the binary is a program that can be put anywhere. -/
def isProgram (b : Binary) : Bool := b.hasFlag .moreFlags 0x8000000

/-- Whether the library refuses to be opened. -/
def refusesOpening (b : Binary) : Bool := b.hasFlag .moreFlags 0x40

/-- Whether the library is never to leave memory again. -/
def isPinned (b : Binary) : Bool := b.hasFlag .moreFlags 0x8

/-- Whether all calls are to be resolved when the library is opened. -/
def isImmediate (b : Binary) : Bool :=
  (b.value? .immediate).isSome || b.hasFlag .flags 0x8 || b.hasFlag .moreFlags 0x1

/-- The library that the file is, or the fault that shows when its segments are put into memory. -/
def ofContent (content : List UInt8) : Except Fault Binary :=
  let segments := Segment.listedIn content
  match Segment.fault? segments (Header.isProgram content), Segment.dynamicAddress? segments with
  | some fault, _ => .error fault
  | none, none => .error .notDynamic
  | none, some address =>
    match Image.ofSegments content segments with
    | .error fault => .error fault
    | .ok image =>
      let b : Binary :=
        ⟨image, entriesFrom image image.reach address,
          (segments.filter (·.kind == .sealed)).getLast?,
          (segments.filter fun s => s.kind == .threads && s.size != 0).getLast?,
          (segments.filter fun s => s.kind == .notes || s.kind == .properties).reverse⟩
      if b.isProgram then .error .movableProgram
      else if b.refusesOpening then .error .refusesOpening
      else .ok b

/-! ## 3. Texts -/

/-- The text at the offset into the library's texts. -/
def text (b : Binary) (offset : UInt64) : List UInt8 :=
  b.image.textAt ((b.value? .texts).getD 0 + offset)

/-- The text that the entry names. -/
def textOf? (b : Binary) (entry : Entry) : Option (List UInt8) := (b.value? entry).map b.text

/-- The libraries that are needed or stand in for this one, in order. -/
def wanted (b : Binary) : List (Entry × List UInt8) :=
  b.entries.filterMap fun e =>
    ([Entry.needed, .filter, .auxiliary].find? (·.number == e.1)).map (·, b.text e.2)

/-- The number of bytes that a thread has for libraries that come later. -/
def threadRoom : UInt64 := 1720

/-- What the memory of a thread is aligned to. -/
def threadAlignment : UInt64 := 64

/-- Whether there is room for what every thread has of its own. -/
def hasThreadRoom (b : Binary) : Bool :=
  b.threads.all fun s =>
    s.alignment ≤ threadAlignment && s.size ≤ threadRoom &&
      s.size + (s.address &&& (s.alignment - 1)) ≤ threadRoom

/-- Whether the segment that is to be write-protected is in memory. -/
def canBeSealed (b : Binary) : Bool :=
  match b.sealing with
  | none => true
  | some s =>
    let start := pageStart s.address
    let stop := pageStart (s.address + s.size)
    start == stop || (start < stop && b.image.isMapped start && b.image.isMapped (stop - 1))

end Binary

end ScriptHost.Library
