import ScriptHost.Library.Symbol
import ScriptHost.Path.Basic

/-!
# Relocations of libraries

What is written into a library when it is linked (`Relocation`). A library cannot be linked if it
wants a name that nobody defines, or a relocation of a kind that is not known
(`Binary.linkFault?`). Calls are resolved later, unless the library wants it at once.
-/

namespace ScriptHost.Library

/-! ## 1. Relocations -/

/-- Something that is written into the library. -/
structure Relocation where
  address : UInt64
  kind : Nat
  /-- The index of the name that it is about. -/
  symbol : Nat
  addend : UInt64
  deriving DecidableEq, Repr

namespace Relocation

/-- The kind of an address within the library. -/
def innerKind : Nat := 8

/-- The kinds that need no name: nothing at all, and addresses within the library. -/
def namelessKinds : List Nat := [0, innerKind, 38]

/-- The other kinds that are known. -/
def namedKinds : List Nat := [1, 2, 5, 6, 7, 10, 16, 17, 18, 32, 33, 36, 37]

/-- The kinds that want a definition proper, not a stand-in for one. -/
def callKinds : List Nat := [7, 16, 17, 18, 36]

/-- The kinds that can wait until a call. -/
def lazyKinds : List Nat := [7, 37]

/-- The kind of a table of calls that never waits. -/
def eagerKind : Nat := 36

/-- The kind of a place in the memory of a thread. -/
def threadKind : Nat := 18

end Relocation

/-- A library that defines a name. -/
structure Definer where
  place : Path
  /-- Whether threads have room for what it has for each of them. -/
  hasThreadRoom : Bool
  deriving DecidableEq, Repr

/-- Why a library cannot be linked. -/
inductive LinkFault where
  | undefined (wanted : Wanted)
  | unknownKind (kind : Nat)
  /-- A kind that cannot wait until a call. -/
  | notLazy (kind : Nat)
  /-- Threads have no room for what a library has for each of them: another one, or this one. -/
  | noThreadRoom (library : Option Path)
  deriving DecidableEq, Repr

/-- The last hexadecimal digits of the number, as many as said. -/
def hexadecimal : Nat → Nat → List Char
  | 0, _ => []
  | digits + 1, n => hexadecimal digits (n / 16) ++ [Nat.digitChar (n % 16)]

/-- The kind of a relocation in words: two digits, or eight if it needs more. -/
def kindText (kind : Nat) : String :=
  "0x" ++ String.ofList (hexadecimal (if kind < 256 then 2 else 8) kind)

/-- The fault in words. -/
def LinkFault.message : LinkFault → String
  | .undefined w =>
    s!"undefined symbol: {Utf8.display w.name}" ++
      (w.version.elim "" fun version => s!", version {Utf8.display version.name}")
  | .unknownKind kind => s!"unexpected reloc type {kindText kind}"
  | .notLazy kind => s!"unexpected PLT reloc type {kindText kind}"
  | .noThreadRoom _ => "cannot allocate memory in static TLS block"

/-- The library that the fault is told of, if it is another one than the one that is linked. -/
def LinkFault.library? : LinkFault → Option Path
  | .noThreadRoom library => library
  | _ => none

namespace Binary

/-! ## 2. Tables -/

/-- The number of bytes of a relocation. -/
def relocationSize : Nat := 24

/-- The relocation at the address. -/
def relocationAt (b : Binary) (address : UInt64) : Relocation :=
  { address := b.image.wordAt address
    kind := b.image.numberAt (address + 8) 4
    symbol := b.image.numberAt (address + 12) 4
    addend := b.image.wordAt (address + 16) }

/-- The relocations in so many bytes from the address on; there are no more than the file has room
for. -/
def table (b : Binary) (start size : UInt64) : List Relocation :=
  let count := (size.toNat + (relocationSize - 1)) / relocationSize
  (List.range (min count (b.image.content.size / relocationSize + 1))).map fun n =>
    b.relocationAt (start + UInt64.ofNat (relocationSize * n))

/-- Where the relocations of calls begin, and how many bytes they have. -/
def callTable (b : Binary) : UInt64 × UInt64 :=
  if (b.value? .callRelocationsKind).isSome then
    ((b.value? .callRelocations).getD 0, (b.value? .callRelocationsSize).getD 0)
  else (0, 0)

/-- The relocations of calls. -/
def callRelocations (b : Binary) : List Relocation := b.table b.callTable.1 b.callTable.2

/-- The relocations of everything else. The calls may stand at the end of the same table. -/
def dataRelocations (b : Binary) : List Relocation :=
  match b.value? .relocations with
  | none => []
  | some start =>
    let size := (b.value? .relocationsSize).getD 0
    if start + size = b.callTable.1 + b.callTable.2 then b.table start (size - b.callTable.2)
    else b.table start size

/-! ## 3. Linking -/

/-- What is wrong with a relocation that is done now. `definer?` says who defines what is wanted. -/
def faultNow? (b : Binary) (definer? : Wanted → Option Definer) (r : Relocation) :
    Option LinkFault :=
  if Relocation.namelessKinds.contains r.kind then none
  else
    let s := b.symbol r.symbol
    let wanted := b.wantedBy r.symbol (Relocation.callKinds.contains r.kind)
    let isThread := r.kind = Relocation.threadKind
    let unknown : Option LinkFault :=
      if Relocation.namedKinds.contains r.kind then none else some (.unknownKind r.kind)
    if s.binding = .inner || s.isHidden then
      if isThread && !b.hasThreadRoom then some (.noThreadRoom none) else unknown
    else
      match definer? wanted with
      | some d =>
        if isThread && !d.hasThreadRoom then some (.noThreadRoom (some d.place)) else unknown
      | none => if s.binding = .weak then unknown else some (.undefined wanted)

/-- What is wrong with a relocation that may wait until a call. -/
def faultLater? (b : Binary) (definer? : Wanted → Option Definer) (r : Relocation) :
    Option LinkFault :=
  if r.kind = Relocation.eagerKind then b.faultNow? definer? r
  else if Relocation.lazyKinds.contains r.kind then none
  else some (.notLazy r.kind)

/-- The first thing that is wrong with the relocations of the library. -/
def linkFault? (b : Binary) (definer? : Wanted → Option Definer) : Option LinkFault :=
  let calls :=
    b.callRelocations.findSome?
      (if b.isImmediate then b.faultNow? definer? else b.faultLater? definer?)
  match b.dataRelocations.findSome? (b.faultNow? definer?) with
  | some fault => some fault
  | none => calls

/-! ## 4. Declared interfaces -/

/-- The address that is written to the address when the library is linked. -/
def addressAt (b : Binary) (address : UInt64) : UInt64 :=
  match (b.dataRelocations.filter (·.address == address)).getLast? with
  | some r =>
    if r.kind = Relocation.innerKind then r.addend else (b.symbol r.symbol).value + r.addend
  | none => b.image.wordAt address

/-- The interface that the library declares under the exported name: a text whose address and length
stand there. -/
def interface? (b : Binary) : Option String :=
  (b.definition? { name := Utf8.encode symbolName, firstVersion := 2 }).map fun s =>
    let length := b.image.numberAt (s.value + 8) 8
    Utf8.display (b.image.bytesAt (b.addressAt s.value) (min length b.image.content.size))

end Binary

end ScriptHost.Library
