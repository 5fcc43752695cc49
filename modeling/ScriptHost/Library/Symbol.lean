import ScriptHost.Library.Version
import ScriptHost.Plugin

/-!
# Names that libraries share

A library has a table of names (`Symbol`): some it defines for others, some it wants from others
(`Wanted`).

* A definition is found through one of two hash tables (`Binary.definition?`). Names that are
  hidden, or not meant for code or data, are no definitions.
* A version that is wanted must be that of the definition. Where none is wanted, a definition
  without one is taken, or of the first version, or the only one.
-/

namespace ScriptHost.Library

/-! ## 1. Symbols -/

/-- How far a name reaches. -/
inductive Binding where
  /-- Within the library. -/
  | inner
  | outer
  /-- As far, but it need not be defined. -/
  | weak
  | other
  deriving DecidableEq, Repr

/-- The binding with this number. -/
def Binding.ofNumber : Nat → Binding
  | 0 => .inner
  | 1 => .outer
  | 2 => .weak
  | 10 => .outer
  | _ => .other

/-- An entry of the table of names. -/
structure Symbol where
  name : List UInt8
  binding : Binding
  /-- The number of what the name stands for. -/
  kind : Nat
  /-- Whether other libraries cannot see the name. -/
  isHidden : Bool
  /-- The number of the part of the file that it is defined in; zero is none. -/
  part : Nat
  value : UInt64
  deriving DecidableEq, Repr

namespace Symbol

/-- The part number of a name that stands for a bare number. -/
def absolutePart : Nat := 0xFFF1

/-- The kind of names for memory that each thread has of its own. -/
def threadKind : Nat := 6

/-- The kinds of names for code and data. -/
def kinds : List Nat := [0, 1, 2, 5, threadKind, 10]

/-- Whether the symbol is a definition of code or data, for calls or for anything. -/
def isDefinition (s : Symbol) (isCall : Bool) : Bool :=
  (s.value != 0 || s.part == absolutePart || s.kind == threadKind) &&
    !(isCall && s.part == 0) && kinds.contains s.kind

/-- Whether other libraries may use the definition. -/
def isOffered (s : Symbol) : Bool :=
  !s.isHidden && (s.binding == .outer || s.binding == .weak)

end Symbol

/-- A name that a library, or the host, wants from others. -/
structure Wanted where
  name : List UInt8
  version : Option Version := none
  /-- Whether it is to be called. -/
  isCall : Bool := false
  /-- Where no version is wanted: the least number of a version that will not do. -/
  firstVersion : Nat := 3
  deriving DecidableEq, Repr

namespace Binary

/-- The number of bytes of an entry of the table. -/
def symbolSize : Nat := 24

/-- The symbol with this index. -/
def symbol (b : Binary) (index : Nat) : Symbol :=
  let start := (b.value? .symbols).getD 0 + UInt64.ofNat (symbolSize * index)
  let info := b.image.numberAt (start + 4) 1
  let visibility := b.image.numberAt (start + 5) 1 % 4
  { name := b.text (UInt64.ofNat (b.image.numberAt start 4))
    binding := .ofNumber (info / 16)
    kind := info % 16
    isHidden := visibility == 1 || visibility == 2
    part := b.image.numberAt (start + 6) 2
    value := b.image.wordAt (start + 8) }

/-! ## 2. Hash tables -/

/-- The hash of a name in the table with a bloom filter. -/
def bloomHash (name : List UInt8) : UInt32 :=
  name.foldl (fun h c => h * 33 + c.toUInt32) 5381

/-- The number in the four bytes that are so many places behind the address. -/
def placeAt (b : Binary) (address : UInt64) (index : Nat) : Nat :=
  b.image.numberAt (address + UInt64.ofNat (4 * index)) 4

/-- The indices in a chain of the plain table, which ends with zero. -/
def plainChain (b : Binary) (chains : UInt64) : Nat → Nat → List Nat
  | 0, _ => []
  | fuel + 1, index =>
    if index = 0 then [] else index :: b.plainChain chains fuel (b.placeAt chains index)

/-- The indices under which the plain table may have the name. -/
def plainCandidates (b : Binary) (table : UInt64) (name : List UInt8) : List Nat :=
  let buckets := b.placeAt table 0
  if buckets = 0 then []
  else
    let first := b.placeAt table (2 + (plainHash name).toNat % buckets)
    b.plainChain (table + UInt64.ofNat (4 * (2 + buckets))) b.image.reach first

/-- The indices with this hash in a chain of the table with a bloom filter. The last entry of a
chain has an odd hash. -/
def bloomChain (b : Binary) (chains : UInt64) (hash least : Nat) : Nat → Nat → List Nat
  | 0, _ => []
  | fuel + 1, index =>
    let found := b.placeAt chains (index - least)
    let rest := if found % 2 = 1 then [] else b.bloomChain chains hash least fuel (index + 1)
    if found / 2 = hash / 2 then index :: rest else rest

/-- Whether the bloom filter lets the hash through. -/
def passesFilter (b : Binary) (table : UInt64) (hash : Nat) : Bool :=
  let words := b.placeAt table 2
  let word := b.image.wordAt (table + 16 + UInt64.ofNat (8 * (hash / 64 % words)))
  let bit (n : Nat) : Bool := word.toNat.testBit (n % 64)
  bit hash && bit (hash >>> b.placeAt table 3)

/-- The indices under which the table with a bloom filter may have the name. -/
def bloomCandidates (b : Binary) (table : UInt64) (name : List UInt8) : List Nat :=
  let hash := (bloomHash name).toNat
  let count := b.placeAt table 0
  let buckets := table + 16 + UInt64.ofNat (8 * b.placeAt table 2)
  if count = 0 || !b.passesFilter table hash then []
  else
    let first := b.placeAt buckets (hash % count)
    if first = 0 then []
    else
      b.bloomChain (buckets + UInt64.ofNat (4 * count)) hash (b.placeAt table 1) b.image.reach first

/-- The indices under which the library may have the name. -/
def candidates (b : Binary) (name : List UInt8) : List Nat :=
  match b.value? .bloomHash, b.value? .hash with
  | some table, _ => b.bloomCandidates table name
  | none, some table => b.plainCandidates table name
  | none, none => []

/-! ## 3. Definitions -/

/-- What is wanted by the symbol with this index, for a call or for anything. -/
def wantedBy (b : Binary) (index : Nat) (isCall : Bool) : Wanted :=
  { name := (b.symbol index).name, version := b.versionOf? index, isCall }

/-- The indices of the definitions of what is wanted, of whatever version. -/
def namesakes (b : Binary) (w : Wanted) : List Nat :=
  (b.candidates w.name).filter fun index =>
    (b.symbol index).isDefinition w.isCall && (b.symbol index).name == w.name

/-- Whether the name with this index has the version that is wanted. -/
def hasVersion (b : Binary) (w : Wanted) (index : Nat) : Bool :=
  match b.versionNumber? index, w.version with
  | none, _ => true
  | some number, none => versionIndex number < w.firstVersion
  | some number, some v =>
    match b.versionWith? (versionIndex number) with
    | none => !v.isStrict && !isMarked number
    | some own => own.agrees v

/-- The one name that has a version of its own and no mark, where no version is wanted. -/
def onlyVersion? (b : Binary) (w : Wanted) (indices : List Nat) : Option Nat :=
  if w.version.isSome then none
  else
    match indices.filter fun index => !((b.versionNumber? index).any isMarked) with
    | [index] => some index
    | _ => none

/-- The definition of what is wanted, if the library offers it. -/
def definition? (b : Binary) (w : Wanted) : Option Symbol :=
  let indices := b.namesakes w
  (((indices.find? (b.hasVersion w)).or (b.onlyVersion? w indices)).map b.symbol).filter
    (·.isOffered)

end Binary

end ScriptHost.Library
