import ScriptHost.Library.Binary
import ScriptHost.Text.Utf8

/-!
# Properties of libraries

What a library tells about itself in notes (`Note`), as far as it matters for loading: which levels
of instructions the processor must have (`Binary.neededLevels`).

* Notes stand one behind the other in a segment. A note may have a list of properties (`Property`),
  ordered by their kinds.
* A segment of properties counts by the first note that has a list. In a segment of notes one note
  may have a list, and it counts only if nothing was told before.
* Segments are read from the last one to the first.
-/

namespace ScriptHost.Library

/-! ## 1. Properties -/

/-- One thing that a library tells about itself. -/
structure Property where
  kind : Nat
  /-- The number of bytes of its value. -/
  size : Nat
  /-- The number in the first bytes of its value. -/
  value : Nat
  deriving DecidableEq, Repr

/-- What notes and properties are aligned to. -/
def noteAlignment : Nat := 8

/-- The first aligned number from this one on. -/
def noteAligned (n : Nat) : Nat := (n + (noteAlignment - 1)) / noteAlignment * noteAlignment

namespace Property

/-- The number of bytes before the value of a property. -/
def headSize : Nat := 8

/-- The number of bytes that a known value has. -/
def valueSize : Nat := 4

/-- The kind of the levels that a library needs. -/
def levelsKind : Nat := 0xC0008002

/-- The kinds that are known. -/
def knownKinds : List Nat := [0xB0008000, 0xC0000002, levelsKind]

/-- Whether nothing is read behind the property: it is what was looked for, or of a known kind with
a value of another size. -/
def isLast (p : Property) : Bool :=
  p.kind == levelsKind || (knownKinds.contains p.kind && p.size != valueSize)

/-- The properties in so many bytes from the address on, whose kinds are not below the least one.
One that is out of order or cut ends them. -/
def listFrom (i : Image) : Nat → Nat → UInt64 → Nat → List Property
  | 0, _, _, _ => []
  | fuel + 1, least, address, room =>
    let p : Property :=
      ⟨i.numberAt address 4, i.numberAt (address + 4) 4, i.numberAt (address + 8) valueSize⟩
    if p.kind < least || room < headSize + p.size then []
    else if p.isLast then [p]
    else
      let length := headSize + noteAligned p.size
      p :: listFrom i fuel p.kind (address + UInt64.ofNat length) (room - length)

/-- The levels that the properties ask for. Every level is a bit. -/
def levels (properties : List Property) : Nat :=
  ((properties.find? fun p => p.kind == levelsKind && p.size == valueSize).map (·.value)).getD 0

end Property

/-! ## 2. Notes -/

/-- A note. -/
structure Note where
  name : List UInt8
  kind : Nat
  /-- The address of its content. -/
  start : UInt64
  /-- The number of bytes of its content. -/
  size : Nat
  deriving DecidableEq, Repr

namespace Note

/-- The number of bytes before the name of a note. -/
def headSize : Nat := 12

/-- The notes in so many bytes from the address on. -/
def listFrom (i : Image) : Nat → UInt64 → Nat → List Note
  | 0, _, _ => []
  | fuel + 1, address, room =>
    if room ≤ headSize then []
    else
      let nameSize := i.numberAt address 4
      let size := i.numberAt (address + 4) 4
      let before := noteAligned (headSize + nameSize)
      let length := noteAligned (before + size)
      { name := i.bytesAt (address + UInt64.ofNat headSize) (min nameSize i.content.size)
        kind := i.numberAt (address + 8) 4
        start := address + UInt64.ofNat before
        size } :: listFrom i fuel (address + UInt64.ofNat length) (room - length)

/-- Whether the note has a list of properties. -/
def hasProperties (n : Note) : Bool := n.kind == 5 && n.name == Utf8.encode "GNU\x00"

/-- The properties of the note. The list of a length that is not aligned is not read. -/
def properties (i : Image) (n : Note) : List Property :=
  if n.size % noteAlignment = 0 then Property.listFrom i i.reach 0 n.start n.size else []

end Note

/-! ## 3. Levels -/

namespace Binary

/-- The lists of properties in the segment. -/
def propertiesIn (b : Binary) (s : Segment) : List (List Property) :=
  ((Note.listFrom b.image b.image.reach s.address s.size.toNat).filter (·.hasProperties)).map
    (·.properties b.image)

/-- The levels that are needed, if anything is told about them, when the segment is read after
others. -/
def learn (b : Binary) (told : Option Nat) (s : Segment) : Option Nat :=
  if s.alignment.toNat ≠ noteAlignment then told
  else if s.kind = .properties then
    match b.propertiesIn s with
    | (p :: rest) :: _ =>
      let levels := Property.levels (p :: rest)
      some (if levels = 0 then told.getD 0 else levels)
    | _ => told
  else if told.isSome then told
  else
    match b.propertiesIn s with
    | [properties] => some (Property.levels properties)
    | _ => some 0

/-- The levels that the library needs. -/
def neededLevels (b : Binary) : Nat := (b.notes.foldl b.learn none).getD 0

/-- The levels that the processor has: four of them. -/
def processorLevels : Nat := 15

/-- Whether the processor has all levels that the library needs. -/
def hasLevels (b : Binary) : Bool := b.neededLevels &&& processorLevels == b.neededLevels

end Binary

end ScriptHost.Library
