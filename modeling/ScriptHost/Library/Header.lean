import ScriptHost.Library.Fault

/-!
# Headers of libraries

A dynamic library begins with an ELF header, which says where its list of segments is. It is looked
at before anything else, by the rules of the format and in the order of the system's linker; what is
found first decides (`Header.fault?`). Wanted is a library for machines of 64 bits, the least
significant byte first.
-/

namespace ScriptHost.Library.Header

/-! ## 1. Numbers -/

/-- The number that the bytes spell, the least significant byte first. -/
def number (bytes : List UInt8) : Nat := bytes.foldr (fun b n => b.toNat + 256 * n) 0

/-- The number in `size` bytes at the offset. Bytes behind the end count as zero. -/
def numberAt (content : List UInt8) (offset size : Nat) : Nat :=
  number ((content.drop offset).take size)

/-- The least number of bytes that a library has: those of its header. -/
def size : Nat := 64

/-- The number of bytes that describe one segment. -/
def segmentSize : Nat := 56

/-- The number of bytes that are read with the header. -/
def readAhead : Nat := 832

/-- One behind the last offset that a file can have. -/
def offsetLimit : Nat := Nat.pow 2 63

/-- One behind the largest word. -/
def wordLimit : Nat := Nat.pow 2 64

/-- Where the list of segments begins. -/
def segmentsOffset (content : List UInt8) : Nat := numberAt content 32 8

/-- How many segments there are. -/
def segmentCount (content : List UInt8) : Nat := numberAt content 56 2

/-- Where the list of segments ends. -/
def segmentsStop (content : List UInt8) : Nat :=
  (segmentsOffset content + segmentSize * segmentCount content) % wordLimit

/-- Whether the list of segments was read with the header. The end alone counts, so a list that
begins before the file was read with it too. -/
def isListRead (content : List UInt8) : Bool :=
  decide (segmentsStop content ≤ min content.length readAhead)

/-- The bytes of a word. -/
def wordBytes (n : Nat) : List UInt8 :=
  (List.range 8).map fun i => UInt8.ofNat (n / Nat.pow 256 i)

/-- So many bytes before those that are read with the header: the number of these stands there, and
zeros before it. -/
def bytesBefore (content : List UInt8) (count : Nat) : List UInt8 :=
  List.replicate (count - 8) 0 ++
    (wordBytes (min content.length readAhead)).drop (8 - min count 8)

/-- The bytes of the list of segments. -/
def segmentList (content : List UInt8) : List UInt8 :=
  if isListRead content && segmentsStop content < segmentsOffset content then
    bytesBefore content (wordLimit - segmentsOffset content) ++ content
  else content.drop (segmentsOffset content)

/-- Whether the file is a program for one place in memory. -/
def isProgram (content : List UInt8) : Bool := numberAt content 16 2 == 2

/-! ## 2. Faults -/

/-- Whether the file is made for another processor. -/
def isForeign (content : List UInt8) : Bool := numberAt content 18 2 != 62

/-- The faults of the marks at the beginning, and whether the file has them. Version 0 of an
interface is always known, versions 1 to 3 only of the system's own. -/
def markFaults (content : List UInt8) : List (Bool × Fault) :=
  let mark (offset : Nat) := numberAt content offset 1
  [(mark 5 != 1, .otherByteOrder),
   (mark 6 != 1, .otherFormatVersion),
   (mark 7 != 0 && mark 7 != 3, .otherInterface),
   (mark 8 != 0 && !(mark 7 == 3 && mark 8 ≤ 3), .otherInterfaceVersion),
   (numberAt content 9 7 != 0, .filledPadding)]

/-- The faults that are looked for before those of the marks. With a wrong mark the processor counts
already here. -/
def formatFaults (content : List UInt8) : List (Bool × Fault) :=
  [(content.length < size, .tooShort),
   (content.take 4 != [0x7F, 0x45, 0x4C, 0x46], .notElf),
   (numberAt content 4 1 != 2, .otherClass),
   (isForeign content && (markFaults content).any (·.1), .otherProcessor)]

/-- The faults of the rest of the header. -/
def restFaults (content : List UInt8) : List (Bool × Fault) :=
  let kind := numberAt content 16 2
  [(numberAt content 20 4 != 1, .otherVersion),
   (isForeign content, .otherProcessor),
   (kind != 2 && kind != 3, .otherKind),
   (numberAt content 54 2 != segmentSize, .otherSegmentSize)]

/-- The faults of reading the list of segments. What was read with the header is not read again, and
nothing is read of an empty list. -/
def listFaults (content : List UInt8) : List (Bool × Fault) :=
  let stop := segmentsOffset content + segmentSize * segmentCount content
  [(!isListRead content && offsetLimit ≤ stop, .segmentsUnreachable),
   (!isListRead content && segmentCount content != 0 && content.length < stop, .segmentsCut)]

/-- All faults that a header can have, in the order in which they are looked for, and whether the
file has them. -/
def faults (content : List UInt8) : List (Bool × Fault) :=
  formatFaults content ++ markFaults content ++ restFaults content ++ listFaults content

/-- The first fault of the header, if it has any. -/
def fault? (content : List UInt8) : Option Fault :=
  ((faults content).find? (·.1)).map (·.2)

end ScriptHost.Library.Header
