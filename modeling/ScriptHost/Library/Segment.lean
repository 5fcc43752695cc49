import ScriptHost.Library.Header

/-!
# Segments of libraries

A library describes parts of its file that matter in memory (`Segment`). Those of kind `mapped` are
put into memory, the last one of kind `dynamic` says how the library is linked, the last one of kind
`sealed` is write-protected afterwards, the last one of kind `threads` is what every thread has of
its own, and those of kinds `notes` and `properties` tell about the library.
-/

namespace ScriptHost.Library

/-! ## 1. Pages -/

/-- The number of bytes in a page of memory. -/
def pageSize : UInt64 := 4096

/-- The beginning of the page that the address lies in. -/
def pageStart (address : UInt64) : UInt64 := address - address % pageSize

/-- The first beginning of a page from the address on. -/
def pageEnd (address : UInt64) : UInt64 := pageStart (address + (pageSize - 1))

/-! ## 2. Segments -/

/-- What a segment is for. -/
inductive SegmentKind where
  | mapped
  | dynamic
  /-- Write-protected when the library is linked. -/
  | sealed
  /-- Memory that every thread has of its own. -/
  | threads
  /-- Tells about the library. -/
  | notes
  /-- Tells about the library, and that alone which matters for loading. -/
  | properties
  | other
  deriving DecidableEq, Repr

/-- The kind with this number. -/
def SegmentKind.ofNumber : Nat → SegmentKind
  | 1 => .mapped
  | 2 => .dynamic
  | 0x6474E552 => .sealed
  | 0x6474E553 => .properties
  | 4 => .notes
  | 7 => .threads
  | _ => .other

/-- A segment. -/
structure Segment where
  kind : SegmentKind
  isWritable : Bool
  /-- Where it begins in the file. -/
  offset : UInt64
  /-- Where it begins in memory, as the file counts. -/
  address : UInt64
  /-- The number of its bytes in the file. -/
  stored : UInt64
  /-- The number of its bytes in memory. -/
  size : UInt64
  alignment : UInt64
  deriving DecidableEq, Repr

namespace Segment

/-- The segment that the bytes describe. -/
def ofBytes (bytes : List UInt8) : Segment :=
  let word (offset : Nat) := UInt64.ofNat (Header.numberAt bytes offset 8)
  { kind := .ofNumber (Header.numberAt bytes 0 4)
    isWritable := Header.numberAt bytes 4 4 / 2 % 2 == 1
    offset := word 8
    address := word 16
    stored := word 32
    size := word 40
    alignment := word 48 }

/-- So many segments, one behind the other. -/
def ofList : Nat → List UInt8 → List Segment
  | 0, _ => []
  | count + 1, bytes =>
    .ofBytes (bytes.take Header.segmentSize) :: ofList count (bytes.drop Header.segmentSize)

/-- The segments that the file lists. -/
def listedIn (content : List UInt8) : List Segment :=
  ofList (Header.segmentCount content) (Header.segmentList content)

/-- Whether the segment stands at the same place within a page in the file and in memory. -/
def isAligned (s : Segment) : Bool := s.offset % pageSize == s.address % pageSize

/-- Where the list of the linked parts begins: in the last dynamic segment with bytes in the file.
Address zero is none. -/
def dynamicAddress? (segments : List Segment) : Option UInt64 :=
  match (segments.filter fun s => s.kind == .dynamic && s.stored != 0).getLast? with
  | some s => if s.address = 0 then none else some s.address
  | none => none

/-- The faults of the segments of a file that is a program or not, in the order in which they are
looked for, and whether they have them. -/
def faults (segments : List Segment) (isProgram : Bool) : List (Bool × Fault) :=
  let mapped := segments.filter (·.kind == .mapped)
  let hasEmptyTable := segments.any fun s => s.kind == .dynamic && s.stored == 0
  [(mapped.any (!·.isAligned), .notAligned),
   (mapped.isEmpty, .noSegments),
   (isProgram, .program),
   (hasEmptyTable || (dynamicAddress? segments).isNone, .notDynamic)]

/-- The first fault of the segments, if they have any. -/
def fault? (segments : List Segment) (isProgram : Bool) : Option Fault :=
  ((faults segments isProgram).find? (·.1)).map (·.2)

end Segment

end ScriptHost.Library
