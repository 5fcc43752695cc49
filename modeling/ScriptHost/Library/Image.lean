import ScriptHost.Library.Segment

/-!
# Images of libraries

What stands in memory when the segments of a library are put there (`Image`).

* Room for the whole library is taken first, from the first segment to the end of the last one; it
  shows the file from the first segment on. The other segments are then put to their places.
* What a segment has in memory and not in the file is filled with zeros.
* Memory that nothing was put into reads as zero, and so does what lies behind the end of the file.
-/

namespace ScriptHost.Library

/-! ## 1. Room -/

/-- The most bytes for which there is room in one piece. -/
def roomLimit : UInt64 := 0x555555550000

/-- The most bytes that can be written to in one piece. -/
def storeLimit : UInt64 := 0x7BFFFFFFF

/-- One behind the last address. -/
def addressLimit : UInt64 := 0x7FFFFFFFF000

/-- Where libraries are put: the end of the next one. -/
def roomStop : UInt64 := 0x7FFFF0000000

/-- Whether there is room for so many bytes in one piece. -/
def hasRoom (size : UInt64) (isWritable : Bool) : Bool :=
  size != 0 && size ≤ (if isWritable then storeLimit else roomLimit)

/-- Whether so many bytes can be put at the address. -/
def hasRoomAt (address size : UInt64) (isWritable : Bool) : Bool :=
  hasRoom size isWritable && address ≤ addressLimit && address.toNat + size.toNat ≤
    addressLimit.toNat

/-- Whether a file can have so many bytes from the offset on. -/
def canHold (offset size : UInt64) : Bool := offset.toNat + size.toNat < Header.offsetLimit

/-! ## 2. Parts -/

/-- A segment to be put into memory, with addresses as the file counts. -/
structure Part where
  /-- The beginning of its first page. -/
  start : UInt64
  /-- The end of its last page with bytes from the file. -/
  stop : UInt64
  /-- The end of its bytes from the file. -/
  storedStop : UInt64
  /-- The end of its bytes. -/
  sizeStop : UInt64
  /-- Where its first page begins in the file. -/
  offset : UInt64
  isWritable : Bool
  deriving DecidableEq, Repr

/-- The part of memory that the segment is for. -/
def Part.ofSegment (s : Segment) : Part :=
  { start := pageStart s.address
    stop := pageEnd (s.address + s.stored)
    storedStop := s.address + s.stored
    sizeStop := s.address + s.size
    offset := pageStart s.offset
    isWritable := s.isWritable }

/-- Whether there is something between two neighbouring parts, or they overlap. -/
def Part.haveGaps : List Part → Bool
  | p :: q :: rest => p.stop != q.start || haveGaps (q :: rest)
  | _ => false

/-- The largest power of two that a segment asks to be aligned to. -/
def commonAlignment (segments : List Segment) : UInt64 :=
  segments.foldl (fun most s =>
    if s.alignment &&& (s.alignment - 1) = 0 && most < s.alignment then s.alignment else most) 0

/-! ## 3. Regions -/

/-- A piece of memory. -/
structure Region where
  start : UInt64
  size : UInt64
  /-- Where in the file its bytes are; without a file they are zeros. -/
  source : Option UInt64
  deriving DecidableEq, Repr

/-- Whether the address lies in the region. -/
def Region.holds (r : Region) (address : UInt64) : Bool := address - r.start < r.size

/-- A library in memory. -/
structure Image where
  /-- The bytes of the file. -/
  content : Array UInt8
  /-- How far its addresses lie from those that the file counts with. -/
  shift : UInt64
  /-- What was put into memory, the latest first. -/
  regions : List Region
  deriving DecidableEq, Repr

namespace Image

/-- The byte at an address as the file counts. -/
def byteAt (i : Image) (address : UInt64) : UInt8 :=
  let there := i.shift + address
  match i.regions.find? (·.holds there) with
  | some ⟨start, _, some offset⟩ => i.content.getD (offset + (there - start)).toNat 0
  | _ => 0

/-- Bytes from the address on. -/
def bytesAt (i : Image) (address : UInt64) (count : Nat) : List UInt8 :=
  (List.range count).map fun n => i.byteAt (address + UInt64.ofNat n)

/-- The number in `size` bytes at the address. -/
def numberAt (i : Image) (address : UInt64) (size : Nat) : Nat :=
  Header.number (i.bytesAt address size)

/-- The word at the address. -/
def wordAt (i : Image) (address : UInt64) : UInt64 := UInt64.ofNat (i.numberAt address 8)

/-- More bytes than follow each other anywhere in the image without a zero. -/
def reach (i : Image) : Nat := (i.content.size + 1) * (i.regions.length + 1)

/-- The bytes from the address on, up to the first zero or the end of the fuel. -/
def textFrom (i : Image) : Nat → UInt64 → List UInt8
  | 0, _ => []
  | fuel + 1, address =>
    let b := i.byteAt address
    if b = 0 then [] else b :: i.textFrom fuel (address + 1)

/-- The bytes from the address on, up to the first zero. -/
def textAt (i : Image) (address : UInt64) : List UInt8 := i.textFrom i.reach address

/-- Whether something was put at the address. -/
def isMapped (i : Image) (address : UInt64) : Bool :=
  i.regions.any (·.holds (i.shift + address))

/-! ## 4. Mapping -/

/-- Whether there is room for the library as a whole. -/
def fits (first : Part) (length alignment : UInt64) : Bool :=
  let reserved :=
    if alignment ≤ pageSize then length
    else if alignment ≤ length then length + alignment
    else 2 * alignment
  hasRoom reserved (alignment ≤ pageSize && first.isWritable) &&
    hasRoom length first.isWritable && canHold first.offset length

/-- Takes the room for the whole library, from the first part to the end of the last. -/
def reserve (content : Array UInt8) (first last : Part) (alignment : UInt64) (haveGaps : Bool) :
    Except Fault Image :=
  let length := last.sizeStop - first.start
  let gapStart := first.stop - first.start
  let gapStop := last.start - first.start
  if !fits first length alignment then .error .notMapped
  else if haveGaps && last.start < first.stop then .error .notAligned
  else if haveGaps && gapStart != gapStop && pageEnd length < gapStop then .error .notProtected
  else
    let start := roomStop - pageEnd length
    .ok ⟨content, start - first.start, [⟨start, pageEnd length, some first.offset⟩]⟩

/-- Puts the bytes of the part that are in the file to their place. -/
def place (i : Image) (p : Part) : Except Fault Image :=
  let start := i.shift + p.start
  let size := p.stop - p.start
  if p.stop ≤ p.start then .ok i
  else if hasRoomAt start size p.isWritable && canHold p.offset size then
    .ok { i with regions := ⟨start, size, some p.offset⟩ :: i.regions }
  else .error .notMapped

/-- Fills the part up with zeros. The zeros begin within a page with bytes from the file, which has
to be there if it is to be made writable for them. -/
def fill (i : Image) (p : Part) : Except Fault Image :=
  let start := i.shift + p.storedStop
  let stop := i.shift + p.sizeStop
  let cut := min (pageEnd start) stop
  if p.sizeStop ≤ p.storedStop then .ok i
  else if start < cut && !p.isWritable && !i.regions.any (·.holds (pageStart start)) then
    .error .notProtected
  else if cut < stop && !hasRoomAt cut (stop - cut) p.isWritable then .error .notFilled
  else .ok { i with regions := ⟨start, stop - start, none⟩ :: i.regions }

/-- Puts the parts behind the first one to their places, each with its zeros. -/
def placeAll (i : Image) : List Part → Except Fault Image
  | [] => .ok i
  | p :: rest =>
    match i.place p with
    | .error e => .error e
    | .ok placed =>
      match placed.fill p with
      | .error e => .error e
      | .ok filled => filled.placeAll rest

/-- The image of the mapped segments of a file. -/
def ofSegments (content : List UInt8) (segments : List Segment) : Except Fault Image :=
  let mapped := segments.filter (·.kind == .mapped)
  match mapped.map Part.ofSegment with
  | [] => .error .noSegments
  | first :: rest =>
    let last := (first :: rest).getLast?.getD first
    match reserve content.toArray first last (commonAlignment mapped)
        (Part.haveGaps (first :: rest)) with
    | .error e => .error e
    | .ok i =>
      match i.fill first with
      | .error e => .error e
      | .ok filled => filled.placeAll rest

end Image

end ScriptHost.Library
