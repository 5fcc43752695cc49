/-!
# Faults of library files

Why a file is not mapped into memory as a library (`Fault`), in words (`Fault.message`).

A fault is told of the place where the file was found or of the path that was asked for
(`Fault.tellsPlace`). A file that is made for other machines is passed over (`Fault.isPassedOver`):
a search goes on behind it.
-/

namespace ScriptHost.Library

/-- Why a file is not mapped as a library. -/
inductive Fault where
  | directory
  | tooShort
  | notElf
  /-- Made for machines of another word size. -/
  | otherClass
  | otherByteOrder
  | otherFormatVersion
  | otherInterface
  | otherInterfaceVersion
  | filledPadding
  | otherVersion
  /-- Made for another processor; the file counts as if it were not there. -/
  | otherProcessor
  /-- Neither a library nor a program. -/
  | otherKind
  | otherSegmentSize
  /-- The list of segments stands where no file has bytes. -/
  | segmentsUnreachable
  /-- The list of segments goes beyond the end of the file. -/
  | segmentsCut
  | notAligned
  | noSegments
  | program
  | notDynamic
  /-- A segment finds no room in memory. -/
  | notMapped
  /-- Memory between or behind the segments cannot be protected. -/
  | notProtected
  /-- A segment finds no room for its zeros. -/
  | notFilled
  /-- A program that can be put anywhere in memory. -/
  | movableProgram
  /-- The library refuses to be opened. -/
  | refusesOpening
  deriving DecidableEq, Repr

/-- The fault in words. -/
def Fault.message : Fault → String
  | .directory => "cannot read file data: Is a directory"
  | .tooShort => "file too short"
  | .notElf => "invalid ELF header"
  | .otherClass => "wrong ELF class: ELFCLASS32"
  | .otherByteOrder => "ELF file data encoding not little-endian"
  | .otherFormatVersion => "ELF file version ident does not match current one"
  | .otherInterface => "ELF file OS ABI invalid"
  | .otherInterfaceVersion => "ELF file ABI version invalid"
  | .filledPadding => "nonzero padding in e_ident"
  | .otherVersion => "ELF file version does not match current one"
  | .otherProcessor => "cannot open shared object file: No such file or directory"
  | .otherKind => "only ET_DYN and ET_EXEC can be loaded"
  | .otherSegmentSize => "ELF file's phentsize not the expected size"
  | .segmentsUnreachable => "cannot read file data: Invalid argument"
  | .segmentsCut => "cannot read file data"
  | .notAligned => "ELF load command address/offset not page-aligned"
  | .noSegments => "object file has no loadable segments"
  | .program => "cannot dynamically load executable"
  | .notDynamic => "object file has no dynamic section"
  | .notMapped => "failed to map segment from shared object"
  | .notProtected => "cannot change memory protections"
  | .notFilled => "cannot map zero-fill pages"
  | .movableProgram => "cannot dynamically load position-independent executable"
  | .refusesOpening => "shared object cannot be dlopen()ed"

/-- Whether the file is made for other machines. -/
def Fault.isPassedOver : Fault → Bool
  | .otherClass | .otherProcessor => true
  | _ => false

/-- Whether the fault is told of the place where the file was found, and not of the path that was
asked for: it is, until the file is known to be a library whose segments can be read. -/
def Fault.tellsPlace : Fault → Bool
  | .directory | .tooShort | .notElf | .otherByteOrder | .otherFormatVersion | .otherInterface
  | .otherInterfaceVersion | .filledPadding | .otherVersion | .otherKind | .otherSegmentSize
  | .segmentsUnreachable | .segmentsCut => true
  | _ => false

end ScriptHost.Library
