import ScriptHost.FileTree

/-!
# Libraries in memory

What is kept of the libraries in memory between two openings. What is made of it is up to the
backend that opens them (`Backend`), and nothing else looks into it.
-/

namespace ScriptHost.Library

/-- What libraries are told apart by: those with a known declaration by the declaration, all others
by where they were and what they are. -/
inductive LibraryId where
  | declared (declaration : Declaration)
  | stored (location : Location) (node : Node)
  deriving DecidableEq, Repr

/-- A library in memory. -/
structure Resident where
  id : LibraryId
  /-- Where its file was found. -/
  place : Path
  /-- The paths that it was asked for by. -/
  names : List Path
  /-- The libraries that it needs. -/
  needs : List LibraryId := []
  /-- The library that it was first needed by, if not by the host. -/
  neededBy : Option LibraryId := none
  deriving DecidableEq, Repr

end ScriptHost.Library
