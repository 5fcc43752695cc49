import ScriptHost.Path.Basic

/-!
# Names of loadable libraries

A module path has to be named like a dynamic library: the last component is a name in UTF-8 of the
form `stem.so`, in capital or small letters, with any number of version groups `.digits` behind it.
The stem is not empty; it may hold dots and digits itself. Nothing but the name is looked at.
-/

namespace ScriptHost.Path

/-! ## 1. Parts of a name -/

/-- Whether the part is a version group: one or more ASCII digits. -/
def isVersion (part : List Char) : Bool := !part.isEmpty && part.all Char.isDigit

/-- Whether the part is the extension of a library. -/
def isLibraryExtension (part : List Char) : Bool := part.map Char.toLower == ['s', 'o']

/-- The parts of a name, last part first, without the version groups at the end. The first part of
a name is never a version group. -/
def dropVersions : List (List Char) → List (List Char)
  | last :: before :: rest =>
    if isVersion last then dropVersions (before :: rest) else last :: before :: rest
  | parts => parts

/-! ## 2. Names and paths -/

/-- Whether the name is that of a library. -/
def isLibraryName (name : List Char) : Bool :=
  match dropVersions (Text.split '.' name).reverse with
  | last :: before => isLibraryExtension last && before != [] && before != [[]]
  | [] => false

/-- Whether the path is named like a dynamic library. -/
def isLoadable (p : Path) : Bool :=
  match p.fileName?.bind Utf8.decode? with
  | some name => isLibraryName name.toList
  | none => false

/-- **Alike paths are both loadable or both not.** -/
theorem isLoadable_eq_of_alike {p q : Path} (h : p.alike q = true) :
    p.isLoadable = q.isLoadable := by
  simp [isLoadable, fileName?_eq_of_alike h]

end ScriptHost.Path
