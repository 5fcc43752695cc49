import ScriptHost.Text.Split
import ScriptHost.Text.Utf8

/-!
# Paths

A path is a string of bytes, kept as it was spelled.

* `Path.components` are the steps that a path names. Repeated slashes, a slash at the end and a `.`
  behind the first step name none; a `.` at the beginning and every `..` do.
* Two paths are alike (`Path.alike`) when their components are equal; spellings may differ.
* `Path.join` and `Path.parent?` work on the spelling.
-/

namespace ScriptHost

/-- A path as it was spelled. -/
structure Path where
  bytes : List UInt8
  deriving DecidableEq, Repr, Inhabited

namespace Path

/-! ## 1. Spelling -/

/-- The byte between two components. -/
def slash : UInt8 := 0x2F

/-- The component `.`. -/
def dot : List UInt8 := [0x2E]

/-- The component `..`. -/
def dotDot : List UInt8 := [0x2E, 0x2E]

/-- The path that a text spells. -/
def ofString (s : String) : Path := ⟨Utf8.encode s⟩

/-- The text that spells the path, if there is one. -/
def text? (p : Path) : Option String := Utf8.decode? p.bytes

/-- The path as it stands in messages. -/
def display (p : Path) : String := Utf8.display p.bytes

/-- Whether the path begins at the root. -/
def isAbsolute (p : Path) : Bool := p.bytes.head? == some slash

/-- What stands between the slashes. -/
def segments (p : Path) : List (List UInt8) := Text.split slash p.bytes

/-! ## 2. Components -/

/-- A step that a path names. -/
inductive Component where
  /-- From the root. -/
  | root
  /-- From the working directory, said by a `.` at the beginning. -/
  | current
  /-- To the directory above. -/
  | parent
  /-- To an entry of the directory. -/
  | name (bytes : List UInt8)
  deriving DecidableEq, Repr

/-- Whether a segment names no step behind the first. -/
def isIdle (segment : List UInt8) : Bool := segment == [] || segment == dot

/-- The step that a segment names. -/
def Component.ofSegment? (segment : List UInt8) : Option Component :=
  if isIdle segment then none
  else if segment = dotDot then some .parent
  else some (.name segment)

/-- The steps that segments name behind the first step. -/
def Component.ofSegments (segments : List (List UInt8)) : List Component :=
  segments.filterMap Component.ofSegment?

/-- The steps that the path names, in order. -/
def components (p : Path) : List Component :=
  match p.segments with
  | [] => []
  | first :: rest =>
    if p.isAbsolute then .root :: Component.ofSegments rest
    else if first = dot then .current :: Component.ofSegments rest
    else Component.ofSegments (first :: rest)

/-- Whether the two paths name the same steps. -/
def alike (p q : Path) : Bool := p.components == q.components

/-- The name that the path ends with. -/
def fileName? (p : Path) : Option (List UInt8) :=
  match p.components.getLast? with
  | some (.name bytes) => some bytes
  | _ => none

theorem alike_refl (p : Path) : p.alike p = true := by simp [alike]

theorem alike_iff {p q : Path} : p.alike q = true ↔ p.components = q.components := by
  simp [alike]

/-- **Alike paths end with the same name.** -/
theorem fileName?_eq_of_alike {p q : Path} (h : p.alike q = true) : p.fileName? = q.fileName? := by
  simp [fileName?, alike_iff.1 h]

/-! ## 3. Joining and parting -/

/-- The path seen from the base: an absolute path stays as it is, a relative one follows the base
and a slash. No slash is put behind an empty base or behind one that ends with a slash. -/
def join (base p : Path) : Path :=
  if p.isAbsolute then p
  else
    match base.bytes.getLast? with
    | none => p
    | some b => if b = slash then ⟨base.bytes ++ p.bytes⟩ else ⟨base.bytes ++ slash :: p.bytes⟩

/-- The bytes that spell the root or the `.` at the beginning. -/
def lead (p : Path) : List UInt8 :=
  if p.isAbsolute then [slash]
  else if p.segments.head? = some dot then dot
  else []

/-- The path without its last component and what is idle before it. The root has no parent, and
the empty path has none. -/
def parent? (p : Path) : Option Path :=
  let body := Text.split slash (p.bytes.drop p.lead.length)
  match body.reverse.dropWhile isIdle with
  | _ :: before => some ⟨p.lead ++ Text.joined slash (before.dropWhile isIdle).reverse⟩
  | [] => if p.lead = dot then some ⟨[]⟩ else none

end Path

end ScriptHost
