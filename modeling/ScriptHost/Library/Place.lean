import ScriptHost.Path.Basic

/-!
# Places of libraries

Where the library that a path asks for is looked for. The host asks with `Path.place`; a library
that needs others names them with respect to itself (`Path.expanded`).

* A zero byte at the end of the path does not count.
* A path without a slash is the name of a library of the system (`systemPlace`).
* In every other path, a dollar sign and a name stand for something that whoever asks knows: where
  it lies itself, how directories of libraries are called, and the processor. The name may stand in
  braces; without braces no letter, digit or underscore may follow it. Every other dollar sign
  stands for itself.
-/

namespace ScriptHost

/-! ## 1. Placeholders -/

/-- A placeholder. -/
inductive Placeholder where
  /-- The directory of whoever asks. -/
  | origin
  /-- The name of directories of libraries. -/
  | libraries
  /-- The processor. -/
  | platform
  deriving DecidableEq, Repr

namespace Placeholder

/-- All placeholders. -/
def all : List Placeholder := [.origin, .platform, .libraries]

/-- The name after the dollar sign. -/
def name : Placeholder → List UInt8
  | .origin => Utf8.encode "ORIGIN"
  | .libraries => Utf8.encode "LIB"
  | .platform => Utf8.encode "PLATFORM"

/-- What the placeholder stands for, asked from a directory. -/
def value (origin : Path) : Placeholder → List UInt8
  | .origin => origin.bytes
  | .libraries => Utf8.encode "lib/x86_64-linux-gnu"
  | .platform => Utf8.encode "haswell"

/-- Whether the byte may be part of a longer name. -/
def continues (b : UInt8) : Bool :=
  let c := Char.ofNat b.toNat
  c.isAlphanum || c == '_'

/-- How many bytes the placeholder takes at the beginning of what follows a dollar sign; none if it
does not stand there. -/
def lengthAt? (p : Placeholder) (rest : List UInt8) : Option Nat :=
  let bare := p.name
  let braced := Utf8.encode "\x7b" ++ p.name ++ Utf8.encode "\x7d"
  if braced.isPrefixOf rest then some braced.length
  else if bare.isPrefixOf rest && !(rest.drop bare.length).head?.any continues then
    some bare.length
  else none

/-- The placeholder at the beginning of what follows a dollar sign, and how many bytes it takes. -/
def first? (rest : List UInt8) : Option (Placeholder × Nat) :=
  all.findSome? fun p => (p.lengthAt? rest).map (p, ·)

/-- The dollar sign. -/
def sign : UInt8 := 0x24

/-- The bytes with the placeholders replaced, asked from a directory. -/
def replaceIn (origin : Path) : List UInt8 → List UInt8
  | [] => []
  | b :: rest =>
    if b = sign then
      match first? rest with
      | some (p, n) => p.value origin ++ replaceIn origin (rest.drop n)
      | none => b :: replaceIn origin rest
    else b :: replaceIn origin rest
termination_by bytes => bytes.length

end Placeholder

/-! ## 2. Places -/

/-- Where the libraries of the system are. -/
def systemDirectory : Path := Path.ofString "/lib/x86_64-linux-gnu"

/-- Where the linker is. -/
def linkerPlace : Path := Path.ofString "/lib64/ld-linux-x86-64.so.2"

/-- What stands behind the last slash of the path. -/
def Path.lastName (p : Path) : Path := ⟨(p.segments.getLast?).getD []⟩

/-- Where the library of the system is that has the name. -/
def systemPlace (name : Path) : Path :=
  if name = linkerPlace.lastName then linkerPlace else systemDirectory.join name

/-- The path up to the zero byte that may stand at its end. -/
def Path.unterminated (p : Path) : Path :=
  if p.bytes.getLast? = some 0 then ⟨p.bytes.dropLast⟩ else p

/-- Where the host's program lies. -/
def programDirectory : Path := Path.ofString "/usr/local/bin"

/-- The path with its placeholders replaced, asked from a directory. -/
def Path.expanded (p : Path) (origin : Path) : Path := ⟨Placeholder.replaceIn origin p.bytes⟩

/-- Whether the path is a bare name. -/
def Path.isBareName (p : Path) : Bool := !p.bytes.contains Path.slash

/-- Where the library that the host asks for is looked for. -/
def Path.place (p : Path) : Path :=
  if p.isBareName then systemPlace p else p.expanded programDirectory

end ScriptHost
