import ScriptHost.Library.Group
import ScriptHost.Module.Backend

/-!
# Opening dynamic libraries

The dynamic backend opens libraries and looks for the plugin that they declare.

* The empty path is the host's own program, which declares no plugin.
* A library that was loaded with others may find its plugin in one of them.
* A library that cannot be loaded leaves nothing in memory. One without a plugin stays if it is
  pinned there.

The loading itself is not the host's: `Library` renders what is documented of `dlopen`, `dlsym` and
`dlclose`, of the dynamic linker of the GNU C library on Linux for x86-64, and of the ELF format. The
host works with a `Backend`, of which this is one, and whatever is proved of the host holds with any
backend.
-/

namespace ScriptHost

/-! ## 1. Paths of libraries -/

/-- The path of a library. No zero byte is in it but one at its end, which does not count. -/
def Path.ofLibrary (given : Path) : Except String Path :=
  let path := given.unterminated
  if path.bytes.contains 0 then
    .error (if path = given then "could not create a C string from bytes"
      else "could not create a C string from bytes with trailing null")
  else .ok path

/-- The name by which the host's program goes. -/
def programPath : Path := Path.ofString "scriptor"

/-! ## 2. Opening -/

/-- The error of a library without a declaration. -/
def undeclared (path : Path) : OpenError :=
  .noInterface s!"no plugin declaration: {path.display}: undefined symbol: {symbolName}"

/-- The error of a library that declares another interface. -/
def otherInterface (interface : String) : OpenError :=
  .noInterface s!"declares interface '{interface}', expected '{interfaceId}'"

namespace Library

/-- The module that the libraries loaded together are. -/
def Group.module (g : Group) : Except OpenError FoundModule :=
  match g.offer? with
  | some (.plugin plugin) => .ok ⟨plugin, some g.root⟩
  | some (.otherInterface interface) => .error (otherInterface interface)
  | none =>
    .error (undeclared (((Resident.get? g.residents g.root).map (·.place)).getD programPath))

end Library

/-- What opening a dynamic library answers. -/
def Scene.openLibrary (scene : Scene) (given : Path) : Opening :=
  let residents := Library.Resident.kept scene.residents scene.held
  match Path.ofLibrary given with
  | .error reason => ⟨.error (.cannotOpen reason), residents⟩
  | .ok path =>
    if path.bytes.isEmpty then ⟨.error (undeclared programPath), residents⟩
    else
      match Library.Group.load scene.files residents path with
      | .error fault => ⟨.error (.cannotOpen fault.message), residents⟩
      | .ok g => ⟨g.module, g.residents⟩

/-- The backend that opens dynamic libraries. -/
def Backend.dynamic : Backend := ⟨true, Scene.openLibrary⟩

end ScriptHost
