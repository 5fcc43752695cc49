import ScriptHost.FileTree
import ScriptHost.Library.Relocation

/-!
# Recognising libraries

What a file on disk is to the host. A file that can be mapped as a library is one; it declares the
Echo plugin if both the exported name and the host's interface stand in it.
-/

namespace ScriptHost

/-- Whether the part stands in the bytes. -/
def occursIn (part : List UInt8) : List UInt8 → Bool
  | [] => part.isEmpty
  | b :: r => part.isPrefixOf (b :: r) || occursIn part r

/-- Whether the file can be mapped as a library. -/
def isMappable (content : List UInt8) : Bool :=
  (Library.Header.fault? content).isNone && (Library.Binary.ofContent content).toOption.isSome

/-- The node of a file with this content. -/
def Node.ofContent (content : List UInt8) : Node :=
  if isMappable content then
    if occursIn (Utf8.encode symbolName) content && occursIn (Utf8.encode interfaceId) content then
      .library (some Declaration.echo)
    else .library none
  else .file content

end ScriptHost
