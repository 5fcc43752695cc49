import ScriptHost.Path.Basic

/-!
# Plugins

What an interpreter module offers. A module declares the interface it was made for and the plugin
behind it; only a module with the host's own interface is used. A plugin states its language and
hands out interpreters of an engine: the Echo interpreter, a recorder, which keeps account of what
the host does with it, or any other one. Of the other ones only the name is known here; what they do
is a parameter of everything that works with them.
-/

namespace ScriptHost

/-- The interface that a module has to declare; its revision is part of it. -/
def interfaceId : String := "scriptor.InterpreterPlugin/0.1.0"

/-- The exported name under which a dynamic module declares its plugin. -/
def symbolName : String := "SCRIPTOR_INTERPRETER_PLUGIN"

/-- What runs the scripts of a plugin. -/
inductive Engine where
  /-- The Echo interpreter. -/
  | echo
  /-- An interpreter that records its life under a label and counts its runs. -/
  | recorder (label : Path)
  /-- Any other interpreter. -/
  | custom (name : String)
  deriving DecidableEq, Repr, Inhabited

/-- The label under which is noted what happens to a module of the engine. Of an Echo module nothing
is noted. -/
def Engine.label? : Engine → Option Path
  | .echo => none
  | .recorder label => some label
  | .custom name => some (Path.ofString name)

/-- What a module offers: a language and the engine behind it. -/
structure Plugin where
  language : String
  engine : Engine
  deriving DecidableEq, Repr, Inhabited

/-- The plugin of the Echo module. -/
def Plugin.echo : Plugin := ⟨"Echo", .echo⟩

/-- What a module declares. -/
structure Declaration where
  interface : String
  plugin : Plugin
  deriving DecidableEq, Repr

/-- Whether the declaration was made for the host's interface. -/
def Declaration.isCompatible (d : Declaration) : Bool := d.interface == interfaceId

/-- The declaration of the Echo module. -/
def Declaration.echo : Declaration := ⟨interfaceId, .echo⟩

end ScriptHost
