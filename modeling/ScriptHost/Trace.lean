import ScriptHost.Report

/-!
# Trace events

The diagnostics that the host writes beside its reports. An event has a level, a message and fields;
all three follow from what happened.
-/

namespace ScriptHost

/-! ## 1. Events -/

/-- Whether a key was free or taken before something was registered under it. -/
inductive Registration where
  | added
  | replaced
  deriving DecidableEq, Repr

/-- The registration in a word. -/
def Registration.word : Registration → String
  | .added => "added"
  | .replaced => "replaced"

/-- Something worth a diagnostic. -/
inductive TraceEvent where
  | moduleOpened (path : Path) (language : String)
  | interfaceRefused (path : Path) (reason : String)
  | moduleLoaded (language : String) (path : Path)
  | moduleRejected (language : String) (path : Path) (error : String)
  | moduleUnloaded (language : String) (path : Path)
  | interpreterDropped (language : String)
  | scriptCached (id : UInt32) (bytes : Nat)
  | configurationApplied (interpreters scripts : Nat)
  | operationFailed (error : String)
  | sourceEmpty (path : Path)
  | sourceUnreadable (path : Path) (error : String)
  | scriptUnknown (id : UInt32)
  | executing (id : UInt32) (language : String)
  | finished (id : UInt32) (value : Int32)
  | failed (id : UInt32) (error : String)
  | scriptRegistered (id : UInt32) (how : Registration)
  | scriptRemoved (id : UInt32)
  | interpreterRegistered (language : String) (how : Registration)
  | manifestLoaded (path : Path) (interpreters scripts : Nat)
  | reportLost (error : String)
  | observed (report : Report)
  deriving DecidableEq, Repr

/-! ## 2. How they are written -/

/-- How much an event matters. -/
inductive Level where
  | debug
  | info
  | warn
  deriving DecidableEq, Repr

/-- The level in a word. -/
def Level.word : Level → String
  | .debug => "debug"
  | .info => "info"
  | .warn => "warn"

/-- The value of a field. -/
inductive FieldValue where
  | number (i : Int)
  | text (s : String)
  deriving DecidableEq, Repr

namespace TraceEvent

/-- The level of the event. -/
def level : TraceEvent → Level
  | .moduleOpened .. | .interfaceRefused .. | .interpreterDropped .. | .scriptCached ..
  | .sourceEmpty .. | .sourceUnreadable .. | .executing .. | .manifestLoaded .. => .debug
  | .moduleRejected .. | .operationFailed .. | .scriptUnknown .. | .failed .. | .reportLost ..
  | .observed (.failed ..) => .warn
  | _ => .info

/-- The message of the event. -/
def message : TraceEvent → String
  | .moduleOpened .. => "Dynamic module opened"
  | .interfaceRefused .. => "Interface check failed"
  | .moduleLoaded .. => "Interpreter module loaded"
  | .moduleRejected .. => "Interpreter module rejected"
  | .moduleUnloaded .. => "Interpreter module unloaded"
  | .interpreterDropped .. => "Dropping interpreter"
  | .scriptCached .. => "Script cached"
  | .configurationApplied .. => "Configuration applied"
  | .operationFailed .. => "Embedder operation failed"
  | .sourceEmpty .. => "Script file is empty"
  | .sourceUnreadable .. => "Script file does not open"
  | .scriptUnknown .. => "Unknown script requested"
  | .executing .. => "Executing script"
  | .finished .. => "Script finished"
  | .failed .. => "Script failed"
  | .scriptRegistered .. => "Script registered"
  | .scriptRemoved .. => "Script removed"
  | .interpreterRegistered .. => "Interpreter registered"
  | .manifestLoaded .. => "Manifest loaded"
  | .reportLost .. => "Failed to write report"
  | .observed (.message text) => text
  | .observed (.executed ..) => "Script executed"
  | .observed (.failed ..) => "Script failed"

/-- The id of a script as a field. -/
def idField (id : UInt32) : String × FieldValue := ("script_id", .number id.toNat)

/-- A path as a field. -/
def pathField (path : Path) : String × FieldValue := ("path", .text path.display)

/-- The fields that show which script ran with what. -/
def runFields (script : ScriptEntry) (params : List String) : List (String × FieldValue) :=
  [idField script.id, ("language", .text script.language),
    ("params", .text (Text.quotedList params))]

/-- The fields of the event. -/
def fields : TraceEvent → List (String × FieldValue)
  | .moduleOpened path language => [pathField path, ("language", .text language)]
  | .interfaceRefused path reason => [pathField path, ("reason", .text reason)]
  | .moduleLoaded language path => [("language", .text language), pathField path]
  | .moduleRejected language path error =>
    [("language", .text language), pathField path, ("error", .text error)]
  | .moduleUnloaded language path => [("language", .text language), pathField path]
  | .interpreterDropped language => [("language", .text language)]
  | .scriptCached id bytes => [idField id, ("bytes", .number bytes)]
  | .configurationApplied interpreters scripts =>
    [("interpreters", .number interpreters), ("scripts", .number scripts)]
  | .operationFailed error => [("error", .text error)]
  | .sourceEmpty path => [pathField path]
  | .sourceUnreadable path error => [pathField path, ("error", .text error)]
  | .scriptUnknown id => [idField id]
  | .executing id language => [idField id, ("language", .text language)]
  | .finished id value => [idField id, ("return_value", .number value.toInt)]
  | .failed id error => [idField id, ("error", .text error)]
  | .scriptRegistered id how => [idField id, ("verb", .text how.word)]
  | .scriptRemoved id => [idField id]
  | .interpreterRegistered language how =>
    [("language", .text language), ("verb", .text how.word)]
  | .manifestLoaded path interpreters scripts =>
    [pathField path, ("interpreters", .number interpreters), ("scripts", .number scripts)]
  | .reportLost error => [("error", .text error)]
  | .observed (.message _) => []
  | .observed (.executed script params value) =>
    runFields script params ++ [("return_value", .number value.toInt)]
  | .observed (.failed script params error) =>
    runFields script params ++ [("error", .text error)]

end TraceEvent

end ScriptHost
