import ScriptHost.Embedder.Active
import ScriptHost.Embedder.Error

/-!
# Embedders

An embedder works with one committed configuration: it keeps an interpreter loaded for each of its
languages and the sources of its cached scripts.

* `Embedder.reset` lets go of everything and applies a configuration: validation first, then the
  interpreters by ascending language, then the cached sources by ascending id. The first failure
  leaves the embedder empty, and the error is kept.
* Every change and every execution is reported to the observer once.
-/

namespace ScriptHost

/-- The state of an embedder. -/
structure Embedder where
  configuration : Configuration := Configuration.empty
  /-- The loaded interpreters by language. -/
  active : Catalog String Active := Catalog.empty
  /-- The sources kept in memory by script id. -/
  cache : Catalog UInt32 String := Catalog.empty
  /-- Why the last configuration was not applied. -/
  lastError : Option EmbedderError := none
  observer : Option Observer := none
  deriving DecidableEq

namespace Embedder

/-! ## 1. Views -/

/-- Whether the last configuration was applied. -/
def isValid (e : Embedder) : Bool := e.lastError.isNone

/-- The error of the last configuration in words, empty if there is none. -/
def errorText (e : Embedder) : String :=
  match e.lastError with
  | some err => err.message
  | none => ""

/-- The languages with a loaded interpreter, ascending. -/
def languages (e : Embedder) : List String := e.active.keys

/-- Whether the source of the script is kept in memory. -/
def isCached (e : Embedder) (id : UInt32) : Bool := e.cache.contains id

/-! ## 2. Sources and reports -/

/-- The text of a script file; an empty file has none. The effects say why there is none. -/
def readSource (files : FileTree) (path : Path) : Option String × List Effect :=
  match files.readText path with
  | .error err => (none, [.traced (.sourceUnreadable path err.message)])
  | .ok text => if text.isEmpty then (none, [.traced (.sourceEmpty path)]) else (some text, [])

/-- The effects of a message to the observer. -/
def note (e : Embedder) (text : String) : List Effect := tell e.observer (.message text)

/-- The effects of a refusal. -/
def refusal (e : Embedder) (err : EmbedderError) : List Effect :=
  .traced (.operationFailed err.message) :: e.note err.message

/-! ## 3. Applying a configuration -/

/-- Loads the interpreters in order until one fails. -/
def loadAll (api : ApiHandle) :
    List InterpreterEntry → Catalog String Active → Host →
      Turn (Except LoadError Unit × Catalog String Active)
  | [], active, host => ⟨(.ok (), active), host, []⟩
  | entry :: rest, active, host =>
    let t := Active.load entry api (Active.held active.values) host
    match t.answer with
    | .error err => ⟨(.error err, active), t.host, t.effects⟩
    | .ok a => (loadAll api rest (active.insert entry.language a) t.host).after t.effects

/-- What reading the cached sources comes to: the script without a source, or all sources; and the
effects. -/
abbrev Filling := Except ScriptEntry (Catalog UInt32 String) × List Effect

/-- Reads the sources of the scripts that are to be cached, in order, until one is missing. -/
def fillCache (files : FileTree) : List ScriptEntry → Catalog UInt32 String → Filling
  | [], cache => (.ok cache, [])
  | script :: rest, cache =>
    if script.cached then
      match readSource files script.path with
      | (none, why) => (.error script, why)
      | (some source, why) =>
        let filled := fillCache files rest (cache.insert script.id source)
        (filled.1, why ++ .traced (.scriptCached script.id source.utf8ByteSize) :: filled.2)
    else fillCache files rest cache

/-- What applying a configuration has come to: an error or none, and what was loaded until then. -/
structure Applied where
  result : Except EmbedderError Unit
  active : Catalog String Active := Catalog.empty
  cache : Catalog UInt32 String := Catalog.empty

/-- Applies the configuration to an embedder that holds nothing. -/
def apply (conf : Configuration) (host : Host) : Turn Applied :=
  match conf.violation? host.files, conf.api with
  | some v, _ => ⟨⟨.error (.invalidConfiguration v), Catalog.empty, Catalog.empty⟩, host, []⟩
  | none, none =>
    ⟨⟨.error (.invalidConfiguration .missingApi), Catalog.empty, Catalog.empty⟩, host, []⟩
  | none, some api =>
    let t := loadAll api conf.interpreters.values Catalog.empty host
    match t.answer with
    | (.error err, active) =>
      ⟨⟨.error (.interpreterNotLoaded err), active, Catalog.empty⟩, t.host, t.effects⟩
    | (.ok (), active) =>
      match fillCache t.host.files conf.scripts.values Catalog.empty with
      | (.error script, why) =>
        ⟨⟨.error (.cachedSourceUnreadable script.id script.path), active, Catalog.empty⟩, t.host,
          t.effects ++ why⟩
      | (.ok cache, why) => ⟨⟨.ok (), active, cache⟩, t.host, t.effects ++ why⟩

/-! ## 4. Resetting -/

/-- The effects of unloading the interpreters, by ascending language. -/
def unloadAll (active : Catalog String Active) : List Effect :=
  active.entries.flatMap fun a => .traced (.interpreterDropped a.1) :: a.2.unload

/-- Replaces everything by what the configuration asks for. -/
def reset (e : Embedder) (conf : Configuration) (host : Host) :
    Turn (Except EmbedderError Unit × Embedder) :=
  let t := apply conf host
  let before := unloadAll e.active ++ t.effects
  match t.answer.result with
  | .ok () =>
    let next : Embedder :=
      { configuration := conf, active := t.answer.active, cache := t.answer.cache,
        lastError := none, observer := e.observer }
    ⟨(.ok (), next), t.host,
      before ++ .traced (.configurationApplied next.active.size conf.scripts.size) ::
        next.note "Configuration set successfully."⟩
  | .error err =>
    let next : Embedder := { lastError := some err, observer := e.observer }
    ⟨(.error err, next), t.host, before ++ unloadAll t.answer.active ++ next.refusal err⟩

/-- A new embedder with the configuration; a failure is kept as its error. -/
def new (conf : Configuration) (observer : Option Observer) (host : Host) : Turn Embedder :=
  (reset { observer } conf host).map (·.2)

/-- The effects of an embedder's end: by ascending language, each interpreter is destroyed and its
module closed. -/
def close (e : Embedder) : List Effect := e.active.values.flatMap Active.close

end Embedder

end ScriptHost
