import ScriptHost.Embedder.Basic

/-!
# Adding and removing

Scripts and interpreters can be added to a committed configuration one at a time; a taken id or
language is replaced. A refused addition changes nothing.

* Adding what is there already, in an alike entry, changes nothing either and is no error.
* A replaced interpreter is unloaded after the new one has been loaded.
-/

namespace ScriptHost.Embedder

/-- What a change answers, with the embedder after it. -/
abbrev Change := Turn (Except EmbedderError Unit × Embedder)

/-- A change that is refused. -/
def refuse (e : Embedder) (host : Host) (err : EmbedderError) (before : List Effect) : Change :=
  ⟨(.error err, e), host, before ++ e.refusal err⟩

/-! ## 1. Scripts -/

/-- The change that registers the script, with the cache that goes with it. -/
def registerScript (e : Embedder) (host : Host) (script : ScriptEntry)
    (cache : Catalog UInt32 String) (how : Registration) : Change :=
  let next :=
    { e with configuration := (e.configuration.addScript script).2, cache := cache }
  ⟨(.ok (), next), host,
    .traced (.scriptRegistered script.id how) :: e.note s!"Script '{script.id}' {how.word}."⟩

/-- Adds a script. -/
def addScript (e : Embedder) (host : Host) (script : ScriptEntry) : Change :=
  let previous := e.configuration.script? script.id
  let how : Registration := if previous.isSome then .replaced else .added
  if previous.any (·.alike script) then
    ⟨(.ok (), e), host, e.note s!"Script '{script.id}' already exists."⟩
  else if !e.active.contains script.language then
    e.refuse host (.noInterpreterFor script.id script.language) []
  else if !host.files.exists? script.path then e.refuse host (.missingFile script.path) []
  else if script.cached then
    match readSource host.files script.path with
    | (none, why) => e.refuse host (.sourceUnreadable script.id script.path) why
    | (some source, _) => e.registerScript host script (e.cache.insert script.id source) how
  else e.registerScript host script (e.cache.erase script.id) how

/-- Removes the script with the id and answers with its entry. -/
def removeScript (e : Embedder) (host : Host) (id : UInt32) :
    Turn (Option ScriptEntry × Embedder) :=
  match e.configuration.removeScript id with
  | (none, _) =>
    ⟨(none, e), host, e.note s!"Could not remove script '{id}': No such script."⟩
  | (some removed, conf) =>
    let next := { e with configuration := conf, cache := e.cache.erase id }
    ⟨(some removed, next), host,
      .traced (.scriptRemoved id) :: e.note s!"Script '{id}' removed."⟩

/-! ## 2. Interpreters -/

/-- Adds an interpreter. -/
def addInterpreter (e : Embedder) (host : Host) (entry : InterpreterEntry) : Change :=
  let previous := e.active.get? entry.language
  let how : Registration := if previous.isSome then .replaced else .added
  if previous.any (·.loader.entry.alike entry) then
    ⟨(.ok (), e), host, e.note s!"Interpreter for '{entry.language}' already exists."⟩
  else if !entry.module.isLoadable then e.refuse host (.notLoadable entry.module) []
  else
    match e.configuration.api with
    | none => e.refuse host .missingApi []
    | some api =>
      let t := Active.load entry api (Active.held e.active.values) host
      match t.answer with
      | .error err => e.refuse t.host (.interpreterNotAdded err) t.effects
      | .ok a =>
        let unloaded := match previous with
          | some old => old.unload
          | none => []
        let next :=
          { e with configuration := (e.configuration.addInterpreter entry).2,
                   active := e.active.insert entry.language a }
        ⟨(.ok (), next), t.host,
          t.effects ++ unloaded ++ .traced (.interpreterRegistered entry.language how) ::
            e.note s!"Interpreter for '{entry.language}' {how.word}."⟩

end ScriptHost.Embedder
