import ScriptHost.Embedder.Step
import ScriptHost.Proofs.Module.Opening
import ScriptHost.Proofs.Validation

/-!
# How the operations of an embedder end

Each operation has a few exits. An exit says under which conditions it is taken and what the whole
turn is then: answer, embedder, host and effects. What an operation keeps is shown exit by exit.

* `Resetting`: an invalid configuration, an interpreter that is not loaded, a script without a
  source, or the configuration applied.
* `ScriptAddition`, `ScriptRemoval`, `InterpreterAddition`: nothing new, refused, or registered.
* `Execution`: no such script, no source, no interpreter, or a run.
-/

namespace ScriptHost.Embedder

variable {e : Embedder} {host : Host}

/-! ## 1. Resetting -/

/-- The embedder that a reset leaves which failed with the error. -/
def failedWith (e : Embedder) (err : EmbedderError) : Embedder :=
  { lastError := some err, observer := e.observer }

/-- The embedder that works with the configuration. -/
def working (e : Embedder) (conf : Configuration) (active : Catalog String Active)
    (cache : Catalog UInt32 String) : Embedder :=
  { configuration := conf, active, cache, observer := e.observer }

/-- The exits of a reset. -/
inductive Resetting (e : Embedder) (conf : Configuration) (host : Host) : Change → Prop where
  | invalid {v : Violation} (violation : conf.violation? host.files = some v) :
      Resetting e conf host
        ⟨(.error (.invalidConfiguration v), e.failedWith (.invalidConfiguration v)), host,
          unloadAll e.active ++ (e.failedWith (.invalidConfiguration v)).refusal
            (.invalidConfiguration v)⟩
  | notLoaded {api : ApiHandle} {err : LoadError} {active : Catalog String Active} {after : Host}
      {loading : List Effect} (valid : conf.violation? host.files = none)
      (hapi : conf.api = some api)
      (hload : loadAll api conf.interpreters.values Catalog.empty host =
        ⟨(.error err, active), after, loading⟩) :
      Resetting e conf host
        ⟨(.error (.interpreterNotLoaded err), e.failedWith (.interpreterNotLoaded err)), after,
          unloadAll e.active ++ loading ++ unloadAll active ++
            (e.failedWith (.interpreterNotLoaded err)).refusal (.interpreterNotLoaded err)⟩
  | sourceless {api : ApiHandle} {active : Catalog String Active} {after : Host}
      {loading why : List Effect} {script : ScriptEntry}
      (valid : conf.violation? host.files = none) (hapi : conf.api = some api)
      (hload : loadAll api conf.interpreters.values Catalog.empty host =
        ⟨(.ok (), active), after, loading⟩)
      (hfill : fillCache after.files conf.scripts.values Catalog.empty = (.error script, why)) :
      Resetting e conf host
        ⟨(.error (.cachedSourceUnreadable script.id script.path),
          e.failedWith (.cachedSourceUnreadable script.id script.path)), after,
          unloadAll e.active ++ (loading ++ why) ++ unloadAll active ++
            (e.failedWith (.cachedSourceUnreadable script.id script.path)).refusal
              (.cachedSourceUnreadable script.id script.path)⟩
  | applied {api : ApiHandle} {active : Catalog String Active} {after : Host}
      {loading why : List Effect} {cache : Catalog UInt32 String}
      (valid : conf.violation? host.files = none) (hapi : conf.api = some api)
      (hload : loadAll api conf.interpreters.values Catalog.empty host =
        ⟨(.ok (), active), after, loading⟩)
      (hfill : fillCache after.files conf.scripts.values Catalog.empty = (.ok cache, why)) :
      Resetting e conf host
        ⟨(.ok (), e.working conf active cache), after,
          unloadAll e.active ++ (loading ++ why) ++
            .traced (.configurationApplied active.size conf.scripts.size) ::
              (e.working conf active cache).note "Configuration set successfully."⟩

theorem reset_resetting (e : Embedder) (conf : Configuration) (host : Host) :
    Resetting e conf host (e.reset conf host) := by
  cases hv : conf.violation? host.files with
  | some v =>
    have hn : unloadAll Catalog.empty = [] := rfl
    simp only [reset, apply, hv, hn, List.append_nil]
    exact .invalid hv
  | none =>
    obtain ⟨api, ha⟩ := Configuration.api_of_valid hv
    simp only [reset, apply, hv, ha]
    rcases hl : loadAll api conf.interpreters.values Catalog.empty host with
      ⟨⟨_ | ⟨⟩, active⟩, after, loading⟩
    · exact .notLoaded hv ha hl
    · rcases hf : fillCache after.files conf.scripts.values Catalog.empty with
        ⟨script | cache, why⟩
      · exact .sourceless hv ha hl hf
      · exact .applied hv ha hl hf

/-! ## 2. Scripts -/

/-- Whether the key of the entry that was found before was taken. -/
def registration {α : Type} (previous : Option α) : Registration :=
  if previous.isSome then .replaced else .added

/-- The exits of adding a script. -/
inductive ScriptAddition (e : Embedder) (host : Host) (script : ScriptEntry) : Change → Prop where
  | known {previous : ScriptEntry} (found : e.configuration.script? script.id = some previous)
      (alike : previous.alike script = true) :
      ScriptAddition e host script
        ⟨(.ok (), e), host, e.note s!"Script '{script.id}' already exists."⟩
  | unserved (new : (e.configuration.script? script.id).any (·.alike script) = false)
      (unserved : e.active.contains script.language = false) :
      ScriptAddition e host script
        (e.refuse host (.noInterpreterFor script.id script.language) [])
  | missing (new : (e.configuration.script? script.id).any (·.alike script) = false)
      (served : e.active.contains script.language = true)
      (missing : host.files.exists? script.path = false) :
      ScriptAddition e host script (e.refuse host (.missingFile script.path) [])
  | sourceless {why : List Effect}
      (new : (e.configuration.script? script.id).any (·.alike script) = false)
      (served : e.active.contains script.language = true)
      (present : host.files.exists? script.path = true) (cached : script.cached = true)
      (read : readSource host.files script.path = (none, why)) :
      ScriptAddition e host script
        (e.refuse host (.sourceUnreadable script.id script.path) why)
  | cached {source : String} {why : List Effect}
      (new : (e.configuration.script? script.id).any (·.alike script) = false)
      (served : e.active.contains script.language = true)
      (present : host.files.exists? script.path = true) (cached : script.cached = true)
      (read : readSource host.files script.path = (some source, why)) :
      ScriptAddition e host script
        (e.registerScript host script (e.cache.insert script.id source)
          (registration (e.configuration.script? script.id)))
  | uncached (new : (e.configuration.script? script.id).any (·.alike script) = false)
      (served : e.active.contains script.language = true)
      (present : host.files.exists? script.path = true) (uncached : script.cached = false) :
      ScriptAddition e host script
        (e.registerScript host script (e.cache.erase script.id)
          (registration (e.configuration.script? script.id)))

theorem addScript_addition (e : Embedder) (host : Host) (script : ScriptEntry) :
    ScriptAddition e host script (e.addScript host script) := by
  unfold addScript
  by_cases hk : (e.configuration.script? script.id).any (·.alike script) = true
  · obtain ⟨previous, hp, ha⟩ := (Option.any_eq_true _ _).1 hk
    simp only [if_pos hk]
    exact .known hp ha
  · have new := Bool.eq_false_iff.2 hk
    simp only [if_neg hk]
    cases hs : e.active.contains script.language with
    | false =>
      simp only [Bool.not_false, if_true]
      exact .unserved new hs
    | true =>
      cases hf : host.files.exists? script.path with
      | false =>
        simp only [Bool.not_true, Bool.not_false, Bool.false_eq_true, if_false, if_true]
        exact .missing new hs hf
      | true =>
        simp only [Bool.not_true, Bool.false_eq_true, if_false]
        by_cases hc : script.cached = true
        · rw [if_pos hc]
          rcases hr : readSource host.files script.path with ⟨_ | source, why⟩
          · exact .sourceless new hs hf hc hr
          · exact .cached new hs hf hc hr
        · rw [if_neg hc]
          exact .uncached new hs hf (Bool.eq_false_iff.2 hc)

/-- The exits of removing a script. -/
inductive ScriptRemoval (e : Embedder) (host : Host) (id : UInt32) :
    Turn (Option ScriptEntry × Embedder) → Prop where
  | unknown (unknown : e.configuration.script? id = none) :
      ScriptRemoval e host id
        ⟨(none, e), host, e.note s!"Could not remove script '{id}': No such script."⟩
  | removed {script : ScriptEntry} (found : e.configuration.script? id = some script) :
      ScriptRemoval e host id
        ⟨(some script, { e with configuration := (e.configuration.removeScript id).2,
                                cache := e.cache.erase id }), host,
          .traced (.scriptRemoved id) :: e.note s!"Script '{id}' removed."⟩

theorem removeScript_removal (e : Embedder) (host : Host) (id : UInt32) :
    ScriptRemoval e host id (e.removeScript host id) := by
  unfold removeScript
  cases h : e.configuration.script? id with
  | none =>
    simp only [Configuration.removeScript, h]
    exact .unknown h
  | some script =>
    simp only [Configuration.removeScript, h]
    exact .removed h

/-! ## 3. Interpreters -/

/-- The effects of unloading the interpreter that was replaced, if there was one. -/
def unloadReplaced : Option Active → List Effect
  | some old => old.unload
  | none => []

/-- What is told about a registered interpreter. -/
def interpreterNote (language : String) (how : Registration) : String :=
  s!"Interpreter for '{language}' {how.word}."

/-- The embedder with the entry registered and loaded. -/
def withEntry (e : Embedder) (entry : InterpreterEntry) (a : Active) : Embedder :=
  { e with configuration := (e.configuration.addInterpreter entry).2,
           active := e.active.insert entry.language a }

theorem withEntry_interpreter? (e : Embedder) (entry : InterpreterEntry) (a : Active)
    (l : String) : (e.withEntry entry a).configuration.interpreter? l =
      if l = entry.language then some entry else e.configuration.interpreter? l :=
  Catalog.get?_insert e.configuration.interpreters entry.language l entry

theorem withEntry_active (e : Embedder) (entry : InterpreterEntry) (a : Active) (l : String) :
    (e.withEntry entry a).active.get? l =
      if l = entry.language then some a else e.active.get? l :=
  Catalog.get?_insert e.active entry.language l a

/-- The exits of adding an interpreter. -/
inductive InterpreterAddition (e : Embedder) (host : Host) (entry : InterpreterEntry) :
    Change → Prop where
  | known {a : Active} (found : e.active.get? entry.language = some a)
      (alike : a.loader.entry.alike entry = true) :
      InterpreterAddition e host entry
        ⟨(.ok (), e), host, e.note s!"Interpreter for '{entry.language}' already exists."⟩
  | notLoadable
      (new : (e.active.get? entry.language).any (·.loader.entry.alike entry) = false)
      (notLoadable : entry.module.isLoadable = false) :
      InterpreterAddition e host entry (e.refuse host (.notLoadable entry.module) [])
  | missingApi
      (new : (e.active.get? entry.language).any (·.loader.entry.alike entry) = false)
      (loadable : entry.module.isLoadable = true) (missing : e.configuration.api = none) :
      InterpreterAddition e host entry (e.refuse host .missingApi [])
  | notLoaded {api : ApiHandle} {err : LoadError} {after : Host} {loading : List Effect}
      (new : (e.active.get? entry.language).any (·.loader.entry.alike entry) = false)
      (loadable : entry.module.isLoadable = true) (hapi : e.configuration.api = some api)
      (hload : Active.Loading entry api host ⟨.error err, after, loading⟩) :
      InterpreterAddition e host entry (e.refuse after (.interpreterNotAdded err) loading)
  | added {api : ApiHandle} {a : Active} {after : Host} {loading : List Effect}
      (new : (e.active.get? entry.language).any (·.loader.entry.alike entry) = false)
      (loadable : entry.module.isLoadable = true) (hapi : e.configuration.api = some api)
      (hload : Active.Loading entry api host ⟨.ok a, after, loading⟩) :
      InterpreterAddition e host entry
        ⟨(.ok (), e.withEntry entry a), after,
          loading ++ unloadReplaced (e.active.get? entry.language) ++
            .traced (.interpreterRegistered entry.language
              (registration (e.active.get? entry.language))) ::
            e.note (interpreterNote entry.language
              (registration (e.active.get? entry.language)))⟩

theorem addInterpreter_addition (e : Embedder) (host : Host) (entry : InterpreterEntry) :
    InterpreterAddition e host entry (e.addInterpreter host entry) := by
  unfold addInterpreter
  by_cases hk : (e.active.get? entry.language).any (·.loader.entry.alike entry) = true
  · obtain ⟨a, hp, ha⟩ := (Option.any_eq_true _ _).1 hk
    simp only [if_pos hk]
    exact .known hp ha
  · have new := Bool.eq_false_iff.2 hk
    simp only [if_neg hk]
    cases hm : entry.module.isLoadable with
    | false =>
      simp only [Bool.not_false, if_true]
      exact .notLoadable new hm
    | true =>
      simp only [Bool.not_true, Bool.false_eq_true, if_false]
      cases ha : e.configuration.api with
      | none => exact .missingApi new hm ha
      | some api =>
        have h := Active.load_loading entry api (Active.held e.active.values) host
        simp only
        rcases hl : Active.load entry api (Active.held e.active.values) host with
          ⟨err | a, after, loading⟩
        · rw [hl] at h
          exact .notLoaded new hm ha h
        · rw [hl] at h
          exact .added new hm ha h

/-! ## 4. Executions -/

/-- What a run answers to the caller. -/
def answerOf : Outcome → Except ExecutionError Int32
  | .success value => .ok value
  | .failure message => .error (.scriptFailed message)

/-- The embedder after the interpreter of the language has changed. -/
def withInterpreter (e : Embedder) (language : String) (a : Active) (i : Interpreter) : Embedder :=
  { e with active := e.active.insert language { a with interpreter := i } }

theorem withInterpreter_active (e : Embedder) (l : String) (a : Active) (i : Interpreter)
    (l' : String) : (e.withInterpreter l a i).active.get? l' =
      if l' = l then some { a with interpreter := i } else e.active.get? l' :=
  Catalog.get?_insert e.active l l' _

/-- The turn of an execution that hands the text to the interpreter. -/
def handing (e : Embedder) (host : Host) (script : ScriptEntry) (a : Active) (text : String)
    (params : List String) : Turn (Except ExecutionError Int32 × Embedder) :=
  let t := a.interpreter.run host text params
  let next := e.withInterpreter script.language a t.answer.2
  ⟨(answerOf t.answer.1, next), t.host,
    .traced (.executing script.id script.language) :: t.effects ++
      e.runReport script params (answerOf t.answer.1)⟩

/-- The exits of an execution. -/
inductive Execution (e : Embedder) (host : Host) (id : UInt32) (params : List String) :
    Turn (Except ExecutionError Int32 × Embedder) → Prop where
  | unknown (unknown : e.configuration.script? id = none) :
      Execution e host id params
        ⟨(.error (.noSuchScript id), e), host,
          .traced (.scriptUnknown id) ::
            tell e.observer (.failed (ScriptEntry.unknown id) params
              (ExecutionError.noSuchScript id).message)⟩
  | sourceless {script : ScriptEntry} {why : List Effect}
      (found : e.configuration.script? id = some script)
      (source : e.sourceOf host.files script = (none, why)) :
      Execution e host id params
        ⟨(.error (.sourceUnreadable script.path), e), host,
          .traced (.executing id script.language) :: why ++
            e.runReport script params (.error (.sourceUnreadable script.path))⟩
  | unserved {script : ScriptEntry} {text : String} {why : List Effect}
      (found : e.configuration.script? id = some script)
      (source : e.sourceOf host.files script = (some text, why))
      (unserved : e.active.get? script.language = none) :
      Execution e host id params
        ⟨(.error (.noInterpreter script.language), e), host,
          .traced (.executing id script.language) :: why ++
            e.runReport script params (.error (.noInterpreter script.language))⟩
  | ran {script : ScriptEntry} {text : String} {a : Active}
      (found : e.configuration.script? id = some script)
      (source : e.sourceOf host.files script = (some text, []))
      (served : e.active.get? script.language = some a) :
      Execution e host id params (e.handing host script a text params)

/-- A source that is found comes without diagnostics. -/
theorem readSource_some {files : FileTree} {path : Path} {text : String} {why : List Effect}
    (h : readSource files path = (some text, why)) : why = [] := by
  unfold readSource at h
  split at h
  · cases h
  · split at h
    · cases h
    · cases h
      rfl

theorem sourceOf_some {files : FileTree} {script : ScriptEntry} {text : String}
    {why : List Effect} (h : e.sourceOf files script = (some text, why)) : why = [] := by
  unfold sourceOf at h
  split at h
  · cases h
    rfl
  · exact readSource_some h

theorem execute_execution (e : Embedder) (host : Host) (id : UInt32) (params : List String) :
    Execution e host id params (e.execute host id params) := by
  unfold execute
  cases hs : e.configuration.script? id with
  | none => exact .unknown hs
  | some script =>
    have hid : script.id = id := e.configuration.scripts_keyed.key_eq hs
    subst hid
    simp only [runScript]
    rcases hr : e.sourceOf host.files script with ⟨_ | text, why⟩
    · exact .sourceless hs hr
    · have hw := sourceOf_some hr
      subst hw
      cases ha : e.active.get? script.language with
      | none => exact .unserved hs hr ha
      | some a => exact .ran hs hr ha

end ScriptHost.Embedder
