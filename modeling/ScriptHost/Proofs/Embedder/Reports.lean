import ScriptHost.Proofs.Embedder.Lifetime

/-!
# Reports to the observer

Every change and every execution is reported once, to the observer that is installed then, and the
report agrees with the answer.

* `reports`: who is told what by the effects, in order. `Unheard`: nobody is told anything.
* `Backstage`: nobody is told anything and no script prints. Loading, unloading and applying a
  configuration happen backstage.
* `Tells`: the observer is told this one thing, and nobody else is told anything.
* `TellsExecution`, `TellsChange`, `TellsMessage`: **what an operation tells agrees with what it
  answers**, shown exit by exit.
-/

namespace ScriptHost

/-! ## 1. Reports among effects -/

/-- Who is told what, in order. -/
def reports (effects : List Effect) : List (Observer × Report) :=
  effects.filterMap Effect.report?

/-- Nobody is told anything. -/
def Unheard (effects : List Effect) : Prop := ∀ x ∈ effects, x.report? = none

theorem reports_append (a b : List Effect) : reports (a ++ b) = reports a ++ reports b :=
  List.filterMap_append

theorem Unheard.reports {effects : List Effect} (h : Unheard effects) : reports effects = [] :=
  List.filterMap_eq_nil_iff.2 h

theorem reports_tell (observer : Option Observer) (report : Report) :
    reports (tell observer report) = observer.toList.map fun o => (o, report) := by
  rcases observer with _ | name | _ <;> rfl

theorem unheard_nil : Unheard [] := fun _ hx => absurd hx List.not_mem_nil

theorem Unheard.append {a b : List Effect} (ha : Unheard a) (hb : Unheard b) : Unheard (a ++ b) :=
  List.forall_mem_append.2 ⟨ha, hb⟩

theorem Diagnostics.unheard {effects : List Effect} (h : Diagnostics effects) : Unheard effects :=
  fun x hx => (h x hx).1

theorem Unheard.traced {effects : List Effect} (h : Unheard effects) {event : TraceEvent}
    (he : (Effect.traced event).report? = none) : Unheard (.traced event :: effects) :=
  List.forall_mem_cons.2 ⟨he, h⟩

/-! ## 2. What happens backstage -/

/-- The line that the effect prints. -/
def Effect.line? : Effect → Option String
  | .printed _ line => some line
  | _ => none

/-- Nobody is told anything, and no script prints: all is between the host and its modules. -/
def Backstage (effects : List Effect) : Prop :=
  ∀ x ∈ effects, x.report? = none ∧ x.line? = none

theorem backstage_nil : Backstage [] := fun _ hx => absurd hx List.not_mem_nil

theorem Backstage.append {a b : List Effect} (ha : Backstage a) (hb : Backstage b) :
    Backstage (a ++ b) :=
  List.forall_mem_append.2 ⟨ha, hb⟩

theorem Backstage.traced {effects : List Effect} (h : Backstage effects) {event : TraceEvent}
    (he : (Effect.traced event).report? = none) : Backstage (.traced event :: effects) :=
  List.forall_mem_cons.2 ⟨⟨he, rfl⟩, h⟩

theorem Backstage.unheard {effects : List Effect} (h : Backstage effects) : Unheard effects :=
  fun x hx => (h x hx).1

theorem Diagnostics.backstage {effects : List Effect} (h : Diagnostics effects) :
    Backstage effects := by
  intro x hx
  obtain ⟨hreport, event, rfl⟩ := h x hx
  exact ⟨hreport, rfl⟩

theorem Instance.backstage_record (i : Instance) (event : Life) : Backstage (i.record event) := by
  unfold record
  split
  · exact List.forall_mem_singleton.2 ⟨rfl, rfl⟩
  · exact backstage_nil

theorem Loader.Opening.backstage {entry : InterpreterEntry} {host : Host}
    {t : Turn (Except LoadError Instance)} (h : Loader.Opening entry host t) :
    Backstage t.effects := by
  cases h with
  | unopened asked answer => exact backstage_nil
  | foreign asked answer => exact backstage_nil.traced rfl
  | otherLanguage asked answer other =>
    exact ((Instance.backstage_record _ _).append
      (diagnostics_announcement _ _ _).backstage).append (Instance.backstage_record _ _)
  | opened asked answer declared =>
    exact (Instance.backstage_record _ _).append (diagnostics_announcement _ _ _).backstage

theorem Active.Loading.backstage {entry : InterpreterEntry} {api : ApiHandle} {host : Host}
    {t : Turn (Except LoadError Active)} (h : Active.Loading entry api host t) :
    Backstage t.effects := by
  cases h with
  | refused opening => exact opening.backstage.append (backstage_nil.traced rfl)
  | loaded opening =>
    exact ((opening.backstage.append (backstage_nil.traced rfl)).append
      (Instance.backstage_record _ _)).append (Instance.backstage_record _ _)

theorem Active.backstage_unload (a : Active) : Backstage a.unload :=
  ((Instance.backstage_record _ _).append (Instance.backstage_record _ _)).append
    a.loader.diagnostics_unloadedTrace.backstage

theorem Interpreter.unheard_run (i : Interpreter) (host : Host) (script : String)
    (params : List String) : Unheard (i.run host script params).effects := by
  obtain ⟨noted, printed, heffects, hnoted, hprinted⟩ := i.run_effects host script params
  have hunheard : Unheard noted := by
    rcases hnoted with rfl | rfl
    · exact unheard_nil
    · exact (i.source.backstage_record _).unheard
  rw [heffects]
  refine hunheard.append fun x hx => ?_
  obtain ⟨console, line, rfl⟩ := hprinted x hx
  rfl

namespace Embedder

variable {e : Embedder} {host : Host}

theorem backstage_unloadAll (active : Catalog String Active) : Backstage (unloadAll active) := by
  intro x hx
  obtain ⟨a, -, hx⟩ := List.mem_flatMap.1 hx
  exact (a.2.backstage_unload.traced rfl) x hx

theorem backstage_loadAll (api : ApiHandle) : ∀ (entries : List InterpreterEntry)
    (active : Catalog String Active) (host : Host),
      Backstage (loadAll api entries active host).effects
  | [], _, _ => backstage_nil
  | entry :: rest, active, host => by
    rcases loadAll_cons api entry rest active host with
      ⟨err, after, effects, hload, h⟩ | ⟨a, after, effects, hload, h⟩
    · rw [h]
      exact hload.backstage
    · rw [h]
      exact hload.backstage.append (backstage_loadAll api rest _ after)

/-- Applying a configuration happens backstage; only its end is told. -/
theorem backstage_apply (conf : Configuration) (host : Host) :
    Backstage (apply conf host).effects := by
  unfold apply
  split
  · exact backstage_nil
  · exact backstage_nil
  · rename_i api hv hapi
    have hloading := backstage_loadAll api conf.interpreters.values Catalog.empty host
    generalize loadAll api conf.interpreters.values Catalog.empty host = t at hloading ⊢
    obtain ⟨⟨_ | _, active⟩, after, loading⟩ := t
    · exact hloading
    · have hfilling := (diagnostics_fillCache after.files conf.scripts.values
        Catalog.empty).backstage
      simp only
      generalize fillCache after.files conf.scripts.values Catalog.empty = filled at hfilling ⊢
      obtain ⟨_ | cache, why⟩ := filled
      · exact hloading.append hfilling
      · exact hloading.append hfilling

/-! ## 3. What the observer is told -/

/-- The observer is told this and nothing else, and nobody else is told anything. -/
def Tells (observer : Option Observer) (report : Report) (effects : List Effect) : Prop :=
  reports effects = observer.toList.map fun o => (o, report)

theorem tells_note (e : Embedder) (text : String) :
    Tells e.observer (.message text) (e.note text) :=
  reports_tell e.observer _

/-- What nobody is told may come before. -/
theorem Tells.after {observer : Option Observer} {report : Report} {before effects : List Effect}
    (h : Tells observer report effects) (hb : Unheard before) :
    Tells observer report (before ++ effects) := by
  unfold Tells
  rw [reports_append, hb.reports, List.nil_append]
  exact h

theorem Tells.traced {observer : Option Observer} {report : Report} {effects : List Effect}
    (h : Tells observer report effects) {event : TraceEvent}
    (he : (Effect.traced event).report? = none) :
    Tells observer report (.traced event :: effects) :=
  h.after (unheard_nil.traced he)

theorem tells_refusal (e : Embedder) (err : EmbedderError) :
    Tells e.observer (.message err.message) (e.refusal err) :=
  (tells_note e err.message).traced rfl

/-- The report that tells how an execution ended. -/
def executionReport (entry : ScriptEntry) (params : List String) :
    Except ExecutionError Int32 → Report
  | .ok value => .executed entry params value
  | .error err => .failed entry params err.message

theorem tells_runReport (e : Embedder) (script : ScriptEntry) (params : List String)
    (result : Except ExecutionError Int32) :
    Tells e.observer (executionReport script params result) (e.runReport script params result) := by
  cases result with
  | ok value => exact Tells.traced (reports_tell _ _) rfl
  | error err => exact Tells.traced (reports_tell _ _) rfl

/-! ## 4. Executions -/

/-- One report, which says how the execution ended: with the registered entry and the value, or with
the text of the error and the entry, if there is one. -/
structure TellsExecution (e : Embedder) (id : UInt32) (params : List String)
    (t : Turn (Except ExecutionError Int32 × Embedder)) (report : Report) : Prop where
  told : Tells e.observer report t.effects
  executed : ∀ v, t.answer.1 = .ok v ↔
    ∃ s, e.configuration.script? id = some s ∧ report = .executed s params v
  failed : ∀ text, (∃ err, t.answer.1 = .error err ∧ err.message = text) ↔
    report = .failed ((e.configuration.script? id).getD (.unknown id)) params text

/-- The report of a registered script. -/
theorem tellsExecution_found {id : UInt32} {params : List String} {script : ScriptEntry}
    {t : Turn (Except ExecutionError Int32 × Embedder)}
    (found : e.configuration.script? id = some script)
    (told : Tells e.observer (executionReport script params t.answer.1) t.effects) :
    TellsExecution e id params t (executionReport script params t.answer.1) := by
  obtain ⟨⟨err | value, next⟩, after, effects⟩ := t
  · refine ⟨told, fun v => ?_, fun text => ?_⟩
    · simp [executionReport]
    · simp [executionReport, found]
  · refine ⟨told, fun v => ?_, fun text => ?_⟩
    · simp [executionReport, found]
    · simp [executionReport]

theorem execute_tells (e : Embedder) (host : Host) (id : UInt32) (params : List String) :
    ∃ report, TellsExecution e id params (e.execute host id params) report := by
  have hx := execute_execution e host id params
  generalize e.execute host id params = t at hx ⊢
  cases hx with
  | unknown unknown =>
    refine ⟨_, Tells.traced (reports_tell e.observer _) rfl, fun v => ?_, fun text => ?_⟩
    · simp
    · simp [unknown]
  | @sourceless script why found source =>
    have hs := (diagnostics_sourceOf e host.files script).unheard
    rw [source] at hs
    exact ⟨_, tellsExecution_found found ((tells_runReport e _ _ _).after (hs.traced rfl))⟩
  | @unserved script text why found source unserved =>
    have hs := (diagnostics_sourceOf e host.files script).unheard
    rw [source] at hs
    exact ⟨_, tellsExecution_found found ((tells_runReport e _ _ _).after (hs.traced rfl))⟩
  | @ran script text a found source served =>
    have hran := a.interpreter.unheard_run host text params
    exact ⟨_, tellsExecution_found found ((tells_runReport e _ _ _).after (hran.traced rfl))⟩

/-! ## 5. Changes -/

/-- One message. -/
def TellsMessage {α : Type} (e : Embedder) (t : Turn (α × Embedder)) : Prop :=
  ∃ text, Tells e.observer (.message text) t.effects

/-- One message, which is the text of the error if the change is refused. -/
def TellsChange (e : Embedder) (t : Change) : Prop :=
  ∃ text, Tells e.observer (.message text) t.effects ∧
    ∀ err, t.answer.1 = .error err → text = err.message

theorem refuse_tells (e : Embedder) (host : Host) (err : EmbedderError) {before : List Effect}
    (h : Unheard before) : e.TellsChange (e.refuse host err before) :=
  ⟨err.message, (tells_refusal e err).after h, fun _ he => congrArg _ (Except.error.inj he)⟩

/-- A change that is made tells any message. -/
theorem tellsChange_ok {next : Embedder} {after : Host} {effects : List Effect} {text : String}
    (h : Tells e.observer (.message text) effects) :
    e.TellsChange ⟨(.ok (), next), after, effects⟩ :=
  ⟨text, h, fun _ he => nomatch he⟩

/-- A failed reset tells the error to the observer that there was. -/
theorem failedWith_tells (e : Embedder) (err : EmbedderError) {after : Host}
    {before : List Effect} (h : Unheard before) :
    e.TellsChange ⟨(.error err, e.failedWith err), after,
      before ++ (e.failedWith err).refusal err⟩ :=
  ⟨err.message, (tells_refusal (e.failedWith err) err).after h,
    fun _ he => congrArg _ (Except.error.inj he)⟩

theorem reset_tells (e : Embedder) (conf : Configuration) (host : Host) :
    e.TellsChange (e.reset conf host) := by
  have hunload := (backstage_unloadAll e.active).unheard
  have happly := (backstage_apply conf host).unheard
  simp only [Embedder.reset]
  generalize apply conf host = t at happly ⊢
  obtain ⟨⟨err | _, active, cache⟩, after, effects⟩ := t
  · exact failedWith_tells e err
      ((hunload.append happly).append (backstage_unloadAll active).unheard)
  · exact tellsChange_ok (((tells_note (e.working conf active cache) _).traced rfl).after
      (hunload.append happly))

theorem addScript_tells (e : Embedder) (host : Host) (script : ScriptEntry) :
    e.TellsChange (e.addScript host script) := by
  have hx := addScript_addition e host script
  generalize e.addScript host script = t at hx ⊢
  cases hx with
  | known found alike => exact tellsChange_ok (tells_note e _)
  | unserved new unserved => exact refuse_tells e host _ unheard_nil
  | missing new served missing => exact refuse_tells e host _ unheard_nil
  | sourceless new served present cached read =>
    have hs := (diagnostics_readSource host.files script.path).unheard
    rw [read] at hs
    exact refuse_tells e host _ hs
  | cached new served present cached read =>
    exact tellsChange_ok ((tells_note e _).traced rfl)
  | uncached new served present uncached =>
    exact tellsChange_ok ((tells_note e _).traced rfl)

theorem removeScript_tells (e : Embedder) (host : Host) (id : UInt32) :
    e.TellsMessage (e.removeScript host id) := by
  have hx := removeScript_removal e host id
  generalize e.removeScript host id = t at hx ⊢
  cases hx with
  | unknown unknown => exact ⟨_, tells_note e _⟩
  | removed found => exact ⟨_, (tells_note e _).traced rfl⟩

theorem addInterpreter_tells (e : Embedder) (host : Host) (entry : InterpreterEntry) :
    e.TellsChange (e.addInterpreter host entry) := by
  have hx := addInterpreter_addition e host entry
  generalize e.addInterpreter host entry = t at hx ⊢
  cases hx with
  | known found alike => exact tellsChange_ok (tells_note e _)
  | notLoadable new notLoadable => exact refuse_tells e host _ unheard_nil
  | missingApi new loadable missing => exact refuse_tells e host _ unheard_nil
  | notLoaded new loadable hapi hload => exact refuse_tells e _ _ hload.backstage.unheard
  | added new loadable hapi hload =>
    refine tellsChange_ok (((tells_note e _).traced rfl).after (hload.backstage.unheard.append ?_))
    cases e.active.get? entry.language with
    | none => exact unheard_nil
    | some old => exact old.backstage_unload.unheard

/-- Each operation tells its observer one thing, which agrees with the answer. -/
structure Reporting (e : Embedder) (host : Host) : Prop where
  execute : ∀ id params, ∃ report, TellsExecution e id params (e.execute host id params) report
  reset : ∀ conf, e.TellsChange (e.reset conf host)
  addScript : ∀ script, e.TellsChange (e.addScript host script)
  removeScript : ∀ id, e.TellsMessage (e.removeScript host id)
  addInterpreter : ∀ entry, e.TellsChange (e.addInterpreter host entry)

theorem reporting (e : Embedder) (host : Host) : e.Reporting host :=
  ⟨execute_tells e host, fun conf => reset_tells e conf host, addScript_tells e host,
    removeScript_tells e host, addInterpreter_tells e host⟩

end Embedder

end ScriptHost
