import ScriptHost.Proofs.Embedder.Lifetime
import ScriptHost.Proofs.Embedder.Renewal

/-!
# What an operation leaves alone

Refused additions leave everything as it was, executions leave all but one interpreter, and nothing
but a reset decides whether an embedder is valid.

* `Untouched`: the embedder is the same as before, and no loaded instance has a record. Refused
  additions are of this kind (`addScript_untouched`, `addInterpreter_untouched`); since an addition
  opens a module before it is refused, this needs that the module is none of the loaded ones
  (`Numbered`).
* `RunsOnly`: an execution keeps configuration, texts and instances, and of the interpreters it
  changes only that of the script's language.
* `Judged`: validity and error text are those of the result of the latest reset.
* **`frame_history`**: all three after every history, whatever the files have become.
-/

namespace ScriptHost.Embedder

variable {e : Embedder} {host : Host}

/-! ## 1. Serial numbers that are given out -/

/-- Everything loaded was opened before: a module that is opened now gets another serial number. -/
def Numbered (e : Embedder) (host : Host) : Prop := ∀ a ∈ e.active.values, a.serial < host.asked

theorem numbered_loadAll (api : ApiHandle) : ∀ (entries : List InterpreterEntry)
    (active : Catalog String Active) (host : Host), (∀ a ∈ active.values, a.serial < host.asked) →
    ∀ a ∈ (loadAll api entries active host).answer.2.values,
      a.serial < (loadAll api entries active host).host.asked
  | [], _, _, h => h
  | entry :: rest, active, host, h => by
    rcases loadAll_cons api entry rest active host with
      ⟨err, after, effects, hload, he⟩ | ⟨a, after, effects, hload, he⟩
    · have hasked : after.asked = host.asked + 1 := hload.asked.asked
      rw [he]
      intro b hb
      have hlt := h b hb
      show b.serial < after.asked
      omega
    · have hasked : after.asked = host.asked + 1 := hload.asked.asked
      have hserial : a.serial = host.asked := hload.serial
      rw [he]
      refine numbered_loadAll api rest _ after (Catalog.forall_values_insert (fun b hb => ?_) ?_)
      · have hlt := h b hb
        omega
      · omega

theorem numbered_reset (e : Embedder) (conf : Configuration) (host : Host) :
    (e.reset conf host).answer.2.Numbered (e.reset conf host).host := by
  have hx := reset_resetting e conf host
  generalize e.reset conf host = t at hx ⊢
  cases hx with
  | invalid violation => exact fun _ ha => absurd ha List.not_mem_nil
  | notLoaded valid hapi hload => exact fun _ ha => absurd ha List.not_mem_nil
  | sourceless valid hapi hload hfill => exact fun _ ha => absurd ha List.not_mem_nil
  | @applied api active after loading why cache valid hapi hload hfill =>
    have h := numbered_loadAll api conf.interpreters.values Catalog.empty host
      fun _ ha => absurd ha List.not_mem_nil
    rw [hload] at h
    exact h

theorem Numbered.addInterpreter (h : e.Numbered host) (entry : InterpreterEntry) :
    (e.addInterpreter host entry).answer.2.Numbered (e.addInterpreter host entry).host := by
  have hx := addInterpreter_addition e host entry
  generalize e.addInterpreter host entry = t at hx ⊢
  cases hx with
  | known found alike => exact h
  | notLoadable new notLoadable => exact h
  | missingApi new loadable missing => exact h
  | @notLoaded api err after loading new loadable hapi hload =>
    have hasked : after.asked = host.asked + 1 := hload.asked.asked
    intro a ha
    have hlt := h a ha
    show a.serial < after.asked
    omega
  | @added api a after loading new loadable hapi hload =>
    have hasked : after.asked = host.asked + 1 := hload.asked.asked
    have hserial : a.serial = host.asked := hload.serial
    refine Catalog.forall_values_insert (fun b hb => ?_) ?_
    · have hlt := h b hb
      show b.serial < after.asked
      omega
    · show a.serial < after.asked
      omega

theorem Numbered.execute (h : e.Numbered host) (id : UInt32) (params : List String) :
    (e.execute host id params).answer.2.Numbered (e.execute host id params).host := by
  have hx := execute_execution e host id params
  generalize e.execute host id params = t at hx ⊢
  cases hx with
  | unknown unknown => exact h
  | sourceless found source => exact h
  | unserved found source unserved => exact h
  | @ran script text a found source served =>
    intro b hb
    obtain ⟨left, hhost⟩ := Interpreter.run_host a.interpreter host text params
    show b.serial < (a.interpreter.run host text params).host.asked
    rw [hhost]
    rcases Catalog.mem_values_insert.1 hb with rfl | hb
    · have hsource := Interpreter.run_source a.interpreter host text params
      show (a.interpreter.run host text params).answer.2.source.serial < host.asked
      rw [hsource]
      exact h a (Catalog.mem_values.2 ⟨script.language, served⟩)
    · exact h b (Catalog.mem_values_of_erase hb)

theorem Numbered.step (h : e.Numbered host) (s : Step) :
    (e.step host s).answer.2.Numbered (e.step host s).host := by
  cases s with
  | reset conf => exact numbered_reset e conf host
  | resetSame => exact numbered_reset e e.configuration host
  | addScript script =>
    have hq := quiet_addScript e host script
    intro a ha
    show a.serial < (e.addScript host script).host.asked
    rw [hq.asked]
    exact h a (hq.active ▸ ha)
  | removeScript id =>
    have hq := quiet_removeScript e host id
    intro a ha
    show a.serial < (e.removeScript host id).host.asked
    rw [hq.asked]
    exact h a (hq.active ▸ ha)
  | addInterpreter entry => exact h.addInterpreter entry
  | execute id params => exact h.execute id params
  | setObserver _ | validate | failNext _ | write _ _ | delete _ => exact h

theorem history_numbered (conf : Configuration) (observer : Option Observer) (host : Host)
    (steps : List Step) :
    (history conf observer host steps).answer.Numbered (history conf observer host steps).host :=
  history_keeps (P := fun e host _ => e.Numbered host) conf observer host
    (numbered_reset { observer } conf host) (fun _ _ s _ h => h.step s) steps

/-! ## 2. Refused additions -/

/-- The embedder is the same as before the turn, and no loaded instance has a record. -/
structure Untouched {α : Type} (e : Embedder) (t : Turn (α × Embedder)) : Prop where
  embedder : t.answer.2 = e
  records : ∀ a ∈ e.active.values, lives a.serial t.effects = []

theorem addScript_untouched (script : ScriptEntry) {err : EmbedderError}
    (h : (e.addScript host script).answer.1 = .error err) :
    e.Untouched (e.addScript host script) := by
  refine ⟨?_, fun a _ => (quiet_addScript e host script).spoken.lives a.serial⟩
  have hx := addScript_addition e host script
  generalize e.addScript host script = t at hx h ⊢
  cases hx with
  | known found alike => cases h
  | unserved new unserved => rfl
  | missing new served missing => rfl
  | sourceless new served present cached read => rfl
  | cached new served present cached read => cases h
  | uncached new served present uncached => cases h

theorem addInterpreter_untouched (hn : e.Numbered host) (entry : InterpreterEntry)
    {err : EmbedderError} (h : (e.addInterpreter host entry).answer.1 = .error err) :
    e.Untouched (e.addInterpreter host entry) := by
  have hx := addInterpreter_addition e host entry
  generalize e.addInterpreter host entry = t at hx h ⊢
  cases hx with
  | known found alike => cases h
  | notLoadable new notLoadable =>
    exact ⟨rfl, fun a _ => (quiet_refuse e host _ spoken_nil).spoken.lives a.serial⟩
  | missingApi new loadable missing =>
    exact ⟨rfl, fun a _ => (quiet_refuse e host _ spoken_nil).spoken.lives a.serial⟩
  | @notLoaded api err after loading new loadable hapi hload =>
    have habout : About host.asked loading := hload.about
    refine ⟨rfl, fun a ha => ?_⟩
    exact (habout.append ((spoken_refusal e _).about _)) a.serial (Nat.ne_of_lt (hn a ha))
  | added new loadable hapi hload => cases h

/-! ## 3. Executions -/

/-- Configuration, texts and instances stay, and of the interpreters only that of the script's
language goes on. -/
structure RunsOnly {α : Type} (e : Embedder) (id : UInt32) (t : Turn (α × Embedder)) : Prop where
  configuration : t.answer.2.configuration = e.configuration
  cache : t.answer.2.cache = e.cache
  /-- Each language has the same loader with the same instance. -/
  instances : ∀ l, (t.answer.2.active.get? l).map (fun a => (a.loader, a.interpreter.source)) =
    (e.active.get? l).map fun a => (a.loader, a.interpreter.source)
  /-- The interpreters of all other languages are the same, state included. -/
  others : ∀ l, (∀ s, e.configuration.script? id = some s → s.language ≠ l) →
    t.answer.2.active.get? l = e.active.get? l
  /-- No other instance has a record. -/
  records : ∀ n, (∀ s a, e.configuration.script? id = some s →
    e.active.get? s.language = some a → a.serial ≠ n) → lives n t.effects = []

/-- A turn that leaves the embedder and has no record at all runs nothing else. -/
theorem runsOnly_of_spoken {α : Type} {answer : α} {after : Host} {effects : List Effect}
    (id : UInt32) (h : Spoken effects) : e.RunsOnly id ⟨(answer, e), after, effects⟩ :=
  ⟨rfl, rfl, fun _ => rfl, fun _ _ => rfl, fun n _ => h.lives n⟩

theorem execute_runsOnly (e : Embedder) (host : Host) (id : UInt32) (params : List String) :
    e.RunsOnly id (e.execute host id params) := by
  have hx := execute_execution e host id params
  generalize e.execute host id params = t at hx ⊢
  cases hx with
  | unknown unknown => exact runsOnly_of_spoken id ((spoken_tell _ _).traced _)
  | @sourceless script why found source =>
    have hs := spoken_sourceOf e host.files script
    rw [source] at hs
    exact runsOnly_of_spoken id ((hs.traced _).append (spoken_runReport e _ _ _))
  | @unserved script text why found source unserved =>
    have hs := spoken_sourceOf e host.files script
    rw [source] at hs
    exact runsOnly_of_spoken id ((hs.traced _).append (spoken_runReport e _ _ _))
  | @ran script text a found source served =>
    have hsource := Interpreter.run_source a.interpreter host text params
    have hbefore : Spoken [.traced (.executing script.id script.language)] := spoken_nil.traced _
    refine ⟨rfl, rfl, fun l => ?_, fun l hl => ?_, fun n hn => ?_⟩
    · simp only [handing, withInterpreter_active]
      by_cases hl : l = script.language
      · rw [if_pos hl, hl, served, Option.map_some, Option.map_some, hsource]
      · rw [if_neg hl]
    · simp only [handing, withInterpreter_active]
      exact if_neg (Ne.symm (hl script found))
    · have hrun : About a.serial (.traced (.executing script.id script.language) ::
          (a.interpreter.run host text params).effects) :=
        (hbefore.about _).append (Interpreter.about_run a.interpreter host text params)
      have hall := hrun.append ((spoken_runReport e script params
        (answerOf (a.interpreter.run host text params).answer.1)).about a.serial)
      exact hall n (Ne.symm (hn script a found served))

/-! ## 4. Validity -/

/-- Whether the step resets the embedder. -/
def Step.resets : Step → Bool
  | .reset _ | .resetSame => true
  | _ => false

/-- No other step touches the error of the last reset. -/
theorem step_lastError (e : Embedder) (host : Host) {s : Step} (hs : s.resets = false) :
    (e.step host s).answer.2.lastError = e.lastError := by
  cases s with
  | reset conf => cases hs
  | resetSame => cases hs
  | addScript script =>
    show (e.addScript host script).answer.2.lastError = _
    have hx := addScript_addition e host script
    generalize e.addScript host script = t at hx ⊢
    cases hx <;> rfl
  | removeScript id =>
    show (e.removeScript host id).answer.2.lastError = _
    have hx := removeScript_removal e host id
    generalize e.removeScript host id = t at hx ⊢
    cases hx <;> rfl
  | addInterpreter entry =>
    show (e.addInterpreter host entry).answer.2.lastError = _
    have hx := addInterpreter_addition e host entry
    generalize e.addInterpreter host entry = t at hx ⊢
    cases hx <;> rfl
  | execute id params =>
    show (e.execute host id params).answer.2.lastError = _
    have hx := execute_execution e host id params
    generalize e.execute host id params = t at hx ⊢
    cases hx <;> rfl
  | setObserver _ | validate | failNext _ | write _ _ | delete _ => rfl

/-- The error in words, if there is one. -/
def complaint : Except EmbedderError Unit → String
  | .ok () => ""
  | .error err => err.message

/-- The embedder is valid or not, and says why not, as a reset with this result leaves it. -/
structure JudgedBy (e : Embedder) (result : Except EmbedderError Unit) : Prop where
  isValid : e.isValid = true ↔ result = .ok ()
  errorText : e.errorText = complaint result

theorem judgedBy_lastResult (e : Embedder) : e.JudgedBy e.lastResult := by
  unfold lastResult
  constructor
  · unfold isValid
    cases e.lastError <;> simp
  · unfold errorText
    cases e.lastError <;> rfl

/-- The result that the embedder keeps is the answer of the latest reset. -/
def Judged (e : Embedder) (past : List Moment) : Prop :=
  ∃ m, latest (·.step.resets) past = some m ∧ m.turn.answer.1 = .ofChange e.lastResult

theorem Judged.step {m : Moment} {past : List Moment} (h : m.embedder.Judged past) :
    m.turn.answer.2.Judged (past ++ [m]) := by
  unfold Judged
  rw [latest_concat]
  cases hr : m.step.resets with
  | true =>
    refine ⟨m, rfl, ?_⟩
    obtain ⟨e, host, s⟩ := m
    cases s with
    | reset conf => exact congrArg Answer.ofChange (reset_lastResult e conf host).symm
    | resetSame => exact congrArg Answer.ofChange (reset_lastResult e e.configuration host).symm
    | _ => cases hr
  | false =>
    obtain ⟨m', hlatest, hanswer⟩ := h
    have hkept : m.turn.answer.2.lastResult = m.embedder.lastResult := by
      have hstep : m.turn.answer.2.lastError = m.embedder.lastError :=
        step_lastError m.embedder m.host hr
      unfold lastResult
      rw [hstep]
    exact ⟨m', hlatest, hkept.symm ▸ hanswer⟩

theorem history_judged (conf : Configuration) (observer : Option Observer) (host : Host)
    (steps : List Step) :
    (history conf observer host steps).answer.Judged
      (historyMoments conf observer host steps) := by
  have hnew : Judged (Embedder.new conf observer host).answer
      [⟨{ observer }, host, .reset conf⟩] :=
    ⟨⟨{ observer }, host, .reset conf⟩, rfl,
      congrArg Answer.ofChange (reset_lastResult { observer } conf host).symm⟩
  exact history_keeps_moments (P := fun e _ past => e.Judged past) conf observer host hnew
    (fun e host s _ h => h.step (m := ⟨e, host, s⟩)) steps

/-! ## 5. After every history -/

/-- **After every history**, whatever the files have become: a refused addition changes nothing; an
execution changes nothing but the interpreter of its script's language; no step but a reset changes
validity or error text; and these two are what the latest reset, which there always is, answered. -/
theorem frame_history (conf : Configuration) (observer : Option Observer) (host : Host)
    (steps : List Step) (files : FileTree) :
    let e := (history conf observer host steps).answer
    let now : Host := { (history conf observer host steps).host with files }
    (∀ script err, (e.addScript now script).answer.1 = .error err →
      e.Untouched (e.addScript now script)) ∧
    (∀ entry err, (e.addInterpreter now entry).answer.1 = .error err →
      e.Untouched (e.addInterpreter now entry)) ∧
    (∀ id params, e.RunsOnly id (e.execute now id params)) ∧
    (∀ s, s.resets = false → (e.step now s).answer.2.isValid = e.isValid ∧
      (e.step now s).answer.2.errorText = e.errorText) ∧
    ∃ m result, latest (·.step.resets) (historyMoments conf observer host steps) = some m ∧
      m.turn.answer.1 = .ofChange result ∧ e.JudgedBy result := by
  intro e now
  have hn : e.Numbered now := history_numbered conf observer host steps
  obtain ⟨m, hlatest, hanswer⟩ := history_judged conf observer host steps
  refine ⟨fun script err h => addScript_untouched script h,
    fun entry err h => addInterpreter_untouched hn entry h,
    execute_runsOnly e now, fun s hs => ?_, m, e.lastResult, hlatest, hanswer,
    judgedBy_lastResult e⟩
  have hstep := step_lastError e now hs
  constructor
  · unfold isValid
    rw [hstep]
  · unfold errorText
    rw [hstep]

end ScriptHost.Embedder
