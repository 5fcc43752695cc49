import ScriptHost.Proofs.Embedder.Frame
import ScriptHost.Proofs.Embedder.Reports

/-!
# Embedders without an observer

An observer is told what an embedder does, and that is all: who listens makes no other difference.

* `unreported`: the effects without the reports.
* `Embedder.step_unobserved`: **without an observer a step does the same, and nothing is told**. It
  is shown operation by operation and goes on to runs and histories.
* `Embedder.Indistinct`: two histories that differ in the reports alone.
* `Embedder.reports_history`: after every history each operation reports once to the observer that
  is installed, in agreement with its answer, and histories with other observers are indistinct.
-/

namespace ScriptHost

/-! ## 1. Leaving out the reports -/

/-- The effects without the reports. -/
def unreported (effects : List Effect) : List Effect := effects.filter fun x => x.report?.isNone

theorem unreported_append (a b : List Effect) :
    unreported (a ++ b) = unreported a ++ unreported b :=
  List.filter_append a b

theorem Unheard.unreported {effects : List Effect} (h : Unheard effects) :
    unreported effects = effects :=
  List.filter_eq_self.2 fun x hx => Option.isNone_iff_eq_none.2 (h x hx)

theorem unreported_tell (observer : Option Observer) (report : Report) :
    unreported (tell observer report) = [] := by
  rcases observer with _ | name | _ <;> rfl

/-- Reports are no records. -/
theorem lives_unreported (n : Nat) (effects : List Effect) :
    lives n (unreported effects) = lives n effects := by
  unfold lives unreported
  rw [List.filterMap_filter]
  refine congrArg (fun f => List.filterMap f effects) (funext fun x => ?_)
  cases x with
  | traced event => cases event <;> rfl
  | life _ _ _ | printed _ _ | reported _ _ => rfl

namespace Embedder

/-- The embedder without its observer. -/
def unobserved (e : Embedder) : Embedder := { e with observer := none }

/-- The same turn without an observer: nothing is told. -/
def unobservedTurn {α : Type} (t : Turn (α × Embedder)) : Turn (α × Embedder) :=
  ⟨(t.answer.1, t.answer.2.unobserved), t.host, unreported t.effects⟩

variable {e : Embedder} {host : Host}

theorem note_unobserved (e : Embedder) (text : String) :
    unreported (e.note text) = e.unobserved.note text :=
  unreported_tell e.observer _

theorem unreported_traced {event : TraceEvent} (he : (Effect.traced event).report? = none)
    {told told' : List Effect} (h : unreported told = told') :
    unreported (.traced event :: told) = .traced event :: told' := by
  rw [← h]
  exact List.filter_cons_of_pos (Option.isNone_iff_eq_none.2 he)

/-- What comes before the report stays. -/
theorem unobservedTurn_append {α : Type} {answer : α} {next : Embedder} {after : Host}
    {before told told' : List Effect} (hb : Unheard before) (ht : unreported told = told') :
    unobservedTurn ⟨(answer, next), after, before ++ told⟩ =
      ⟨(answer, next.unobserved), after, before ++ told'⟩ := by
  unfold unobservedTurn
  rw [unreported_append, hb.unreported, ht]

/-! ## 2. Operations -/

theorem refusal_unobserved (e : Embedder) (err : EmbedderError) :
    unreported (e.refusal err) = e.unobserved.refusal err :=
  unreported_traced rfl (note_unobserved e _)

theorem refuse_unobserved (e : Embedder) (host : Host) (err : EmbedderError)
    {before : List Effect} (h : Unheard before) :
    unobservedTurn (e.refuse host err before) = e.unobserved.refuse host err before :=
  unobservedTurn_append h (refusal_unobserved e err)

theorem reset_unobserved (e : Embedder) (conf : Configuration) (host : Host) :
    unobservedTurn (e.reset conf host) = e.unobserved.reset conf host := by
  have hunload := (backstage_unloadAll e.active).unheard
  have happly := (backstage_apply conf host).unheard
  simp only [Embedder.reset]
  generalize apply conf host = t at happly ⊢
  obtain ⟨⟨err | _, active, cache⟩, after, effects⟩ := t
  · exact unobservedTurn_append
      ((hunload.append happly).append (backstage_unloadAll active).unheard)
      (refusal_unobserved _ err)
  · exact unobservedTurn_append (hunload.append happly)
      (unreported_traced rfl (note_unobserved _ _))

theorem unobserved_configuration (e : Embedder) :
    e.unobserved.configuration = e.configuration := rfl

theorem unobserved_active (e : Embedder) : e.unobserved.active = e.active := rfl

theorem unobserved_cache (e : Embedder) : e.unobserved.cache = e.cache := rfl

theorem registerScript_unobserved (e : Embedder) (host : Host) (script : ScriptEntry)
    (cache : Catalog UInt32 String) (how : Registration) :
    unobservedTurn (e.registerScript host script cache how) =
      e.unobserved.registerScript host script cache how :=
  unobservedTurn_append unheard_nil (unreported_traced rfl (note_unobserved e _))

theorem addScript_unobserved (e : Embedder) (host : Host) (script : ScriptEntry) :
    unobservedTurn (e.addScript host script) = e.unobserved.addScript host script := by
  simp only [addScript, unobserved_configuration, unobserved_active, unobserved_cache]
  by_cases hk : (e.configuration.script? script.id).any (·.alike script) = true
  · simp only [hk, ↓reduceIte]
    exact unobservedTurn_append unheard_nil (note_unobserved e _)
  · simp only [hk, ↓reduceIte, Bool.false_eq_true]
    by_cases hs : (!e.active.contains script.language) = true
    · simp only [hs, ↓reduceIte]
      exact refuse_unobserved e host _ unheard_nil
    · simp only [hs, ↓reduceIte, Bool.false_eq_true]
      by_cases hf : (!host.files.exists? script.path) = true
      · simp only [hf, ↓reduceIte]
        exact refuse_unobserved e host _ unheard_nil
      · simp only [hf, ↓reduceIte, Bool.false_eq_true]
        by_cases hc : script.cached = true
        · have hread := (diagnostics_readSource host.files script.path).unheard
          simp only [hc, ↓reduceIte]
          generalize readSource host.files script.path = read at hread ⊢
          obtain ⟨_ | source, why⟩ := read
          · exact refuse_unobserved e host _ hread
          · exact registerScript_unobserved e host script _ _
        · simp only [hc, ↓reduceIte, Bool.false_eq_true]
          exact registerScript_unobserved e host script _ _

theorem removeScript_unobserved (e : Embedder) (host : Host) (id : UInt32) :
    unobservedTurn (e.removeScript host id) = e.unobserved.removeScript host id := by
  simp only [removeScript, unobserved_configuration, unobserved_cache]
  generalize e.configuration.removeScript id = removed
  obtain ⟨_ | script, conf⟩ := removed
  · exact unobservedTurn_append unheard_nil (note_unobserved e _)
  · exact unobservedTurn_append unheard_nil (unreported_traced rfl (note_unobserved e _))

theorem addInterpreter_unobserved (e : Embedder) (host : Host) (entry : InterpreterEntry) :
    unobservedTurn (e.addInterpreter host entry) = e.unobserved.addInterpreter host entry := by
  simp only [addInterpreter, unobserved_configuration, unobserved_active]
  by_cases hk : (e.active.get? entry.language).any (·.loader.entry.alike entry) = true
  · simp only [hk, ↓reduceIte]
    exact unobservedTurn_append unheard_nil (note_unobserved e _)
  · simp only [hk, ↓reduceIte, Bool.false_eq_true]
    by_cases hm : (!entry.module.isLoadable) = true
    · simp only [hm, ↓reduceIte]
      exact refuse_unobserved e host _ unheard_nil
    · simp only [hm, ↓reduceIte, Bool.false_eq_true]
      cases e.configuration.api with
      | none => exact refuse_unobserved e host _ unheard_nil
      | some api =>
        have hload :=
          (Active.load_loading entry api (Active.held e.active.values) host).backstage.unheard
        simp only
        generalize Active.load entry api (Active.held e.active.values) host = t at hload ⊢
        obtain ⟨err | a, after, loading⟩ := t
        · exact refuse_unobserved e after _ hload
        · have hunload : Unheard (unloadReplaced (e.active.get? entry.language)) := by
            cases e.active.get? entry.language with
            | none => exact unheard_nil
            | some old => exact old.backstage_unload.unheard
          exact unobservedTurn_append (hload.append hunload)
            (unreported_traced rfl (note_unobserved e _))

theorem runReport_unobserved (e : Embedder) (script : ScriptEntry) (params : List String)
    (result : Except ExecutionError Int32) :
    unreported (e.runReport script params result) =
      e.unobserved.runReport script params result := by
  cases result with
  | ok value => exact unreported_traced rfl (unreported_tell _ _)
  | error err => exact unreported_traced rfl (unreported_tell _ _)

/-- Running the script tells nobody anything; only its end is told. -/
theorem runScript_unobserved (e : Embedder) (host : Host) (script : ScriptEntry)
    (params : List String) : Unheard (e.runScript host script params).effects ∧
      unobservedTurn (e.runScript host script params) =
        e.unobserved.runScript host script params := by
  have hquiet : ∀ {t : Turn (Except ExecutionError Int32 × Embedder)}, Unheard t.effects →
      unobservedTurn t = ⟨(t.answer.1, t.answer.2.unobserved), t.host, t.effects⟩ := by
    intro t ht
    unfold unobservedTurn
    rw [ht.unreported]
  have hsource : e.unobserved.sourceOf host.files script = e.sourceOf host.files script := rfl
  have hread := (diagnostics_sourceOf e host.files script).unheard
  unfold runScript
  rw [hsource, unobserved_active]
  generalize e.sourceOf host.files script = source at hread ⊢
  obtain ⟨_ | text, why⟩ := source
  · exact ⟨hread, hquiet hread⟩
  · cases e.active.get? script.language with
    | none => exact ⟨hread, hquiet hread⟩
    | some a =>
      have hran := hread.append (a.interpreter.unheard_run host text params)
      exact ⟨hran, hquiet hran⟩

theorem execute_unobserved (e : Embedder) (host : Host) (id : UInt32) (params : List String) :
    unobservedTurn (e.execute host id params) = e.unobserved.execute host id params := by
  unfold execute
  rw [unobserved_configuration]
  cases e.configuration.script? id with
  | none =>
    exact unobservedTurn_append (unheard_nil.traced rfl) (unreported_tell e.observer _)
  | some script =>
    obtain ⟨hunheard, hran⟩ := runScript_unobserved e host script params
    simp only [← hran]
    generalize e.runScript host script params = t at hunheard ⊢
    have ht : (unobservedTurn t).effects = t.effects := hunheard.unreported
    rw [ht]
    exact unobservedTurn_append (hunheard.traced rfl) (runReport_unobserved e _ _ _)

/-! ## 3. Steps and histories -/

/-- The same step without an observer. -/
def Step.unobserved : Step → Step
  | .setObserver _ => .setObserver none
  | s => s

theorem unobservedTurn_map {α β : Type} (f : α → β) {t : Turn (α × Embedder)}
    {t' : Turn (α × Embedder)} (h : unobservedTurn t = t') :
    unobservedTurn (t.map fun a => (f a.1, a.2)) = t'.map fun a => (f a.1, a.2) := by
  rw [← h]
  rfl

/-- **Without an observer a step does the same**, and nothing is told. -/
theorem step_unobserved (e : Embedder) (host : Host) (s : Step) :
    unobservedTurn (e.step host s) = e.unobserved.step host s.unobserved := by
  cases s with
  | reset conf => exact unobservedTurn_map _ (reset_unobserved e conf host)
  | resetSame => exact unobservedTurn_map _ (reset_unobserved e e.configuration host)
  | addScript script => exact unobservedTurn_map _ (addScript_unobserved e host script)
  | removeScript id => exact unobservedTurn_map _ (removeScript_unobserved e host id)
  | addInterpreter entry => exact unobservedTurn_map _ (addInterpreter_unobserved e host entry)
  | execute id params => exact unobservedTurn_map _ (execute_unobserved e host id params)
  | setObserver _ | validate | failNext _ | write _ _ | delete _ => rfl

/-- The same run without an observer. -/
def unobservedRun (t : Turn Embedder) : Turn Embedder :=
  ⟨t.answer.unobserved, t.host, unreported t.effects⟩

theorem unobservedRun_after (t : Turn Embedder) (effects : List Effect) :
    unobservedRun (t.after effects) = (unobservedRun t).after (unreported effects) := by
  unfold unobservedRun Turn.after
  rw [unreported_append]

theorem run_unobserved : ∀ (steps : List Step) (e : Embedder) (host : Host),
    unobservedRun (e.run host steps) = e.unobserved.run host (steps.map Step.unobserved)
  | [], _, _ => rfl
  | s :: rest, e, host => by
    have ih := run_unobserved rest (e.step host s).answer.2 (e.step host s).host
    simp only [run, List.map_cons, ← step_unobserved e host s, unobservedRun_after, ih]
    rfl

/-- The same moment without an observer. -/
def Moment.unobserved (m : Moment) : Moment :=
  ⟨m.embedder.unobserved, m.host, m.step.unobserved⟩

theorem Moment.unobserved_answer (m : Moment) : m.unobserved.turn.answer.1 = m.turn.answer.1 :=
  (congrArg (·.answer.1) (step_unobserved m.embedder m.host m.step)).symm

theorem moments_unobserved : ∀ (steps : List Step) (e : Embedder) (host : Host),
    (moments e host steps).map Moment.unobserved =
      moments e.unobserved host (steps.map Step.unobserved)
  | [], _, _ => rfl
  | s :: rest, e, host => by
    have ih := moments_unobserved rest (e.step host s).answer.2 (e.step host s).host
    simp only [moments, List.map_cons, ← step_unobserved e host s, ih]
    rfl

theorem new_unobserved (conf : Configuration) (observer : Option Observer) (host : Host) :
    unobservedRun (Embedder.new conf observer host) = Embedder.new conf none host := by
  have hreset := reset_unobserved { observer } conf host
  unfold Embedder.new
  rw [show ({} : Embedder) = ({ observer } : Embedder).unobserved from rfl, ← hreset]
  rfl

theorem history_unobserved (conf : Configuration) (observer : Option Observer) (host : Host)
    (steps : List Step) : unobservedRun (history conf observer host steps) =
      history conf none host (steps.map Step.unobserved) := by
  unfold history
  simp only [unobservedRun_after, run_unobserved, ← new_unobserved conf observer host]
  rfl

theorem historyMoments_unobserved (conf : Configuration) (observer : Option Observer) (host : Host)
    (steps : List Step) : (historyMoments conf observer host steps).map Moment.unobserved =
      historyMoments conf none host (steps.map Step.unobserved) := by
  unfold historyMoments
  rw [List.map_cons, moments_unobserved, ← new_unobserved conf observer host]
  rfl

/-! ## 4. After every history -/

/-- The two histories differ in the reports alone. -/
structure Indistinct (past past' : List Moment) (t t' : Turn Embedder) : Prop where
  /-- The same answers, step by step. -/
  answers : past'.map (·.turn.answer.1) = past.map (·.turn.answer.1)
  /-- The same states before each step, but for the observer. -/
  moments : past'.map Moment.unobserved = past.map Moment.unobserved
  /-- The same state in the end, but for the observer. -/
  embedder : t'.answer.unobserved = t.answer.unobserved
  host : t'.host = t.host
  /-- The same effects in the same order, but for the reports. -/
  effects : unreported t'.effects = unreported t.effects
  /-- The same records of each instance. -/
  lives : ∀ n, lives n t'.effects = lives n t.effects

/-- Histories of steps that differ in the observers alone differ in the reports alone. -/
theorem indistinct_history (conf : Configuration) (observer observer' : Option Observer)
    (host : Host) {steps steps' : List Step}
    (h : steps'.map Step.unobserved = steps.map Step.unobserved) :
    Indistinct (historyMoments conf observer host steps)
      (historyMoments conf observer' host steps') (history conf observer host steps)
      (history conf observer' host steps') := by
  have hrun : unobservedRun (history conf observer' host steps') =
      unobservedRun (history conf observer host steps) := by
    rw [history_unobserved, history_unobserved, h]
  have hmoments : (historyMoments conf observer' host steps').map Moment.unobserved =
      (historyMoments conf observer host steps).map Moment.unobserved := by
    rw [historyMoments_unobserved, historyMoments_unobserved, h]
  have hanswers : ∀ past : List Moment, past.map (·.turn.answer.1) =
      (past.map Moment.unobserved).map (·.turn.answer.1) := by
    intro past
    rw [List.map_map]
    exact List.map_congr_left fun m _ => m.unobserved_answer.symm
  obtain ⟨hembedder, hhost, heffects⟩ := Turn.mk.inj hrun
  refine ⟨?_, hmoments, hembedder, hhost, heffects, fun n => ?_⟩
  · rw [hanswers, hmoments, ← hanswers]
  · rw [← lives_unreported, ← lives_unreported n (history conf observer host steps).effects]
    exact congrArg (ScriptHost.lives n) heffects

/-- **After every history**, whatever the files have become, each operation tells the observer that
is installed one thing, which agrees with the answer; and with other observers, or none, the history
differs in the reports alone. -/
theorem reports_history (conf : Configuration) (observer : Option Observer) (host : Host)
    (steps : List Step) (files : FileTree) :
    let t := history conf observer host steps
    t.answer.Reporting { t.host with files } ∧
    ∀ observer' steps', steps'.map Step.unobserved = steps.map Step.unobserved →
      Indistinct (historyMoments conf observer host steps)
        (historyMoments conf observer' host steps') t (history conf observer' host steps') := by
  intro t
  exact ⟨reporting t.answer { t.host with files },
    fun observer' steps' h => indistinct_history conf observer observer' host h⟩

end Embedder

end ScriptHost
