import ScriptHost.Proofs.Embedder.Reapplication
import ScriptHost.Proofs.Embedder.Reports

/-!
# Printed lines

Only running scripts print. Building an embedder prints nothing, and an execution prints what the
script prints.

* `printedLines`: the lines that effects print, in order.
* `Embedder.handout?`: the text that an execution finds, and the interpreter that gets it.
  `Embedder.execute_handout`: **the execution ends and prints as that run does**, and without a run
  it fails and prints nothing.
* `Embedder.Built`: what a construction leaves. It has printed nothing, the files are as they were,
  and every Echo interpreter has the host's interface and no variables.
-/

namespace ScriptHost

/-! ## 1. Printed lines among effects -/

/-- The lines that the effects print, in order. -/
def printedLines (effects : List Effect) : List String := effects.filterMap Effect.line?

theorem printedLines_append (a b : List Effect) :
    printedLines (a ++ b) = printedLines a ++ printedLines b :=
  List.filterMap_append

theorem Backstage.printedLines {effects : List Effect} (h : Backstage effects) :
    printedLines effects = [] :=
  List.filterMap_eq_nil_iff.2 fun x hx => (h x hx).2

theorem Spoken.printedLines {effects : List Effect} (h : Spoken effects) :
    printedLines effects = [] := by
  refine List.filterMap_eq_nil_iff.2 fun x hx => ?_
  rcases h x hx with ⟨observer, report, rfl⟩ | ⟨event, rfl⟩
  · rfl
  · rfl

/-- What is only spoken around it prints nothing. -/
theorem printedLines_between {before after : List Effect} (hb : Spoken before) (ha : Spoken after)
    (effects : List Effect) : printedLines (before ++ effects ++ after) = printedLines effects := by
  rw [printedLines_append, printedLines_append, hb.printedLines, ha.printedLines, List.nil_append,
    List.append_nil]

/-! ## 2. Runs -/

/-- The lines that a run of the text prints; a recorder prints none. -/
def Interpreter.lines (i : Interpreter) (conduct : Conduct) (text : String)
    (params : List String) : List String :=
  match i.memory with
  | .echo e => (e.run text params).printed.map String.ofList
  | .recorder _ => []
  | .custom name past => (conduct name past text params).printed.map Prod.snd

theorem Interpreter.printedLines_printedOn (e : Echo.Interpreter) (text : String)
    (params : List String) : printedLines (printedOn e (e.run text params)) =
      (e.run text params).printed.map String.ofList := by
  cases hc : e.console with
  | ok console =>
    have hprinted : printedOn e (e.run text params) =
        (e.run text params).printed.map fun line => .printed console (String.ofList line) := by
      simp only [printedOn, hc]
    rw [hprinted, printedLines, List.filterMap_map]
    exact congrFun List.filterMap_eq_map _
  | error failure =>
    -- without a console no line is come to
    have hrun : e.run text params = ⟨.error failure, [], e.globals⟩ := by
      simp only [Echo.Interpreter.run, hc]
    rw [hrun, printedOn, hc]
    rfl

theorem Interpreter.printedLines_run (i : Interpreter) (host : Host) (text : String)
    (params : List String) :
    printedLines (i.run host text params).effects = i.lines host.conduct text params := by
  have hrecord := (i.source.backstage_record (.ran text params)).printedLines
  unfold Interpreter.run Interpreter.lines
  cases i.memory with
  | echo e => exact printedLines_printedOn e text params
  | recorder successes =>
    cases host.pendingFailure with
    | none => exact hrecord
    | some message => exact hrecord
  | custom name past =>
    rw [printedLines_append, hrecord, List.nil_append, printedLines, List.filterMap_map]
    exact congrFun List.filterMap_eq_map _

namespace Embedder

variable {e : Embedder} {id : UInt32}

/-! ## 3. Executions -/

/-- The text that an execution finds, and the interpreter that gets it. -/
def handout? (e : Embedder) (files : FileTree) (id : UInt32) : Option (String × Interpreter) :=
  (e.configuration.script? id).bind fun s =>
    (e.sourceOf files s).1.bind fun text =>
      (e.active.get? s.language).map fun a => (text, a.interpreter)

/-- Around the run of the script there are only a report and diagnostics. -/
theorem printedLines_handing (e : Embedder) (host : Host) (script : ScriptEntry) (a : Active)
    (text : String) (params : List String) :
    printedLines (e.handing host script a text params).effects =
      a.interpreter.lines host.conduct text params := by
  have hbefore : Spoken [.traced (.executing script.id script.language)] := spoken_nil.traced _
  have hafter := spoken_runReport e script params
    (answerOf (a.interpreter.run host text params).answer.1)
  have hrun := a.interpreter.printedLines_run host text params
  exact (printedLines_between hbefore hafter _).trans hrun

/-- How an execution ends and what it prints, by what is handed out. -/
inductive Ending (e : Embedder) (host : Host) (id : UInt32) (params : List String) :
    Option (String × Interpreter) → Except ExecutionError Int32 → List String → Prop where
  | unrun {err : ExecutionError} : Ending e host id params none (.error err) []
  | ran {text : String} {i : Interpreter} : Ending e host id params (some (text, i))
      (answerOf (i.run host text params).answer.1) (i.lines host.conduct text params)

/-- **An execution ends and prints as the run that it comes to.** -/
theorem execute_handout (e : Embedder) (host : Host) (id : UInt32) (params : List String) :
    Ending e host id params (e.handout? host.files id) (e.execute host id params).answer.1
      (printedLines (e.execute host id params).effects) := by
  have hx := execute_execution e host id params
  generalize e.execute host id params = t at hx ⊢
  cases hx with
  | unknown unknown =>
    have hnone : e.handout? host.files id = none := by
      rw [handout?, unknown, Option.bind_none]
    rw [hnone, ((spoken_tell _ _).traced _).printedLines]
    exact .unrun
  | @sourceless script why found source =>
    have hnone : e.handout? host.files id = none := by
      rw [handout?, found, Option.bind_some, source, Option.bind_none]
    have hwhy := spoken_sourceOf e host.files script
    rw [source] at hwhy
    rw [hnone, ((hwhy.traced _).append (spoken_runReport e script params _)).printedLines]
    exact .unrun
  | @unserved script text why found source unserved =>
    have hnone : e.handout? host.files id = none := by
      rw [handout?, found, Option.bind_some, source, Option.bind_some, unserved, Option.map_none]
    have hwhy := spoken_sourceOf e host.files script
    rw [source] at hwhy
    rw [hnone, ((hwhy.traced _).append (spoken_runReport e script params _)).printedLines]
    exact .unrun
  | @ran script text a found source served =>
    have hsome : e.handout? host.files id = some (text, a.interpreter) := by
      rw [handout?, found, Option.bind_some, source, Option.bind_some, served, Option.map_some]
    rw [hsome, printedLines_handing]
    exact .ran

/-- An execution that returns a value has handed a text to an interpreter, which returned it. -/
theorem execute_ok_iff (e : Embedder) (host : Host) (id : UInt32) (params : List String)
    (value : Int32) : (e.execute host id params).answer.1 = .ok value ↔
      ∃ text i, e.handout? host.files id = some (text, i) ∧
        (i.run host text params).answer.1 = .success value := by
  have hending := execute_handout e host id params
  generalize printedLines (e.execute host id params).effects = lines at hending
  generalize (e.execute host id params).answer.1 = result at hending ⊢
  generalize e.handout? host.files id = handout at hending ⊢
  cases hending with
  | unrun =>
    constructor
    · intro h
      cases h
    · rintro ⟨text, i, h, -⟩
      cases h
  | @ran text i =>
    constructor
    · intro h
      refine ⟨text, i, rfl, ?_⟩
      cases hrun : (i.run host text params).answer.1 with
      | success returned =>
        rw [hrun] at h
        cases h
        rfl
      | failure message =>
        rw [hrun] at h
        cases h
    · rintro ⟨text', i', h, hrun⟩
      cases h
      rw [hrun]
      rfl

/-- The lines that the script prints when it is run. -/
def scriptLines (e : Embedder) (host : Host) (id : UInt32) (params : List String) : List String :=
  match e.handout? host.files id with
  | some (text, i) => i.lines host.conduct text params
  | none => []

theorem printedLines_execute (e : Embedder) (host : Host) (id : UInt32) (params : List String) :
    printedLines (e.execute host id params).effects = e.scriptLines host id params := by
  have hending := execute_handout e host id params
  unfold scriptLines
  generalize (e.execute host id params).answer.1 = result at hending
  generalize printedLines (e.execute host id params).effects = lines at hending ⊢
  generalize e.handout? host.files id = handout at hending ⊢
  cases hending with
  | unrun => rfl
  | ran => rfl

/-! ## 4. Constructions -/

/-- Everything loaded is as new and has the interface. -/
def AllNew (api : ApiHandle) (active : Catalog String Active) : Prop :=
  ∀ l a, active.get? l = some a → ∃ entry i, a = Active.fresh entry i api

theorem allNew_loadAll (api : ApiHandle) : ∀ (entries : List InterpreterEntry)
    (active : Catalog String Active) (host : Host), AllNew api active →
      AllNew api (loadAll api entries active host).answer.2
  | [], _, _, h => h
  | entry :: rest, active, host, h => by
    rcases loadAll_cons api entry rest active host with
      ⟨err, after, effects, hload, he⟩ | ⟨a, after, effects, hload, he⟩
    · rw [he]
      exact h
    · rw [he]
      refine allNew_loadAll api rest _ after fun l b hb => ?_
      rw [Catalog.get?_insert] at hb
      by_cases hl : l = entry.language
      · rw [if_pos hl] at hb
        cases hb
        cases hload with
        | loaded opening => exact ⟨entry, _, rfl⟩
      · rw [if_neg hl] at hb
        exact h l b hb

theorem allNew_empty (api : ApiHandle) : AllNew api Catalog.empty := by
  intro l a h
  rw [Catalog.get?_empty] at h
  cases h

/-- What a construction leaves of the host, the effects and the interpreters. -/
structure Built (api : ApiHandle) (host : Host) (t : Turn Embedder) : Prop where
  silent : printedLines t.effects = []
  files : t.host.files = host.files
  conduct : t.host.conduct = host.conduct
  allNew : AllNew api t.answer.active

theorem printedLines_reset (e : Embedder) (conf : Configuration) (host : Host) :
    printedLines (e.reset conf host).effects = [] := by
  have hunload := backstage_unloadAll e.active
  have happly := backstage_apply conf host
  simp only [Embedder.reset]
  generalize apply conf host = t at happly ⊢
  obtain ⟨⟨err | _, active, cache⟩, after, effects⟩ := t
  · have hbefore := ((hunload.append happly).append (backstage_unloadAll active)).printedLines
    rw [printedLines_append, hbefore, (spoken_refusal _ err).printedLines, List.append_nil]
  · have hafter := (spoken_note (e.working conf active cache)
      "Configuration set successfully.").traced (.configurationApplied active.size conf.scripts.size)
    rw [printedLines_append, (hunload.append happly).printedLines, List.nil_append]
    exact hafter.printedLines

theorem allNew_reset (e : Embedder) (conf : Configuration) (host : Host) {api : ApiHandle}
    (hapi : conf.api = some api) : AllNew api (e.reset conf host).answer.2.active := by
  have hx := reset_resetting e conf host
  generalize e.reset conf host = t at hx ⊢
  cases hx with
  | invalid violation => exact allNew_empty api
  | notLoaded valid hapi' hload => exact allNew_empty api
  | sourceless valid hapi' hload hfill => exact allNew_empty api
  | @applied api' active after loading why cache valid hapi' hload hfill =>
    cases hapi.symm.trans hapi'
    have hnew := allNew_loadAll api conf.interpreters.values Catalog.empty host (allNew_empty api)
    rw [hload] at hnew
    exact hnew

/-- **A construction prints nothing** and leaves the files and the custom interpreters as they are;
all that it loads is new. -/
theorem new_built (conf : Configuration) (observer : Option Observer) (host : Host)
    {api : ApiHandle} (hapi : conf.api = some api) :
    Built api host (Embedder.new conf observer host) where
  silent := printedLines_reset { observer } conf host
  files := by
    obtain ⟨n, hasked⟩ := reset_asked { observer } conf host
    exact hasked.files
  conduct := by
    obtain ⟨n, hasked⟩ := reset_asked { observer } conf host
    exact hasked.conduct
  allNew := allNew_reset { observer } conf host hapi

/-- An Echo interpreter that is handed out has the interface, and no variables are set. -/
theorem AllNew.echo {api : ApiHandle} (h : AllNew api e.active) {files : FileTree} {text : String}
    {i : Interpreter} (hi : e.handout? files id = some (text, i)) {x : Echo.Interpreter}
    (hx : i.memory = .echo x) : x = { api := some api } := by
  obtain ⟨s, -, hs⟩ := Option.bind_eq_some_iff.1 hi
  obtain ⟨text', -, ht⟩ := Option.bind_eq_some_iff.1 hs
  obtain ⟨a, ha, he⟩ := Option.map_eq_some_iff.1 ht
  obtain ⟨entry, source, rfl⟩ := h _ a ha
  cases he
  have hfresh : (Interpreter.fresh source api).memory = .echo x := hx
  unfold Interpreter.fresh Interpreter.equip Interpreter.create at hfresh
  cases hengine : source.plugin.engine with
  | echo =>
    simp only [hengine, Engine.memory] at hfresh
    cases hfresh
    rfl
  | recorder label | custom name =>
    simp only [hengine, Engine.memory] at hfresh
    cases hfresh

end Embedder

end ScriptHost
