import ScriptHost.Proofs.Embedder.Consistency
import ScriptHost.Proofs.Embedder.Lifetime

/-!
# Texts that are handed to interpreters

Which text an execution runs: for a script that is kept in memory that of its file as it was when
the entry was registered, for any other that of its file as it is now.

* `Moment.registers`: the steps that register scripts -- a successful reset, and a successful
  addition of what is not there already. `lastRegistration`: the latest one for an id.
* `ScriptChange`: what a step does to one id. The text is read anew exactly when the entry is
  registered; else script and text stay, or the script is gone.
* `Recalled`: each registered script comes from its latest registration, and so does its text.
* **`handedText_history`**: after every history an execution hands out that text, and it finds no
  text only for a script that is not kept, while the file has none.
-/

namespace ScriptHost

namespace Embedder

/-! ## 1. Registrations -/

/-- Whether a change was made. -/
def Answer.isDone : Answer → Bool
  | .done => true
  | _ => false

/-- Whether the step registers what stands under the id from then on. A reset does so for all ids,
also for those that its configuration has no script for. -/
def Moment.registers (m : Moment) (id : UInt32) : Bool :=
  match m.step with
  | .reset _ | .resetSame => m.turn.answer.1.isDone
  | .addScript script =>
    script.id == id && m.turn.answer.1.isDone &&
      !(m.embedder.configuration.script? id).any (·.alike script)
  | _ => false

/-- The latest registration of the id. -/
def lastRegistration (id : UInt32) (past : List Moment) : Option Moment :=
  past.reverse.find? (·.registers id)

theorem lastRegistration_concat (id : UInt32) (past : List Moment) (m : Moment) :
    lastRegistration id (past ++ [m]) =
      if m.registers id = true then some m else lastRegistration id past :=
  latest_concat (·.registers id) past m

/-- What becomes of the script with the id, whether it was registered or not. -/
inductive ScriptChange (id : UInt32) (e : Embedder) (files : FileTree) (e' : Embedder) :
    Bool → Prop where
  | registered (read : ∀ s, e'.configuration.script? id = some s → s.cached = true →
      ∃ text, files.Source s.path text ∧ e'.cache.get? id = some text) :
      ScriptChange id e files e' true
  | gone (gone : e'.configuration.script? id = none) : ScriptChange id e files e' false
  | kept (script : e'.configuration.script? id = e.configuration.script? id)
      (text : e'.cache.get? id = e.cache.get? id) : ScriptChange id e files e' false

variable {e : Embedder} {host : Host}

theorem reset_scriptChange (e : Embedder) (conf : Configuration) (host : Host) (id : UInt32) :
    ScriptChange id e host.files (e.reset conf host).answer.2
      (Answer.ofChange (e.reset conf host).answer.1).isDone := by
  have hx := reset_resetting e conf host
  generalize e.reset conf host = t at hx ⊢
  cases hx with
  | invalid violation => exact .gone rfl
  | notLoaded valid hapi hload => exact .gone rfl
  | sourceless valid hapi hload hfill => exact .gone rfl
  | applied valid hapi hload hfill =>
    obtain ⟨n, hasked⟩ := asked_of_loaded hload
    obtain ⟨hkept, -⟩ := sources_of_filled hfill
    rw [hasked.files] at hkept
    exact .registered (hkept id)

theorem addScript_scriptChange (e : Embedder) (host : Host) (script : ScriptEntry)
    (id : UInt32) :
    ScriptChange id e host.files (e.addScript host script).answer.2
      (script.id == id && (Answer.ofChange (e.addScript host script).answer.1).isDone &&
        !(e.configuration.script? id).any (·.alike script)) := by
  have hx := addScript_addition e host script
  generalize e.addScript host script = t at hx ⊢
  by_cases hid : script.id = id
  · subst hid
    rw [beq_self_eq_true, Bool.true_and]
    cases hx with
    | known found alike =>
      rw [found, Option.any_some, alike, Bool.not_true, Bool.and_false]
      exact .kept rfl rfl
    | unserved new unserved => exact .kept rfl rfl
    | missing new served missing => exact .kept rfl rfl
    | sourceless new served present cached read => exact .kept rfl rfl
    | @cached source why new served present cached read =>
      rw [new]
      refine .registered fun s hs _ => ⟨source, ?_, Catalog.get?_insert_self _ _ _⟩
      have hself := Configuration.script?_addScript e.configuration script script.id
      rw [if_pos rfl] at hself
      cases hself.symm.trans hs
      exact readSource_eq_some.1 (congrArg Prod.fst read)
    | uncached new served present uncached =>
      rw [new]
      refine .registered fun s hs hc => ?_
      have hself := Configuration.script?_addScript e.configuration script script.id
      rw [if_pos rfl] at hself
      cases hself.symm.trans hs
      rw [uncached] at hc
      cases hc
  · have hother :=
      (Configuration.script?_addScript e.configuration script id).trans (if_neg (Ne.symm hid))
    rw [beq_eq_false_iff_ne.2 hid, Bool.false_and, Bool.false_and]
    cases hx with
    | known found alike => exact .kept rfl rfl
    | unserved new unserved => exact .kept rfl rfl
    | missing new served missing => exact .kept rfl rfl
    | sourceless new served present cached read => exact .kept rfl rfl
    | cached new served present cached read =>
      exact .kept hother (Catalog.get?_insert_ne _ _ (Ne.symm hid))
    | uncached new served present uncached =>
      exact .kept hother (Catalog.get?_erase_ne _ (Ne.symm hid))

theorem removeScript_scriptChange (e : Embedder) (host : Host) (removed id : UInt32) :
    ScriptChange id e host.files (e.removeScript host removed).answer.2 false := by
  have hx := removeScript_removal e host removed
  generalize e.removeScript host removed = t at hx ⊢
  cases hx with
  | unknown unknown => exact .kept rfl rfl
  | removed found =>
    have hscript := Configuration.script?_removeScript e.configuration removed id
    by_cases hid : id = removed
    · rw [if_pos hid] at hscript
      exact .gone hscript
    · rw [if_neg hid] at hscript
      exact .kept hscript (Catalog.get?_erase_ne _ hid)

/-- **A step reads the text of a script exactly when it registers the entry.** -/
theorem scriptChange (m : Moment) (id : UInt32) :
    ScriptChange id m.embedder m.host.files m.turn.answer.2 (m.registers id) := by
  obtain ⟨e, host, s⟩ := m
  cases s with
  | reset conf => exact reset_scriptChange e conf host id
  | resetSame => exact reset_scriptChange e e.configuration host id
  | addScript script => exact addScript_scriptChange e host script id
  | removeScript removed => exact removeScript_scriptChange e host removed id
  | addInterpreter entry =>
    show ScriptChange id e host.files (e.addInterpreter host entry).answer.2 false
    have hx := addInterpreter_addition e host entry
    generalize e.addInterpreter host entry = t at hx ⊢
    cases hx <;> exact .kept rfl rfl
  | execute id' params =>
    show ScriptChange id e host.files (e.execute host id' params).answer.2 false
    have hx := execute_execution e host id' params
    generalize e.execute host id' params = t at hx ⊢
    cases hx <;> exact .kept rfl rfl
  | setObserver _ | validate | failNext _ | write _ _ | delete _ => exact .kept rfl rfl

/-! ## 2. The latest registration -/

/-- Each registered script comes from the latest registration of its id, and a text that is kept is
that of the file then. -/
def Recalled (e : Embedder) (past : List Moment) : Prop :=
  ∀ id s, e.configuration.script? id = some s →
    ∃ m, lastRegistration id past = some m ∧
      m.turn.answer.2.configuration.script? id = some s ∧
      (s.cached = true → ∃ text, m.host.files.Source s.path text ∧ e.cache.get? id = some text)

theorem Recalled.step {m : Moment} {past : List Moment} (h : m.embedder.Recalled past) :
    m.turn.answer.2.Recalled (past ++ [m]) := by
  intro id s hs
  have hchange := scriptChange m id
  rw [lastRegistration_concat]
  cases hr : m.registers id with
  | true =>
    rw [hr] at hchange
    cases hchange with
    | registered read => exact ⟨m, rfl, hs, read s hs⟩
  | false =>
    rw [hr] at hchange
    cases hchange with
    | gone gone =>
      rw [gone] at hs
      cases hs
    | kept script text =>
      rw [script] at hs
      rw [text]
      exact h id s hs

/-- Every history recalls its registrations. -/
theorem history_recalled (conf : Configuration) (observer : Option Observer) (host : Host)
    (steps : List Step) :
    (history conf observer host steps).answer.Recalled
      (historyMoments conf observer host steps) := by
  have hstart : Recalled { observer } [] := fun id s hs => nomatch hs
  have hnew := hstart.step (m := ⟨{ observer }, host, .reset conf⟩)
  exact history_keeps_moments (P := fun e _ past => e.Recalled past) conf observer host hnew
    (fun e host s _ h => h.step (m := ⟨e, host, s⟩)) steps

/-! ## 3. Executions -/

/-- The execution hands the text to the interpreter of the script. -/
def Hands (e : Embedder) (host : Host) (id : UInt32) (params : List String) (text : String) :
    Prop :=
  ∃ s a, e.configuration.script? id = some s ∧ e.active.get? s.language = some a ∧
    e.execute host id params = e.handing host s a text params

theorem sourceOf_kept {files : FileTree} {s : ScriptEntry} {text : String}
    (hc : s.cached = true) (ht : e.cache.get? s.id = some text) :
    e.sourceOf files s = (some text, []) := by
  simp only [sourceOf, hc, ht]

theorem sourceOf_unkept {files : FileTree} {s : ScriptEntry} (hc : s.cached = false) :
    e.sourceOf files s = readSource files s.path := by
  simp only [sourceOf, hc]

/-- A consistent embedder hands out the text that it finds. -/
theorem Consistent.hands (h : e.Consistent) {id : UInt32} {s : ScriptEntry} {text : String}
    (params : List String) (hs : e.configuration.script? id = some s)
    (ht : (e.sourceOf host.files s).1 = some text) : e.Hands host id params text := by
  unfold Hands
  have hx := execute_execution e host id params
  generalize e.execute host id params = t at hx ⊢
  cases hx with
  | unknown unknown => cases hs.symm.trans unknown
  | sourceless found source =>
    cases hs.symm.trans found
    rw [source] at ht
    cases ht
  | unserved found source unserved =>
    obtain ⟨a, ha⟩ := h.interpreter found
    cases ha.symm.trans unserved
  | @ran script found' a found source served =>
    cases hs.symm.trans found
    rw [source] at ht
    cases ht
    exact ⟨s, a, hs, served, rfl⟩

/-- Over noted modules the text that is handed out is the one on record. -/
theorem Hands.recorded {id : UInt32} {params : List String} {text : String}
    (h : e.Hands host id params text) (hrec : ∀ a ∈ e.active.values, a.interpreter.Recording) :
    ∃ n, Records n [.ran text params] (e.execute host id params).effects := by
  obtain ⟨s, a, -, ha, he⟩ := h
  obtain ⟨hran, -⟩ := (hrec a (Catalog.mem_values.2 ⟨s.language, ha⟩)).run host text params
  have hbefore : Spoken [.traced (.executing s.id s.language)] := spoken_nil.traced _
  rw [he]
  exact ⟨_, ((hbefore.records _).append hran).append ((spoken_runReport e s params _).records _)⟩

/-- An execution finds no text exactly if the script has none. -/
theorem execute_sourceUnreadable {id : UInt32} {params : List String} {path : Path} :
    (e.execute host id params).answer.1 = .error (.sourceUnreadable path) ↔
      ∃ s, e.configuration.script? id = some s ∧ s.path = path ∧
        (e.sourceOf host.files s).1 = none := by
  have hx := execute_execution e host id params
  generalize e.execute host id params = t at hx ⊢
  cases hx with
  | unknown unknown =>
    refine ⟨fun h => (nomatch h), fun ⟨s, hs, _⟩ => ?_⟩
    cases hs.symm.trans unknown
  | @sourceless script why found source =>
    constructor
    · intro h
      cases h
      exact ⟨script, found, rfl, congrArg Prod.fst source⟩
    · rintro ⟨s, hs, rfl, -⟩
      cases hs.symm.trans found
      rfl
  | unserved found source unserved =>
    refine ⟨fun h => (nomatch h), fun ⟨s, hs, _, hn⟩ => ?_⟩
    cases hs.symm.trans found
    rw [source] at hn
    cases hn
  | @ran script text a found source served =>
    refine ⟨fun h => ?_, fun ⟨s, hs, _, hn⟩ => ?_⟩
    · have hr : answerOf (a.interpreter.run host text params).answer.1 =
          .error (.sourceUnreadable path) := h
      cases ha : (a.interpreter.run host text params).answer.1 with
      | success value =>
        rw [ha] at hr
        cases hr
      | failure message =>
        rw [ha] at hr
        cases hr
    · cases hs.symm.trans found
      rw [source] at hn
      cases hn

/-- Without a text nothing is run, and nothing changes. -/
theorem execute_unrun {id : UInt32} {params : List String} {path : Path}
    (h : (e.execute host id params).answer.1 = .error (.sourceUnreadable path)) :
    (e.execute host id params).answer.2 = e ∧ (e.execute host id params).host = host ∧
      Spoken (e.execute host id params).effects := by
  obtain ⟨s, hs, -, hn⟩ := execute_sourceUnreadable.1 h
  have hx := execute_execution e host id params
  generalize e.execute host id params = t at hx ⊢
  cases hx with
  | unknown unknown => exact ⟨rfl, rfl, (spoken_tell _ _).traced _⟩
  | @sourceless script why found source =>
    have hsource := spoken_sourceOf e host.files script
    rw [source] at hsource
    exact ⟨rfl, rfl, (hsource.traced _).append ((spoken_tell _ _).traced _)⟩
  | unserved found source unserved =>
    cases hs.symm.trans found
    rw [source] at hn
    cases hn
  | ran found source served =>
    cases hs.symm.trans found
    rw [source] at hn
    cases hn

/-! ## 4. After every history -/

/-- **After every history** an execution of a registered script hands out the text that the file had
at the latest registration of the entry, if the script is kept, and else the text that the file has
now. It finds no text exactly if the script is not kept and its file has none, and then no
interpreter runs. -/
theorem handedText_history (conf : Configuration) (observer : Option Observer) (host : Host)
    (steps : List Step) (id : UInt32) (params : List String) :
    let t := history conf observer host steps
    (∀ s, t.answer.configuration.script? id = some s → s.cached = true →
      ∃ m text, lastRegistration id (historyMoments conf observer host steps) = some m ∧
        m.turn.answer.2.configuration.script? id = some s ∧
        m.host.files.Source s.path text ∧ t.answer.Hands t.host id params text) ∧
    (∀ s text, t.answer.configuration.script? id = some s → s.cached = false →
      t.host.files.Source s.path text → t.answer.Hands t.host id params text) ∧
    (∀ path, (t.answer.execute t.host id params).answer.1 = .error (.sourceUnreadable path) ↔
      ∃ s, t.answer.configuration.script? id = some s ∧ s.cached = false ∧ s.path = path ∧
        t.host.files.Sourceless path) ∧
    ∀ path, (t.answer.execute t.host id params).answer.1 = .error (.sourceUnreadable path) →
      (t.answer.execute t.host id params).answer.2 = t.answer ∧
        (t.answer.execute t.host id params).host = t.host ∧
        Spoken (t.answer.execute t.host id params).effects := by
  intro t
  have hconsistent : t.answer.Consistent := history_consistent conf observer host steps
  have hrecalled := history_recalled conf observer host steps
  have hkept : ∀ s, t.answer.configuration.script? id = some s → s.cached = true →
      ∃ m text, lastRegistration id (historyMoments conf observer host steps) = some m ∧
        m.turn.answer.2.configuration.script? id = some s ∧
        m.host.files.Source s.path text ∧
        t.answer.sourceOf t.host.files s = (some text, []) := by
    intro s hs hc
    obtain ⟨m, hm, hreg, hcached⟩ := hrecalled id s hs
    obtain ⟨text, hsource, ht⟩ := hcached hc
    have hid : s.id = id := t.answer.configuration.scripts_keyed.key_eq hs
    exact ⟨m, text, hm, hreg, hsource, sourceOf_kept hc (hid ▸ ht)⟩
  refine ⟨fun s hs hc => ?_, fun s text hs hc ht => ?_, fun path => ?_, fun _ => execute_unrun⟩
  · obtain ⟨m, text, hm, hreg, hsource, ht⟩ := hkept s hs hc
    exact ⟨m, text, hm, hreg, hsource, hconsistent.hands params hs (congrArg Prod.fst ht)⟩
  · refine hconsistent.hands params hs ?_
    rw [sourceOf_unkept hc]
    exact readSource_eq_some.2 ht
  · rw [execute_sourceUnreadable]
    constructor
    · rintro ⟨s, hs, hpath, hn⟩
      have hc : s.cached = false := Bool.eq_false_iff.2 fun hc => by
        obtain ⟨_, _, _, _, _, ht⟩ := hkept s hs hc
        rw [ht] at hn
        cases hn
      rw [sourceOf_unkept hc, hpath] at hn
      exact ⟨s, hs, hc, hpath, readSource_eq_none.1 hn⟩
    · rintro ⟨s, hs, hc, hpath, hn⟩
      refine ⟨s, hs, hpath, ?_⟩
      rw [sourceOf_unkept hc, hpath]
      exact readSource_eq_none.2 hn

end Embedder

end ScriptHost
