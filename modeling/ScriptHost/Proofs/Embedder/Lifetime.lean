import ScriptHost.Proofs.Embedder.Applying
import ScriptHost.Proofs.Embedder.Exits
import ScriptHost.Proofs.Embedder.History
import ScriptHost.Proofs.Module.Records

/-!
# Lifetimes of modules

Over a backend of noted modules, the records of a whole history account for every module that the
embedder opened.

* `Accounted`: the instances in use are those of the loaded interpreters, equipped with the handle
  of the committed configuration (`Ledger`).
* `Quiet`: a turn without a record, after which the same instances are in use. Most exits are quiet;
  the others are moves of the ledger.
* **`accounted_history`**: each step keeps the account, so it holds after every history.
-/

namespace ScriptHost

namespace Embedder

/-! ## 1. The account of an embedder -/

/-- The serial numbers of the loaded instances, by ascending language. -/
def serials (active : Catalog String Active) : List Nat := active.values.map Active.serial

/-- The records account for the loaded instances. -/
structure Accounted (e : Embedder) (host : Host) (past : List Effect) : Prop where
  backend : host.backend.Recording
  recording : ∀ a ∈ e.active.values, a.interpreter.Recording
  ledger : Ledger e.configuration.api (serials e.active) host.asked past

variable {e : Embedder} {host : Host} {past : List Effect}

theorem spoken_note (e : Embedder) (text : String) : Spoken (e.note text) :=
  spoken_tell e.observer _

theorem spoken_refusal (e : Embedder) (err : EmbedderError) : Spoken (e.refusal err) :=
  (spoken_note e _).traced _

theorem spoken_runReport (e : Embedder) (script : ScriptEntry) (params : List String)
    (result : Except ExecutionError Int32) : Spoken (e.runReport script params result) := by
  cases result with
  | ok value => exact (spoken_tell _ _).traced _
  | error err => exact (spoken_tell _ _).traced _

theorem diagnostics_readSource (files : FileTree) (path : Path) :
    Diagnostics (readSource files path).2 := by
  unfold readSource
  split
  · exact diagnostics_nil.traced rfl
  · split
    · exact diagnostics_nil.traced rfl
    · exact diagnostics_nil

theorem diagnostics_sourceOf (e : Embedder) (files : FileTree) (script : ScriptEntry) :
    Diagnostics (e.sourceOf files script).2 := by
  unfold sourceOf
  split
  · exact diagnostics_nil
  · exact diagnostics_readSource files script.path

theorem spoken_sourceOf (e : Embedder) (files : FileTree) (script : ScriptEntry) :
    Spoken (e.sourceOf files script).2 :=
  (diagnostics_sourceOf e files script).spoken

theorem diagnostics_fillCache (files : FileTree) : ∀ (scripts : List ScriptEntry)
    (cache : Catalog UInt32 String), Diagnostics (fillCache files scripts cache).2
  | [], _ => diagnostics_nil
  | script :: rest, cache => by
    unfold fillCache
    split
    · have hs := diagnostics_readSource files script.path
      rcases hr : readSource files script.path with ⟨_ | source, why⟩
      · rw [hr] at hs
        exact hs
      · rw [hr] at hs
        exact hs.append ((diagnostics_fillCache files rest _).traced rfl)
    · exact diagnostics_fillCache files rest cache

theorem spoken_fillCache (files : FileTree) (scripts : List ScriptEntry)
    (cache : Catalog UInt32 String) : Spoken (fillCache files scripts cache).2 :=
  (diagnostics_fillCache files scripts cache).spoken

/-- A turn without a record, after which the same instances are in use under the same handle. -/
structure Quiet {α : Type} (e : Embedder) (host : Host) (t : Turn (α × Embedder)) : Prop where
  active : t.answer.2.active = e.active
  api : t.answer.2.configuration.api = e.configuration.api
  backend : t.host.backend = host.backend
  asked : t.host.asked = host.asked
  spoken : Spoken t.effects

theorem Quiet.map {α β : Type} {t : Turn (α × Embedder)} (h : Quiet e host t) (f : α → β) :
    Quiet e host (t.map fun a => (f a.1, a.2)) :=
  ⟨h.active, h.api, h.backend, h.asked, h.spoken⟩

/-- A quiet turn keeps the account. -/
theorem Accounted.quiet (h : e.Accounted host past) {α : Type} {t : Turn (α × Embedder)}
    (ht : Quiet e host t) : t.answer.2.Accounted t.host (past ++ t.effects) where
  backend := ht.backend ▸ h.backend
  recording := ht.active ▸ h.recording
  ledger := by
    rw [ht.active, ht.api, ht.asked]
    exact h.ledger.spoken ht.spoken

/-! ## 2. Loading and unloading -/

theorem perm_serials_insert (active : Catalog String Active) (l : String) (a : Active) :
    (serials (active.insert l a)).Perm (a.serial :: serials (active.erase l)) :=
  (Catalog.values_insert_perm active l a).map Active.serial

theorem perm_serials {active : Catalog String Active} {l : String} {a : Active}
    (h : active.get? l = some a) : (serials active).Perm (a.serial :: serials (active.erase l)) :=
  (Catalog.values_perm_of_get? h).map Active.serial

/-- **Loading all interpreters** accounts for those that are loaded, whether or not one fails. -/
theorem ledger_loadAll (api : ApiHandle) : ∀ (entries : List InterpreterEntry)
    (active : Catalog String Active) {host : Host} {past : List Effect},
    host.backend.Recording → (∀ a ∈ active.values, a.interpreter.Recording) →
    (entries.map (·.language)).Nodup → (∀ entry ∈ entries, active.get? entry.language = none) →
    Ledger (some api) (serials active) host.asked past →
    (∀ a ∈ (loadAll api entries active host).answer.2.values, a.interpreter.Recording) ∧
      Ledger (some api) (serials (loadAll api entries active host).answer.2)
        (loadAll api entries active host).host.asked
        (past ++ (loadAll api entries active host).effects)
  | [], active, host, past, _, hrec, _, _, h => by
    simp only [loadAll, List.append_nil]
    exact ⟨hrec, h⟩
  | entry :: rest, active, host, past, hb, hrec, hn, hfree, h => by
    rcases loadAll_cons api entry rest active host with
      ⟨err, after, effects, hload, he⟩ | ⟨a, after, effects, hload, he⟩
    · rw [he]
      refine ⟨hrec, ?_⟩
      show Ledger _ _ after.asked _
      rw [hload.asked.asked]
      rcases hload.refused_records hb with hs | hs
      · exact (h.spoken hs).askedMore (Nat.le_succ _)
      · exact h.rejected hs
    · rw [he]
      obtain ⟨hserial, ha, hs⟩ := hload.loaded_records hb
      have hn := List.nodup_cons.1 hn
      have hperm := perm_serials_insert active entry.language a
      rw [Catalog.erase_of_get?_none (hfree entry List.mem_cons_self), hserial] at hperm
      have hledger : Ledger (some api) (serials (active.insert entry.language a)) after.asked
          (past ++ effects) := by
        rw [hload.asked.asked]
        exact (h.opened rfl hs).perm hperm.symm
      have hbackend : after.backend.Recording := by
        rw [hload.asked.backend]
        exact hb
      have hrest := ledger_loadAll api rest _ hbackend (Catalog.forall_values_insert hrec ha) hn.2
        (fun entry' hm => by
          have hne : entry'.language ≠ entry.language := fun hl =>
            hn.1 (List.mem_map.2 ⟨entry', hm, hl⟩)
          rw [Catalog.get?_insert_ne _ _ hne]
          exact hfree entry' (List.mem_cons_of_mem _ hm)) hledger
      rw [List.append_assoc] at hrest
      exact hrest

/-- Where nothing is in use, loading the interpreters of a configuration is accounted for. -/
theorem ledger_loaded {conf : Configuration} {before : Option ApiHandle} {api : ApiHandle}
    {result : Except LoadError Unit} {active : Catalog String Active} {after : Host}
    {loading : List Effect} (hb : host.backend.Recording) (h : Ledger before [] host.asked past)
    (hload : loadAll api conf.interpreters.values Catalog.empty host =
      ⟨(result, active), after, loading⟩) :
    (∀ a ∈ active.values, a.interpreter.Recording) ∧ after.backend.Recording ∧
      Ledger (some api) (serials active) after.asked (past ++ loading) := by
  have hnodup : (conf.interpreters.values.map (·.language)).Nodup := by
    rw [conf.interpreters_keyed.map_values]
    exact conf.interpreters.keys_nodup
  have hl := ledger_loadAll api conf.interpreters.values Catalog.empty hb
    (fun _ ha => absurd ha List.not_mem_nil) hnodup (fun _ _ => rfl) (h.rehandle (some api))
  obtain ⟨n, hasked⟩ := asked_of_loaded hload
  rw [hload] at hl
  exact ⟨hl.1, hasked.backend ▸ hb, hl.2⟩

theorem unloadAll_records {active : Catalog String Active}
    (h : ∀ a ∈ active.values, a.interpreter.Recording) :
    ∀ x ∈ active.entries, Records x.2.serial [.dropped, .closed]
      (.traced (.interpreterDropped x.1) :: x.2.unload) := by
  intro x hx
  have hs : Spoken [.traced (.interpreterDropped x.1)] := spoken_nil.traced _
  exact (hs.records _).append (Active.unload_records (h x.2 (List.mem_map_of_mem hx)))

/-- **Unloading all interpreters** leaves no instance in use. -/
theorem ledger_unloadAll {api : Option ApiHandle} {active : Catalog String Active} {asked : Nat}
    (hrec : ∀ a ∈ active.values, a.interpreter.Recording)
    (h : Ledger api (serials active) asked past) :
    Ledger api [] asked (past ++ unloadAll active) := by
  refine Ledger.releasedAll (fun x : String × Active => x.2.serial) (unloadAll_records hrec) ?_
  unfold serials Catalog.values at h
  rw [List.map_map] at h
  exact h

theorem ledger_close (h : e.Accounted host past) :
    Ledger e.configuration.api [] host.asked (past ++ e.close) :=
  Ledger.releasedAll Active.serial (fun a ha => Active.close_records (h.recording a ha)) h.ledger

/-! ## 3. Steps -/

/-- With nothing in use, a failed reset is accounted for. -/
theorem accounted_failedWith (e : Embedder) (err : EmbedderError) {api : Option ApiHandle}
    (hb : host.backend.Recording) (h : Ledger api [] host.asked past) :
    (e.failedWith err).Accounted host (past ++ (e.failedWith err).refusal err) :=
  ⟨hb, fun _ ha => absurd ha List.not_mem_nil,
    (h.spoken (spoken_refusal _ err)).rehandle _⟩

theorem accounted_reset (h : e.Accounted host past) (conf : Configuration) :
    (e.reset conf host).answer.2.Accounted (e.reset conf host).host
      (past ++ (e.reset conf host).effects) := by
  have hunloaded := ledger_unloadAll h.recording h.ledger
  have hx := reset_resetting e conf host
  generalize e.reset conf host = t at hx ⊢
  cases hx with
  | invalid violation =>
    rw [← List.append_assoc]
    exact accounted_failedWith e _ h.backend hunloaded
  | notLoaded valid hapi hload =>
    obtain ⟨hrec, hbackend, hledger⟩ := ledger_loaded h.backend hunloaded hload
    have hdone := ledger_unloadAll hrec hledger
    simp only [← List.append_assoc]
    exact accounted_failedWith e _ hbackend hdone
  | @sourceless api active after loading why script valid hapi hload hfill =>
    obtain ⟨hrec, hbackend, hledger⟩ := ledger_loaded h.backend hunloaded hload
    have hs := spoken_fillCache after.files conf.scripts.values Catalog.empty
    rw [hfill] at hs
    have hdone := ledger_unloadAll hrec (hledger.spoken hs)
    simp only [← List.append_assoc]
    exact accounted_failedWith e _ hbackend hdone
  | @applied api active after loading why cache valid hapi hload hfill =>
    obtain ⟨hrec, hbackend, hledger⟩ := ledger_loaded h.backend hunloaded hload
    have hs := spoken_fillCache after.files conf.scripts.values Catalog.empty
    rw [hfill] at hs
    have hdone := (hledger.spoken hs).spoken
      ((spoken_note (e.working conf active cache) "Configuration set successfully.").traced
        (.configurationApplied active.size conf.scripts.size))
    simp only [← List.append_assoc]
    refine ⟨hbackend, hrec, ?_⟩
    show Ledger conf.api _ _ _
    rw [hapi]
    exact hdone

theorem quiet_refuse (e : Embedder) (host : Host) (err : EmbedderError) {before : List Effect}
    (h : Spoken before) : Quiet e host (e.refuse host err before) :=
  ⟨rfl, rfl, rfl, rfl, h.append (spoken_refusal e err)⟩

theorem quiet_addScript (e : Embedder) (host : Host) (script : ScriptEntry) :
    Quiet e host (e.addScript host script) := by
  have hx := addScript_addition e host script
  generalize e.addScript host script = t at hx ⊢
  cases hx with
  | known found alike => exact ⟨rfl, rfl, rfl, rfl, spoken_note e _⟩
  | unserved new unserved => exact quiet_refuse e host _ spoken_nil
  | missing new served missing => exact quiet_refuse e host _ spoken_nil
  | sourceless new served present cached read =>
    have hs := diagnostics_readSource host.files script.path
    rw [read] at hs
    exact quiet_refuse e host _ hs.spoken
  | cached new served present cached read =>
    exact ⟨rfl, rfl, rfl, rfl, (spoken_note e _).traced _⟩
  | uncached new served present uncached =>
    exact ⟨rfl, rfl, rfl, rfl, (spoken_note e _).traced _⟩

theorem quiet_removeScript (e : Embedder) (host : Host) (id : UInt32) :
    Quiet e host (e.removeScript host id) := by
  have hx := removeScript_removal e host id
  generalize e.removeScript host id = t at hx ⊢
  cases hx with
  | unknown unknown => exact ⟨rfl, rfl, rfl, rfl, spoken_note e _⟩
  | removed found => exact ⟨rfl, rfl, rfl, rfl, (spoken_note e _).traced _⟩

theorem accounted_addInterpreter (h : e.Accounted host past) (entry : InterpreterEntry) :
    (e.addInterpreter host entry).answer.2.Accounted (e.addInterpreter host entry).host
      (past ++ (e.addInterpreter host entry).effects) := by
  have hx := addInterpreter_addition e host entry
  generalize e.addInterpreter host entry = t at hx ⊢
  cases hx with
  | known found alike => exact h.quiet ⟨rfl, rfl, rfl, rfl, spoken_note e _⟩
  | notLoadable new notLoadable => exact h.quiet (quiet_refuse e host _ spoken_nil)
  | missingApi new loadable missing => exact h.quiet (quiet_refuse e host _ spoken_nil)
  | @notLoaded api err after loading new loadable hapi hload =>
    have hasked : host.Asked 1 after := hload.asked
    refine ⟨hasked.backend ▸ h.backend, h.recording, ?_⟩
    show Ledger e.configuration.api (serials e.active) after.asked
      (past ++ (loading ++ e.refusal _))
    rw [hasked.asked, ← List.append_assoc]
    refine Ledger.spoken ?_ (spoken_refusal e _)
    rcases hload.refused_records h.backend with hs | hs
    · exact (h.ledger.spoken hs).askedMore (Nat.le_succ _)
    · exact h.ledger.rejected hs
  | @added api a after loading new loadable hapi hload =>
    have hasked : host.Asked 1 after := hload.asked
    obtain ⟨hserial, ha, hs⟩ := hload.loaded_records h.backend
    refine ⟨hasked.backend ▸ h.backend, Catalog.forall_values_insert h.recording ha, ?_⟩
    show Ledger e.configuration.api (serials (e.active.insert entry.language a)) after.asked _
    have hopened := h.ledger.opened hapi hs
    have hperm := perm_serials_insert e.active entry.language a
    rw [hserial] at hperm
    rw [hasked.asked, ← List.append_assoc, ← List.append_assoc]
    refine Ledger.spoken ?_ ((spoken_note e _).traced _)
    cases hold : e.active.get? entry.language with
    | none =>
      rw [Catalog.erase_of_get?_none hold] at hperm
      exact (hopened.perm hperm.symm).spoken spoken_nil
    | some old =>
      -- the new instance stands before the old one until that is released
      have hswap := ((perm_serials hold).cons host.asked).trans (List.Perm.swap _ _ _)
      have hrecords := Active.unload_records
        (h.recording old (Catalog.mem_values.2 ⟨entry.language, hold⟩))
      exact ((hopened.perm hswap).released hrecords).perm hperm.symm

theorem accounted_execute (h : e.Accounted host past) (id : UInt32) (params : List String) :
    (e.execute host id params).answer.2.Accounted (e.execute host id params).host
      (past ++ (e.execute host id params).effects) := by
  have hx := execute_execution e host id params
  generalize e.execute host id params = t at hx ⊢
  cases hx with
  | unknown unknown => exact h.quiet ⟨rfl, rfl, rfl, rfl, (spoken_tell _ _).traced _⟩
  | @sourceless script why found source =>
    have hs := spoken_sourceOf e host.files script
    rw [source] at hs
    exact h.quiet ⟨rfl, rfl, rfl, rfl, (hs.traced _).append (spoken_runReport e _ _ _)⟩
  | @unserved script text why found source unserved =>
    have hs := spoken_sourceOf e host.files script
    rw [source] at hs
    exact h.quiet ⟨rfl, rfl, rfl, rfl, (hs.traced _).append (spoken_runReport e _ _ _)⟩
  | @ran script text a found source served =>
    have hmem : a ∈ e.active.values := Catalog.mem_values.2 ⟨script.language, served⟩
    obtain ⟨hran, hrec, hbackend, hasked⟩ := (h.recording a hmem).run host text params
    have hsource := Interpreter.run_source a.interpreter host text params
    refine ⟨?_, Catalog.forall_values_insert h.recording hrec, ?_⟩
    · show (a.interpreter.run host text params).host.backend.Recording
      rw [hbackend]
      exact h.backend
    · show Ledger e.configuration.api (serials (e.active.insert script.language _))
        (a.interpreter.run host text params).host.asked
        (past ++ (([.traced (.executing script.id script.language)] ++
          (a.interpreter.run host text params).effects) ++ e.runReport script params _))
      have hperm := perm_serials_insert e.active script.language
        { a with interpreter := (a.interpreter.run host text params).answer.2 }
      have hserial : Active.serial
          { a with interpreter := (a.interpreter.run host text params).answer.2 } = a.serial :=
        congrArg Instance.serial hsource
      rw [hserial] at hperm
      have hin : a.serial ∈ serials e.active := List.mem_map_of_mem hmem
      rw [hasked, ← List.append_assoc, ← List.append_assoc]
      refine Ledger.spoken ?_ (spoken_runReport e _ _ _)
      exact ((h.ledger.spoken (spoken_nil.traced _)).ran hin rfl hran).perm
        ((perm_serials served).trans hperm.symm)

/-- **Each step keeps the account.** -/
theorem accounted_step (h : e.Accounted host past) (s : Step) :
    (e.step host s).answer.2.Accounted (e.step host s).host (past ++ (e.step host s).effects) := by
  cases s with
  | reset conf => exact accounted_reset h conf
  | resetSame => exact accounted_reset h e.configuration
  | addScript script => exact h.quiet ((quiet_addScript e host script).map _)
  | removeScript id => exact h.quiet ((quiet_removeScript e host id).map _)
  | addInterpreter entry => exact accounted_addInterpreter h entry
  | execute id params => exact accounted_execute h id params
  | setObserver observer => exact h.quiet ⟨rfl, rfl, rfl, rfl, spoken_nil⟩
  | validate | failNext _ | write _ _ | delete _ => exact h.quiet ⟨rfl, rfl, rfl, rfl, spoken_nil⟩

/-- The account holds after every history. -/
theorem accounted_history (conf : Configuration) (observer : Option Observer) (host : Host)
    (hb : host.backend.Recording) (steps : List Step) :
    (history conf observer host steps).answer.Accounted (history conf observer host steps).host
      (history conf observer host steps).effects := by
  have hstart : Accounted { observer } host [] :=
    ⟨hb, fun _ ha => absurd ha List.not_mem_nil, Ledger.start _ _⟩
  have hnew := accounted_reset hstart conf
  rw [List.nil_append] at hnew
  exact history_keeps (P := Accounted) conf observer host hnew
    (fun _ _ s _ h => accounted_step h s) steps

end Embedder

end ScriptHost
