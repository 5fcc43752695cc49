import ScriptHost.Proofs.Embedder.Frame

/-!
# Applying the committed configuration again

Additions check one entry at a time what a reset checks of a whole configuration. Both keep to the
same rules, so what was added piece by piece can be applied at once.

* `Servable`: each registered interpreter is named like a library and served by the registry.
* `Grounded`: each registered script has its file, and each cached text is that of its file.
* `Grounded.reset_same`: **resetting with the committed configuration then changes nothing that can
  be seen.**
* `reapplication_history`: over a registry the configuration of a valid embedder breaks no rule but
  the one about files after every history; and while no file changes, it can be applied again.
-/

namespace ScriptHost

/-- A host that has these files and this registry already. -/
theorem Host.having_eq {host : Host} {files : FileTree} {r : Registry}
    (hf : host.files = files) (hb : host.backend = r.backend) : host.having files r = host := by
  subst hf
  unfold having
  rw [← hb]

namespace Embedder

variable {e : Embedder} {host : Host} {r : Registry} {files : FileTree}

/-! ## 1. What the backend and the files have -/

/-- Every registered interpreter is named like a library, and the registry serves it. -/
def Servable (e : Embedder) (r : Registry) : Prop :=
  ∀ l entry, e.configuration.interpreter? l = some entry →
    entry.module.isLoadable = true ∧ r.Serves entry

/-- The files have what the scripts are registered with. -/
structure Grounded (e : Embedder) (files : FileTree) : Prop where
  /-- Every registered script has its file. -/
  present : ∀ id s, e.configuration.script? id = some s → files.exists? s.path = true
  /-- Every script that is kept in memory is kept with the text of its file. -/
  texts : ∀ id s, e.configuration.script? id = some s → s.cached = true →
    ∃ text, files.Source s.path text ∧ e.cache.get? id = some text

/-- A valid embedder keeps the rules that are not about files. -/
theorem Consistent.coherent (h : e.Consistent) (hv : e.isValid = true) (hr : e.Servable r) :
    e.configuration.Coherent where
  api := (h.valid hv).1
  interpreters := h.languages ▸ (h.valid hv).2
  served _ s hs := (languages_eq_iff.1 h.languages s.language).1 (h.interpreter hs)
  loadable l entry he := (hr l entry he).1

/-- The texts of the files are those in the cache. -/
theorem Grounded.cache_eq (h : e.Grounded files) (hc : e.Consistent)
    {cache : Catalog UInt32 String} {why : List Effect}
    (hfill : fillCache files e.configuration.scripts.values Catalog.empty = (.ok cache, why)) :
    cache = e.cache := by
  obtain ⟨hkept, hrest⟩ := sources_of_filled hfill
  refine Catalog.ext_get? fun id => ?_
  by_cases hid : ∃ s, e.configuration.script? id = some s ∧ s.cached = true
  · obtain ⟨s, hs, hcached⟩ := hid
    obtain ⟨text, hsource, ht⟩ := hkept id s hs hcached
    obtain ⟨text', hsource', ht'⟩ := h.texts id s hs hcached
    have heq : text = text' := Except.ok.inj (hsource.1.symm.trans hsource'.1)
    rw [ht, ht', heq]
  · have hnone : cache.get? id = none := hrest id fun s hs =>
      Bool.eq_false_iff.2 fun hcached => hid ⟨s, hs, hcached⟩
    have hnone' : e.cache.get? id = none := Option.eq_none_iff_forall_ne_some.2 fun text ht =>
      hid ((hc.cached id).1 (isCached_iff.2 ⟨text, ht⟩))
    rw [hnone, hnone']

/-- **Resetting with the committed configuration** succeeds and changes nothing that can be seen. -/
theorem Grounded.reset_same (h : e.Grounded files) (hc : e.Consistent) (hv : e.isValid = true)
    (hr : e.Servable r) (host : Host) :
    e.configuration.violation? files = none ∧
      (e.reset e.configuration (host.having files r)).answer.1 = .ok () ∧
      (e.reset e.configuration (host.having files r)).answer.2.view = e.view := by
  have hvalid : e.configuration.violation? files = none :=
    Configuration.violation?_eq_none.2 ⟨hc.coherent hv hr, h.present⟩
  have hserved : ∀ entry ∈ e.configuration.interpreters.values, r.Serves entry := by
    intro entry hentry
    obtain ⟨l, hl⟩ := Catalog.mem_values.1 hentry
    exact (hr l entry hl).2
  have hreadable : ∀ s ∈ e.configuration.scripts.values, s.Readable files := by
    intro s hs hcached
    obtain ⟨id, hid⟩ := Catalog.mem_values.1 hs
    obtain ⟨text, hsource, -⟩ := h.texts id s hid hcached
    exact ⟨text, hsource⟩
  obtain ⟨cache, why, hfill⟩ := fillCache_readable _ Catalog.empty hreadable
  obtain ⟨hresult, -, hview⟩ :=
    (Renewal.applied hvalid hserved hreadable hfill).reset e host
  have herror : e.errorText = "" := by
    unfold isValid at hv
    unfold errorText
    rw [Option.isNone_iff_eq_none.1 hv]
  refine ⟨hvalid, hresult, hview.trans ?_⟩
  unfold view
  rw [h.cache_eq hc hfill, hc.languages, hv, herror]

/-! ## 2. Steps -/

theorem servable_empty (h : e.configuration = Configuration.empty) : e.Servable r := by
  intro l entry he
  rw [h] at he
  cases he

theorem grounded_empty (h : e.configuration = Configuration.empty) : e.Grounded files := by
  refine ⟨fun id s hs => ?_, fun id s hs => ?_⟩
  · rw [h] at hs
    cases hs
  · rw [h] at hs
    cases hs

/-- A reset registers nothing but what it has checked. -/
theorem reset_grounded (e : Embedder) (conf : Configuration) (hb : host.backend = r.backend) :
    (e.reset conf host).answer.2.Servable r ∧
      (e.reset conf host).answer.2.Grounded host.files := by
  obtain ⟨result, n, view, h⟩ := renewal_total conf r host.files
  obtain ⟨-, -, hview⟩ := h.reset e host
  rw [Host.having_eq rfl hb] at hview
  cases h with
  | failed first =>
    have hconf := congrArg View.configuration hview
    exact ⟨servable_empty hconf, grounded_empty hconf⟩
  | @applied cache why valid served readable filled =>
    have hconf : (e.reset conf host).answer.2.configuration = conf :=
      congrArg View.configuration hview
    have hcache : (e.reset conf host).answer.2.cache = cache := congrArg View.cache hview
    obtain ⟨hcoherent, hpresent⟩ := Configuration.violation?_eq_none.1 valid
    refine ⟨fun l entry he => ?_, ?_, ?_⟩
    · rw [hconf] at he
      exact ⟨hcoherent.loadable l entry he, served entry (Catalog.mem_values.2 ⟨l, he⟩)⟩
    · rw [hconf]
      exact hpresent
    · rw [hconf, hcache]
      exact (sources_of_filled filled).1

/-- Neither scripts nor runs change which interpreters are registered. -/
theorem Servable.addScript (h : e.Servable r) (host : Host) (script : ScriptEntry) :
    (e.addScript host script).answer.2.Servable r := by
  have hx := addScript_addition e host script
  generalize e.addScript host script = t at hx ⊢
  cases hx <;> exact h

theorem Servable.removeScript (h : e.Servable r) (host : Host) (id : UInt32) :
    (e.removeScript host id).answer.2.Servable r := by
  have hx := removeScript_removal e host id
  generalize e.removeScript host id = t at hx ⊢
  cases hx <;> exact h

/-- An added interpreter is one that the registry served. -/
theorem Servable.addInterpreter (h : e.Servable r) (hb : host.backend = r.backend)
    (entry : InterpreterEntry) : (e.addInterpreter host entry).answer.2.Servable r := by
  have hx := addInterpreter_addition e host entry
  generalize e.addInterpreter host entry = t at hx ⊢
  cases hx with
  | known found alike => exact h
  | notLoadable new notLoadable => exact h
  | missingApi new loadable missing => exact h
  | notLoaded new loadable hapi hload => exact h
  | added new loadable hapi hload =>
    intro l entry' he
    rw [withEntry_interpreter?] at he
    by_cases hl : l = entry.language
    · rw [if_pos hl] at he
      cases he
      exact ⟨loadable, InterpreterEntry.fault?_eq_none.1 (hload.fault? hb)⟩
    · rw [if_neg hl] at he
      exact h l entry' he

theorem Servable.step (h : e.Servable r) (hb : host.backend = r.backend) (s : Step) :
    (e.step host s).answer.2.Servable r := by
  cases s with
  | reset conf => exact (reset_grounded e conf hb).1
  | resetSame => exact (reset_grounded e e.configuration hb).1
  | addScript script => exact h.addScript host script
  | removeScript id => exact h.removeScript host id
  | addInterpreter entry => exact h.addInterpreter hb entry
  | execute id params =>
    have hconf := (execute_runsOnly e host id params).configuration
    intro l entry he
    exact h l entry (hconf ▸ he)
  | setObserver _ | validate | failNext _ | write _ _ | delete _ => exact h

/-- A script that has its file, and its text in the cache if it is to be kept, can be registered. -/
theorem Grounded.registerScript (h : e.Grounded files) {script : ScriptEntry}
    {cache : Catalog UInt32 String} (how : Registration)
    (hpresent : files.exists? script.path = true)
    (hown : script.cached = true →
      ∃ text, files.Source script.path text ∧ cache.get? script.id = some text)
    (hother : ∀ id, id ≠ script.id → cache.get? id = e.cache.get? id) :
    (e.registerScript host script cache how).answer.2.Grounded files := by
  refine ⟨fun id s hs => ?_, fun id s hs hcached => ?_⟩
  · have hs := (Configuration.script?_addScript e.configuration script id).symm.trans hs
    by_cases hid : id = script.id
    · rw [if_pos hid] at hs
      cases hs
      exact hpresent
    · rw [if_neg hid] at hs
      exact h.present id s hs
  · have hs := (Configuration.script?_addScript e.configuration script id).symm.trans hs
    by_cases hid : id = script.id
    · rw [if_pos hid] at hs
      cases hs
      rw [hid]
      exact hown hcached
    · rw [if_neg hid] at hs
      obtain ⟨text, hsource, ht⟩ := h.texts id s hs hcached
      exact ⟨text, hsource, (hother id hid).trans ht⟩

theorem Grounded.addScript (h : e.Grounded host.files) (script : ScriptEntry) :
    (e.addScript host script).answer.2.Grounded host.files := by
  have hx := addScript_addition e host script
  generalize e.addScript host script = t at hx ⊢
  cases hx with
  | known found alike => exact h
  | unserved new unserved => exact h
  | missing new served missing => exact h
  | sourceless new served present cached read => exact h
  | @cached source why new served present cached read =>
    have hsource : host.files.Source script.path source :=
      readSource_eq_some.1 (congrArg Prod.fst read)
    exact h.registerScript _ present (fun _ => ⟨source, hsource, Catalog.get?_insert_self _ _ _⟩)
      fun id hid => Catalog.get?_insert_ne _ _ hid
  | uncached new served present uncached =>
    exact h.registerScript _ present (fun hc => nomatch uncached.symm.trans hc)
      fun id hid => Catalog.get?_erase_ne _ hid

theorem Grounded.removeScript (h : e.Grounded files) (host : Host) (id : UInt32) :
    (e.removeScript host id).answer.2.Grounded files := by
  have hx := removeScript_removal e host id
  generalize e.removeScript host id = t at hx ⊢
  cases hx with
  | unknown unknown => exact h
  | removed found =>
    have hkept : ∀ id' s, (e.configuration.removeScript id).2.script? id' = some s →
        id' ≠ id ∧ e.configuration.script? id' = some s := by
      intro id' s hs
      rw [Configuration.script?_removeScript] at hs
      by_cases hid : id' = id
      · rw [if_pos hid] at hs
        cases hs
      · rw [if_neg hid] at hs
        exact ⟨hid, hs⟩
    refine ⟨fun id' s hs => h.present id' s (hkept id' s hs).2, fun id' s hs hcached => ?_⟩
    obtain ⟨hid, hs⟩ := hkept id' s hs
    obtain ⟨text, hsource, ht⟩ := h.texts id' s hs hcached
    exact ⟨text, hsource, (Catalog.get?_erase_ne _ hid).trans ht⟩

/-- Interpreters have nothing to do with the files. -/
theorem Grounded.addInterpreter (h : e.Grounded files) (host : Host) (entry : InterpreterEntry) :
    (e.addInterpreter host entry).answer.2.Grounded files := by
  have hx := addInterpreter_addition e host entry
  generalize e.addInterpreter host entry = t at hx ⊢
  cases hx <;> exact ⟨h.present, h.texts⟩

theorem Grounded.step (h : e.Grounded host.files) (hb : host.backend = r.backend) (s : Step) :
    (e.step host s).answer.2.Grounded host.files := by
  cases s with
  | reset conf => exact (reset_grounded e conf hb).2
  | resetSame => exact (reset_grounded e e.configuration hb).2
  | addScript script => exact h.addScript script
  | removeScript id => exact h.removeScript host id
  | addInterpreter entry => exact h.addInterpreter host entry
  | execute id params =>
    have hx := execute_runsOnly e host id params
    refine ⟨fun id' s hs => h.present id' s (hx.configuration ▸ hs), fun id' s hs hcached => ?_⟩
    obtain ⟨text, hsource, ht⟩ := h.texts id' s (hx.configuration ▸ hs) hcached
    exact ⟨text, hsource, hx.cache.symm ▸ ht⟩
  | setObserver _ | validate | failNext _ | write _ _ | delete _ => exact ⟨h.present, h.texts⟩

/-! ## 3. The backend -/

/-- A reset changes nothing of the host but what openings do. -/
theorem reset_asked (e : Embedder) (conf : Configuration) (host : Host) :
    ∃ n, host.Asked n (e.reset conf host).host := by
  have hx := reset_resetting e conf host
  generalize e.reset conf host = t at hx ⊢
  cases hx with
  | invalid violation => exact ⟨0, Host.Asked.refl host⟩
  | notLoaded valid hapi hload => exact asked_of_loaded hload
  | sourceless valid hapi hload hfill => exact asked_of_loaded hload
  | applied valid hapi hload hfill => exact asked_of_loaded hload

theorem reset_backend (e : Embedder) (conf : Configuration) (host : Host) :
    (e.reset conf host).host.backend = host.backend := by
  obtain ⟨n, hasked⟩ := reset_asked e conf host
  exact hasked.backend

/-- No step changes the backend. -/
theorem step_backend (e : Embedder) (host : Host) (s : Step) :
    (e.step host s).host.backend = host.backend := by
  cases s with
  | reset conf => exact reset_backend e conf host
  | resetSame => exact reset_backend e e.configuration host
  | addScript script => exact (quiet_addScript e host script).backend
  | removeScript id => exact (quiet_removeScript e host id).backend
  | addInterpreter entry =>
    show (e.addInterpreter host entry).host.backend = _
    have hx := addInterpreter_addition e host entry
    generalize e.addInterpreter host entry = t at hx ⊢
    cases hx with
    | known found alike => rfl
    | notLoadable new notLoadable => rfl
    | missingApi new loadable missing => rfl
    | notLoaded new loadable hapi hload => exact hload.asked.backend
    | added new loadable hapi hload => exact hload.asked.backend
  | execute id params =>
    show (e.execute host id params).host.backend = _
    have hx := execute_execution e host id params
    generalize e.execute host id params = t at hx ⊢
    cases hx with
    | unknown unknown => rfl
    | sourceless found source => rfl
    | unserved found source unserved => rfl
    | @ran script text a found source served =>
      obtain ⟨left, hhost⟩ := Interpreter.run_host a.interpreter host text params
      show (a.interpreter.run host text params).host.backend = _
      rw [hhost]
  | setObserver _ | validate | failNext _ | write _ _ | delete _ => rfl

/-! ## 4. After every history -/

/-- Over a registry, what was registered is served; and it has its files while these do not
change. -/
structure Settled (r : Registry) (files : FileTree) (e : Embedder) (host : Host)
    (past : List Moment) : Prop where
  backend : host.backend = r.backend
  servable : e.Servable r
  grounded : (∀ m ∈ past, m.host.files = files) → e.Grounded files

theorem Settled.step {past : List Moment} (h : Settled r files e host past) (s : Step) :
    Settled r files (e.step host s).answer.2 (e.step host s).host (past ++ [⟨e, host, s⟩]) := by
  refine ⟨(step_backend e host s).trans h.backend, h.servable.step h.backend s, fun hall => ?_⟩
  obtain ⟨hpast, hlast⟩ := List.forall_mem_append.1 hall
  have hfiles : host.files = files := hlast _ (List.mem_singleton.2 rfl)
  have hg : e.Grounded host.files := hfiles ▸ h.grounded hpast
  exact hfiles ▸ hg.step h.backend s

theorem history_settled (r : Registry) (files : FileTree) (conf : Configuration)
    (observer : Option Observer) (host : Host) (hb : host.backend = r.backend)
    (steps : List Step) :
    Settled r files (history conf observer host steps).answer
      (history conf observer host steps).host (historyMoments conf observer host steps) := by
  obtain ⟨hservable, hgrounded⟩ := reset_grounded { observer } conf hb
  refine history_keeps_moments (P := Settled r files) conf observer host
    ⟨(reset_backend { observer } conf host).trans hb, hservable, fun hall => ?_⟩
    (fun _ _ s _ h => h.step s) steps
  have hfiles : host.files = files := hall _ (List.mem_singleton.2 rfl)
  exact hfiles ▸ hgrounded

/-- **After every history over a registry** the configuration of a valid embedder breaks no rule but
the one about files, whatever the files have become. If no step met other files than the
construction did, it breaks none, and resetting with it succeeds and changes nothing that can be
seen. -/
theorem reapplication_history (r : Registry) (files : FileTree) (conf : Configuration)
    (observer : Option Observer) (host : Host) (steps : List Step) :
    let t := history conf observer (host.having files r) steps
    let past := historyMoments conf observer (host.having files r) steps
    (t.answer.isValid = true → ∀ files' v, t.answer.configuration.violation? files' = some v →
      ∃ id s, t.answer.configuration.script? id = some s ∧ v = .missingFile id s.path ∧
        files'.exists? s.path = false) ∧
    (t.answer.isValid = true → (∀ m ∈ past, m.host.files = files) → t.host.files = files →
      t.answer.configuration.violation? t.host.files = none ∧
      (t.answer.reset t.answer.configuration t.host).answer.1 = .ok () ∧
      (t.answer.reset t.answer.configuration t.host).answer.2.view = t.answer.view) := by
  intro t past
  have hc : t.answer.Consistent := history_consistent conf observer (host.having files r) steps
  have hs : Settled r files t.answer t.host past :=
    history_settled r files conf observer (host.having files r) rfl steps
  refine ⟨fun hv files' v hviolation => (hc.coherent hv hs.servable).missing hviolation,
    fun hv hall hfiles => ?_⟩
  have hsame := (hs.grounded hall).reset_same hc hv hs.servable t.host
  rw [Host.having_eq hfiles hs.backend] at hsame
  rw [hfiles]
  exact hsame

/-- A recorder with a kept script; another script is added and the first one is run. -/
theorem reapplication_recorder :
    let module : Path := ⟨[0x61, 0x2E, 0x73, 0x6F]⟩
    let path : Path := ⟨[0x73]⟩
    let r : Registry := ⟨[(module, .plugin ⟨"A", .recorder module⟩)]⟩
    let files := (FileTree.empty []).write path (.file [0x78])
    let host : Host := { files := FileTree.empty [], backend := r.backend }
    let conf := Configuration.ofParts (some (.other "h")) [⟨"A", module⟩] [⟨1, path, "A", true, 0⟩]
    let steps : List Step := [.addScript ⟨2, path, "A", false, 0⟩, .execute 1 []]
    let t := history conf none (host.having files r) steps
    t.answer.isValid = true ∧ t.answer.isCached 1 = true ∧
      (t.answer.reset t.answer.configuration t.host).answer.2.view = t.answer.view := by
  intro module path r files host conf steps t
  have hvalid : t.answer.isValid = true := by decide +kernel
  have hpast : ∀ m ∈ historyMoments conf none (host.having files r) steps,
      m.host.files = files := by decide +kernel
  have hfiles : t.host.files = files := by decide +kernel
  exact ⟨hvalid, by decide +kernel,
    ((reapplication_history r files conf none host steps).2 hvalid hpast hfiles).2.2⟩

end Embedder

end ScriptHost
