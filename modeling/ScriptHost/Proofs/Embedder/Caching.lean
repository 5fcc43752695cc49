import ScriptHost.Proofs.Embedder.Milestones

/-!
# Texts that are put into the cache

A reset stores the texts of the scripts that are to be kept, and so does adding such a script. Only
the reset writes a diagnostic for each text.

* `Moment.stored`: the texts that a step stores, in order. `Moment.Storing`: what they have to do
  with the cache -- after a reset it lists them; when a source is missing, it listed them until then
  and is empty afterwards; an addition puts its text over what was there.
* `Moment.written`: the diagnostics for these texts. There is none for an addition.
* **`cachings_history`**: over every history, these are all diagnostics of this kind; so a step
  writes what it stores exactly if it is not an addition that stores a text.
* `cachings_addition`: such an addition.
-/

namespace ScriptHost.Embedder

variable {e : Embedder} {host : Host}

/-! ## 1. What a reset stores -/

/-- Where a source is missing, the texts are those of the scripts before. -/
theorem sources_of_missing {files : FileTree} {script : ScriptEntry} {scripts : List ScriptEntry}
    {cache : Catalog UInt32 String} (h : (fillCache files scripts cache).1 = .error script) :
    ∃ before later cache', scripts = before ++ script :: later ∧
      (fillCache files before cache).1 = .ok cache' ∧
      sources files before = sources files scripts := by
  induction scripts generalizing cache with
  | nil => cases h
  | cons first rest ih =>
    by_cases hc : first.cached = true
    · rcases hr : readSource files first.path with ⟨_ | text, why⟩
      · simp only [fillCache, if_pos hc, hr] at h
        cases h
        exact ⟨[], rest, cache, rfl, rfl, by simp [sources, hc, hr]⟩
      · simp only [fillCache, if_pos hc, hr] at h
        obtain ⟨before, later, cache', rfl, hfill, hsources⟩ := ih h
        refine ⟨first :: before, later, cache', rfl, ?_, ?_⟩
        · simp [fillCache, hc, hr, hfill]
        · simp [sources, hc, hr, hsources]
    · simp only [fillCache, if_neg hc] at h
      obtain ⟨before, later, cache', rfl, hfill, hsources⟩ := ih h
      refine ⟨first :: before, later, cache', rfl, ?_, ?_⟩
      · simp [fillCache, hc, hfill]
      · simp [sources, hc, hsources]

/-- How the texts get into the cache when the configuration is applied. -/
structure ResetStoring (conf : Configuration) (files : FileTree) (t : Change)
    (texts : List (UInt32 × String)) : Prop where
  /-- Afterwards the cache lists the texts. -/
  applied : t.answer.1 = .ok () → t.answer.2.cache.entries = texts
  /-- If a source is missing, the cache listed the texts when it came to that script. -/
  stopped : ∀ id path, t.answer.1 = .error (.cachedSourceUnreadable id path) →
    ∃ before script later cache, conf.scripts.values = before ++ script :: later ∧
      script.id = id ∧ script.path = path ∧
      (fillCache files before Catalog.empty).1 = .ok cache ∧
      cache = Catalog.ofList texts
  /-- A reset that fails leaves no text. -/
  failed : ∀ err, t.answer.1 = .error err → t.answer.2.cache = Catalog.empty

theorem reset_storing (e : Embedder) (conf : Configuration) (host : Host) :
    ResetStoring conf host.files (e.reset conf host)
      (storedBy host.files conf.scripts.values (e.reset conf host).answer.1) := by
  have hx := reset_resetting e conf host
  generalize e.reset conf host = t at hx ⊢
  cases hx with
  | invalid violation =>
    refine ⟨fun h => ?_, fun _ _ h => ?_, fun _ _ => rfl⟩ <;> cases h
  | notLoaded valid hapi hload =>
    refine ⟨fun h => ?_, fun _ _ h => ?_, fun _ _ => rfl⟩ <;> cases h
  | @sourceless api active after loading why script valid hapi hload hfill =>
    obtain ⟨n, hasked⟩ := asked_of_loaded hload
    rw [hasked.files] at hfill
    obtain ⟨before, later, cache, hvalues, hbefore, hsources⟩ :=
      sources_of_missing (congrArg Prod.fst hfill)
    refine ⟨fun h => ?_, fun id path h => ?_, fun _ _ => rfl⟩ <;> cases h
    refine ⟨before, script, later, cache, hvalues, rfl, rfl, hbefore, ?_⟩
    rw [(fillCache_milestones host.files before Catalog.empty).2 cache hbefore, hsources]
    rfl
  | @applied api active after loading why cache valid hapi hload hfill =>
    obtain ⟨n, hasked⟩ := asked_of_loaded hload
    rw [hasked.files] at hfill
    refine ⟨fun _ => filled_sources hfill, fun _ _ h => ?_, fun _ h => ?_⟩ <;> cases h

/-! ## 2. What an addition stores -/

/-- The text that adding the script stores: it is stored if the addition registers the script, and
the script is to be kept. -/
def storedByAddition (e : Embedder) (host : Host) (script : ScriptEntry) :
    List (UInt32 × String) :=
  match (e.addScript host script).answer.1 with
  | .ok () =>
    if (e.configuration.script? script.id).any (·.alike script) then []
    else sources host.files [script]
  | .error _ => []

/-- How the texts get into the cache without a reset: they stand there afterwards, and all else was
there before. -/
structure AdditionStoring (before after : Catalog UInt32 String)
    (texts : List (UInt32 × String)) : Prop where
  stored : ∀ x ∈ texts, after.get? x.1 = some x.2
  others : ∀ id text, after.get? id = some text →
    (id, text) ∈ texts ∨ before.get? id = some text

theorem additionStoring_refl (cache : Catalog UInt32 String) : AdditionStoring cache cache [] :=
  ⟨fun _ hx => absurd hx List.not_mem_nil, fun _ _ h => .inr h⟩

theorem additionStoring_erase (cache : Catalog UInt32 String) (id : UInt32) :
    AdditionStoring cache (cache.erase id) [] := by
  refine ⟨fun _ hx => absurd hx List.not_mem_nil, fun id' text h => .inr ?_⟩
  rw [Catalog.get?_erase] at h
  split at h
  · cases h
  · exact h

theorem addScript_storing (e : Embedder) (host : Host) (script : ScriptEntry) :
    AdditionStoring e.cache (e.addScript host script).answer.2.cache
      (e.storedByAddition host script) := by
  unfold storedByAddition
  have hx := addScript_addition e host script
  generalize e.addScript host script = t at hx ⊢
  cases hx with
  | known found alike =>
    simp only [found, Option.any_some, alike, if_true]
    exact additionStoring_refl e.cache
  | unserved new unserved => exact additionStoring_refl e.cache
  | missing new served missing => exact additionStoring_refl e.cache
  | sourceless new served present cached read => exact additionStoring_refl e.cache
  | @cached source why new served present cached read =>
    simp only [registerScript, new, sources, cached, read, Bool.false_eq_true, if_false, if_true]
    refine ⟨fun x hx => ?_, fun id text h => ?_⟩
    · obtain rfl := List.mem_singleton.1 hx
      exact Catalog.get?_insert_self _ _ _
    · rw [Catalog.get?_insert] at h
      split at h
      · rename_i hid
        cases h
        exact .inl (List.mem_singleton.2 (by rw [hid]))
      · exact .inr h
  | uncached new served present uncached =>
    simp only [registerScript, new, sources, uncached, Bool.false_eq_true, if_false]
    exact additionStoring_erase e.cache script.id

/-! ## 3. Steps -/

/-- The texts that the step stores in the cache, in order. -/
def Moment.stored (m : Moment) : List (UInt32 × String) :=
  match m.step with
  | .reset conf =>
    storedBy m.host.files conf.scripts.values (m.embedder.reset conf m.host).answer.1
  | .resetSame =>
    storedBy m.host.files m.embedder.configuration.scripts.values
      (m.embedder.reset m.embedder.configuration m.host).answer.1
  | .addScript script => m.embedder.storedByAddition m.host script
  | _ => []

/-- How the texts of the step get into the cache. -/
def Moment.Storing (m : Moment) : Prop :=
  match m.step with
  | .reset conf => ResetStoring conf m.host.files (m.embedder.reset conf m.host) m.stored
  | .resetSame =>
    ResetStoring m.embedder.configuration m.host.files
      (m.embedder.reset m.embedder.configuration m.host) m.stored
  | _ => AdditionStoring m.embedder.cache m.turn.answer.2.cache m.stored

/-- The fields of the diagnostic for a stored text: the id of its script and its length. -/
def textFields (x : UInt32 × String) : List (String × FieldValue) :=
  cachedFields x.1 x.2.utf8ByteSize

/-- The diagnostics that the step writes for stored texts. An addition writes none. -/
def Moment.written (m : Moment) : List (List (String × FieldValue)) :=
  match m.step with
  | .addScript _ => []
  | _ => m.stored.map textFields

theorem moment_storing (m : Moment) : m.Storing := by
  obtain ⟨e, host, s⟩ := m
  cases s with
  | reset conf => exact reset_storing e conf host
  | resetSame => exact reset_storing e e.configuration host
  | addScript script => exact addScript_storing e host script
  | removeScript id =>
    show AdditionStoring e.cache (e.removeScript host id).answer.2.cache []
    have hx := removeScript_removal e host id
    generalize e.removeScript host id = t at hx ⊢
    cases hx with
    | unknown unknown => exact additionStoring_refl e.cache
    | removed found => exact additionStoring_erase e.cache id
  | addInterpreter entry =>
    show AdditionStoring e.cache (e.addInterpreter host entry).answer.2.cache []
    have hx := addInterpreter_addition e host entry
    generalize e.addInterpreter host entry = t at hx ⊢
    cases hx <;> exact additionStoring_refl e.cache
  | execute id params =>
    show AdditionStoring e.cache (e.execute host id params).answer.2.cache []
    have hx := execute_execution e host id params
    generalize e.execute host id params = t at hx ⊢
    cases hx <;> exact additionStoring_refl e.cache
  | setObserver _ | validate | failNext _ | write _ _ | delete _ =>
    exact additionStoring_refl e.cache

theorem filterMap_loaded (languages : List String) :
    (languages.map Milestone.loaded).filterMap Milestone.cachedFields? = [] := by
  simp [List.filterMap_map, Function.comp_def, Milestone.cachedFields?]

theorem filterMap_unloaded (languages : List String) :
    (languages.map Milestone.unloaded).filterMap Milestone.cachedFields? = [] := by
  simp [List.filterMap_map, Function.comp_def, Milestone.cachedFields?]

theorem filterMap_ofText (texts : List (UInt32 × String)) :
    (texts.map Milestone.ofText).filterMap Milestone.cachedFields? = texts.map textFields := by
  rw [List.filterMap_map, ← List.filterMap_eq_map]
  rfl

/-- **A reset writes one diagnostic for each text that it stores.** -/
theorem reset_written (e : Embedder) (conf : Configuration) (host : Host) :
    logged "Script cached" (e.reset conf host).effects =
      (storedBy host.files conf.scripts.values (e.reset conf host).answer.1).map textFields := by
  obtain ⟨givenUp, -, hmilestones⟩ := reset_milestones e conf host
  rw [logged_cached, hmilestones]
  simp only [List.filterMap_append, filterMap_loaded, filterMap_unloaded, filterMap_ofText,
    List.nil_append, List.append_nil]

/-- **Each step writes these diagnostics** for stored texts, and no other of this kind. -/
theorem moment_written (m : Moment) : logged "Script cached" m.turn.effects = m.written := by
  obtain ⟨e, host, s⟩ := m
  cases s with
  | reset conf => exact reset_written e conf host
  | resetSame => exact reset_written e e.configuration host
  | addScript script =>
    show logged "Script cached" (e.addScript host script).effects = []
    rw [logged_cached, addScript_milestones]
    rfl
  | removeScript id =>
    show logged "Script cached" (e.removeScript host id).effects = []
    rw [logged_cached, removeScript_milestones]
    rfl
  | addInterpreter entry =>
    show logged "Script cached" (e.addInterpreter host entry).effects = []
    rw [logged_cached]
    rcases addInterpreter_milestones e host entry with ⟨hm, -⟩ | ⟨hm, -⟩
    · rw [hm]
      rfl
    · rw [hm, List.filterMap_cons]
      exact filterMap_unloaded _
  | execute id params =>
    show logged "Script cached" (e.execute host id params).effects = []
    rw [logged_cached, execute_milestones]
    rfl
  | setObserver _ | validate | failNext _ | write _ _ | delete _ => rfl

/-- The diagnostics for stored texts are all there exactly if the step is no addition that stores
one. -/
theorem moment_written_iff (m : Moment) : m.written = m.stored.map textFields ↔
    ∀ script, m.step = .addScript script → m.stored = [] := by
  obtain ⟨e, host, s⟩ := m
  cases s with
  | addScript script =>
    show [] = (Moment.stored _).map textFields ↔ _
    rw [eq_comm, List.map_eq_nil_iff]
    simp
  | _ => simp [Moment.written]

/-! ## 4. Histories -/

/-- The diagnostics of a run are those of its steps. -/
theorem run_written (steps : List Step) (e : Embedder) (host : Host) :
    logged "Script cached" (e.run host steps).effects =
      (moments e host steps).flatMap Moment.written := by
  induction steps generalizing e host with
  | nil => rfl
  | cons s rest ih =>
    rw [moments, List.flatMap_cons, ← ih, ← moment_written, ← logged_append]
    rfl

/-- **Over every history the diagnostics for stored texts are those of its steps**, the construction
being the first. Every step writes one for each text that it stores, with the id and the length,
unless it is an addition; it leaves out texts exactly if it is an addition that stores one. -/
theorem cachings_history (conf : Configuration) (observer : Option Observer) (host : Host)
    (steps : List Step) :
    logged "Script cached" (history conf observer host steps).effects =
      (historyMoments conf observer host steps).flatMap Moment.written ∧
    ∀ m : Moment, m.Storing ∧ logged "Script cached" m.turn.effects = m.written ∧
      (m.written = m.stored.map textFields ↔
        ∀ script, m.step = .addScript script → m.stored = []) := by
  refine ⟨?_, fun m => ⟨moment_storing m, moment_written m, moment_written_iff m⟩⟩
  rw [historyMoments, List.flatMap_cons, ← run_written, ← moment_written, ← logged_append]
  rfl

/-- A script that is to be kept is added to an embedder with an interpreter for it: its text is in
the cache, and there is no diagnostic for that. -/
theorem cachings_addition :
    let module : Path := ⟨[0x6D, 0x2E, 0x73, 0x6F]⟩
    let registry : Registry := ⟨[(module, .plugin ⟨"L", .recorder module⟩)]⟩
    let file : Path := ⟨[0x61]⟩
    let files := (FileTree.empty []).write file (.file [0x62, 0x6F, 0x64, 0x79])
    let host : Host := { files, backend := registry.backend }
    let t := Embedder.new (Configuration.ofParts (some (.other "h")) [⟨"L", module⟩] []) none host
    let m : Moment := ⟨t.answer, t.host, .addScript ⟨1, file, "L", true, 0⟩⟩
    m.turn.answer.1 = .done ∧ m.turn.answer.2.cache.entries = [(1, "body")] ∧
      m.stored = [(1, "body")] ∧ m.stored.map textFields =
        [[("script_id", .number 1), ("bytes", .number 4)]] ∧
      logged "Script cached" m.turn.effects = [] := by
  decide +kernel

end ScriptHost.Embedder
