import ScriptHost.Proofs.Embedder.Applying
import ScriptHost.Proofs.Embedder.Exits
import ScriptHost.Proofs.Embedder.History

/-!
# Consistency of an embedder

An embedder keeps the loaded interpreters, the cached texts and the error of the last reset beside
its configuration. `Consistent` says how the four fit together.

* `reset_consistent`: a reset makes any embedder consistent, whatever it was before.
* `step_consistent`: every other step keeps it so, the files changing as they may.
* **`consistent_history`**: so an embedder is consistent after its construction and after every
  operation, over any backend, and no execution ever finds an interpreter missing.
-/

namespace ScriptHost.Embedder

/-! ## 1. The parts and how they fit -/

/-- The parts of the embedder fit together. -/
structure Consistent (e : Embedder) : Prop where
  /-- The languages with a loaded interpreter are those that are registered. -/
  languages : e.languages = e.configuration.interpreters.keys
  /-- What is loaded for a language holds the registered entry, in a module that declared the
  language. -/
  active : ∀ l a, e.active.get? l = some a →
    e.configuration.interpreter? l = some a.loader.entry ∧ a.Holds a.loader.entry ∧
      a.interpreter.language = l
  /-- The cached ids are those of the registered scripts that are to be kept in memory. -/
  cached : ∀ id, e.isCached id = true ↔
    ∃ s, e.configuration.script? id = some s ∧ s.cached = true
  /-- Every cached text holds something. -/
  texts : ∀ id text, e.cache.get? id = some text → text ≠ ""
  /-- Every registered script has an interpreter. -/
  served : ∀ id s, e.configuration.script? id = some s → s.language ∈ e.languages
  /-- An embedder that is not valid holds nothing. -/
  invalid : e.isValid = false →
    e.configuration = Configuration.empty ∧ e.active = Catalog.empty ∧ e.cache = Catalog.empty
  /-- A valid one has a host interface and an interpreter. -/
  valid : e.isValid = true → (∃ api, e.configuration.api = some api) ∧ e.languages ≠ []

variable {e : Embedder} {host : Host}

theorem mem_languages {l : String} : l ∈ e.languages ↔ ∃ a, e.active.get? l = some a :=
  Catalog.mem_keys

theorem isCached_iff {id : UInt32} : e.isCached id = true ↔ ∃ text, e.cache.get? id = some text :=
  Catalog.contains_iff

/-- The languages are the registered ones if the look-ups agree on which there are. -/
theorem languages_eq_iff : e.languages = e.configuration.interpreters.keys ↔
    ∀ l, (∃ a, e.active.get? l = some a) ↔
      ∃ entry, e.configuration.interpreter? l = some entry := by
  constructor
  · intro h l
    rw [← mem_languages, h]
    exact Catalog.mem_keys
  · intro h
    exact Catalog.keys_eq fun l => (Catalog.mem_keys.trans (h l)).trans Catalog.mem_keys.symm

namespace Consistent

/-- What is loaded for a language is so for its registered entry. -/
theorem holds (h : e.Consistent) {l : String} {entry : InterpreterEntry}
    (he : e.configuration.interpreter? l = some entry) :
    ∃ a, e.active.get? l = some a ∧ a.Holds entry := by
  obtain ⟨a, ha⟩ := (languages_eq_iff.1 h.languages l).2 ⟨entry, he⟩
  obtain ⟨hr, hh, _⟩ := h.active l a ha
  rw [he] at hr
  cases hr
  exact ⟨a, ha, hh⟩

/-- A registered script has an interpreter. -/
theorem interpreter (h : e.Consistent) {id : UInt32} {s : ScriptEntry}
    (hs : e.configuration.script? id = some s) : ∃ a, e.active.get? s.language = some a :=
  mem_languages.1 (h.served id s hs)

/-- An embedder with an interpreter is valid. -/
theorem isValid_of_active (h : e.Consistent) {l : String} {a : Active}
    (ha : e.active.get? l = some a) : e.isValid = true := by
  cases hv : e.isValid with
  | true => rfl
  | false =>
    rw [(h.invalid hv).2.1] at ha
    cases ha

/-- An embedder with a script is valid. -/
theorem isValid_of_script (h : e.Consistent) {id : UInt32} {s : ScriptEntry}
    (hs : e.configuration.script? id = some s) : e.isValid = true := by
  obtain ⟨a, ha⟩ := h.interpreter hs
  exact h.isValid_of_active ha

end Consistent

/-! ## 2. Resetting -/

/-- A failed reset leaves nothing that could fit badly. -/
theorem failedWith_consistent (e : Embedder) (err : EmbedderError) :
    (e.failedWith err).Consistent where
  languages := rfl
  active _ _ h := by cases h
  cached id := by
    rw [isCached_iff]
    constructor
    · rintro ⟨_, h⟩
      cases h
    · rintro ⟨_, h, _⟩
      cases h
  texts _ _ h := by cases h
  served _ _ h := by cases h
  invalid _ := ⟨rfl, rfl, rfl⟩
  valid h := by cases h

/-- Once what is loaded are the registered entries, the languages are the registered ones. -/
theorem working_languages (e : Embedder) {conf : Configuration} {active : Catalog String Active}
    (cache : Catalog UInt32 String)
    (hload : ∀ l entry, conf.interpreter? l = some entry →
      ∃ a, active.get? l = some a ∧ a.Holds entry)
    (hnone : ∀ l, conf.interpreter? l = none → active.get? l = none) :
    (e.working conf active cache).languages = conf.interpreters.keys := by
  refine languages_eq_iff.2 fun l => ⟨?_, ?_⟩
  · rintro ⟨a, ha⟩
    cases hi : conf.interpreter? l with
    | none => cases ha.symm.trans (hnone l hi)
    | some entry => exact ⟨entry, hi⟩
  · rintro ⟨entry, hi⟩
    obtain ⟨a, ha, _⟩ := hload l entry hi
    exact ⟨a, ha⟩

theorem working_consistent (e : Embedder) {conf : Configuration} {files : FileTree}
    {active : Catalog String Active} {cache : Catalog UInt32 String}
    (valid : conf.violation? files = none)
    (hload : ∀ l entry, conf.interpreter? l = some entry →
      ∃ a, active.get? l = some a ∧ a.Holds entry)
    (hnone : ∀ l, conf.interpreter? l = none → active.get? l = none)
    (hkept : ∀ id s, conf.script? id = some s → s.cached = true →
      ∃ text, files.Source s.path text ∧ cache.get? id = some text)
    (hrest : ∀ id, (∀ s, conf.script? id = some s → s.cached = false) → cache.get? id = none) :
    (e.working conf active cache).Consistent := by
  have hlang := working_languages e cache hload hnone
  have hconf := (Configuration.violation?_eq_none.1 valid).1
  have hcached : ∀ id text, cache.get? id = some text →
      ∃ s, conf.script? id = some s ∧ s.cached = true := by
    intro id text ht
    refine Classical.byContradiction fun hno => ?_
    have hn := hrest id fun s hs =>
      Bool.eq_false_iff.2 fun hc => hno ⟨s, hs, hc⟩
    rw [hn] at ht
    cases ht
  refine ⟨hlang, fun l a ha => ?_, fun id => ?_, fun id text ht => ?_, fun id s hs => ?_,
    (fun h => by cases h), fun _ => ⟨hconf.api, hlang ▸ hconf.interpreters⟩⟩
  · cases hi : conf.interpreter? l with
    | none => cases ha.symm.trans (hnone l hi)
    | some entry =>
      obtain ⟨a', ha', hh⟩ := hload l entry hi
      have he : a' = a := Option.some.inj (ha'.symm.trans ha)
      subst he
      refine ⟨?_, ?_, ?_⟩
      · rw [hh.entry_eq]
        exact hi
      · rw [hh.entry_eq]
        exact hh
      · exact hh.declared.trans (conf.interpreters_keyed.key_eq hi)
  · rw [isCached_iff]
    constructor
    · rintro ⟨text, ht⟩
      exact hcached id text ht
    · rintro ⟨s, hs, hc⟩
      obtain ⟨text, -, ht⟩ := hkept id s hs hc
      exact ⟨text, ht⟩
  · obtain ⟨s, hs, hc⟩ := hcached id text ht
    obtain ⟨text', hsource, ht'⟩ := hkept id s hs hc
    have he : text' = text := Option.some.inj (ht'.symm.trans ht)
    exact he ▸ hsource.2
  · obtain ⟨entry, hi⟩ := hconf.served id s hs
    rw [hlang]
    exact Catalog.mem_keys.2 ⟨entry, hi⟩

/-- **A reset makes any embedder consistent.** -/
theorem reset_consistent (e : Embedder) (conf : Configuration) (host : Host) :
    (e.reset conf host).answer.2.Consistent := by
  have h := reset_resetting e conf host
  generalize e.reset conf host = t at h ⊢
  cases h with
  | invalid violation => exact failedWith_consistent e _
  | notLoaded valid hapi hload => exact failedWith_consistent e _
  | sourceless valid hapi hload hfill => exact failedWith_consistent e _
  | applied valid hapi hload hfill =>
    obtain ⟨n, hasked⟩ := asked_of_loaded hload
    obtain ⟨hheld, hother⟩ := held_of_loaded hload
    obtain ⟨hkept, hrest⟩ := sources_of_filled hfill
    rw [hasked.files] at hkept
    exact working_consistent e valid hheld hother hkept hrest

/-! ## 3. Scripts -/

/-- Other scripts and texts fit a valid embedder if they fit each other and its languages. -/
theorem Consistent.withScripts (h : e.Consistent) (hv : e.isValid = true) {conf : Configuration}
    {cache : Catalog UInt32 String} (hapi : conf.api = e.configuration.api)
    (hinterpreters : conf.interpreters = e.configuration.interpreters)
    (hcached : ∀ id, (∃ text, cache.get? id = some text) ↔
      ∃ s, conf.script? id = some s ∧ s.cached = true)
    (htexts : ∀ id text, cache.get? id = some text → text ≠ "")
    (hserved : ∀ id s, conf.script? id = some s → s.language ∈ e.languages) :
    ({ e with configuration := conf, cache := cache } : Embedder).Consistent where
  languages := h.languages.trans (congrArg _ hinterpreters.symm)
  active l a ha := by
    have ha := h.active l a ha
    unfold Configuration.interpreter? at ha ⊢
    rw [hinterpreters]
    exact ha
  cached id := isCached_iff.trans (hcached id)
  texts := htexts
  served := hserved
  invalid hi := by
    have : e.isValid = false := hi
    rw [hv] at this
    cases this
  valid hi := by
    refine ⟨?_, (h.valid hi).2⟩
    show ∃ api, conf.api = some api
    rw [hapi]
    exact (h.valid hi).1

/-- Under an id that is not the script's own nothing changes; under its own there is the script. -/
theorem registerScript_consistent (h : e.Consistent) {script : ScriptEntry}
    {cache : Catalog UInt32 String} (how : Registration)
    (hserved : e.active.contains script.language = true)
    (hown : (∃ text, cache.get? script.id = some text) ↔ script.cached = true)
    (htext : ∀ text, cache.get? script.id = some text → text ≠ "")
    (hother : ∀ id, id ≠ script.id → cache.get? id = e.cache.get? id) :
    (e.registerScript host script cache how).answer.2.Consistent := by
  obtain ⟨a, ha⟩ := Catalog.contains_iff.1 hserved
  refine h.withScripts (h.isValid_of_active ha) rfl rfl (fun id => ?_) (fun id text ht => ?_)
    fun id s hs => ?_
  · rw [Configuration.script?_addScript]
    by_cases hid : id = script.id
    · subst hid
      rw [hown, if_pos rfl]
      constructor
      · intro hc
        exact ⟨script, rfl, hc⟩
      · rintro ⟨s, hs, hc⟩
        cases hs
        exact hc
    · rw [hother id hid, if_neg hid, ← isCached_iff]
      exact h.cached id
  · by_cases hid : id = script.id
    · exact htext text (hid ▸ ht)
    · exact h.texts id text (hother id hid ▸ ht)
  · rw [Configuration.script?_addScript] at hs
    by_cases hid : id = script.id
    · rw [if_pos hid] at hs
      cases hs
      exact mem_languages.2 ⟨a, ha⟩
    · rw [if_neg hid] at hs
      exact h.served id s hs

theorem addScript_consistent (h : e.Consistent) (script : ScriptEntry) :
    (e.addScript host script).answer.2.Consistent := by
  have hx := addScript_addition e host script
  generalize e.addScript host script = t at hx ⊢
  cases hx with
  | known found alike => exact h
  | unserved new unserved => exact h
  | missing new served missing => exact h
  | sourceless new served present cached read => exact h
  | @cached source why new served present cached read =>
    have hsource : host.files.Source script.path source := readSource_eq_some.1 (by rw [read])
    refine registerScript_consistent h _ served ?_ (fun text ht => ?_) fun id hid =>
      Catalog.get?_insert_ne _ _ hid
    · exact ⟨fun _ => cached, fun _ => ⟨source, Catalog.get?_insert_self _ _ _⟩⟩
    · rw [Catalog.get?_insert_self] at ht
      cases ht
      exact hsource.2
  | uncached new served present uncached =>
    refine registerScript_consistent h _ served ?_ (fun text ht => ?_) fun id hid =>
      Catalog.get?_erase_ne _ hid
    · rw [Catalog.get?_erase_self, uncached]
      exact ⟨fun ⟨_, ht⟩ => (nomatch ht), fun hc => (nomatch hc)⟩
    · rw [Catalog.get?_erase_self] at ht
      cases ht

theorem removeScript_consistent (h : e.Consistent) (id : UInt32) :
    (e.removeScript host id).answer.2.Consistent := by
  have hx := removeScript_removal e host id
  generalize e.removeScript host id = t at hx ⊢
  cases hx with
  | unknown unknown => exact h
  | removed found =>
    refine h.withScripts (h.isValid_of_script found) rfl rfl (fun id' => ?_)
      (fun id' text ht => ?_) fun id' s hs => ?_
    · rw [Configuration.script?_removeScript, Catalog.get?_erase]
      by_cases hid : id' = id
      · simp [hid]
      · rw [if_neg hid, if_neg hid, ← isCached_iff]
        exact h.cached id'
    · rw [Catalog.get?_erase] at ht
      split at ht
      · cases ht
      · exact h.texts id' text ht
    · rw [Configuration.script?_removeScript] at hs
      split at hs
      · cases hs
      · exact h.served id' s hs

/-! ## 4. Interpreters -/

/-- Putting what holds the entry under its language, and the entry into the configuration. -/
theorem Consistent.withEntry (h : e.Consistent) {entry : InterpreterEntry} {a : Active}
    (hapi : ∃ api, e.configuration.api = some api) (ha : a.Holds entry) :
    (e.withEntry entry a).Consistent := by
  have hlanguages : ∀ l, (∃ a', (e.withEntry entry a).active.get? l = some a') ↔
      ∃ entry', (e.withEntry entry a).configuration.interpreter? l = some entry' := by
    intro l
    rw [withEntry_interpreter?, withEntry_active]
    by_cases hl : l = entry.language
    · simp [hl]
    · rw [if_neg hl, if_neg hl]
      exact languages_eq_iff.1 h.languages l
  have hv : e.isValid = true := by
    cases hv : e.isValid with
    | true => rfl
    | false =>
      obtain ⟨api, hapi⟩ := hapi
      rw [(h.invalid hv).1] at hapi
      cases hapi
  refine ⟨languages_eq_iff.2 hlanguages, fun l a' hl => ?_, h.cached, h.texts, fun id s hs => ?_,
    fun hi => ?_, fun _ => ⟨hapi, fun hn => ?_⟩⟩
  · rw [withEntry_interpreter?]
    rw [withEntry_active] at hl
    by_cases hk : l = entry.language
    · rw [if_pos hk] at hl ⊢
      cases hl
      rw [ha.entry_eq, hk]
      exact ⟨rfl, ha, ha.declared⟩
    · rw [if_neg hk] at hl ⊢
      exact h.active l a' hl
  · obtain ⟨a', ha'⟩ := h.interpreter hs
    refine mem_languages.2 ?_
    rw [withEntry_active]
    split
    · exact ⟨a, rfl⟩
    · exact ⟨a', ha'⟩
  · have : e.isValid = false := hi
    rw [hv] at this
    cases this
  · have hm : entry.language ∈ (e.withEntry entry a).languages :=
      mem_languages.2 ⟨a, by rw [withEntry_active, if_pos rfl]⟩
    rw [hn] at hm
    cases hm

theorem addInterpreter_consistent (h : e.Consistent) (entry : InterpreterEntry) :
    (e.addInterpreter host entry).answer.2.Consistent := by
  have hx := addInterpreter_addition e host entry
  generalize e.addInterpreter host entry = t at hx ⊢
  cases hx with
  | known found alike => exact h
  | notLoadable new notLoadable => exact h
  | missingApi new loadable missing => exact h
  | notLoaded new loadable hapi hload => exact h
  | added new loadable hapi hload => exact h.withEntry ⟨_, hapi⟩ hload.holds

/-! ## 5. Executions -/

/-- Another state of an interpreter does not change what fits. -/
theorem Consistent.withInterpreter (h : e.Consistent) {l : String} {a : Active} {i : Interpreter}
    (ha : e.active.get? l = some a) (hi : i.source = a.interpreter.source) :
    (e.withInterpreter l a i).Consistent := by
  have hkeys : ∀ l', l' ∈ (e.withInterpreter l a i).languages ↔ l' ∈ e.languages := by
    intro l'
    rw [mem_languages, mem_languages, withInterpreter_active]
    by_cases hl : l' = l
    · subst hl
      simp [ha]
    · rw [if_neg hl]
  have hlanguages : (e.withInterpreter l a i).languages = e.languages := Catalog.keys_eq hkeys
  refine ⟨hlanguages.trans h.languages, fun l' a' ha' => ?_, h.cached, h.texts, fun id s hs => ?_,
    fun hv => ?_, fun hv => ?_⟩
  · rw [withInterpreter_active] at ha'
    split at ha'
    · rename_i hl
      obtain ⟨hr, hh, hlang⟩ := h.active l a ha
      cases ha'
      rw [hl]
      refine ⟨hr, ⟨rfl, ?_, ?_⟩, ?_⟩
      · rw [hi]
        exact hh.kept
      · rw [hi]
        exact hh.declared
      · show i.source.plugin.language = l
        rw [hi]
        exact hlang
    · exact h.active l' a' ha'
  · rw [hlanguages]
    exact h.served id s hs
  · rw [(h.invalid hv).2.1] at ha
    cases ha
  · rw [hlanguages]
    exact h.valid hv

theorem execute_consistent (h : e.Consistent) (id : UInt32) (params : List String) :
    (e.execute host id params).answer.2.Consistent := by
  have hx := execute_execution e host id params
  generalize e.execute host id params = t at hx ⊢
  cases hx with
  | unknown unknown => exact h
  | sourceless found source => exact h
  | unserved found source unserved => exact h
  | ran found source served => exact h.withInterpreter served (Interpreter.run_source _ _ _ _)

/-- No execution finds the interpreter of its script missing. -/
theorem Consistent.execute_ne_noInterpreter (h : e.Consistent) (id : UInt32)
    (params : List String) (language : String) :
    (e.execute host id params).answer.1 ≠ .error (.noInterpreter language) := by
  have hx := execute_execution e host id params
  generalize e.execute host id params = t at hx ⊢
  cases hx with
  | unknown unknown => exact fun he => nomatch he
  | sourceless found source => exact fun he => nomatch he
  | unserved found source unserved =>
    obtain ⟨a, ha⟩ := h.interpreter found
    rw [unserved] at ha
    cases ha
  | @ran script text a found source served =>
    show answerOf (a.interpreter.run host text params).answer.1 ≠ _
    cases (a.interpreter.run host text params).answer.1 <;> exact fun he => nomatch he

/-! ## 6. Steps and histories -/

/-- **Every step keeps an embedder consistent**, whatever the files have become. -/
theorem step_consistent (h : e.Consistent) (host : Host) (s : Step) :
    (e.step host s).answer.2.Consistent := by
  cases s with
  | reset conf => exact reset_consistent e conf host
  | resetSame => exact reset_consistent e e.configuration host
  | addScript script => exact addScript_consistent h script
  | removeScript id => exact removeScript_consistent h id
  | addInterpreter entry => exact addInterpreter_consistent h entry
  | execute id params => exact execute_consistent h id params
  | setObserver observer =>
    exact ⟨h.languages, h.active, h.cached, h.texts, h.served, h.invalid, h.valid⟩
  | validate | failNext _ | write _ _ | delete _ => exact h

/-- The parts of an embedder fit together after every history. -/
theorem history_consistent (conf : Configuration) (observer : Option Observer) (host : Host)
    (steps : List Step) : (history conf observer host steps).answer.Consistent :=
  history_keeps (P := fun e _ _ => e.Consistent) conf observer host
    (reset_consistent { observer } conf host) (fun _ _ s _ h => step_consistent h _ s) steps

/-- **After the construction and after every step the parts of an embedder fit together**, and no
execution answers that an interpreter is missing. -/
theorem consistent_history (conf : Configuration) (observer : Option Observer) (host : Host)
    (steps : List Step) :
    (history conf observer host steps).answer.Consistent ∧
      ∀ id params language,
        ((history conf observer host steps).answer.execute (history conf observer host steps).host
          id params).answer.1 ≠ .error (.noInterpreter language) := by
  have h := history_consistent conf observer host steps
  exact ⟨h, fun id params language => h.execute_ne_noInterpreter id params language⟩

end ScriptHost.Embedder
