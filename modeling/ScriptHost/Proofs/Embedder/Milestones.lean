import ScriptHost.Proofs.Embedder.Consistency
import ScriptHost.Proofs.Module.Records

/-!
# Milestones in the diagnostics

Three kinds of diagnostics tell what an embedder takes up and lets go of: a module was loaded, a
module was unloaded, a text was put into the cache.

* `milestones`: these diagnostics, in order. `logged` is how they are written: the fields of all
  diagnostics with a message, reports to an observer left out (`loadings_eq`, `unloadings_eq`,
  `logged_cached`).
* Most pieces of an operation have none; loading an interpreter has one (`Active.Loading.milestones`)
  and unloading it has another (`Active.milestones_unload`).
* **`Embedder.reset_milestones`**: a reset unloads what there was, loads what the configuration asks
  for, and stores the texts in order; if it fails, what was loaded is unloaded again.
* **`Embedder.addInterpreter_milestones`**: an added interpreter is loaded, and only then the one
  that it replaces is unloaded.
-/

namespace ScriptHost

/-! ## 1. Diagnostics with a message -/

/-- The fields of the diagnostic, if it has this message. A report to an observer has none. -/
def Effect.fields? (message : String) : Effect → Option (List (String × FieldValue))
  | .traced (.observed _) => none
  | .traced event => if event.message = message then some event.fields else none
  | _ => none

/-- The fields of all diagnostics with this message, in order. -/
def logged (message : String) (effects : List Effect) : List (List (String × FieldValue)) :=
  effects.filterMap (Effect.fields? message)

theorem logged_append (message : String) (a b : List Effect) :
    logged message (a ++ b) = logged message a ++ logged message b :=
  List.filterMap_append

/-- How often it is written that a module was loaded for the language. -/
def loadings (language : String) (effects : List Effect) : Nat :=
  (logged "Interpreter module loaded" effects).countP (·.contains ("language", .text language))

/-- How often it is written that a module was unloaded for the language. -/
def unloadings (language : String) (effects : List Effect) : Nat :=
  (logged "Interpreter module unloaded" effects).countP (·.contains ("language", .text language))

/-! ## 2. Milestones -/

/-- What is taken up or let go of. -/
inductive Milestone where
  | loaded (language : String)
  | unloaded (language : String)
  | cached (id : UInt32) (bytes : Nat)
  deriving DecidableEq

/-- The milestone that a text is stored under an id. -/
def Milestone.ofText (x : UInt32 × String) : Milestone := .cached x.1 x.2.utf8ByteSize

/-- The milestone that the effect tells of. -/
def Effect.milestone? : Effect → Option Milestone
  | .traced (.moduleLoaded language _) => some (.loaded language)
  | .traced (.moduleUnloaded language _) => some (.unloaded language)
  | .traced (.scriptCached id bytes) => some (.cached id bytes)
  | _ => none

/-- The milestones among the effects, in order. -/
def milestones (effects : List Effect) : List Milestone := effects.filterMap Effect.milestone?

@[simp] theorem milestones_nil : milestones [] = [] := rfl

@[simp] theorem milestones_cons (x : Effect) (effects : List Effect) :
    milestones (x :: effects) = x.milestone?.toList ++ milestones effects := by
  unfold milestones
  rw [List.filterMap_cons]
  cases x.milestone? <;> rfl

@[simp] theorem milestones_append (a b : List Effect) :
    milestones (a ++ b) = milestones a ++ milestones b :=
  List.filterMap_append

/-! ## 3. How milestones are written -/

/-- The fields of a text that was put into the cache. -/
def cachedFields (id : UInt32) (bytes : Nat) : List (String × FieldValue) :=
  [("script_id", .number id.toNat), ("bytes", .number bytes)]

/-- The fields of the milestone, if it is about a text. -/
def Milestone.cachedFields? : Milestone → Option (List (String × FieldValue))
  | .cached id bytes => some (cachedFields id bytes)
  | _ => none

theorem Effect.fields?_cached (x : Effect) :
    x.fields? "Script cached" = x.milestone?.bind Milestone.cachedFields? := by
  rcases x with _ | _ | _ | event
  · rfl
  · rfl
  · rfl
  · cases event <;> rfl

theorem Effect.fields?_loaded (x : Effect) (language : String) :
    (x.fields? "Interpreter module loaded").any (·.contains ("language", .text language)) =
      decide (x.milestone? = some (.loaded language)) := by
  rcases x with _ | _ | _ | event
  · rfl
  · rfl
  · rfl
  · cases event <;> simp [fields?, milestone?, TraceEvent.message, TraceEvent.fields,
      TraceEvent.pathField, eq_comm]

theorem Effect.fields?_unloaded (x : Effect) (language : String) :
    (x.fields? "Interpreter module unloaded").any (·.contains ("language", .text language)) =
      decide (x.milestone? = some (.unloaded language)) := by
  rcases x with _ | _ | _ | event
  · rfl
  · rfl
  · rfl
  · cases event <;> simp [fields?, milestone?, TraceEvent.message, TraceEvent.fields,
      TraceEvent.pathField, eq_comm]

/-- What is written for a milestone is counted by counting the milestone. -/
theorem countP_fields {message : String} {p : List (String × FieldValue) → Bool} {m : Milestone}
    (h : ∀ x : Effect, (x.fields? message).any p = decide (x.milestone? = some m))
    (effects : List Effect) : (logged message effects).countP p = (milestones effects).count m := by
  unfold logged milestones
  rw [List.count_eq_countP, List.countP_filterMap, List.countP_filterMap]
  refine List.countP_congr fun x _ => ?_
  have hx := h x
  cases hf : x.fields? message <;> cases hm : x.milestone? <;> simp_all

theorem loadings_eq (language : String) (effects : List Effect) :
    loadings language effects = (milestones effects).count (.loaded language) :=
  countP_fields (Effect.fields?_loaded · language) effects

theorem unloadings_eq (language : String) (effects : List Effect) :
    unloadings language effects = (milestones effects).count (.unloaded language) :=
  countP_fields (Effect.fields?_unloaded · language) effects

theorem logged_cached (effects : List Effect) :
    logged "Script cached" effects = (milestones effects).filterMap Milestone.cachedFields? := by
  unfold logged milestones
  rw [List.filterMap_filterMap]
  exact congrArg (List.filterMap · effects) (funext Effect.fields?_cached)

/-! ## 4. Pieces of an operation -/

@[simp] theorem Instance.milestones_record (i : Instance) (event : Life) :
    milestones (i.record event) = [] := by
  unfold record
  split <;> rfl

@[simp] theorem milestones_announcement (b : Backend) (path : Path) (plugin : Plugin) :
    milestones (b.announcement path plugin) = [] := by
  unfold Backend.announcement
  split <;> rfl

@[simp] theorem milestones_tell (observer : Option Observer) (report : Report) :
    milestones (tell observer report) = [] := by
  rcases observer with _ | name | _ <;> rfl

theorem Loader.Opening.milestones {entry : InterpreterEntry} {host : Host}
    {t : Turn (Except LoadError Instance)} (h : Loader.Opening entry host t) :
    ScriptHost.milestones t.effects = [] := by
  cases h <;> simp [Effect.milestone?]

/-- A module that is rejected leaves no milestone, one that is loaded leaves one. -/
theorem Active.Loading.milestones {entry : InterpreterEntry} {api : ApiHandle} {host : Host}
    {t : Turn (Except LoadError Active)} (h : Active.Loading entry api host t) :
    ScriptHost.milestones t.effects = match t.answer with
      | .ok _ => [.loaded entry.language]
      | .error _ => [] := by
  cases h with
  | refused opening =>
    have ho := opening.milestones
    simp_all [InterpreterEntry.rejection, Effect.milestone?]
  | loaded opening =>
    have ho := opening.milestones
    simp_all [Effect.milestone?]

/-- The language that is named when the interpreter is unloaded. -/
def Active.label? (a : Active) : Option String :=
  a.loader.kept.map fun _ => a.loader.entry.language

theorem Active.Holds.label? {a : Active} {entry : InterpreterEntry} (h : a.Holds entry) :
    a.label? = some entry.language := by
  simp [Active.label?, h.kept, h.entry_eq]

theorem Active.milestones_unload (a : Active) :
    milestones a.unload = a.label?.toList.map .unloaded := by
  unfold unload close Interpreter.drop Loader.unloadedTrace Active.label?
  cases a.loader.kept <;> simp [Effect.milestone?]

theorem Interpreter.milestones_run (i : Interpreter) (host : Host) (script : String)
    (params : List String) : milestones (i.run host script params).effects = [] := by
  obtain ⟨noted, printed, heffects, hnoted, hprinted⟩ := i.run_effects host script params
  have hnone : milestones noted = [] := by
    rcases hnoted with rfl | rfl
    · rfl
    · exact i.source.milestones_record _
  rw [heffects, milestones_append, hnone, List.nil_append]
  refine List.filterMap_eq_nil_iff.2 fun x hx => ?_
  obtain ⟨console, line, rfl⟩ := hprinted x hx
  rfl

namespace Embedder

variable {e : Embedder} {host : Host}

@[simp] theorem milestones_note (e : Embedder) (text : String) : milestones (e.note text) = [] :=
  milestones_tell e.observer _

@[simp] theorem milestones_refusal (e : Embedder) (err : EmbedderError) :
    milestones (e.refusal err) = [] := by
  simp [refusal, Effect.milestone?]

@[simp] theorem milestones_runReport (e : Embedder) (script : ScriptEntry) (params : List String)
    (result : Except ExecutionError Int32) :
    milestones (e.runReport script params result) = [] := by
  cases result <;> simp [runReport, Effect.milestone?]

@[simp] theorem milestones_readSource (files : FileTree) (path : Path) :
    milestones (readSource files path).2 = [] := by
  unfold readSource
  split
  · rfl
  · split <;> rfl

@[simp] theorem milestones_sourceOf (e : Embedder) (files : FileTree) (script : ScriptEntry) :
    milestones (e.sourceOf files script).2 = [] := by
  unfold sourceOf
  split
  · rfl
  · exact milestones_readSource files script.path

/-! ## 5. Loading and unloading -/

/-- The languages that are named when all are unloaded. -/
def leaving (active : Catalog String Active) : List String :=
  active.values.flatMap fun a => a.label?.toList

theorem milestones_unloadAll (active : Catalog String Active) :
    milestones (unloadAll active) = (leaving active).map .unloaded := by
  unfold unloadAll leaving Catalog.values
  induction active.entries with
  | nil => rfl
  | cons x rest ih =>
    simp [Effect.milestone?, Active.milestones_unload, ih]

/-- Where each language has what is loaded for it, all are named. -/
theorem leaving_eq {active : Catalog String Active}
    (h : ∀ x ∈ active.entries, x.2.label? = some x.1) : leaving active = active.keys := by
  unfold leaving Catalog.values Catalog.keys
  generalize active.entries = entries at h ⊢
  induction entries with
  | nil => rfl
  | cons x rest ih =>
    obtain ⟨hx, hrest⟩ := List.forall_mem_cons.1 h
    simp [hx, ih hrest]

/-- What is loaded for a language is named by it. -/
theorem Consistent.label? (h : e.Consistent) {l : String} {a : Active}
    (ha : e.active.get? l = some a) : a.label? = some l := by
  obtain ⟨hr, hh, -⟩ := h.active l a ha
  rw [hh.label?, e.configuration.interpreters_keyed.key_eq hr]

theorem Consistent.leaving_eq (h : e.Consistent) : leaving e.active = e.languages :=
  Embedder.leaving_eq fun _ hx => h.label? (Catalog.mem_entries.1 hx)

/-- **What loading comes to**: each interpreter that is loaded is a milestone, in the order of the
entries, and they are put in one after the other. Loading may end before all are loaded. -/
theorem loadAll_milestones (api : ApiHandle) (entries : List InterpreterEntry)
    (active : Catalog String Active) (host : Host) : ∃ loaded : List (String × Active),
      loaded.map (·.1) <+: entries.map (·.language) ∧
      (∀ x ∈ loaded, x.2.label? = some x.1) ∧
      milestones (loadAll api entries active host).effects = loaded.map (.loaded ·.1) ∧
      (loadAll api entries active host).answer.2 =
        loaded.foldl (fun c x => c.insert x.1 x.2) active := by
  -- the interpreters of earlier entries are in `active` already
  induction entries generalizing active host with
  | nil => exact ⟨[], List.nil_prefix, fun _ hx => absurd hx List.not_mem_nil, rfl, rfl⟩
  | cons entry rest ih =>
    rcases loadAll_cons api entry rest active host with
      ⟨err, after, effects, hload, h⟩ | ⟨a, after, effects, hload, h⟩
    · rw [h]
      exact ⟨[], List.nil_prefix, fun _ hx => absurd hx List.not_mem_nil, hload.milestones, rfl⟩
    · have hm : milestones effects = [.loaded entry.language] := hload.milestones
      obtain ⟨loaded, hinitial, hlabels, hrest, hresult⟩ :=
        ih (active.insert entry.language a) after
      rw [h]
      refine ⟨(entry.language, a) :: loaded, ?_, ?_, ?_, hresult⟩
      · rw [List.map_cons, List.map_cons]
        exact List.cons_prefix_cons.2 ⟨rfl, hinitial⟩
      · exact List.forall_mem_cons.2 ⟨hload.holds.label?, hlabels⟩
      · show milestones (effects ++ _) = _
        rw [milestones_append, hm, hrest]
        rfl

/-- Loading the interpreters of a configuration: what is loaded in the end are the languages of the
milestones. -/
theorem loaded_milestones {conf : Configuration} {api : ApiHandle}
    {result : Except LoadError Unit} {active : Catalog String Active} {after : Host}
    {loading : List Effect}
    (h : loadAll api conf.interpreters.values Catalog.empty host =
      ⟨(result, active), after, loading⟩) :
    active.keys <+: conf.interpreters.keys ∧ leaving active = active.keys ∧
      milestones loading = active.keys.map .loaded := by
  obtain ⟨loaded, hinitial, hlabels, hmilestones, hresult⟩ :=
    loadAll_milestones api conf.interpreters.values Catalog.empty host
  rw [conf.interpreters_keyed.map_values] at hinitial
  rw [h] at hmilestones hresult
  -- a configuration lists its entries by ascending language, so each is put in behind the others
  have hascending : EntryList.Ascending loaded :=
    List.pairwise_map.1 (conf.interpreters.keys_pairwise.sublist hinitial.sublist)
  have hentries : active.entries = loaded :=
    (congrArg Catalog.entries hresult).trans (Catalog.entries_ofList hascending)
  have hkeys : active.keys = loaded.map (·.1) := congrArg (List.map Prod.fst) hentries
  refine ⟨hkeys ▸ hinitial, leaving_eq (hentries ▸ hlabels), hmilestones.trans ?_⟩
  rw [hkeys, List.map_map]
  rfl

/-! ## 6. Reading sources -/

/-- The texts of the scripts that are to be kept, in order, up to the first one without a text. -/
def sources (files : FileTree) : List ScriptEntry → List (UInt32 × String)
  | [] => []
  | script :: rest =>
    if script.cached then
      match (readSource files script.path).1 with
      | some text => (script.id, text) :: sources files rest
      | none => []
    else sources files rest

/-- **Reading the sources stores these texts**: each is a milestone, and they are put in one after
the other. -/
theorem fillCache_milestones (files : FileTree) (scripts : List ScriptEntry)
    (cache : Catalog UInt32 String) :
    milestones (fillCache files scripts cache).2 = (sources files scripts).map .ofText ∧
      ∀ cache', (fillCache files scripts cache).1 = .ok cache' →
        cache' = (sources files scripts).foldl (fun c x => c.insert x.1 x.2) cache := by
  induction scripts generalizing cache with
  | nil => exact ⟨rfl, fun _ h => (Except.ok.inj h).symm⟩
  | cons script rest ih =>
    by_cases hc : script.cached = true
    · have hwhy := milestones_readSource files script.path
      simp only [fillCache, sources, if_pos hc]
      rcases hr : readSource files script.path with ⟨_ | text, why⟩
      · rw [hr] at hwhy
        refine ⟨hwhy, fun _ h => ?_⟩
        cases h
      · rw [hr] at hwhy
        obtain ⟨hmilestones, hcache⟩ := ih (cache.insert script.id text)
        refine ⟨?_, hcache⟩
        simp [hwhy, hmilestones, Effect.milestone?, Milestone.ofText]
    · simp only [fillCache, sources, if_neg hc]
      exact ih cache

/-- The texts have the ids of scripts, in the same order. -/
theorem sources_sublist (files : FileTree) (scripts : List ScriptEntry) :
    ((sources files scripts).map (·.1)).Sublist (scripts.map (·.id)) := by
  induction scripts with
  | nil => exact List.Sublist.refl _
  | cons script rest ih =>
    unfold sources
    split
    · split
      · exact ih.cons_cons script.id
      · exact List.nil_sublist _
    · exact ih.cons script.id

/-- When the sources of a configuration are read, the cache lists the texts that were stored. -/
theorem filled_sources {conf : Configuration} {files : FileTree} {cache : Catalog UInt32 String}
    {why : List Effect}
    (h : fillCache files conf.scripts.values Catalog.empty = (.ok cache, why)) :
    cache.entries = sources files conf.scripts.values := by
  have hascending : EntryList.Ascending (sources files conf.scripts.values) := by
    have hsublist := sources_sublist files conf.scripts.values
    rw [conf.scripts_keyed.map_values] at hsublist
    exact List.pairwise_map.1 (conf.scripts.keys_pairwise.sublist hsublist)
  have hcache := (fillCache_milestones files conf.scripts.values Catalog.empty).2 cache
    (congrArg Prod.fst h)
  rw [hcache]
  exact Catalog.entries_ofList hascending

/-! ## 7. Operations -/

/-- The texts that a reset stores which has this result: it comes to the sources once nothing else
is wrong. -/
def storedBy (files : FileTree) (scripts : List ScriptEntry) :
    Except EmbedderError Unit → List (UInt32 × String)
  | .ok () => sources files scripts
  | .error (.cachedSourceUnreadable _ _) => sources files scripts
  | .error _ => []

@[simp] theorem failedWith_languages (e : Embedder) (err : EmbedderError) :
    (e.failedWith err).languages = [] := rfl

/-- **The milestones of a reset**: what was loaded is unloaded, what the configuration asks for is
loaded, and texts are stored. What is given up again when the reset fails is unloaded in the end; the
others are the languages that are loaded then. -/
theorem reset_milestones (e : Embedder) (conf : Configuration) (host : Host) :
    ∃ givenUp, (e.reset conf host).answer.2.languages ++ givenUp <+: conf.interpreters.keys ∧
      milestones (e.reset conf host).effects = (leaving e.active).map .unloaded ++
        (((e.reset conf host).answer.2.languages ++ givenUp).map .loaded ++
          ((storedBy host.files conf.scripts.values (e.reset conf host).answer.1).map .ofText ++
            givenUp.map .unloaded)) := by
  have hunload := milestones_unloadAll e.active
  have hx := reset_resetting e conf host
  generalize e.reset conf host = t at hx ⊢
  cases hx with
  | invalid violation =>
    refine ⟨[], List.nil_prefix, ?_⟩
    simp [hunload, storedBy]
  | @notLoaded api err active after loading valid hapi hload =>
    obtain ⟨hinitial, hleaving, hloading⟩ := loaded_milestones hload
    refine ⟨active.keys, hinitial, ?_⟩
    simp [hunload, milestones_unloadAll active, hleaving, hloading, storedBy]
  | @sourceless api active after loading why script valid hapi hload hfill =>
    obtain ⟨hinitial, hleaving, hloading⟩ := loaded_milestones hload
    obtain ⟨n, hasked⟩ := asked_of_loaded hload
    have hwhy := (fillCache_milestones after.files conf.scripts.values Catalog.empty).1
    rw [hfill, hasked.files] at hwhy
    refine ⟨active.keys, hinitial, ?_⟩
    simp [hunload, milestones_unloadAll active, hleaving, hloading, hwhy, storedBy]
  | @applied api active after loading why cache valid hapi hload hfill =>
    obtain ⟨hinitial, -, hloading⟩ := loaded_milestones hload
    obtain ⟨n, hasked⟩ := asked_of_loaded hload
    have hwhy := (fillCache_milestones after.files conf.scripts.values Catalog.empty).1
    rw [hfill, hasked.files] at hwhy
    have hkeys : (e.working conf active cache).languages = active.keys := rfl
    refine ⟨[], by rwa [List.append_nil], ?_⟩
    simp [hunload, hloading, hwhy, storedBy, hkeys, Effect.milestone?]

@[simp] theorem refuse_milestones (e : Embedder) (host : Host) (err : EmbedderError)
    (before : List Effect) : milestones (e.refuse host err before).effects = milestones before := by
  simp [refuse]

/-- Adding a script is no milestone, not even if its text is stored. -/
theorem addScript_milestones (e : Embedder) (host : Host) (script : ScriptEntry) :
    milestones (e.addScript host script).effects = [] := by
  have hx := addScript_addition e host script
  generalize e.addScript host script = t at hx ⊢
  cases hx with
  | known found alike => simp
  | unserved new unserved => simp
  | missing new served missing => simp
  | sourceless new served present cached read =>
    have hread := milestones_readSource host.files script.path
    rw [read] at hread
    simpa using hread
  | cached new served present cached read => simp [registerScript, Effect.milestone?]
  | uncached new served present uncached => simp [registerScript, Effect.milestone?]

theorem removeScript_milestones (e : Embedder) (host : Host) (id : UInt32) :
    milestones (e.removeScript host id).effects = [] := by
  have hx := removeScript_removal e host id
  generalize e.removeScript host id = t at hx ⊢
  cases hx <;> simp [Effect.milestone?]

/-- The language that is named when the interpreter of the language is replaced, if there is one. -/
def replaced (e : Embedder) (language : String) : List String :=
  ((e.active.get? language).bind Active.label?).toList

theorem Consistent.replaced_eq (h : e.Consistent) (language : String) :
    e.replaced language = if language ∈ e.languages then [language] else [] := by
  unfold replaced
  cases hold : e.active.get? language with
  | none =>
    have hnot : language ∉ e.languages := fun hl => by
      obtain ⟨old, ho⟩ := mem_languages.1 hl
      rw [hold] at ho
      cases ho
    simp [hnot]
  | some old =>
    have hin : language ∈ e.languages := mem_languages.2 ⟨old, hold⟩
    simp [hin, h.label? hold]

/-- **The milestones of an added interpreter**: it is loaded, then the one that it replaces is
unloaded. In every other case there is none, and the languages are the same as before. -/
theorem addInterpreter_milestones (e : Embedder) (host : Host) (entry : InterpreterEntry) :
    (milestones (e.addInterpreter host entry).effects = [] ∧
      (e.addInterpreter host entry).answer.2 = e) ∨
    (milestones (e.addInterpreter host entry).effects = .loaded entry.language ::
        (e.replaced entry.language).map .unloaded ∧
      (e.addInterpreter host entry).answer.1 = .ok () ∧
      ∀ l, l ∈ (e.addInterpreter host entry).answer.2.languages ↔
        l = entry.language ∨ l ∈ e.languages) := by
  have hx := addInterpreter_addition e host entry
  generalize e.addInterpreter host entry = t at hx ⊢
  cases hx with
  | known found alike => exact .inl ⟨by simp, rfl⟩
  | notLoadable new notLoadable => exact .inl ⟨by simp, rfl⟩
  | missingApi new loadable missing => exact .inl ⟨by simp, rfl⟩
  | notLoaded new loadable hapi hload =>
    have hm := hload.milestones
    exact .inl ⟨by simpa using hm, rfl⟩
  | @added api a after loading new loadable hapi hload =>
    have hm : milestones loading = [.loaded entry.language] := hload.milestones
    have hunload : milestones (unloadReplaced (e.active.get? entry.language)) =
        (e.replaced entry.language).map .unloaded := by
      unfold unloadReplaced replaced
      cases e.active.get? entry.language with
      | none => rfl
      | some old => exact old.milestones_unload
    refine .inr ⟨by simp [hm, hunload, Effect.milestone?], rfl, fun l => ?_⟩
    rw [mem_languages, mem_languages, withEntry_active]
    by_cases hl : l = entry.language
    · simp [hl]
    · simp [hl]

theorem execute_milestones (e : Embedder) (host : Host) (id : UInt32) (params : List String) :
    milestones (e.execute host id params).effects = [] := by
  have hx := execute_execution e host id params
  generalize e.execute host id params = t at hx ⊢
  cases hx with
  | unknown unknown => simp [Effect.milestone?]
  | @sourceless script why found source =>
    have hwhy := milestones_sourceOf e host.files script
    rw [source] at hwhy
    simpa [Effect.milestone?] using hwhy
  | @unserved script text why found source unserved =>
    have hwhy := milestones_sourceOf e host.files script
    rw [source] at hwhy
    simpa [Effect.milestone?] using hwhy
  | @ran script text a found source served =>
    simp [handing, Effect.milestone?, Interpreter.milestones_run]

end Embedder

end ScriptHost
