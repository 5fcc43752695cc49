import ScriptHost.Embedder.Basic
import ScriptHost.Proofs.Catalog
import ScriptHost.Proofs.Module.Opening

/-!
# Applying a configuration

The two loops of a reset: loading the interpreters one after the other, and reading the sources that
are to be kept in memory.

* `Active.Holds`: what is loaded for an entry -- its loader keeps the instance that made the
  interpreter, and the module declared the entry's language.
* `Embedder.holds_of_loadAll`: **when all interpreters are loaded, each language has one that holds
  its entry**, and no other language has any.
* `FileTree.Source`: the text of a script file. `Embedder.source_of_fillCache`: when all sources are
  read, each script that is to be kept has its text in the cache, and no other script has one.
* `Embedder.held_of_loaded`, `Embedder.sources_of_filled`: the same for what a configuration
  registers.
-/

namespace ScriptHost

/-! ## 1. What is loaded for an entry -/

/-- What is loaded holds the entry. -/
structure Active.Holds (a : Active) (entry : InterpreterEntry) : Prop where
  entry_eq : a.loader.entry = entry
  kept : a.loader.kept = some a.interpreter.source
  declared : a.interpreter.source.plugin.language = entry.language

theorem Active.fresh_holds {entry : InterpreterEntry} {i : Instance} (api : ApiHandle)
    (h : i.plugin.language = entry.language) : (Active.fresh entry i api).Holds entry where
  entry_eq := rfl
  kept := congrArg some (Interpreter.fresh_source i api).symm
  declared := by
    rw [← h]
    exact congrArg (·.plugin.language) (Interpreter.fresh_source i api)

theorem Active.Loading.holds {entry : InterpreterEntry} {api : ApiHandle} {host after : Host}
    {a : Active} {effects : List Effect}
    (h : Active.Loading entry api host ⟨.ok a, after, effects⟩) : a.Holds entry := by
  cases h with
  | loaded opening =>
    cases opening with
    | opened asked answer declared => exact Active.fresh_holds api declared

namespace Embedder

/-! ## 2. Loading all interpreters -/

/-- The exits of loading one more interpreter. -/
theorem loadAll_cons (api : ApiHandle) (entry : InterpreterEntry)
    (rest : List InterpreterEntry) (active : Catalog String Active) (host : Host) :
    (∃ err after effects, Active.Loading entry api host ⟨.error err, after, effects⟩ ∧
      loadAll api (entry :: rest) active host = ⟨(.error err, active), after, effects⟩) ∨
    (∃ a after effects, Active.Loading entry api host ⟨.ok a, after, effects⟩ ∧
      loadAll api (entry :: rest) active host =
        (loadAll api rest (active.insert entry.language a) after).after effects) := by
  have h := Active.load_loading entry api (Active.held active.values) host
  simp only [loadAll]
  rcases hl : Active.load entry api (Active.held active.values) host with
    ⟨err | a, after, effects⟩
  · rw [hl] at h
    exact .inl ⟨err, after, effects, h, rfl⟩
  · rw [hl] at h
    exact .inr ⟨a, after, effects, h, rfl⟩

/-- Loading interpreters asks the backend at most once for each, and changes nothing else. -/
theorem loadAll_asked (api : ApiHandle) : ∀ (entries : List InterpreterEntry)
    (active : Catalog String Active) (host : Host),
      ∃ n ≤ entries.length, host.Asked n (loadAll api entries active host).host
  | [], _, host => ⟨0, Nat.le_refl 0, Host.Asked.refl host⟩
  | entry :: rest, active, host => by
    rcases loadAll_cons api entry rest active host with
      ⟨err, after, effects, hload, h⟩ | ⟨a, after, effects, hload, h⟩
    · rw [h]
      exact ⟨1, Nat.le_add_left 1 _, hload.asked⟩
    · rw [h]
      obtain ⟨n, hn, ha⟩ := loadAll_asked api rest (active.insert entry.language a) after
      exact ⟨1 + n, by rw [List.length_cons]; omega, hload.asked.trans ha⟩

/-- **When all interpreters are loaded, each entry is held under its language**, and what stands
under the other languages is what stood there before. -/
theorem holds_of_loadAll {api : ApiHandle} : ∀ {entries : List InterpreterEntry}
    {active active' : Catalog String Active} {host : Host}, (entries.map (·.language)).Nodup →
      (loadAll api entries active host).answer = (.ok (), active') →
      (∀ entry ∈ entries, ∃ a, active'.get? entry.language = some a ∧ a.Holds entry) ∧
        ∀ l, l ∉ entries.map (·.language) → active'.get? l = active.get? l
  | [], _, _, _, _, h => by
    cases h
    exact ⟨fun _ he => absurd he List.not_mem_nil, fun _ _ => rfl⟩
  | entry :: rest, active, active', host, hn, h => by
    have hn := List.nodup_cons.1 hn
    rcases loadAll_cons api entry rest active host with
      ⟨err, after, effects, hload, he⟩ | ⟨a, after, effects, hload, he⟩
    · rw [he] at h
      cases h
    · rw [he] at h
      obtain ⟨hheld, hother⟩ := holds_of_loadAll hn.2 h
      refine ⟨fun entry' hm => ?_, fun l hl => ?_⟩
      · rcases List.mem_cons.1 hm with rfl | hm
        · refine ⟨a, ?_, hload.holds⟩
          rw [hother _ hn.1, Catalog.get?_insert_self]
        · exact hheld entry' hm
      · rw [List.map_cons, List.mem_cons, not_or] at hl
        rw [hother l hl.2, Catalog.get?_insert_ne _ _ hl.1]

end Embedder

/-! ## 3. Sources -/

/-- The file at the path reads as this text, which is not empty. -/
def FileTree.Source (files : FileTree) (path : Path) (text : String) : Prop :=
  files.readText path = .ok text ∧ text ≠ ""

/-- The file at the path is missing, is not a text, or is empty. -/
def FileTree.Sourceless (files : FileTree) (path : Path) : Prop :=
  (∃ err, files.readText path = .error err) ∨ files.readText path = .ok ""

theorem FileTree.sourceless_iff {files : FileTree} {path : Path} :
    files.Sourceless path ↔ ∀ text, ¬ files.Source path text := by
  unfold Sourceless Source
  cases files.readText path with
  | error err => simp
  | ok found => simp

namespace Embedder

theorem readSource_eq_some {files : FileTree} {path : Path} {text : String} :
    (readSource files path).1 = some text ↔ files.Source path text := by
  unfold readSource FileTree.Source
  cases files.readText path with
  | error err => simp
  | ok found =>
    by_cases he : found = ""
    · subst he
      simp
    · have hf : found.isEmpty = false := Bool.eq_false_iff.2 fun h => he (String.isEmpty_iff.1 h)
      simp only [hf, Bool.false_eq_true, if_false, Option.some.injEq, Except.ok.injEq]
      exact ⟨fun h => ⟨h, h ▸ he⟩, fun h => h.1⟩

theorem readSource_eq_none {files : FileTree} {path : Path} :
    (readSource files path).1 = none ↔ files.Sourceless path := by
  rw [Option.eq_none_iff_forall_ne_some, FileTree.sourceless_iff]
  exact forall_congr' fun text => not_congr readSource_eq_some

/-- **When all sources are read, the cache has the text of each script that is to be kept**; under
all other ids it has what it had before. -/
theorem source_of_fillCache {files : FileTree} : ∀ {scripts : List ScriptEntry}
    {cache cache' : Catalog UInt32 String} {why : List Effect}, (scripts.map (·.id)).Nodup →
      fillCache files scripts cache = (.ok cache', why) →
      (∀ s ∈ scripts, s.cached = true →
        ∃ text, files.Source s.path text ∧ cache'.get? s.id = some text) ∧
      ∀ id, (∀ s ∈ scripts, s.id = id → s.cached = false) → cache'.get? id = cache.get? id
  | [], _, _, _, _, h => by
    cases h
    exact ⟨fun _ hs => absurd hs List.not_mem_nil, fun _ _ => rfl⟩
  | script :: rest, cache, cache', why, hn, h => by
    have hn := List.nodup_cons.1 hn
    unfold fillCache at h
    by_cases hc : script.cached = true
    · rw [if_pos hc] at h
      rcases hr : readSource files script.path with ⟨_ | source, why'⟩
      · rw [hr] at h
        cases h
      · rw [hr] at h
        simp only [Prod.mk.injEq] at h
        obtain ⟨hread, hother⟩ := source_of_fillCache hn.2 (Prod.ext h.1 rfl)
        have hsource : files.Source script.path source :=
          readSource_eq_some.1 (by rw [hr])
        have hself : ∀ s ∈ rest, s.id = script.id → s.cached = false := fun s hs he =>
          absurd (List.mem_map.2 ⟨s, hs, he⟩) hn.1
        refine ⟨fun s hs hcs => ?_, fun id hid => ?_⟩
        · rcases List.mem_cons.1 hs with rfl | hs
          · refine ⟨source, hsource, ?_⟩
            rw [hother _ hself, Catalog.get?_insert_self]
          · exact hread s hs hcs
        · have hne : id ≠ script.id := by
            intro he
            have := hid script List.mem_cons_self he.symm
            rw [hc] at this
            cases this
          rw [hother id fun s hs => hid s (List.mem_cons_of_mem _ hs),
            Catalog.get?_insert_ne _ _ hne]
    · rw [if_neg hc] at h
      obtain ⟨hread, hother⟩ := source_of_fillCache hn.2 h
      refine ⟨fun s hs hcs => ?_, fun id hid => ?_⟩
      · rcases List.mem_cons.1 hs with rfl | hs
        · exact absurd hcs hc
        · exact hread s hs hcs
      · exact hother id fun s hs => hid s (List.mem_cons_of_mem _ hs)

/-! ## 4. A whole configuration -/

variable {conf : Configuration}

/-- Loading the interpreters of a configuration changes nothing of the host but what openings do. -/
theorem asked_of_loaded {api : ApiHandle} {answer : Except LoadError Unit × Catalog String Active}
    {host after : Host} {effects : List Effect}
    (h : loadAll api conf.interpreters.values Catalog.empty host = ⟨answer, after, effects⟩) :
    ∃ n, host.Asked n after := by
  obtain ⟨n, -, hasked⟩ := loadAll_asked api conf.interpreters.values Catalog.empty host
  rw [h] at hasked
  exact ⟨n, hasked⟩

/-- When the interpreters of a configuration are loaded, each registered entry is held under its
language, and nothing else is. -/
theorem held_of_loaded {api : ApiHandle} {active : Catalog String Active} {host after : Host}
    {effects : List Effect}
    (h : loadAll api conf.interpreters.values Catalog.empty host =
      ⟨(.ok (), active), after, effects⟩) :
    (∀ l entry, conf.interpreter? l = some entry →
      ∃ a, active.get? l = some a ∧ a.Holds entry) ∧
    ∀ l, conf.interpreter? l = none → active.get? l = none := by
  obtain ⟨hheld, hother⟩ := holds_of_loadAll
    (by rw [conf.interpreters_keyed.map_values]; exact conf.interpreters.keys_nodup)
    (congrArg Turn.answer h)
  refine ⟨fun l entry he => ?_, fun l hl => hother l fun hm => ?_⟩
  · have ha := hheld entry (Catalog.mem_values.2 ⟨l, he⟩)
    rwa [conf.interpreters_keyed.key_eq he] at ha
  · rw [conf.interpreters_keyed.map_values] at hm
    obtain ⟨entry, he⟩ := Catalog.mem_keys.1 hm
    cases he.symm.trans hl

/-- When the sources of a configuration are read, the cache has the text of each registered script
that is to be kept, and no other. -/
theorem sources_of_filled {files : FileTree} {cache : Catalog UInt32 String} {why : List Effect}
    (h : fillCache files conf.scripts.values Catalog.empty = (.ok cache, why)) :
    (∀ id s, conf.script? id = some s → s.cached = true →
      ∃ text, files.Source s.path text ∧ cache.get? id = some text) ∧
    ∀ id, (∀ s, conf.script? id = some s → s.cached = false) → cache.get? id = none := by
  obtain ⟨hkept, hrest⟩ := source_of_fillCache
    (by rw [conf.scripts_keyed.map_values]; exact conf.scripts.keys_nodup) h
  refine ⟨fun id s hs hc => ?_, fun id hid => hrest id fun s hs he => ?_⟩
  · have hk := hkept s (Catalog.mem_values.2 ⟨id, hs⟩) hc
    rwa [conf.scripts_keyed.key_eq hs] at hk
  · have hk := conf.scripts_keyed.get?_key hs
    rw [he] at hk
    exact hid s hk

end Embedder

end ScriptHost
