import ScriptHost.Proofs.Embedder.Consistency

/-!
# Resetting over a registry

Over a registry the outcome of a reset depends on the configuration, the files and the registry
alone; the embedder that is reset does not matter.

* `Registry.Serves` and `InterpreterEntry.fault?`: whether the module of an entry is loaded, and why
  not. `ScriptEntry.Readable`: whether a script that is to be kept has a text.
* `FirstFailure`: the first thing that is wrong -- with the configuration as such, then with the
  interpreters by ascending language, then with the scripts by ascending id -- and how many modules
  were opened until then.
* `Renewal`: what a reset comes to. There is always one (`renewal_total`), and it is what the reset
  of any embedder comes to (`Renewal.reset`).
* **`reset_renews`**: a reset succeeds exactly if nothing is wrong; else it answers with the first
  failure. Either way it ends like the construction of a new embedder.
-/

namespace ScriptHost

/-! ## 1. Entries of a registry -/

/-- The host with these files and this registry. -/
def Host.having (host : Host) (files : FileTree) (r : Registry) : Host :=
  { host with files, backend := r.backend }

/-- The module of the entry has the host's interface and declares the entry's language. -/
def Registry.Serves (r : Registry) (entry : InterpreterEntry) : Prop :=
  ∃ plugin, r.find? entry.module = some (.plugin plugin) ∧ plugin.language = entry.language

/-- Why the module of the entry is not loaded, if it is not. -/
def InterpreterEntry.fault? (entry : InterpreterEntry) (r : Registry) : Option LoadError :=
  match r.opening entry.module with
  | .error (.cannotOpen reason) => some (.cannotOpen entry.language entry.module reason)
  | .error (.noInterface _) => some (.noInterface entry.module)
  | .ok found =>
    if found.plugin.language = entry.language then none
    else some (.otherLanguage entry.module entry.language found.plugin.language)

theorem InterpreterEntry.fault?_eq_none {entry : InterpreterEntry} {r : Registry} :
    entry.fault? r = none ↔ r.Serves entry := by
  unfold fault? Registry.opening Registry.Serves
  cases r.find? entry.module with
  | none => simp
  | some what =>
    cases what with
    | foreign => simp
    | plugin plugin => simp

theorem Registry.opening_of_answers {r : Registry} {path : Path}
    {answer : Except OpenError FoundModule} (h : r.backend.Answers path answer) :
    r.opening path = answer := by
  obtain ⟨scene, h⟩ := h
  exact h

variable {r : Registry} {entry : InterpreterEntry} {host : Host}

/-- What is opened for an entry is served; what is not has the fault that is answered. -/
theorem Loader.Opening.fault? {t : Turn (Except LoadError Instance)}
    (h : Loader.Opening entry host t) (hr : host.backend = r.backend) :
    entry.fault? r = match t.answer with
      | .error err => some err
      | .ok _ => none := by
  unfold InterpreterEntry.fault?
  cases h with
  | unopened asked answer => rw [Registry.opening_of_answers (hr ▸ answer)]
  | foreign asked answer => rw [Registry.opening_of_answers (hr ▸ answer)]
  | otherLanguage asked answer other =>
    rw [Registry.opening_of_answers (hr ▸ answer)]
    exact if_neg other
  | opened asked answer declared =>
    rw [Registry.opening_of_answers (hr ▸ answer)]
    exact if_pos declared

theorem Active.Loading.fault? {api : ApiHandle} {t : Turn (Except LoadError Active)}
    (h : Active.Loading entry api host t) (hr : host.backend = r.backend) :
    entry.fault? r = match t.answer with
      | .error err => some err
      | .ok _ => none := by
  cases h with
  | refused opening => exact opening.fault? hr
  | loaded opening => exact opening.fault? hr

/-- The script need not be kept in memory, or its file has a text. -/
def ScriptEntry.Readable (s : ScriptEntry) (files : FileTree) : Prop :=
  s.cached = true → ∃ text, files.Source s.path text

/-- Either all elements have a property, or there is a first one that has not. -/
theorem all_or_first {α : Type} (P : α → Prop) : ∀ l : List α,
    (∀ x ∈ l, P x) ∨
      ∃ before x later, l = before ++ x :: later ∧ (∀ y ∈ before, P y) ∧ ¬ P x
  | [] => .inl fun _ h => absurd h List.not_mem_nil
  | x :: rest => by
    by_cases hx : P x
    · rcases all_or_first P rest with h | ⟨before, y, later, rfl, hb, hy⟩
      · exact .inl (List.forall_mem_cons.2 ⟨hx, h⟩)
      · exact .inr ⟨x :: before, y, later, rfl, List.forall_mem_cons.2 ⟨hx, hb⟩, hy⟩
    · exact .inr ⟨[], x, rest, rfl, fun _ h => absurd h List.not_mem_nil, hx⟩

namespace Embedder

/-! ## 2. The two loops over a registry -/

/-- An entry that is served does not end the loading. -/
theorem loadAll_cons_served (api : ApiHandle) (h : r.Serves entry) (rest : List InterpreterEntry)
    (active : Catalog String Active) (hr : host.backend = r.backend) :
    ∃ active' after effects, host.Asked 1 after ∧
      loadAll api (entry :: rest) active host = (loadAll api rest active' after).after effects := by
  have hfault := InterpreterEntry.fault?_eq_none.2 h
  rcases loadAll_cons api entry rest active host with
    ⟨err, after, effects, hload, _⟩ | ⟨a, after, effects, hload, he⟩
  · cases hfault.symm.trans (hload.fault? hr)
  · exact ⟨_, after, effects, hload.asked, he⟩

theorem loadAll_served (api : ApiHandle) : ∀ (entries : List InterpreterEntry)
    (active : Catalog String Active) (host : Host), host.backend = r.backend →
      (∀ entry ∈ entries, r.Serves entry) →
      ∃ active' after effects,
        loadAll api entries active host = ⟨(.ok (), active'), after, effects⟩ ∧
        host.Asked entries.length after
  | [], active, host, _, _ => ⟨active, host, [], rfl, Host.Asked.refl host⟩
  | entry :: rest, active, host, hr, h => by
    obtain ⟨hentry, hrest⟩ := List.forall_mem_cons.1 h
    obtain ⟨active₁, after₁, effects₁, hasked₁, hcons⟩ :=
      loadAll_cons_served api hentry rest active hr
    obtain ⟨active₂, after₂, effects₂, hload, hasked₂⟩ :=
      loadAll_served api rest active₁ after₁ (hasked₁.backend.trans hr) hrest
    have hasked := hasked₁.trans hasked₂
    rw [Nat.add_comm] at hasked
    rw [hcons, hload]
    exact ⟨active₂, after₂, effects₁ ++ effects₂, rfl, hasked⟩

/-- Loading ends with the first entry that is not served; those behind it are not opened. -/
theorem loadAll_fault (api : ApiHandle) (later : List InterpreterEntry) {err : LoadError}
    (hfault : entry.fault? r = some err) : ∀ (before : List InterpreterEntry)
    (active : Catalog String Active) (host : Host), host.backend = r.backend →
      (∀ other ∈ before, r.Serves other) →
      ∃ active' after effects,
        loadAll api (before ++ entry :: later) active host =
          ⟨(.error err, active'), after, effects⟩ ∧
        host.Asked (before.length + 1) after
  | [], active, host, hr, _ => by
    rcases loadAll_cons api entry later active host with
      ⟨err', after, effects, hload, he⟩ | ⟨a, after, effects, hload, _⟩
    · cases hfault.symm.trans (hload.fault? hr)
      exact ⟨active, after, effects, he, hload.asked⟩
    · cases hfault.symm.trans (hload.fault? hr)
  | other :: before, active, host, hr, h => by
    obtain ⟨hother, hbefore⟩ := List.forall_mem_cons.1 h
    obtain ⟨active₁, after₁, effects₁, hasked₁, hcons⟩ :=
      loadAll_cons_served api hother (before ++ entry :: later) active hr
    obtain ⟨active₂, after₂, effects₂, hload, hasked₂⟩ :=
      loadAll_fault api later hfault before active₁ after₁ (hasked₁.backend.trans hr) hbefore
    have hasked := hasked₁.trans hasked₂
    rw [Nat.add_comm] at hasked
    rw [List.cons_append, hcons, hload]
    exact ⟨active₂, after₂, effects₁ ++ effects₂, rfl, hasked⟩

/-- A readable script does not end the reading. -/
theorem fillCache_cons {files : FileTree} {s : ScriptEntry} (hs : s.Readable files)
    (cache : Catalog UInt32 String) :
    ∃ cache' why, ∀ rest, fillCache files (s :: rest) cache =
      ((fillCache files rest cache').1, why ++ (fillCache files rest cache').2) := by
  by_cases hc : s.cached = true
  · obtain ⟨text, ht⟩ := hs hc
    rcases hr : readSource files s.path with ⟨source, why⟩
    have he : source = some text := (congrArg Prod.fst hr).symm.trans (readSource_eq_some.2 ht)
    subst he
    refine ⟨cache.insert s.id text,
      why ++ [.traced (.scriptCached s.id text.utf8ByteSize)], fun rest => ?_⟩
    simp only [fillCache, if_pos hc, hr, List.append_assoc, List.singleton_append]
  · refine ⟨cache, [], fun rest => ?_⟩
    simp only [fillCache, if_neg hc, List.nil_append]

theorem fillCache_readable {files : FileTree} : ∀ (scripts : List ScriptEntry)
    (cache : Catalog UInt32 String), (∀ s ∈ scripts, s.Readable files) →
      ∃ cache' why, fillCache files scripts cache = (.ok cache', why)
  | [], cache, _ => ⟨cache, [], rfl⟩
  | s :: rest, cache, h => by
    obtain ⟨hs, hrest⟩ := List.forall_mem_cons.1 h
    obtain ⟨cache₁, why₁, hcons⟩ := fillCache_cons hs cache
    obtain ⟨cache₂, why₂, hfill⟩ := fillCache_readable rest cache₁ hrest
    rw [hcons, hfill]
    exact ⟨cache₂, why₁ ++ why₂, rfl⟩

/-- Reading ends with the first script that has no text. -/
theorem fillCache_sourceless {files : FileTree} {script : ScriptEntry} (later : List ScriptEntry)
    (hc : script.cached = true) (hn : files.Sourceless script.path) :
    ∀ (before : List ScriptEntry) (cache : Catalog UInt32 String),
      (∀ s ∈ before, s.Readable files) →
      ∃ why, fillCache files (before ++ script :: later) cache = (.error script, why)
  | [], cache, _ => by
    rcases hr : readSource files script.path with ⟨source, why⟩
    have he : source = none := (congrArg Prod.fst hr).symm.trans (readSource_eq_none.2 hn)
    subst he
    simp only [List.nil_append, fillCache, if_pos hc, hr]
    exact ⟨why, rfl⟩
  | s :: before, cache, h => by
    obtain ⟨hs, hbefore⟩ := List.forall_mem_cons.1 h
    obtain ⟨cache₁, why₁, hcons⟩ := fillCache_cons hs cache
    obtain ⟨why₂, hfill⟩ := fillCache_sourceless later hc hn before cache₁ hbefore
    rw [List.cons_append, hcons, hfill]
    exact ⟨why₁ ++ why₂, rfl⟩

/-! ## 3. What a reset comes to -/

/-- The first thing that is wrong, and how many modules are opened until it is found. -/
inductive FirstFailure (conf : Configuration) (r : Registry) (files : FileTree) :
    EmbedderError → Nat → Prop where
  /-- The configuration breaks a rule. -/
  | invalid {v : Violation} (violation : conf.violation? files = some v) :
      FirstFailure conf r files (.invalidConfiguration v) 0
  /-- Of the interpreters, by ascending language, this is the first that is not served. -/
  | notLoaded {before later : List InterpreterEntry} {entry : InterpreterEntry} {err : LoadError}
      (valid : conf.violation? files = none)
      (entries : conf.interpreters.values = before ++ entry :: later)
      (served : ∀ other ∈ before, r.Serves other) (fault : entry.fault? r = some err) :
      FirstFailure conf r files (.interpreterNotLoaded err) (before.length + 1)
  /-- Of the scripts, by ascending id, this is the first that is to be kept and has no text. -/
  | sourceless {before later : List ScriptEntry} {script : ScriptEntry}
      (valid : conf.violation? files = none)
      (served : ∀ entry ∈ conf.interpreters.values, r.Serves entry)
      (entries : conf.scripts.values = before ++ script :: later)
      (readable : ∀ other ∈ before, other.Readable files) (cached : script.cached = true)
      (sourceless : files.Sourceless script.path) :
      FirstFailure conf r files (.cachedSourceUnreadable script.id script.path)
        conf.interpreters.values.length

/-- What a caller can see of an embedder's configuration. -/
structure View where
  configuration : Configuration
  cache : Catalog UInt32 String
  languages : List String
  isValid : Bool
  errorText : String

def view (e : Embedder) : View :=
  ⟨e.configuration, e.cache, e.languages, e.isValid, e.errorText⟩

/-- The view of an embedder whose configuration was not applied. -/
def View.failed (err : EmbedderError) : View :=
  ⟨Configuration.empty, Catalog.empty, [], false, err.message⟩

/-- What a reset comes to: its result, how many modules it opens, and what can be seen then. -/
inductive Renewal (conf : Configuration) (r : Registry) (files : FileTree) :
    Except EmbedderError Unit → Nat → View → Prop where
  | failed {err : EmbedderError} {n : Nat} (first : FirstFailure conf r files err n) :
      Renewal conf r files (.error err) n (View.failed err)
  | applied {cache : Catalog UInt32 String} {why : List Effect}
      (valid : conf.violation? files = none)
      (served : ∀ entry ∈ conf.interpreters.values, r.Serves entry)
      (readable : ∀ s ∈ conf.scripts.values, s.Readable files)
      (filled : fillCache files conf.scripts.values Catalog.empty = (.ok cache, why)) :
      Renewal conf r files (.ok ()) conf.interpreters.values.length
        ⟨conf, cache, conf.interpreters.keys, true, ""⟩

variable {conf : Configuration} {files : FileTree}

/-- **There is always something that a reset comes to.** -/
theorem renewal_total (conf : Configuration) (r : Registry) (files : FileTree) :
    ∃ result n view, Renewal conf r files result n view := by
  cases hv : conf.violation? files with
  | some v => exact ⟨_, _, _, .failed (.invalid hv)⟩
  | none =>
    rcases all_or_first r.Serves conf.interpreters.values with
      hserved | ⟨before, entry, later, hentries, hbefore, hn⟩
    · rcases all_or_first (·.Readable files) conf.scripts.values with
        hreadable | ⟨before, script, later, hentries, hbefore, hn⟩
      · obtain ⟨cache, why, hfill⟩ := fillCache_readable conf.scripts.values Catalog.empty hreadable
        exact ⟨_, _, _, .applied hv hserved hreadable hfill⟩
      · obtain ⟨hc, hsource⟩ := Classical.not_imp.1 hn
        have hsourceless := FileTree.sourceless_iff.2 fun text ht => hsource ⟨text, ht⟩
        exact ⟨_, _, _, .failed (.sourceless hv hserved hentries hbefore hc hsourceless)⟩
    · cases hfault : entry.fault? r with
      | none => exact absurd (InterpreterEntry.fault?_eq_none.1 hfault) hn
      | some err => exact ⟨_, _, _, .failed (.notLoaded hv hentries hbefore hfault)⟩

/-- What the reset of any embedder comes to. -/
theorem FirstFailure.reset {err : EmbedderError} {n : Nat} (h : FirstFailure conf r files err n)
    (e : Embedder) (host : Host) :
    (e.reset conf (host.having files r)).answer = (.error err, e.failedWith err) ∧
      (e.reset conf (host.having files r)).host.asked = host.asked + n := by
  cases h with
  | invalid violation =>
    have hv : conf.violation? (host.having files r).files = some _ := violation
    simp only [Embedder.reset, apply, hv]
    exact ⟨rfl, rfl⟩
  | notLoaded valid entries served fault =>
    have hv : conf.violation? (host.having files r).files = none := valid
    obtain ⟨api, hapi⟩ := Configuration.api_of_valid valid
    obtain ⟨active, after, effects, hload, hasked⟩ :=
      loadAll_fault api _ fault _ Catalog.empty (host.having files r) rfl served
    rw [← entries] at hload
    simp only [Embedder.reset, apply, hv, hapi, hload]
    exact ⟨rfl, hasked.asked⟩
  | sourceless valid served entries readable cached sourceless =>
    have hv : conf.violation? (host.having files r).files = none := valid
    obtain ⟨api, hapi⟩ := Configuration.api_of_valid valid
    obtain ⟨active, after, effects, hload, hasked⟩ :=
      loadAll_served api _ Catalog.empty (host.having files r) rfl served
    have hfiles : after.files = files := hasked.files
    obtain ⟨why, hfill⟩ := fillCache_sourceless _ cached sourceless _ Catalog.empty readable
    rw [← entries, ← hfiles] at hfill
    simp only [Embedder.reset, apply, hv, hapi, hload, hfill]
    exact ⟨rfl, hasked.asked⟩

/-- **A renewal is what the reset of any embedder comes to.** -/
theorem Renewal.reset {result : Except EmbedderError Unit} {n : Nat} {view : View}
    (h : Renewal conf r files result n view) (e : Embedder) (host : Host) :
    (e.reset conf (host.having files r)).answer.1 = result ∧
      (e.reset conf (host.having files r)).host.asked = host.asked + n ∧
      (e.reset conf (host.having files r)).answer.2.view = view := by
  cases h with
  | failed first =>
    obtain ⟨hanswer, hasked⟩ := first.reset e host
    rw [hanswer]
    exact ⟨rfl, hasked, rfl⟩
  | @applied cache why valid served readable filled =>
    have hv : conf.violation? (host.having files r).files = none := valid
    obtain ⟨api, hapi⟩ := Configuration.api_of_valid valid
    obtain ⟨active, after, effects, hload, hasked⟩ :=
      loadAll_served api _ Catalog.empty (host.having files r) rfl served
    obtain ⟨hheld, hother⟩ := held_of_loaded hload
    have hlanguages := working_languages e cache hheld hother
    have hfiles : after.files = files := hasked.files
    rw [← hfiles] at filled
    obtain ⟨told, hreset⟩ : ∃ told, e.reset conf (host.having files r) =
        ⟨(.ok (), e.working conf active cache), after, told⟩ := by
      simp only [Embedder.reset, apply, hv, hapi, hload, filled]
      exact ⟨_, rfl⟩
    rw [hreset]
    refine ⟨rfl, hasked.asked, ?_⟩
    show View.mk conf cache (e.working conf active cache).languages true "" = _
    rw [hlanguages]

/-- The result of the last reset, as the embedder keeps it. -/
def lastResult (e : Embedder) : Except EmbedderError Unit :=
  match e.lastError with
  | some err => .error err
  | none => .ok ()

theorem reset_lastResult (e : Embedder) (conf : Configuration) (host : Host) :
    (e.reset conf host).answer.2.lastResult = (e.reset conf host).answer.1 := by
  have hx := reset_resetting e conf host
  generalize e.reset conf host = t at hx ⊢
  cases hx <;> rfl

/-- **Over a registry** a reset succeeds exactly if the configuration is valid, each entry is served
and each script to be kept has a text. Else it answers with the first failure, and no more modules
are opened than until that; first is what comes first by language, then by id. Result and view are
those of a new embedder with the configuration. -/
theorem reset_renews (r : Registry) (files : FileTree) (conf : Configuration) (e : Embedder)
    (host : Host) :
    let t := e.reset conf (host.having files r)
    (t.answer.1 = .ok () ↔ conf.violation? files = none ∧
      (∀ entry ∈ conf.interpreters.values, r.Serves entry) ∧
      ∀ s ∈ conf.scripts.values, s.Readable files) ∧
    (∀ err n, (t.answer.1 = .error err ∧ t.host.asked = host.asked + n) ↔
      FirstFailure conf r files err n) ∧
    (conf.interpreters.values.Pairwise fun a b => compare a.language b.language = .lt) ∧
    (conf.scripts.values.Pairwise fun a b => compare a.id b.id = .lt) ∧
    ∀ (observer : Option Observer) (host' : Host),
      let new := (Embedder.new conf observer (host'.having files r)).answer
      t.answer.1 = new.lastResult ∧ t.answer.2.view = new.view := by
  intro t
  obtain ⟨result, n, view, h⟩ := renewal_total conf r files
  obtain ⟨hresult, hasked, hview⟩ := h.reset e host
  refine ⟨?_, fun err m => ⟨fun ⟨herr, hm⟩ => ?_, fun hfirst => ?_⟩,
    conf.interpreters_keyed.values_pairwise, conf.scripts_keyed.values_pairwise,
    fun observer host' => ?_⟩
  · rw [show t.answer.1 = result from hresult]
    constructor
    · rintro rfl
      cases h with
      | applied valid served readable filled => exact ⟨valid, served, readable⟩
    · rintro ⟨valid, served, readable⟩
      cases h with
      | applied valid served readable filled => rfl
      | failed first =>
        cases first with
        | invalid violation => cases valid.symm.trans violation
        | @notLoaded before later entry err _ entries _ fault =>
          have hs := served entry (entries ▸ List.mem_append_right _ List.mem_cons_self)
          cases (InterpreterEntry.fault?_eq_none.2 hs).symm.trans fault
        | @sourceless before later script _ _ entries _ cached sourceless =>
          have hs := readable script (entries ▸ List.mem_append_right _ List.mem_cons_self)
          obtain ⟨text, ht⟩ := hs cached
          exact absurd ht (FileTree.sourceless_iff.1 sourceless text)
  · cases herr.symm.trans hresult
    cases h with
    | failed first =>
      have hn : m = n := Nat.add_left_cancel (hm.symm.trans hasked)
      exact hn ▸ first
  · obtain ⟨hanswer, hm⟩ := hfirst.reset e host
    exact ⟨congrArg Prod.fst hanswer, hm⟩
  · obtain ⟨hresult', -, hview'⟩ := h.reset { observer } host'
    exact ⟨hresult.trans (hresult'.symm.trans (reset_lastResult _ _ _).symm),
      hview.trans hview'.symm⟩

end Embedder

end ScriptHost
