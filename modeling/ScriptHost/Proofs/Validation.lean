import ScriptHost.Configuration.Validation
import ScriptHost.Proofs.Catalog

/-!
# What a valid configuration has

Of the rules of a configuration all but one say nothing about the files.

* `Configuration.interpreter?_addInterpreter` and the like: what the operations do to a look-up.
* `Configuration.Coherent`: the rules that hold or do not hold whatever the files are.
* `Configuration.ext_lookups`: a configuration is determined by its handle and its look-ups.
* `Configuration.violation?_eq_none`: **a configuration is valid exactly if it is coherent and each
  of its scripts has a file**; a coherent one breaks no rule but the one about files
  (`Configuration.Coherent.missing`).
-/

namespace ScriptHost.Configuration

variable {conf : Configuration} {files : FileTree}

/-! ## 1. Look-ups -/

section Lookups

variable (c : Configuration)

theorem interpreter?_addInterpreter (entry : InterpreterEntry) (language : String) :
    (c.addInterpreter entry).2.interpreter? language =
      if language = entry.language then some entry else c.interpreter? language :=
  Catalog.get?_insert c.interpreters entry.language language entry

theorem interpreter?_removeInterpreter (removed language : String) :
    (c.removeInterpreter removed).2.interpreter? language =
      if language = removed then none else c.interpreter? language :=
  Catalog.get?_erase c.interpreters removed language

theorem script?_addScript (entry : ScriptEntry) (id : UInt32) :
    (c.addScript entry).2.script? id = if id = entry.id then some entry else c.script? id :=
  Catalog.get?_insert c.scripts entry.id id entry

theorem script?_removeScript (removed id : UInt32) :
    (c.removeScript removed).2.script? id = if id = removed then none else c.script? id :=
  Catalog.get?_erase c.scripts removed id

end Lookups

/-- A configuration is determined by its handle and its look-ups. -/
theorem ext_lookups {a b : Configuration} (hapi : a.api = b.api)
    (hinterpreters : ∀ l, a.interpreter? l = b.interpreter? l)
    (hscripts : ∀ id, a.script? id = b.script? id) : a = b := by
  have hi : a.interpreters = b.interpreters := Catalog.ext_get? hinterpreters
  have hs : a.scripts = b.scripts := Catalog.ext_get? hscripts
  cases a
  cases b
  simp_all

/-! ## 2. Valid configurations -/

/-- The configuration keeps the rules that are not about files. -/
structure Coherent (conf : Configuration) : Prop where
  /-- There is a host interface. -/
  api : ∃ api, conf.api = some api
  /-- There is an interpreter. -/
  interpreters : conf.interpreters.keys ≠ []
  /-- Every script has an interpreter for its language. -/
  served : ∀ id s, conf.script? id = some s → ∃ entry, conf.interpreter? s.language = some entry
  /-- Every module path is named like a library. -/
  loadable : ∀ l entry, conf.interpreter? l = some entry → entry.module.isLoadable = true

theorem scriptViolation?_eq_none {s : ScriptEntry} : conf.scriptViolation? files s = none ↔
    (∃ entry, conf.interpreter? s.language = some entry) ∧ files.exists? s.path = true := by
  unfold scriptViolation? interpreter?
  rw [← Catalog.contains_iff]
  cases conf.interpreters.contains s.language <;> cases files.exists? s.path <;> simp

theorem interpreterViolation?_eq_none {entry : InterpreterEntry} :
    interpreterViolation? entry = none ↔ entry.module.isLoadable = true := by
  unfold interpreterViolation?
  cases entry.module.isLoadable <;> simp

/-- A configuration with an interface and an interpreter breaks a rule where one of its scripts or
else one of its interpreters does. -/
theorem violation?_eq_or (hapi : ∃ api, conf.api = some api) (hne : conf.interpreters.keys ≠ []) :
    conf.violation? files = (conf.scripts.values.findSome? (conf.scriptViolation? files)).or
      (conf.interpreters.values.findSome? interpreterViolation?) := by
  obtain ⟨api, hapi⟩ := hapi
  have hempty : conf.interpreters.isEmpty = false := by
    refine Bool.eq_false_iff.2 fun h => hne ?_
    unfold Catalog.keys
    rw [List.isEmpty_iff.1 h, List.map_nil]
  unfold violation?
  rw [hapi, hempty]
  rfl

theorem api_of_valid (h : conf.violation? files = none) : ∃ api, conf.api = some api := by
  unfold violation? at h
  cases ha : conf.api with
  | none => simp [ha] at h
  | some api => exact ⟨api, rfl⟩

theorem interpreters_of_valid (h : conf.violation? files = none) : conf.interpreters.keys ≠ [] := by
  intro hk
  obtain ⟨api, ha⟩ := api_of_valid h
  have hempty : conf.interpreters.isEmpty = true := List.isEmpty_iff.2 (List.map_eq_nil_iff.1 hk)
  simp [violation?, ha, hempty] at h

/-- **A configuration is valid exactly if it is coherent and each of its scripts has a file.** -/
theorem violation?_eq_none : conf.violation? files = none ↔
    conf.Coherent ∧ ∀ id s, conf.script? id = some s → files.exists? s.path = true := by
  constructor
  · intro h
    have hapi := api_of_valid h
    have hne := interpreters_of_valid h
    rw [violation?_eq_or hapi hne, Option.or_eq_none_iff, Catalog.findSome?_values_eq_none,
      Catalog.findSome?_values_eq_none] at h
    obtain ⟨hscripts, hinterpreters⟩ := h
    exact ⟨⟨hapi, hne, fun id s hs => (scriptViolation?_eq_none.1 (hscripts id s hs)).1,
        fun l entry he => interpreterViolation?_eq_none.1 (hinterpreters l entry he)⟩,
      fun id s hs => (scriptViolation?_eq_none.1 (hscripts id s hs)).2⟩
  · rintro ⟨hc, hpresent⟩
    rw [violation?_eq_or hc.api hc.interpreters, Option.or_eq_none_iff,
      Catalog.findSome?_values_eq_none, Catalog.findSome?_values_eq_none]
    exact ⟨fun id s hs => scriptViolation?_eq_none.2 ⟨hc.served id s hs, hpresent id s hs⟩,
      fun l entry he => interpreterViolation?_eq_none.2 (hc.loadable l entry he)⟩

/-- A coherent configuration breaks no rule but the one about files, with a script whose file is
missing. -/
theorem Coherent.missing (h : conf.Coherent) {v : Violation}
    (hv : conf.violation? files = some v) : ∃ id s, conf.script? id = some s ∧
      v = .missingFile id s.path ∧ files.exists? s.path = false := by
  have hinterpreters : conf.interpreters.values.findSome? interpreterViolation? = none :=
    Catalog.findSome?_values_eq_none.2 fun l entry he =>
      interpreterViolation?_eq_none.2 (h.loadable l entry he)
  rw [violation?_eq_or h.api h.interpreters, hinterpreters, Option.or_none] at hv
  obtain ⟨s, hs, hbroken⟩ := List.exists_of_findSome?_eq_some hv
  obtain ⟨id, hs⟩ := Catalog.mem_values.1 hs
  have hid : s.id = id := conf.scripts_keyed.key_eq hs
  have hserved : conf.interpreters.contains s.language = true :=
    Catalog.contains_iff.2 (h.served id s hs)
  refine ⟨id, s, hs, ?_⟩
  unfold scriptViolation? at hbroken
  rw [hserved] at hbroken
  cases hf : files.exists? s.path with
  | true =>
    rw [hf] at hbroken
    cases hbroken
  | false =>
    rw [hf] at hbroken
    cases hbroken
    rw [hid]
    exact ⟨rfl, rfl⟩

end ScriptHost.Configuration
