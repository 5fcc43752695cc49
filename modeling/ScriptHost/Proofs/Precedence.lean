import ScriptHost.Proofs.Text.Order
import ScriptHost.Proofs.Validation

/-!
# Which violation comes first

A configuration may break many rules at once; one of them is reported.

* `Violation.place`: where a violation stands among all others. The rules about the configuration as
  such come first, then the scripts by ascending id, each with its language before its file, then
  the interpreters by ascending language in UTF-8.
* `Configuration.Breaks`: the violations of a configuration, each rule for itself.
* `Configuration.BreaksFirst`: a violation before which there is none. What is found first among the
  scripts is one (`BreaksFirst.of_script`), and else what is found first among the interpreters
  (`BreaksFirst.of_interpreter`).
* `Configuration.reports_first`: **a configuration without a violation keeps all rules; else the
  first violation is reported**, and nothing that stands before it is broken.
-/

namespace ScriptHost

/-! ## 1. Places -/

/-- Where the violation stands among all others. Places are compared number by number. -/
def Violation.place : Violation → List Nat
  | .missingApi => [0]
  | .noInterpreters => [1]
  | .noInterpreterFor id _ => [2, id.toNat, 0]
  | .missingFile id _ => [2, id.toNat, 1]
  | .notLoadable language _ => 3 :: (Utf8.encode language).map UInt8.toNat

theorem map_toNat_lt : ∀ {s t : List UInt8}, s < t → s.map UInt8.toNat < t.map UInt8.toNat
  | [], [], h => absurd h (List.lt_irrefl [])
  | [], _ :: _, _ => List.nil_lt_cons _ _
  | _ :: _, [], h => absurd h (List.not_lt_nil _)
  | _ :: _, _ :: _, h => by
    rw [List.map_cons, List.map_cons, List.cons_lt_cons_iff]
    rcases List.cons_lt_cons_iff.1 h with hlt | ⟨rfl, hlt⟩
    · exact .inl (UInt8.lt_iff_toNat_lt.1 hlt)
    · exact .inr ⟨rfl, map_toNat_lt hlt⟩

namespace Violation

/-- Scripts stand in the order of their ids. -/
theorem scriptPlace_lt {id id' : UInt32} (h : compare id id' = .lt) (m n : Nat) :
    [2, id.toNat, m] < [2, id'.toNat, n] := by
  have hlt : id.toNat < id'.toNat := UInt32.lt_iff_toNat_lt.1 (compareOfLessAndEq_eq_lt.1 h)
  simp [List.cons_lt_cons_iff, hlt]

/-- Interpreters stand in the order of their languages in UTF-8. -/
theorem modulePlace_lt {language language' : String} (h : compare language language' = .lt)
    (path path' : Path) :
    (notLoadable language path).place < (notLoadable language' path').place :=
  List.cons_lt_cons_iff.2
    (.inr ⟨rfl, map_toNat_lt (Utf8.encode_lt_iff.2 (compareOfLessAndEq_eq_lt.1 h))⟩)

theorem missingApi_first (v : Violation) : v = .missingApi ∨ missingApi.place < v.place := by
  cases v with
  | missingApi => exact .inl rfl
  | noInterpreters => exact .inr (by decide)
  | noInterpreterFor _ _ | missingFile _ _ | notLoadable _ _ =>
    exact .inr (List.cons_lt_cons_iff.2 (.inl (by decide)))

theorem noInterpreters_second (v : Violation) :
    v = .missingApi ∨ v = .noInterpreters ∨ noInterpreters.place < v.place := by
  cases v with
  | missingApi => exact .inl rfl
  | noInterpreters => exact .inr (.inl rfl)
  | noInterpreterFor _ _ | missingFile _ _ | notLoadable _ _ =>
    exact .inr (.inr (List.cons_lt_cons_iff.2 (.inl (by decide))))

end Violation

namespace Configuration

variable {conf : Configuration} {files : FileTree}

/-! ## 2. Violations -/

/-- The configuration breaks the rule, whichever others it breaks. -/
inductive Breaks (conf : Configuration) (files : FileTree) : Violation → Prop where
  | api (unset : conf.api = none) : Breaks conf files .missingApi
  | interpreters (unset : ∀ language, conf.interpreter? language = none) :
      Breaks conf files .noInterpreters
  | language {id : UInt32} {s : ScriptEntry} (listed : conf.script? id = some s)
      (unserved : conf.interpreter? s.language = none) :
      Breaks conf files (.noInterpreterFor id s.language)
  | file {id : UInt32} {s : ScriptEntry} (listed : conf.script? id = some s)
      (missing : files.exists? s.path = false) : Breaks conf files (.missingFile id s.path)
  | module {language : String} {entry : InterpreterEntry}
      (listed : conf.interpreter? language = some entry)
      (unloadable : entry.module.isLoadable = false) :
      Breaks conf files (.notLoadable language entry.module)

/-- The configuration breaks the rule, and all others that it breaks stand behind. -/
structure BreaksFirst (conf : Configuration) (files : FileTree) (v : Violation) : Prop where
  broken : conf.Breaks files v
  first : ∀ w, conf.Breaks files w → w = v ∨ v.place < w.place

/-- Nothing that stands before the first violation is broken. -/
theorem BreaksFirst.before {v : Violation} (h : conf.BreaksFirst files v) {w : Violation}
    (hw : w.place < v.place) : ¬ conf.Breaks files w := by
  intro hbroken
  rcases h.first w hbroken with rfl | hlt
  · exact List.lt_irrefl _ hw
  · exact List.lt_asymm hw hlt

theorem BreaksFirst.unique {v w : Violation} (hv : conf.BreaksFirst files v)
    (hw : conf.BreaksFirst files w) : v = w := by
  rcases hv.first w hw.broken with rfl | hlt
  · rfl
  · exact absurd hv.broken (hw.before hlt)

/-- A script breaks the rule about its language, or else the one about its file. -/
theorem scriptViolation?_eq_some {s : ScriptEntry} {v : Violation} :
    conf.scriptViolation? files s = some v ↔
      (conf.interpreter? s.language = none ∧ v = .noInterpreterFor s.id s.language) ∨
      (conf.interpreter? s.language ≠ none ∧ files.exists? s.path = false ∧
        v = .missingFile s.id s.path) := by
  unfold scriptViolation? interpreter? Catalog.contains
  cases conf.interpreters.get? s.language <;> cases files.exists? s.path <;> simp [eq_comm]

theorem scriptViolation?_ne_none {s : ScriptEntry} : conf.scriptViolation? files s ≠ none ↔
    conf.interpreter? s.language = none ∨ files.exists? s.path = false := by
  unfold scriptViolation? interpreter? Catalog.contains
  cases conf.interpreters.get? s.language <;> cases files.exists? s.path <;> simp

theorem interpreterViolation?_eq_some {entry : InterpreterEntry} {v : Violation} :
    interpreterViolation? entry = some v ↔
      entry.module.isLoadable = false ∧ v = .notLoadable entry.language entry.module := by
  unfold interpreterViolation?
  cases entry.module.isLoadable <;> simp [eq_comm]

/-- Without an interpreter there is none under any language. -/
theorem interpreters_isEmpty_iff :
    conf.interpreters.isEmpty = true ↔ ∀ language, conf.interpreter? language = none := by
  constructor
  · intro h language
    unfold interpreter? Catalog.get?
    rw [List.isEmpty_iff.1 h]
    rfl
  · intro h
    refine List.isEmpty_iff.2 (List.eq_nil_iff_forall_not_mem.2 fun ⟨language, entry⟩ he => ?_)
    have hlisted := (h language).symm.trans (Catalog.mem_entries.1 he)
    cases hlisted

/-- A valid configuration breaks no rule. -/
theorem not_breaks_of_valid (h : conf.violation? files = none) (v : Violation) :
    ¬ conf.Breaks files v := by
  obtain ⟨hc, hpresent⟩ := violation?_eq_none.1 h
  intro hv
  cases hv with
  | api unset =>
    obtain ⟨api, hapi⟩ := hc.api
    rw [unset] at hapi
    cases hapi
  | interpreters unset =>
    refine hc.interpreters ?_
    unfold Catalog.keys
    rw [List.isEmpty_iff.1 (interpreters_isEmpty_iff.2 unset), List.map_nil]
  | language listed unserved =>
    obtain ⟨entry, he⟩ := hc.served _ _ listed
    rw [unserved] at he
    cases he
  | file listed missing =>
    rw [hpresent _ _ listed] at missing
    cases missing
  | module listed unloadable =>
    rw [hc.loadable _ _ listed] at unloadable
    cases unloadable

/-! ## 3. The first one -/

/-- **The first violation found among the scripts** stands before all others that the scripts and
the interpreters break. -/
theorem BreaksFirst.of_script (hapi : ¬ conf.Breaks files .missingApi)
    (hne : ¬ conf.Breaks files .noInterpreters) {v : Violation}
    (h : conf.scripts.values.findSome? (conf.scriptViolation? files) = some v) :
    conf.BreaksFirst files v := by
  obtain ⟨id, s, hs, hv, hlater⟩ := Catalog.findSome?_values_first h
  rw [scriptViolation?_eq_some, conf.scripts_keyed.key_eq hs] at hv
  have hplace : ∃ n, v.place = [2, id.toNat, n] := by
    rcases hv with ⟨-, rfl⟩ | ⟨-, -, rfl⟩
    · exact ⟨0, rfl⟩
    · exact ⟨1, rfl⟩
  obtain ⟨n, hplace⟩ := hplace
  refine ⟨?_, fun w hw => ?_⟩
  · rcases hv with ⟨hunserved, rfl⟩ | ⟨-, hmissing, rfl⟩
    · exact .language hs hunserved
    · exact .file hs hmissing
  cases hw with
  | api unset => exact absurd (.api unset) hapi
  | interpreters unset => exact absurd (.interpreters unset) hne
  | @language id' s' listed unserved =>
    rcases hlater id' s' listed (scriptViolation?_ne_none.2 (.inl unserved)) with ⟨rfl, rfl⟩ | hlt
    · rcases hv with ⟨-, rfl⟩ | ⟨hserved, -⟩
      · exact .inl rfl
      · exact absurd unserved hserved
    · rw [hplace]
      exact .inr (Violation.scriptPlace_lt hlt _ _)
  | @file id' s' listed missing =>
    rcases hlater id' s' listed (scriptViolation?_ne_none.2 (.inr missing)) with ⟨rfl, rfl⟩ | hlt
    · rcases hv with ⟨-, rfl⟩ | ⟨-, -, rfl⟩
      · exact .inr (by simp [Violation.place, List.cons_lt_cons_iff])
      · exact .inl rfl
    · rw [hplace]
      exact .inr (Violation.scriptPlace_lt hlt _ _)
  | module listed unloadable =>
    rw [hplace]
    exact .inr (List.cons_lt_cons_iff.2 (.inl (by decide)))

/-- **The first violation found among the interpreters** stands before all others that the
interpreters break, where no script breaks one. -/
theorem BreaksFirst.of_interpreter (hapi : ¬ conf.Breaks files .missingApi)
    (hne : ¬ conf.Breaks files .noInterpreters)
    (hscripts : conf.scripts.values.findSome? (conf.scriptViolation? files) = none) {v : Violation}
    (h : conf.interpreters.values.findSome? interpreterViolation? = some v) :
    conf.BreaksFirst files v := by
  have hsound := Catalog.findSome?_values_eq_none.1 hscripts
  obtain ⟨language, entry, he, hv, hlater⟩ := Catalog.findSome?_values_first h
  rw [interpreterViolation?_eq_some, conf.interpreters_keyed.key_eq he] at hv
  obtain ⟨hunloadable, rfl⟩ := hv
  refine ⟨.module he hunloadable, fun w hw => ?_⟩
  cases hw with
  | api unset => exact absurd (.api unset) hapi
  | interpreters unset => exact absurd (.interpreters unset) hne
  | @language id s listed unserved =>
    exact absurd (hsound id s listed) (scriptViolation?_ne_none.2 (.inl unserved))
  | @file id s listed missing =>
    exact absurd (hsound id s listed) (scriptViolation?_ne_none.2 (.inr missing))
  | @module language' entry' listed unloadable =>
    have hbroken : interpreterViolation? entry' ≠ none := fun hnone => by
      rw [interpreterViolation?_eq_none.1 hnone] at unloadable
      cases unloadable
    rcases hlater language' entry' listed hbroken with ⟨rfl, rfl⟩ | hlt
    · exact .inl rfl
    · exact .inr (Violation.modulePlace_lt hlt _ _)

/-- The violation that is reported comes first. -/
theorem breaksFirst_of_violation? {v : Violation} (h : conf.violation? files = some v) :
    conf.BreaksFirst files v := by
  unfold violation? at h
  cases hapi : conf.api with
  | none =>
    simp only [hapi, Option.isNone_none, if_true, Option.some.injEq] at h
    subst h
    exact ⟨.api hapi, fun w _ => w.missingApi_first⟩
  | some api =>
    have hset : ¬ conf.Breaks files .missingApi := by
      intro hbroken
      cases hbroken with
      | api unset =>
        rw [unset] at hapi
        cases hapi
    cases hempty : conf.interpreters.isEmpty with
    | true =>
      simp only [hapi, hempty, Option.isNone_some, Bool.false_eq_true, if_false, if_true,
        Option.some.injEq] at h
      subst h
      refine ⟨.interpreters (interpreters_isEmpty_iff.1 hempty), fun w hw => ?_⟩
      refine w.noInterpreters_second.resolve_left ?_
      rintro rfl
      exact hset hw
    | false =>
      have hne : ¬ conf.Breaks files .noInterpreters := by
        intro hbroken
        cases hbroken with
        | interpreters unset =>
          rw [interpreters_isEmpty_iff.2 unset] at hempty
          cases hempty
      simp only [hapi, hempty, Option.isNone_some, Bool.false_eq_true, if_false] at h
      cases hscripts : conf.scripts.values.findSome? (conf.scriptViolation? files) with
      | some u =>
        rw [hscripts] at h
        cases h
        exact .of_script hset hne hscripts
      | none =>
        rw [hscripts, Option.none_or] at h
        exact .of_interpreter hset hne hscripts h

/-- **A configuration without a violation keeps all rules; else the first violation is reported**,
which names its script or interpreter, and nothing that stands before it is broken. -/
theorem reports_first (conf : Configuration) (files : FileTree) :
    (conf.violation? files = none ↔
      conf.Coherent ∧ ∀ id s, conf.script? id = some s → files.exists? s.path = true) ∧
    (∀ v, conf.violation? files = some v ↔ conf.BreaksFirst files v) ∧
    ∀ v w, conf.violation? files = some v → w.place < v.place → ¬ conf.Breaks files w := by
  have hfirst : ∀ v, conf.violation? files = some v ↔ conf.BreaksFirst files v := by
    intro v
    refine ⟨breaksFirst_of_violation?, fun h => ?_⟩
    cases hv : conf.violation? files with
    | some u => rw [(breaksFirst_of_violation? hv).unique h]
    | none => exact absurd h.broken (not_breaks_of_valid hv v)
  exact ⟨violation?_eq_none, hfirst, fun v w hv hw => ((hfirst v).1 hv).before hw⟩

end Configuration

end ScriptHost
