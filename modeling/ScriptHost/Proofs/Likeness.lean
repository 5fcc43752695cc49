import ScriptHost.Proofs.Path.Spelling
import ScriptHost.Proofs.Validation
import Mathlib.Data.List.Forall2

/-!
# Validation of alike configurations

Alike configurations have the same handle and the same keys, and entry by entry they differ in the
spelling of paths only. Of all that is checked, only whether a script has a file depends on a
spelling.

* `Violation.Alike`: the same rule is broken by the same entry.
* `Configuration.Respelled`: what alike configurations have in common whose script paths are
  interchangeable in the files (`Configuration.respelled`).
* **`Configuration.Respelled.violation?`**: they break alike rules or none.
-/

namespace ScriptHost

/-! ## 1. Alike violations -/

/-- The same rule, broken by the same entry; its path may be spelled differently. -/
inductive Violation.Alike : Violation → Violation → Prop where
  | missingApi : Alike .missingApi .missingApi
  | noInterpreters : Alike .noInterpreters .noInterpreters
  | noInterpreterFor (id : UInt32) (language : String) :
      Alike (.noInterpreterFor id language) (.noInterpreterFor id language)
  | missingFile (id : UInt32) {p q : Path} (path : p.alike q = true) :
      Alike (.missingFile id p) (.missingFile id q)
  | notLoadable (language : String) {p q : Path} (path : p.alike q = true) :
      Alike (.notLoadable language p) (.notLoadable language q)

/-! ## 2. Related options and lists -/

/-- Of related options, the first one or else the second one. -/
theorem or_rel {γ δ : Type} {S : γ → δ → Prop} {o p : Option γ} {o' p' : Option δ}
    (hp : Option.Rel S p p') : Option.Rel S o o' → Option.Rel S (o.or p) (o'.or p')
  | .none => hp
  | .some h => .some h

theorem findSome?_cons_eq_or {α γ : Type} (f : α → Option γ) (x : α) (l : List α) :
    (x :: l).findSome? f = (f x).or (l.findSome? f) := by
  rw [List.findSome?_cons]
  cases f x <;> rfl

/-- What is found first in lists of related elements is related. -/
theorem findSome?_rel {α β γ δ : Type} {R : α → β → Prop} {S : γ → δ → Prop} {f : α → Option γ}
    {g : β → Option δ} (hfg : ∀ x y, R x y → Option.Rel S (f x) (g y)) :
    ∀ {l : List α} {m : List β}, List.Forall₂ R l m →
      Option.Rel S (l.findSome? f) (m.findSome? g)
  | _, _, .nil => .none
  | x :: l, y :: m, .cons hxy hlm => by
    rw [findSome?_cons_eq_or, findSome?_cons_eq_or]
    exact or_rel (findSome?_rel hfg hlm) (hfg x y hxy)

theorem InterpreterEntry.alike_iff {x y : InterpreterEntry} :
    x.alike y = true ↔ x.language = y.language ∧ x.module.alike y.module = true := by
  simp [InterpreterEntry.alike]

theorem ScriptEntry.alike_iff {s s' : ScriptEntry} : s.alike s' = true ↔
    s.id = s'.id ∧ s.path.alike s'.path = true ∧ s.language = s'.language ∧
      s.cached = s'.cached ∧ s.priority = s'.priority := by
  simp [ScriptEntry.alike, and_assoc]

theorem InterpreterEntry.alike_refl (x : InterpreterEntry) : x.alike x = true :=
  alike_iff.2 ⟨rfl, Path.alike_refl x.module⟩

theorem ScriptEntry.alike_refl (s : ScriptEntry) : s.alike s = true :=
  alike_iff.2 ⟨rfl, Path.alike_refl s.path, rfl, rfl, rfl⟩

/-- Alike entries whose paths lead to the same place. -/
structure ScriptEntry.Respelled (files : FileTree) (s s' : ScriptEntry) : Prop where
  alike : s.alike s' = true
  path : files.Interchangeable s.path s'.path

namespace Configuration

variable {a b : Configuration} {files : FileTree}

/-- A configuration compares equal to itself. -/
theorem alike_refl (c : Configuration) : c.alike c = true := by
  have hinterpreters : List.Forall₂ (·.alike · = true) c.interpreters.values c.interpreters.values :=
    List.forall₂_same.2 fun x _ => x.alike_refl
  have hscripts : List.Forall₂ (·.alike · = true) c.scripts.values c.scripts.values :=
    List.forall₂_same.2 fun s _ => s.alike_refl
  simp only [alike, Bool.and_eq_true, beq_self_eq_true, List.all_eq_true, true_and, and_true]
  exact ⟨fun _ he => List.forall₂_zip hinterpreters he, fun _ he => List.forall₂_zip hscripts he⟩

/-- Equal but for spellings that make no difference. -/
structure Respelled (files : FileTree) (a b : Configuration) : Prop where
  api : a.api = b.api
  languages : a.interpreters.keys = b.interpreters.keys
  interpreters : List.Forall₂ (·.alike · = true) a.interpreters.values b.interpreters.values
  scripts : List.Forall₂ (ScriptEntry.Respelled files) a.scripts.values b.scripts.values

namespace Respelled

theorem contains_eq (h : Respelled files a b) (language : String) :
    a.interpreters.contains language = b.interpreters.contains language := by
  rw [Bool.eq_iff_iff, Catalog.contains_iff, Catalog.contains_iff, ← Catalog.mem_keys,
    ← Catalog.mem_keys, h.languages]

theorem isEmpty_eq (h : Respelled files a b) :
    a.interpreters.isEmpty = b.interpreters.isEmpty := by
  have hkeys := congrArg List.isEmpty h.languages
  simpa [Catalog.keys, Catalog.isEmpty] using hkeys

theorem scriptViolation? (h : Respelled files a b) {s s' : ScriptEntry}
    (hs : ScriptEntry.Respelled files s s') :
    Option.Rel Violation.Alike (a.scriptViolation? files s) (b.scriptViolation? files s') := by
  obtain ⟨hid, hpath, hlanguage, -, -⟩ := ScriptEntry.alike_iff.1 hs.alike
  have hexists := FileTree.exists?_eq hpath hs.path
  unfold Configuration.scriptViolation?
  rw [h.contains_eq, hlanguage, hid, hexists]
  cases b.interpreters.contains s'.language with
  | false => exact .some (.noInterpreterFor s'.id s'.language)
  | true =>
    cases files.exists? s'.path with
    | false => exact .some (.missingFile s'.id hpath)
    | true => exact .none

theorem interpreterViolation? {x y : InterpreterEntry} (h : x.alike y = true) :
    Option.Rel Violation.Alike (interpreterViolation? x) (interpreterViolation? y) := by
  obtain ⟨hlanguage, hmodule⟩ := InterpreterEntry.alike_iff.1 h
  unfold Configuration.interpreterViolation?
  rw [Path.isLoadable_eq_of_alike hmodule, hlanguage]
  cases y.module.isLoadable with
  | true => exact .none
  | false => exact .some (.notLoadable y.language hmodule)

/-- **Alike configurations break alike rules**, where spellings make no difference. -/
theorem violation? (h : Respelled files a b) :
    Option.Rel Violation.Alike (a.violation? files) (b.violation? files) := by
  have hscripts := findSome?_rel (fun _ _ hs => h.scriptViolation? hs) h.scripts
  have hinterpreters := findSome?_rel (fun _ _ hx => interpreterViolation? hx) h.interpreters
  unfold Configuration.violation?
  rw [h.api, h.isEmpty_eq]
  cases b.api with
  | none => exact .some .missingApi
  | some api =>
    cases b.interpreters.isEmpty with
    | true => exact .some .noInterpreters
    | false => exact or_rel hinterpreters hscripts

end Respelled

end Configuration

end ScriptHost
