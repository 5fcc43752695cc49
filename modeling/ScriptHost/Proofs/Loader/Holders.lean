import ScriptHost.Loader.Session
import ScriptHost.Proofs.Catalog
import ScriptHost.Proofs.Module.Custody
import ScriptHost.Proofs.Module.Records

/-!
# Holders in a session

Which instances the values of a session hold, and what letting go of one does to the account.

* `Catalog.Keeps`: something in a catalog keeps an instance. `Session.Keeps`: a loader, a factory or
  an opened module does. `Session.made` lists the instances of the interpreters.
* `Session.holds_iff`: what is held is kept, or an interpreter was made from it.
* `Session.custody_release`, `Session.custody_forget`: **letting go of an instance closes it if
  nothing else holds it**, and the account goes on without that holder.
-/

namespace ScriptHost

/-! ## 1. Holders -/

/-- There is an instance, and it has this serial number. -/
def Names (i : Option Instance) (n : Nat) : Prop := i.map (·.serial) = some n

theorem names_some {i : Instance} {n : Nat} : Names (some i) n ↔ n = i.serial := by
  unfold Names
  rw [Option.map_some, Option.some.injEq, eq_comm]

theorem not_names_none {n : Nat} : ¬ Names none n := fun h => nomatch h

namespace Catalog

variable {κ ν : Type} [Ord κ]

/-- Something in the catalog keeps the instance with this serial number. -/
def Keeps (kept : ν → Option Instance) (c : Catalog κ ν) (n : Nat) : Prop :=
  ∃ v ∈ c.values, Names (kept v) n

variable {kept : ν → Option Instance} {c : Catalog κ ν}

theorem keeps_iff_mem {n : Nat} :
    c.Keeps kept n ↔ ∃ i ∈ c.values.filterMap kept, i.serial = n := by
  unfold Keeps Names
  simp only [List.mem_filterMap, Option.map_eq_some_iff]
  constructor
  · rintro ⟨v, hv, i, hi, hn⟩
    exact ⟨i, ⟨v, hv, hi⟩, hn⟩
  · rintro ⟨i, ⟨v, hv, hi⟩, hn⟩
    exact ⟨v, hv, i, hi, hn⟩

variable [Std.LawfulEqOrd κ] [Std.TransOrd κ]

/-- What is kept under a key, and what is kept without it. -/
theorem keeps_erase (kept : ν → Option Instance) (c : Catalog κ ν) (k : κ) (n : Nat) :
    (c.erase k).Keeps kept n ∨ Names ((c.get? k).bind kept) n ↔ c.Keeps kept n := by
  unfold Keeps
  simp only [(values_perm c k).mem_iff, List.mem_append, or_and_right, exists_or,
    Option.mem_toList]
  rw [or_comm]
  refine or_congr_left ?_
  cases c.get? k with
  | none => simp [not_names_none]
  | some v => simp

/-- One value comes in the place of another. -/
theorem keeps_insert (kept : ν → Option Instance) (c : Catalog κ ν) (k : κ) (v : ν) (n : Nat) :
    (c.insert k v).Keeps kept n ∨ Names ((c.get? k).bind kept) n ↔
      c.Keeps kept n ∨ Names (kept v) n := by
  rw [← keeps_erase kept c k]
  unfold Keeps
  simp only [mem_values_insert, or_and_right, exists_or, exists_eq_left]
  rw [or_assoc, or_comm]

end Catalog

namespace Session

/-- Something but an interpreter holds the instance with this serial number. -/
def Keeps (s : Session) (n : Nat) : Prop :=
  s.loaders.Keeps (·.kept) n ∨ s.factories.Keeps some n ∨ s.modules.Keeps some n

/-- The serial numbers of the instances that the interpreters were made from. -/
def made (s : Session) : List Nat := s.interpreters.values.map (·.source.serial)

/-- Something holds the instance with this serial number. -/
def Holds (s : Session) (n : Nat) : Prop := ∃ i ∈ s.held, i.serial = n

variable {s next : Session} {past : List Effect}

/-- A loader comes in the place of another. -/
theorem keeps_insert_loaders (name : String) (l : Loader) (n : Nat) :
    ({ s with loaders := s.loaders.insert name l } : Session).Keeps n ∨
        Names ((s.loaders.get? name).bind (·.kept)) n ↔ s.Keeps n ∨ Names l.kept n := by
  have h := Catalog.keeps_insert (·.kept) s.loaders name l n
  unfold Keeps
  grind

/-- A loader comes in the place of one that keeps nothing. -/
theorem keeps_insert_loaders_unkept {name : String} {old : Loader}
    (hold : s.loaders.get? name = some old) (unkept : old.kept = none) (l : Loader) (n : Nat) :
    ({ s with loaders := s.loaders.insert name l } : Session).Keeps n ↔
      s.Keeps n ∨ Names l.kept n := by
  have h := keeps_insert_loaders (s := s) name l n
  rw [hold, Option.bind_some, unkept, or_iff_left not_names_none] at h
  exact h

theorem keeps_insert_factories (name : String) (i : Instance) (n : Nat) :
    ({ s with factories := s.factories.insert name i } : Session).Keeps n ∨
        Names (s.factories.get? name) n ↔ s.Keeps n ∨ n = i.serial := by
  have h := Catalog.keeps_insert some s.factories name i n
  rw [Option.bind_fun_some, names_some] at h
  unfold Keeps
  grind

theorem keeps_insert_modules (name : String) (i : Instance) (n : Nat) :
    ({ s with modules := s.modules.insert name i } : Session).Keeps n ∨
        Names (s.modules.get? name) n ↔ s.Keeps n ∨ n = i.serial := by
  have h := Catalog.keeps_insert some s.modules name i n
  rw [Option.bind_fun_some, names_some] at h
  unfold Keeps
  grind

theorem keeps_erase_loaders (name : String) (n : Nat) :
    ({ s with loaders := s.loaders.erase name } : Session).Keeps n ∨
        Names ((s.loaders.get? name).bind (·.kept)) n ↔ s.Keeps n := by
  have h := Catalog.keeps_erase (·.kept) s.loaders name n
  unfold Keeps
  grind

theorem keeps_erase_factories (name : String) (n : Nat) :
    ({ s with factories := s.factories.erase name } : Session).Keeps n ∨
        Names (s.factories.get? name) n ↔ s.Keeps n := by
  have h := Catalog.keeps_erase some s.factories name n
  rw [Option.bind_fun_some] at h
  unfold Keeps
  grind

theorem keeps_erase_modules (name : String) (n : Nat) :
    ({ s with modules := s.modules.erase name } : Session).Keeps n ∨
        Names (s.modules.get? name) n ↔ s.Keeps n := by
  have h := Catalog.keeps_erase some s.modules name n
  rw [Option.bind_fun_some] at h
  unfold Keeps
  grind

theorem mem_made {n : Nat} :
    n ∈ s.made ↔ ∃ i ∈ s.interpreters.values.map (·.source), i.serial = n := by
  unfold made
  rw [← List.mem_map, List.map_map]
  rfl

theorem holds_iff {n : Nat} : s.Holds n ↔ s.Keeps n ∨ n ∈ s.made := by
  unfold Holds held Keeps
  rw [Catalog.keeps_iff_mem, Catalog.keeps_iff_mem, Catalog.keeps_iff_mem, mem_made,
    List.filterMap_some, List.filterMap_some]
  simp only [List.mem_append, or_and_right, exists_or]
  grind

theorem holds_eq_true {i : Instance} :
    s.holds i = true ↔ s.Keeps i.serial ∨ i.serial ∈ s.made := by
  rw [← holds_iff]
  unfold holds Holds
  rw [List.any_eq_true]
  simp only [beq_iff_eq]

/-! ## 2. Letting go -/

/-- Letting go of an instance closes it, if nothing else holds it. -/
theorem custody_release (next : Session) {keeps : Nat → Prop} {asked : Nat}
    (old : Option Instance) (h : Custody keeps next.made asked past)
    (hk : ∀ n, keeps n ↔ next.Keeps n ∨ Names old n)
    (hold : ∀ i, old = some i → i.Recording) :
    Custody next.Keeps next.made asked (past ++ next.release old) := by
  cases old with
  | none =>
    simp only [release, List.append_nil]
    refine h.congr (fun n => ?_) (List.Perm.refl _)
    rw [hk n, or_iff_left not_names_none]
  | some i =>
    have hkept : Custody (fun n => next.Keeps n ∨ n = i.serial) next.made asked past := by
      refine h.congr (fun n => ?_) (List.Perm.refl _)
      rw [hk n, names_some]
    simp only [release]
    by_cases hi : next.holds i = true
    · rw [if_pos hi, List.append_nil]
      exact hkept.passed (holds_eq_true.1 hi)
    · rw [if_neg hi]
      exact hkept.closed (fun hn => hi (holds_eq_true.2 hn)) ((hold i rfl).records .closed)

/-- Forgetting an interpreter drops it and lets go of its instance. -/
theorem custody_forget {asked : Nat} {old : Option Interpreter}
    (h : Custody next.Keeps (old.toList.map (·.source.serial) ++ next.made) asked past)
    (hold : ∀ i, old = some i → i.Recording) :
    Custody next.Keeps next.made asked (past ++ next.forgetInterpreter old) := by
  cases old with
  | none =>
    simp only [forgetInterpreter, List.append_nil]
    exact h
  | some i =>
    have hi : i.source.Recording := (hold i rfl).1
    have hdropped := h.dropped (hi.records .dropped)
    have hreleased := custody_release next (some i.source) hdropped
      (fun n => by rw [names_some]) (by
        rintro _ ⟨⟩
        exact hi)
    rw [List.append_assoc] at hreleased
    exact hreleased

end Session

end ScriptHost
