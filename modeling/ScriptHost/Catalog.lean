/-!
# Catalogs

A catalog keeps at most one value under each key and lists its entries in ascending order of key.
The interpreters and the scripts of a configuration, the loaded interpreters and the cached texts
of an embedder, and the handles of a loading session are catalogs.

* The order is part of the type (`ascending`), so it depends on the entries alone and never on the
  history that put them there.
* Main statements: what `insert` and `erase` do to a look-up, and `Catalog.ext_get?`: a catalog is
  determined by its look-ups.
-/

namespace ScriptHost

/-! ## 1. Entry lists -/

namespace EntryList

variable {κ ν : Type} [Ord κ]

/-- Puts the value under the key: in place of the entry with this key, else before the first
larger key. -/
def insert (k : κ) (v : ν) : List (κ × ν) → List (κ × ν)
  | [] => [(k, v)]
  | (k', v') :: rest =>
    match compare k k' with
    | .lt => (k, v) :: (k', v') :: rest
    | .eq => (k, v) :: rest
    | .gt => (k', v') :: insert k v rest

/-- Leaves out the entry with this key. -/
def erase (k : κ) : List (κ × ν) → List (κ × ν)
  | [] => []
  | (k', v') :: rest =>
    match compare k k' with
    | .eq => erase k rest
    | _ => (k', v') :: erase k rest

/-- The value under the key. -/
def get? (k : κ) : List (κ × ν) → Option ν
  | [] => none
  | (k', v') :: rest =>
    match compare k k' with
    | .eq => some v'
    | _ => get? k rest

/-- Every key is smaller than those after it. -/
def Ascending (l : List (κ × ν)) : Prop :=
  l.Pairwise fun a b => compare a.1 b.1 = .lt

theorem mem_insert {k : κ} {v : ν} {e : κ × ν} :
    ∀ {l : List (κ × ν)}, e ∈ insert k v l → e = (k, v) ∨ e ∈ l
  | [], h => by simpa [insert] using h
  | (k', v') :: rest, h => by
    unfold insert at h
    split at h
    · simpa using h
    · rcases List.mem_cons.1 h with h | h
      · exact .inl h
      · exact .inr (List.mem_cons_of_mem _ h)
    · rcases List.mem_cons.1 h with h | h
      · exact .inr (h ▸ List.mem_cons_self)
      · exact (mem_insert h).imp id (List.mem_cons_of_mem _)

theorem mem_of_mem_erase {k : κ} {e : κ × ν} :
    ∀ {l : List (κ × ν)}, e ∈ erase k l → e ∈ l
  | [], h => by simp [erase] at h
  | (k', v') :: rest, h => by
    unfold erase at h
    split at h
    · exact List.mem_cons_of_mem _ (mem_of_mem_erase h)
    · rcases List.mem_cons.1 h with h | h
      · exact h ▸ List.mem_cons_self
      · exact List.mem_cons_of_mem _ (mem_of_mem_erase h)

theorem Ascending.erase {k : κ} :
    ∀ {l : List (κ × ν)}, Ascending l → Ascending (erase k l)
  | [], h => h
  | (k', v') :: rest, h => by
    have h := List.pairwise_cons.1 h
    unfold EntryList.erase
    split
    · exact Ascending.erase h.2
    · exact List.pairwise_cons.2 ⟨fun a ha => h.1 a (mem_of_mem_erase ha), Ascending.erase h.2⟩

theorem get?_eq_none {k : κ} :
    ∀ {l : List (κ × ν)}, (∀ e ∈ l, compare k e.1 = .lt) → get? k l = none
  | [], _ => rfl
  | (k', v') :: rest, h => by
    have h₁ := h (k', v') List.mem_cons_self
    have ih := get?_eq_none (l := rest) fun e he => h e (List.mem_cons_of_mem _ he)
    simp_all [get?]

variable [Std.LawfulEqOrd κ]

@[simp] theorem get?_insert_self (k : κ) (v : ν) :
    ∀ l : List (κ × ν), get? k (insert k v l) = some v
  | [] => by simp [insert, get?]
  | (k', v') :: rest => by
    unfold insert
    split <;> rename_i h
    · simp [get?]
    · simp [get?]
    · simp [get?, h, get?_insert_self k v rest]

theorem get?_insert_ne {k k' : κ} (v : ν) (h : k' ≠ k) :
    ∀ l : List (κ × ν), get? k' (insert k v l) = get? k' l
  | [] => by
    have hc : compare k' k ≠ .eq := fun e => h (Std.LawfulEqCmp.eq_of_compare e)
    unfold insert get?
    split <;> simp_all [get?]
  | (k₁, v₁) :: rest => by
    have hc : compare k' k ≠ .eq := fun e => h (Std.LawfulEqCmp.eq_of_compare e)
    have ih := get?_insert_ne v h rest
    unfold insert
    split <;> rename_i h₁
    · cases hk : compare k' k <;> simp_all [get?]
    · have hk : k = k₁ := Std.LawfulEqCmp.eq_of_compare h₁
      subst hk
      cases hk : compare k' k <;> simp_all [get?]
    · cases hk : compare k' k₁ <;> simp_all [get?]

theorem get?_erase_self (k : κ) : ∀ l : List (κ × ν), get? k (erase k l) = none
  | [] => rfl
  | (k', v') :: rest => by
    have ih := get?_erase_self k rest
    cases h : compare k k' <;> simp_all [erase, get?]

theorem get?_erase_ne {k k' : κ} (h : k' ≠ k) :
    ∀ l : List (κ × ν), get? k' (erase k l) = get? k' l
  | [] => rfl
  | (k₁, v₁) :: rest => by
    have ih := get?_erase_ne h rest
    cases h₁ : compare k k₁ <;> cases h₂ : compare k' k₁ <;> simp_all [erase, get?]

variable [Std.TransOrd κ]

theorem Ascending.insert {k : κ} {v : ν} :
    ∀ {l : List (κ × ν)}, Ascending l → Ascending (insert k v l)
  | [], _ => List.pairwise_singleton _ _
  | (k', v') :: rest, h => by
    have hc := List.pairwise_cons.1 h
    unfold EntryList.insert
    split
    · rename_i hlt
      refine List.pairwise_cons.2 ⟨fun a ha => ?_, h⟩
      rcases List.mem_cons.1 ha with ha | ha
      · exact ha ▸ hlt
      · exact Std.TransCmp.lt_trans hlt (hc.1 a ha)
    · rename_i heq
      have hk : k = k' := Std.LawfulEqCmp.eq_of_compare heq
      subst hk
      exact List.pairwise_cons.2 ⟨hc.1, hc.2⟩
    · rename_i hgt
      refine List.pairwise_cons.2 ⟨fun a ha => ?_, Ascending.insert hc.2⟩
      rcases mem_insert ha with ha | ha
      · exact ha ▸ Std.OrientedCmp.gt_iff_lt.1 hgt
      · exact hc.1 a ha

/-- **Ascending entry lists with the same look-ups are the same list.** -/
theorem Ascending.eq_of_get? :
    ∀ {l₁ l₂ : List (κ × ν)}, Ascending l₁ → Ascending l₂ →
      (∀ k, get? k l₁ = get? k l₂) → l₁ = l₂
  | [], [], _, _, _ => rfl
  | [], (k, v) :: rest, _, _, h => by simpa [get?] using h k
  | (k, v) :: rest, [], _, _, h => by simpa [get?] using h k
  | (k₁, v₁) :: r₁, (k₂, v₂) :: r₂, h₁, h₂, h => by
    have hc₁ := List.pairwise_cons.1 h₁
    have hc₂ := List.pairwise_cons.1 h₂
    have hk : compare k₁ k₂ = .eq := by
      cases hlt : compare k₁ k₂ with
      | eq => rfl
      | lt =>
        have hn : get? k₁ ((k₂, v₂) :: r₂) = none := get?_eq_none fun e he => by
          rcases List.mem_cons.1 he with he | he
          · exact he ▸ hlt
          · exact Std.TransCmp.lt_trans hlt (hc₂.1 e he)
        have := h k₁
        rw [hn] at this
        simp [get?] at this
      | gt =>
        have hlt := Std.OrientedCmp.gt_iff_lt.1 hlt
        have hn : get? k₂ ((k₁, v₁) :: r₁) = none := get?_eq_none fun e he => by
          rcases List.mem_cons.1 he with he | he
          · exact he ▸ hlt
          · exact Std.TransCmp.lt_trans hlt (hc₁.1 e he)
        have := h k₂
        rw [hn] at this
        simp [get?] at this
    have hk : k₁ = k₂ := Std.LawfulEqCmp.eq_of_compare hk
    subst hk
    have hv : v₁ = v₂ := by simpa [get?] using h k₁
    subst hv
    refine congrArg _ (Ascending.eq_of_get? hc₁.2 hc₂.2 fun k => ?_)
    have hk := h k
    cases hc : compare k k₁ with
    | eq =>
      have : k = k₁ := Std.LawfulEqCmp.eq_of_compare hc
      subst this
      rw [get?_eq_none hc₁.1, get?_eq_none hc₂.1]
    | lt => simpa [get?, hc] using hk
    | gt => simpa [get?, hc] using hk

end EntryList

/-! ## 2. Catalogs -/

/-- Values under keys, listed in ascending order of key. -/
structure Catalog (κ ν : Type) [Ord κ] where
  /-- The entries in ascending order of key. -/
  entries : List (κ × ν)
  ascending : EntryList.Ascending entries

namespace Catalog

variable {κ ν : Type} [Ord κ]

@[ext] theorem ext {c d : Catalog κ ν} (h : c.entries = d.entries) : c = d := by
  cases c; cases d; simpa using h

instance [DecidableEq κ] [DecidableEq ν] : DecidableEq (Catalog κ ν) := fun c d =>
  if h : c.entries = d.entries then isTrue (Catalog.ext h)
  else isFalse fun e => h (congrArg _ e)

/-- The catalog without entries. -/
def empty : Catalog κ ν := ⟨[], List.Pairwise.nil⟩

instance : Inhabited (Catalog κ ν) := ⟨empty⟩

/-- The value under the key. -/
def get? (c : Catalog κ ν) (k : κ) : Option ν := EntryList.get? k c.entries

/-- Whether there is a value under the key. -/
def contains (c : Catalog κ ν) (k : κ) : Bool := (c.get? k).isSome

/-- The keys in ascending order. -/
def keys (c : Catalog κ ν) : List κ := c.entries.map (·.1)

/-- The values in ascending order of their keys. -/
def values (c : Catalog κ ν) : List ν := c.entries.map (·.2)

/-- The number of entries. -/
def size (c : Catalog κ ν) : Nat := c.entries.length

/-- Whether there is no entry. -/
def isEmpty (c : Catalog κ ν) : Bool := c.entries.isEmpty

@[simp] theorem get?_empty (k : κ) : (empty : Catalog κ ν).get? k = none := rfl

/-- Every value stands under the key that it names itself. -/
def Keyed (key : ν → κ) (c : Catalog κ ν) : Prop := ∀ e ∈ c.entries, key e.2 = e.1

theorem keyed_empty (key : ν → κ) : Keyed key empty := fun _ h => absurd h List.not_mem_nil

/-- Leaves out the entry with this key. -/
def erase (c : Catalog κ ν) (k : κ) : Catalog κ ν :=
  ⟨EntryList.erase k c.entries, c.ascending.erase⟩

theorem Keyed.erase {key : ν → κ} {c : Catalog κ ν} (h : c.Keyed key) (k : κ) :
    (c.erase k).Keyed key :=
  fun e he => h e (EntryList.mem_of_mem_erase he)

variable [Std.LawfulEqOrd κ]

@[simp] theorem get?_erase_self (c : Catalog κ ν) (k : κ) : (c.erase k).get? k = none :=
  EntryList.get?_erase_self k c.entries

theorem get?_erase_ne (c : Catalog κ ν) {k k' : κ} (h : k' ≠ k) :
    (c.erase k).get? k' = c.get? k' :=
  EntryList.get?_erase_ne h c.entries

variable [Std.TransOrd κ]

/-- Puts the value under the key, in place of the value that was there. -/
def insert (c : Catalog κ ν) (k : κ) (v : ν) : Catalog κ ν :=
  ⟨EntryList.insert k v c.entries, c.ascending.insert⟩

theorem Keyed.insert {key : ν → κ} {c : Catalog κ ν} (h : c.Keyed key) {k : κ} {v : ν}
    (hk : key v = k) : (c.insert k v).Keyed key := by
  intro e he
  rcases EntryList.mem_insert he with rfl | he
  · exact hk
  · exact h e he

/-- The entries put in one after the other: of two with the same key the later one stays. -/
def ofList (l : List (κ × ν)) : Catalog κ ν :=
  l.foldl (fun c e => c.insert e.1 e.2) empty

@[simp] theorem get?_insert_self (c : Catalog κ ν) (k : κ) (v : ν) :
    (c.insert k v).get? k = some v :=
  EntryList.get?_insert_self k v c.entries

theorem get?_insert_ne (c : Catalog κ ν) {k k' : κ} (v : ν) (h : k' ≠ k) :
    (c.insert k v).get? k' = c.get? k' :=
  EntryList.get?_insert_ne v h c.entries

/-- **A catalog is determined by its look-ups.** -/
theorem ext_get? {c d : Catalog κ ν} (h : ∀ k, c.get? k = d.get? k) : c = d :=
  Catalog.ext (c.ascending.eq_of_get? d.ascending h)

end Catalog

end ScriptHost
