import ScriptHost.Catalog

/-!
# Laws of catalogs

Look-ups, keys, values and entries of a catalog tell the same.

* `Catalog.mem_entries`: an entry is listed exactly if its key is looked up as its value; so are
  values (`mem_values`) and keys (`mem_keys`).
* `Catalog.findSome?_values_first`: what is found first among the values stands under the smallest
  key under which anything is found.
* `Catalog.keys_eq`: **catalogs with the same keys list them in the same order**, whatever stands
  under them.
* `Catalog.values_insert_perm`, `Catalog.values_perm_of_get?`: the values after putting one in, and
  the value under a key taken out, up to order. What is counted over a catalog is counted with them.
* `Catalog.entries_ofList`: entries put in by ascending key are listed as they came.
-/

namespace ScriptHost

/-! ## 1. Entry lists -/

namespace EntryList

variable {κ ν : Type} [Ord κ]

/-- In an ascending list nothing is left out under a key that is smaller than all others. -/
theorem erase_of_forall_lt {k : κ} :
    ∀ {l : List (κ × ν)}, (∀ e ∈ l, compare k e.1 = .lt) → erase k l = l
  | [], _ => rfl
  | (k', v') :: rest, h => by
    have h₁ := h (k', v') List.mem_cons_self
    have ih := erase_of_forall_lt (l := rest) fun e he => h e (List.mem_cons_of_mem _ he)
    simp only at h₁
    simp only [erase, h₁, ih]

variable [Std.LawfulEqOrd κ]

theorem mem_of_get? {k : κ} {v : ν} : ∀ {l : List (κ × ν)}, get? k l = some v → (k, v) ∈ l
  | [], h => by cases h
  | (k', v') :: rest, h => by
    unfold get? at h
    split at h
    · rename_i hc
      have hk : k = k' := Std.LawfulEqCmp.eq_of_compare hc
      cases h
      rw [hk]
      exact List.mem_cons_self
    · exact List.mem_cons_of_mem _ (mem_of_get? h)

/-- A list is the entry under a key and what is left without it. -/
theorem perm_of_get? {k : κ} {v : ν} :
    ∀ {l : List (κ × ν)}, Ascending l → get? k l = some v → l.Perm ((k, v) :: erase k l)
  | [], _, h => by cases h
  | (k', v') :: rest, ha, h => by
    have hc := List.pairwise_cons.1 ha
    cases hk : compare k k' with
    | eq =>
      have he : k = k' := Std.LawfulEqCmp.eq_of_compare hk
      subst he
      simp only [get?, hk, Option.some.injEq] at h
      simp only [erase, hk]
      rw [h, erase_of_forall_lt hc.1]
    | lt | gt =>
      simp only [get?, hk] at h
      simp only [erase, hk]
      exact ((perm_of_get? hc.2 h).cons _).trans (List.Perm.swap _ _ _)

variable [Std.TransOrd κ]

theorem get?_of_mem {k : κ} {v : ν} :
    ∀ {l : List (κ × ν)}, Ascending l → (k, v) ∈ l → get? k l = some v
  | [], _, hm => absurd hm List.not_mem_nil
  | (k', v') :: rest, h, hm => by
    have hc := List.pairwise_cons.1 h
    rcases List.mem_cons.1 hm with he | hm
    · cases he
      simp [get?]
    · have hlt : compare k' k = .lt := hc.1 (k, v) hm
      have hgt : compare k k' = .gt := Std.OrientedCmp.gt_iff_lt.2 hlt
      simp only [get?, hgt]
      exact get?_of_mem hc.2 hm

/-- Putting a value in is taking out what stands under its key and adding the entry. -/
theorem insert_perm {k : κ} {v : ν} :
    ∀ {l : List (κ × ν)}, Ascending l → (insert k v l).Perm ((k, v) :: erase k l)
  | [], _ => List.Perm.refl _
  | (k', v') :: rest, h => by
    have hc := List.pairwise_cons.1 h
    cases hk : compare k k' with
    | lt =>
      have hall : ∀ e ∈ (k', v') :: rest, compare k e.1 = .lt := by
        intro e he
        rcases List.mem_cons.1 he with rfl | he
        · exact hk
        · exact Std.TransCmp.lt_trans hk (hc.1 e he)
      rw [erase_of_forall_lt hall]
      simp only [insert, hk]
      exact List.Perm.refl _
    | eq =>
      have he : k = k' := Std.LawfulEqCmp.eq_of_compare hk
      subst he
      simp only [insert, erase, hk]
      rw [erase_of_forall_lt hc.1]
    | gt =>
      simp only [insert, erase, hk]
      exact ((insert_perm hc.2).cons _).trans (List.Perm.swap _ _ _)

omit [Std.LawfulEqOrd κ] in
/-- A key that is larger than all others is put at the end. -/
theorem insert_of_forall_lt {k : κ} {v : ν} :
    ∀ {l : List (κ × ν)}, (∀ e ∈ l, compare e.1 k = .lt) → insert k v l = l ++ [(k, v)]
  | [], _ => rfl
  | (k', v') :: rest, h => by
    have hk : compare k k' = .gt := Std.OrientedCmp.gt_iff_lt.2 (h (k', v') List.mem_cons_self)
    have ih := insert_of_forall_lt (v := v) fun e he => h e (List.mem_cons_of_mem _ he)
    simp only [insert, hk, ih, List.cons_append]

end EntryList

/-! ## 2. Look-ups -/

namespace Catalog

variable {κ ν μ : Type} [Ord κ]

theorem contains_iff {c : Catalog κ ν} {k : κ} : c.contains k = true ↔ ∃ v, c.get? k = some v :=
  Option.isSome_iff_exists

theorem keys_pairwise (c : Catalog κ ν) : c.keys.Pairwise fun a b => compare a b = .lt :=
  List.pairwise_map.2 c.ascending

/-- Values that name their own keys name the keys in order. -/
theorem Keyed.map_values {key : ν → κ} {c : Catalog κ ν} (hc : c.Keyed key) :
    c.values.map key = c.keys := by
  unfold values keys
  rw [List.map_map]
  exact List.map_congr_left fun e he => hc e he

/-- Values that name their own keys are listed in ascending order of them. -/
theorem Keyed.values_pairwise {key : ν → κ} {c : Catalog κ ν} (hc : c.Keyed key) :
    c.values.Pairwise fun a b => compare (key a) (key b) = .lt := by
  have h := keys_pairwise c
  rw [← hc.map_values] at h
  exact List.pairwise_map.1 h

variable [Std.LawfulEqOrd κ]

theorem keys_nodup (c : Catalog κ ν) : c.keys.Nodup :=
  (keys_pairwise c).imp fun {a b} hab he => by
    subst he
    simp at hab

theorem get?_erase [DecidableEq κ] (c : Catalog κ ν) (k k' : κ) :
    (c.erase k).get? k' = if k' = k then none else c.get? k' := by
  split
  · rename_i h
    rw [h, get?_erase_self]
  · rename_i h
    exact get?_erase_ne c h

variable [Std.TransOrd κ]

theorem get?_insert [DecidableEq κ] (c : Catalog κ ν) (k k' : κ) (v : ν) :
    (c.insert k v).get? k' = if k' = k then some v else c.get? k' := by
  split
  · rename_i h
    rw [h, get?_insert_self]
  · rename_i h
    exact get?_insert_ne c v h

/-- **An entry is listed exactly if its key is looked up as its value.** -/
theorem mem_entries {c : Catalog κ ν} {k : κ} {v : ν} :
    (k, v) ∈ c.entries ↔ c.get? k = some v :=
  ⟨EntryList.get?_of_mem c.ascending, EntryList.mem_of_get?⟩

theorem mem_values {c : Catalog κ ν} {v : ν} : v ∈ c.values ↔ ∃ k, c.get? k = some v := by
  constructor
  · intro h
    obtain ⟨⟨k, v'⟩, he, rfl⟩ := List.mem_map.1 h
    exact ⟨k, mem_entries.1 he⟩
  · rintro ⟨k, h⟩
    exact List.mem_map.2 ⟨(k, v), mem_entries.2 h, rfl⟩

theorem findSome?_values_eq_none {c : Catalog κ ν} {f : ν → Option μ} :
    c.values.findSome? f = none ↔ ∀ k v, c.get? k = some v → f v = none := by
  rw [List.findSome?_eq_none_iff]
  constructor
  · exact fun h k v hv => h v (mem_values.2 ⟨k, hv⟩)
  · intro h v hv
    obtain ⟨k, hk⟩ := mem_values.1 hv
    exact h k v hk

/-- **What is found first among the values** is found under some key; whatever else could be found
stands under a larger one. -/
theorem findSome?_values_first {c : Catalog κ ν} {f : ν → Option μ} {b : μ}
    (h : c.values.findSome? f = some b) : ∃ k v, c.get? k = some v ∧ f v = some b ∧
      ∀ k' v', c.get? k' = some v' → f v' ≠ none → (k' = k ∧ v' = v) ∨ compare k k' = .lt := by
  unfold values at h
  rw [List.findSome?_map] at h
  obtain ⟨before, ⟨k, v⟩, after, hentries, hv, hbefore⟩ := List.findSome?_eq_some_iff.1 h
  refine ⟨k, v, mem_entries.1 (hentries ▸ by simp), hv, fun k' v' hk' hfound => ?_⟩
  have hmem := mem_entries.2 hk'
  have hascending := c.ascending
  rw [hentries] at hmem hascending
  rcases List.mem_append.1 hmem with hm | hm
  · exact absurd (hbefore _ hm) hfound
  rcases List.mem_cons.1 hm with he | hm
  · cases he
    exact .inl ⟨rfl, rfl⟩
  · exact .inr ((List.pairwise_cons.1 (List.pairwise_append.1 hascending).2.1).1 _ hm)

theorem mem_keys {c : Catalog κ ν} {k : κ} : k ∈ c.keys ↔ ∃ v, c.get? k = some v := by
  constructor
  · intro h
    obtain ⟨⟨k', v⟩, he, rfl⟩ := List.mem_map.1 h
    exact ⟨v, mem_entries.1 he⟩
  · rintro ⟨v, h⟩
    exact List.mem_map.2 ⟨(k, v), mem_entries.2 h, rfl⟩

/-- A value that names its own key is looked up under it. -/
theorem Keyed.key_eq {key : ν → κ} {c : Catalog κ ν} (hc : c.Keyed key) {k : κ} {v : ν}
    (h : c.get? k = some v) : key v = k :=
  hc (k, v) (mem_entries.2 h)

theorem Keyed.get?_key {key : ν → κ} {c : Catalog κ ν} (hc : c.Keyed key) {v : ν}
    (h : v ∈ c.values) : c.get? (key v) = some v := by
  obtain ⟨k, hk⟩ := mem_values.1 h
  rw [hc.key_eq hk]
  exact hk

/-! ## 3. Order of the keys -/

/-- **The keys alone decide in which order they are listed.** -/
theorem keys_eq {c : Catalog κ ν} {d : Catalog κ μ} (h : ∀ k, k ∈ c.keys ↔ k ∈ d.keys) :
    c.keys = d.keys := by
  refine List.Perm.eq_of_pairwise (fun a b _ _ hab hba => ?_) (keys_pairwise c) (keys_pairwise d)
    ((List.perm_ext_iff_of_nodup c.keys_nodup d.keys_nodup).2 h)
  have hgt := Std.OrientedCmp.gt_iff_lt.2 hab
  rw [hba] at hgt
  cases hgt

theorem entries_foldl_insert : ∀ (l : List (κ × ν)) (c : Catalog κ ν),
    EntryList.Ascending (c.entries ++ l) →
      (l.foldl (fun c e => c.insert e.1 e.2) c).entries = c.entries ++ l
  | [], c, _ => (List.append_nil _).symm
  | e :: rest, c, h => by
    have hlast : (c.insert e.1 e.2).entries = c.entries ++ [e] :=
      EntryList.insert_of_forall_lt fun e' he =>
        (List.pairwise_append.1 h).2.2 e' he e List.mem_cons_self
    have hsplit : c.entries ++ e :: rest = c.entries ++ [e] ++ rest := by simp
    rw [hsplit, ← hlast] at h ⊢
    exact entries_foldl_insert rest (c.insert e.1 e.2) h

/-- **Entries put in by ascending key are listed as they came.** -/
theorem entries_ofList {l : List (κ × ν)} (h : EntryList.Ascending l) :
    (ofList l).entries = l :=
  entries_foldl_insert l empty h

/-! ## 4. Values up to order -/

theorem erase_of_get?_none {c : Catalog κ ν} {k : κ} (h : c.get? k = none) : c.erase k = c := by
  refine ext_get? fun k' => ?_
  by_cases hk : k' = k
  · rw [hk, get?_erase_self, h]
  · exact get?_erase_ne c hk

theorem values_insert_perm (c : Catalog κ ν) (k : κ) (v : ν) :
    (c.insert k v).values.Perm (v :: (c.erase k).values) :=
  (EntryList.insert_perm c.ascending).map _

omit [Std.TransOrd κ] in
theorem values_perm_of_get? {c : Catalog κ ν} {k : κ} {v : ν} (h : c.get? k = some v) :
    c.values.Perm (v :: (c.erase k).values) :=
  (EntryList.perm_of_get? c.ascending h).map _

/-- What stands under a key, and what is left without it. -/
theorem values_perm (c : Catalog κ ν) (k : κ) :
    c.values.Perm ((c.get? k).toList ++ (c.erase k).values) := by
  cases h : c.get? k with
  | none =>
    rw [erase_of_get?_none h]
    exact List.Perm.refl _
  | some v => exact values_perm_of_get? h

/-- What is listed after putting a value in: that value, or what stands under another key. -/
theorem mem_values_insert {c : Catalog κ ν} {k : κ} {v w : ν} :
    w ∈ (c.insert k v).values ↔ w = v ∨ w ∈ (c.erase k).values :=
  (values_insert_perm c k v).mem_iff.trans List.mem_cons

omit [Std.LawfulEqOrd κ] [Std.TransOrd κ] in
theorem mem_values_of_erase {c : Catalog κ ν} {k : κ} {v : ν} (h : v ∈ (c.erase k).values) :
    v ∈ c.values := by
  obtain ⟨e, he, rfl⟩ := List.mem_map.1 h
  exact List.mem_map_of_mem (EntryList.mem_of_mem_erase he)

theorem forall_values_insert {P : ν → Prop} {c : Catalog κ ν} {k : κ} {v : ν}
    (h : ∀ w ∈ c.values, P w) (hv : P v) : ∀ w ∈ (c.insert k v).values, P w := by
  intro w hw
  rcases mem_values_insert.1 hw with rfl | hw
  · exact hv
  · exact h w (mem_values_of_erase hw)

/-- Putting in what is there changes nothing. -/
theorem insert_of_get? {c : Catalog κ ν} {k : κ} {v : ν} (h : c.get? k = some v) :
    c.insert k v = c := by
  refine ext_get? fun k' => ?_
  by_cases hk : k' = k
  · rw [hk, get?_insert_self, h]
  · exact get?_insert_ne c v hk

end Catalog

end ScriptHost
