import ScriptHost.Text.Split
import ScriptHost.Toml.Reader

/-!
# What readers do

The readers of a grammar are put together from a few; here is what each way of putting them together
does to a text.

* `bind_of_some`, `optional_of_some` and the like: what is read when it is known what the parts
  read.
* **`separated_joined`**: members that are written one behind the other, with a separator between
  each two, are read again.
* `Yields`: what is read has a property, whatever the text. The ways of putting readers together
  keep such properties.
-/

namespace ScriptHost.Toml.Reader

variable {α β : Type} {p q : Reader α} {f : α → Reader β} {s r t : List Char} {a : α} {b : β}

/-! ## 1. One reader behind another -/

theorem bind_of_some (h : p s = some (a, r)) : (p >>= f) s = f a r := by
  show (p s).bind _ = _
  rw [h]
  rfl

theorem bind_of_none (h : p s = none) : (p >>= f) s = none := by
  show (p s).bind _ = _
  rw [h]
  rfl

theorem map_of_some {g : α → β} (h : p s = some (a, r)) : (g <$> p) s = some (g a, r) := by
  show (p s).bind _ = _
  rw [h]
  rfl

theorem map_of_none {g : α → β} (h : p s = none) : (g <$> p) s = none := by
  show (p s).bind _ = _
  rw [h]
  rfl

theorem orElse_of_none (h : p s = none) : (p <|> q) s = q s := by
  show (p s <|> q s) = _
  rw [h]
  rfl

theorem orElse_of_some (h : p s = some (a, r)) : (p <|> q) s = some (a, r) := by
  show (p s <|> q s) = _
  rw [h]
  rfl

theorem optional_of_some (h : p s = some (a, r)) : (optional p) s = some (some a, r) :=
  orElse_of_some (map_of_some h)

theorem optional_of_none (h : p s = none) : (optional p) s = some (none, s) :=
  orElse_of_none (map_of_none h)

/-! ## 2. Characters -/

theorem char_cons (c : Char) (r : List Char) : char c (c :: r) = some ((), r) := by
  have h : satisfy (· == c) (c :: r) = some (c, r) := by simp [satisfy]
  exact bind_of_some h

theorem char_of_head? {c : Char} (h : s.head? ≠ some c) : char c s = none := by
  refine bind_of_none ?_
  cases s with
  | nil => rfl
  | cons d r =>
    have hd : (d == c) = false := by simpa using h
    simp [satisfy, hd]

/-! ## 3. Repetition -/

theorem manyFrom_of_none (h : p s = none) : manyFrom p s = ([], s) := by
  rw [manyFrom, h]

theorem manyFrom_of_some (h : p s = some (a, r)) (hr : r.length < s.length) :
    manyFrom p s = (a :: (manyFrom p r).1, (manyFrom p r).2) := by
  rw [manyFrom, h]
  simp only [hr, dif_pos]

/-- Members behind separators are read until there is no further separator. -/
theorem manyFrom_joined {sep : Char} {text : α → List Char} {ends : List Char → Prop}
    (hsep : ∀ r, ends (sep :: r)) (hs : ends s) (hhead : s.head? ≠ some sep) :
    ∀ members : List α, (∀ a ∈ members, ∀ r, ends r → p (text a ++ r) = some (a, r)) →
      manyFrom (do char sep; p) (members.flatMap (sep :: text ·) ++ s) = (members, s)
  | [], _ => manyFrom_of_none (bind_of_none (char_of_head? hhead))
  | a :: members, h => by
    obtain ⟨ha, hmembers⟩ := List.forall_mem_cons.1 h
    have ih := manyFrom_joined hsep hs hhead members hmembers
    generalize hrest : members.flatMap (sep :: text ·) ++ s = rest at ih
    have hends : ends rest := by
      rw [← hrest]
      cases members with
      | nil => exact hs
      | cons b members => exact hsep _
    have hread : (do char sep; p : Reader α) (sep :: (text a ++ rest)) = some (a, rest) :=
      (bind_of_some (char_cons sep _)).trans (ha rest hends)
    have hlength : rest.length < (sep :: (text a ++ rest)).length := by
      simp only [List.length_cons, List.length_append]
      omega
    rw [List.flatMap_cons, List.append_assoc, List.cons_append, hrest,
      manyFrom_of_some hread hlength, ih]

/-- **Members with a separator between each two are read again**, if each of them is read before
what can follow it. -/
theorem separated_joined {sep : Char} {text : α → List Char} {ends : List Char → Prop}
    (hsep : ∀ r, ends (sep :: r)) (hs : ends s) (hhead : s.head? ≠ some sep) {members : List α}
    (hne : members ≠ []) (h : ∀ a ∈ members, ∀ r, ends r → p (text a ++ r) = some (a, r)) :
    separated sep p (Text.joined sep (members.map text) ++ s) = some (members, s) := by
  cases members with
  | nil => exact absurd rfl hne
  | cons a members =>
    obtain ⟨ha, hmembers⟩ := List.forall_mem_cons.1 h
    have hmany := manyFrom_joined hsep hs hhead members hmembers
    rw [List.map_cons, Text.joined_cons, List.append_assoc, List.flatMap_map]
    generalize hrest : members.flatMap (sep :: text ·) ++ s = rest at hmany ⊢
    have hends : ends rest := by
      rw [← hrest]
      cases members with
      | nil => exact hs
      | cons b members => exact hsep _
    have hmore : many (do char sep; p) rest = some (members, s) := congrArg some hmany
    exact (bind_of_some (ha rest hends)).trans (bind_of_some hmore)

/-! ## 4. What is read -/

/-- What the reader reads has the property. -/
def Yields (P : α → Prop) (p : Reader α) : Prop := ∀ s a r, p s = some (a, r) → P a

variable {P : α → Prop} {Q : β → Prop}

theorem yields_pure (h : P a) : Yields P (pure a) := by
  intro s a' r hread
  cases hread
  exact h

theorem yields_failure : Yields P failure := by
  intro s a r hread
  cases hread

theorem yields_ite {c : Prop} [Decidable c] (hp : Yields P p) (hq : Yields P q) :
    Yields P (if c then p else q) := by
  split
  · exact hp
  · exact hq

theorem Yields.bind (hp : Yields P p) (hf : ∀ a, P a → Yields Q (f a)) : Yields Q (p >>= f) := by
  intro s b r hread
  obtain ⟨⟨a, t⟩, ha, hb⟩ := Option.bind_eq_some_iff.1 hread
  exact hf a (hp s a t ha) t b r hb

/-- What is read first may be anything. -/
theorem yields_behind (hf : ∀ a, Yields Q (f a)) : Yields Q (p >>= f) := by
  intro s b r hread
  obtain ⟨⟨a, t⟩, -, hb⟩ := Option.bind_eq_some_iff.1 hread
  exact hf a t b r hb

theorem yields_map {g : α → β} (hg : ∀ a, Q (g a)) : Yields Q (g <$> p) :=
  yields_behind fun a => yields_pure (hg a)

theorem Yields.orElse (hp : Yields P p) (hq : Yields P q) : Yields P (p <|> q) := by
  intro s a r hread
  cases h : p s with
  | none => exact hq s a r ((orElse_of_none h).symm.trans hread)
  | some found =>
    rw [orElse_of_some h] at hread
    exact hp s a r (h.trans hread)

theorem Yields.optional (hp : Yields P p) : Yields (∀ a ∈ ·, P a) (optional p) := by
  refine Yields.orElse (Yields.bind hp fun a ha => yields_pure ?_) (yields_pure ?_)
  · intro a' h
    cases h
    exact ha
  · intro a h
    cases h

theorem Yields.manyFrom (hp : Yields P p) (s : List Char) : ∀ a ∈ (manyFrom p s).1, P a := by
  fun_induction Reader.manyFrom p s with
  | case1 => exact fun _ h => absurd h List.not_mem_nil
  | case2 s a r hread hlength more ih => exact List.forall_mem_cons.2 ⟨hp s a r hread, ih⟩
  | case3 => exact fun _ h => absurd h List.not_mem_nil

theorem Yields.many (hp : Yields P p) : Yields (∀ a ∈ ·, P a) (many p) := by
  intro s l r hread
  have hmany := hp.manyFrom s
  rwa [show Reader.manyFrom p s = (l, r) from Option.some.inj hread] at hmany

theorem Yields.separated (hp : Yields P p) (sep : Char) :
    Yields (∀ a ∈ ·, P a) (separated sep p) :=
  hp.bind fun _ ha => Yields.bind (Yields.many (yields_behind fun _ => hp)) fun _ hl =>
    yields_pure (List.forall_mem_cons.2 ⟨ha, hl⟩)

end ScriptHost.Toml.Reader
