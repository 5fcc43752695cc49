/-!
# Splitting at a separator

A list is cut at every occurrence of a separator into the parts between them; there is one part
more than there are separators. Lines of a text, segments of a path and parts of a file name are
cut in this way.

Main statements: joining the parts gives the list back (`joined_split`), no part holds the
separator (`not_mem_of_mem_split`), a separator between two lists parts their parts
(`split_append`), and parts without the separator are what their join is cut into
(`split_joined`).
-/

namespace ScriptHost.Text

variable {α : Type} [DecidableEq α]

/-- The parts between the separators. -/
def split (sep : α) : List α → List (List α)
  | [] => [[]]
  | c :: r =>
    if c = sep then [] :: split sep r
    else
      match split sep r with
      | [] => [[c]]
      | part :: parts => (c :: part) :: parts

/-- The parts with a separator between each two. -/
def joined (sep : α) : List (List α) → List α
  | [] => []
  | [part] => part
  | part :: parts => part ++ sep :: joined sep parts

theorem split_ne_nil (sep : α) : ∀ s : List α, split sep s ≠ []
  | [] => by simp [split]
  | c :: r => by
    unfold split
    split
    · simp
    · split <;> simp

/-- **Nothing is lost by splitting.** -/
theorem joined_split (sep : α) : ∀ s : List α, joined sep (split sep s) = s
  | [] => rfl
  | c :: r => by
    have ih := joined_split sep r
    have hne := split_ne_nil sep r
    unfold split
    split
    · next h =>
      subst h
      cases hs : split c r with
      | nil => exact absurd hs hne
      | cons part parts => simp [joined, ← hs, ih]
    · cases hs : split sep r with
      | nil => exact absurd hs hne
      | cons part parts =>
        rw [hs] at ih
        cases parts with
        | nil => simpa [joined] using ih
        | cons => simpa [joined] using ih

theorem not_mem_of_mem_split (sep : α) :
    ∀ (s : List α) (part : List α), part ∈ split sep s → sep ∉ part
  | [], part, h => by simp_all [split]
  | c :: r, part, h => by
    have ih := not_mem_of_mem_split sep r
    unfold split at h
    split at h
    · rcases List.mem_cons.1 h with h | h
      · simp [h]
      · exact ih part h
    · next hc =>
      split at h
      · have : part = [c] := by simpa using h
        subst this
        simpa using fun h => hc h.symm
      · next hd tl hs =>
        rcases List.mem_cons.1 h with h | h
        · subst h
          have := ih hd (hs ▸ List.mem_cons_self)
          simpa [this] using fun h => hc h.symm
        · exact ih part (hs ▸ List.mem_cons_of_mem _ h)

/-- Without the separator there is one part. -/
theorem split_of_not_mem {sep : α} : ∀ {s : List α}, sep ∉ s → split sep s = [s]
  | [], _ => rfl
  | c :: r, h => by
    have hc : c ≠ sep := fun hc => h (hc ▸ List.mem_cons_self)
    have hr : sep ∉ r := fun hr => h (List.mem_cons_of_mem _ hr)
    rw [split, if_neg hc, split_of_not_mem hr]

/-- **A separator between two lists parts their parts.** -/
theorem split_append (sep : α) (t : List α) :
    ∀ s : List α, split sep (s ++ sep :: t) = split sep s ++ split sep t
  | [] => by simp [split]
  | c :: r => by
    have ih := split_append sep t r
    have hne := split_ne_nil sep r
    by_cases hc : c = sep
    · simp [split, hc, ih]
    · cases hs : split sep r with
      | nil => exact absurd hs hne
      | cons part parts => simp [split, hc, ih, hs]

omit [DecidableEq α] in
/-- Joined parts are the first one, and each other one behind a separator. -/
theorem joined_cons (sep : α) (part : List α) :
    ∀ parts : List (List α), joined sep (part :: parts) = part ++ parts.flatMap (sep :: ·)
  | [] => (List.append_nil part).symm
  | next :: parts => by
    show part ++ sep :: joined sep (next :: parts) = _
    rw [joined_cons sep next parts]
    rfl

omit [DecidableEq α] in
/-- Two lists of parts are joined with a separator between them. -/
theorem joined_append (sep : α) {a b : List (List α)} (ha : a ≠ []) (hb : b ≠ []) :
    joined sep (a ++ b) = joined sep a ++ sep :: joined sep b := by
  obtain ⟨part, a, rfl⟩ := List.exists_cons_of_ne_nil ha
  obtain ⟨next, b, rfl⟩ := List.exists_cons_of_ne_nil hb
  rw [List.cons_append, joined_cons, joined_cons, joined_cons, List.flatMap_append,
    List.flatMap_cons, List.append_assoc]
  rfl

/-- **Parts without the separator are what their join is cut into.** -/
theorem split_joined {sep : α} :
    ∀ {parts : List (List α)}, parts ≠ [] → (∀ part ∈ parts, sep ∉ part) →
      split sep (joined sep parts) = parts
  | [part], _, h => split_of_not_mem (h part List.mem_cons_self)
  | part :: next :: rest, _, h => by
    have ih := split_joined (List.cons_ne_nil next rest)
      fun p hp => h p (List.mem_cons_of_mem part hp)
    have hpart := split_of_not_mem (h part List.mem_cons_self)
    show split sep (part ++ sep :: joined sep (next :: rest)) = _
    rw [split_append, hpart, ih]
    rfl

end ScriptHost.Text
