import ScriptHost.Proofs.Module.Life

/-!
# Instances in custody

An account of instances that several owners share. Interpreters hold the instance they were made
from; other owners keep it besides, and of these it only matters whether there is one.

* `Held k`: the life of an open instance that has `k` interpreters. `Ended`: the life of one that
  was closed after all its interpreters were dropped.
* `Custody`: what the effects so far say about held instances and about all others. Each of the few
  moves -- opening, rejecting, making, using and dropping an interpreter, letting go -- keeps it.
* `Custody.closes`: **an instance is closed by exactly those effects after which nothing holds it
  any more.** What was closed has no further record (`Custody.silent`), and the open instances are
  those that are held (`Custody.mem_openInstances`).
-/

namespace ScriptHost

/-! ## 1. Shapes of a life -/

/-- Whether an interpreter is used in the record. -/
def Life.isUse : Life → Bool
  | .equipped _ | .ran .. => true
  | _ => false

/-- The life of an open instance that has `k` interpreters. Each use is one of an interpreter that
there is. -/
inductive Held : Nat → List Life → Prop where
  | opened : Held 0 [.opened]
  | created {k : Nat} {life : List Life} (held : Held k life) : Held (k + 1) (life ++ [.created])
  | used {k : Nat} {life : List Life} {event : Life} (held : Held (k + 1) life)
      (use : event.isUse = true) : Held (k + 1) (life ++ [event])
  | dropped {k : Nat} {life : List Life} (held : Held (k + 1) life) :
      Held k (life ++ [.dropped])

/-- The life of an instance that was closed when it had no interpreter any more. -/
def Ended (life : List Life) : Prop := ∃ before, Held 0 before ∧ life = before ++ [.closed]

variable {k : Nat} {life more : List Life}

theorem Held.mem_opened (h : Held k life) : Life.opened ∈ life := by
  induction h with
  | opened => exact List.mem_singleton.2 rfl
  | created _ ih => exact List.mem_append_left _ ih
  | used _ _ ih => exact List.mem_append_left _ ih
  | dropped _ ih => exact List.mem_append_left _ ih

theorem Held.not_mem_closed (h : Held k life) : Life.closed ∉ life := by
  induction h with
  | opened => decide
  | created _ ih => simpa using ih
  | @used _ _ event _ use ih =>
    have hne : Life.closed ≠ event := by
      rintro rfl
      cases use
    simpa using ⟨ih, hne⟩
  | dropped _ ih => simpa using ih

/-- Of the interpreters that were made all were dropped but those that there are. -/
theorem Held.count_created (h : Held k life) :
    life.count .created = life.count .dropped + k := by
  induction h with
  | opened => decide
  | created _ ih =>
    rw [List.count_append, List.count_append, ih]
    exact Nat.add_assoc _ _ _
  | @used _ _ event _ use ih =>
    have hcreated : event ≠ .created := by
      rintro rfl
      cases use
    have hdropped : event ≠ .dropped := by
      rintro rfl
      cases use
    rw [List.count_append, List.count_append, ih, List.count_singleton, List.count_singleton,
      if_neg (by simpa using hcreated), if_neg (by simpa using hdropped)]
    rfl
  | dropped _ ih =>
    rw [List.count_append, List.count_append, ih]
    show _ + 0 = _ + 1 + _
    omega

theorem Ended.mem_closed (h : Ended life) : Life.closed ∈ life := by
  obtain ⟨before, -, rfl⟩ := h
  exact List.mem_append_right _ (List.mem_singleton.2 rfl)

theorem Ended.mem_opened (h : Ended life) : Life.opened ∈ life := by
  obtain ⟨before, hheld, rfl⟩ := h
  exact List.mem_append_left _ hheld.mem_opened

/-- What has ended was closed once, with its last record, when all interpreters that were made from
it were dropped. -/
theorem Ended.closed_last (h : Ended life) : life.count .closed = 1 ∧
    life.getLast? = some .closed ∧ life.count .created = life.count .dropped := by
  obtain ⟨before, hheld, rfl⟩ := h
  refine ⟨?_, List.getLast?_concat, ?_⟩
  · rw [List.count_append, List.count_eq_zero.2 hheld.not_mem_closed]
    rfl
  · rw [List.count_append, List.count_append, hheld.count_created]
    rfl

/-- What has ended does not go on: no longer life ends the same way. -/
theorem Ended.append_eq_nil (h : Ended life) (hmore : Ended (life ++ more)) : more = [] := by
  obtain ⟨before, hheld, hlife⟩ := hmore
  exact append_eq_nil_of_closed h.mem_closed (.inr ⟨before, hlife, hheld.not_mem_closed⟩)

/-! ## 2. The account -/

/-- The account of instances that are kept, or made the interpreters with these serial numbers,
after so many openings and with these effects so far. -/
structure Custody (keeps : Nat → Prop) (made : List Nat) (asked : Nat) (past : List Effect) :
    Prop where
  /-- Those that anything holds are open, with the interpreters that there are. -/
  held : ∀ n, keeps n ∨ n ∈ made → Held (made.count n) (lives n past)
  /-- All others have ended, or never were. -/
  others : ∀ n, ¬ (keeps n ∨ n ∈ made) → lives n past = [] ∨ Ended (lives n past)
  /-- The next serial numbers are free. -/
  fresh : ∀ n, asked ≤ n → lives n past = []

namespace Custody

variable {keeps keeps' : Nat → Prop} {made made' : List Nat} {asked asked' n : Nat}
  {past effects : List Effect}

theorem start (asked : Nat) : Custody (fun _ => False) [] asked [] where
  held _ h := absurd (h.resolve_left id) List.not_mem_nil
  others _ _ := .inl rfl
  fresh _ _ := rfl

/-- Who keeps an instance and in which order the interpreters are listed does not matter. -/
theorem congr (h : Custody keeps made asked past)
    (hheld : ∀ n, keeps n ∨ n ∈ made ↔ keeps' n ∨ n ∈ made') (hmade : made.Perm made') :
    Custody keeps' made' asked past where
  held n hn := hmade.count_eq n ▸ h.held n ((hheld n).2 hn)
  others n hn := h.others n fun hm => hn ((hheld n).1 hm)
  fresh := h.fresh

/-- Reports and diagnostics change nothing; nor do further openings. -/
theorem spoken (h : Custody keeps made asked past) (he : Spoken effects) :
    Custody keeps made asked (past ++ effects) where
  held n hn := by
    rw [he.lives_append]
    exact h.held n hn
  others n hn := by
    rw [he.lives_append]
    exact h.others n hn
  fresh n hn := by
    rw [he.lives_append]
    exact h.fresh n hn

theorem askedMore (h : Custody keeps made asked past) (hle : asked ≤ asked') :
    Custody keeps made asked' past :=
  ⟨h.held, h.others, fun n hn => h.fresh n (Nat.le_trans hle hn)⟩

theorem lt_asked (h : Custody keeps made asked past) (hn : keeps n ∨ n ∈ made) : n < asked := by
  refine Nat.lt_of_not_le fun hle => ?_
  have hopened := (h.held n hn).mem_opened
  rw [h.fresh n hle] at hopened
  cases hopened

/-- Nothing holds the next serial number. -/
theorem asked_not_held (h : Custody keeps made asked past) : ¬ (keeps asked ∨ asked ∈ made) :=
  fun hn => absurd (h.lt_asked hn) (Nat.lt_irrefl _)

/-- What a step has to show that goes on with the life of one instance: how that life looks then.
For all other instances nothing changes. -/
theorem move (h : Custody keeps made asked past) {events : List Life}
    (he : Records n events effects) (hkeeps : ∀ m, m ≠ n → (keeps' m ↔ keeps m))
    (hmade : ∀ m, m ≠ n → made'.count m = made.count m)
    (hheld : keeps' n ∨ n ∈ made' → Held (made'.count n) (lives n past ++ events))
    (hended : ¬ (keeps' n ∨ n ∈ made') → Ended (lives n past ++ events))
    (hlt : n < asked') (hle : asked ≤ asked') : Custody keeps' made' asked' (past ++ effects) := by
  have hsame : ∀ m, m ≠ n → (keeps' m ∨ m ∈ made' ↔ keeps m ∨ m ∈ made) := by
    intro m hm
    rw [hkeeps m hm, ← List.count_pos_iff, ← List.count_pos_iff, hmade m hm]
  refine ⟨fun m hm => ?_, fun m hm => ?_, fun m hm => ?_⟩
  · by_cases hne : m = n
    · subst hne
      rw [he.lives_of_self]
      exact hheld hm
    · rw [he.lives_of_ne hne, hmade m hne]
      exact h.held m ((hsame m hne).1 hm)
  · by_cases hne : m = n
    · subst hne
      rw [he.lives_of_self]
      exact .inr (hended hm)
    · rw [he.lives_of_ne hne]
      exact h.others m fun hu => hm ((hsame m hne).2 hu)
  · rw [he.lives_of_ne (by omega)]
    exact h.fresh m (by omega)

/-! ## 3. Moves -/

/-- An instance is opened and kept. -/
theorem opened (h : Custody keeps made asked past) (he : Records asked [.opened] effects) :
    Custody (fun m => keeps m ∨ m = asked) made (asked + 1) (past ++ effects) := by
  have hcount : made.count asked = 0 :=
    List.count_eq_zero.2 fun hm => h.asked_not_held (.inr hm)
  refine h.move he (fun m hm => or_iff_left hm) (fun _ _ => rfl) (fun _ => ?_)
    (fun hn => absurd (.inl (.inr rfl)) hn) (Nat.lt_succ_self _) (Nat.le_succ _)
  rw [h.fresh asked (Nat.le_refl _), List.nil_append, hcount]
  exact .opened

/-- An instance is opened and rejected. -/
theorem rejected (h : Custody keeps made asked past)
    (he : Records asked [.opened, .closed] effects) :
    Custody keeps made (asked + 1) (past ++ effects) := by
  refine h.move he (fun _ _ => Iff.rfl) (fun _ _ => rfl) (fun hn => absurd hn h.asked_not_held)
    (fun _ => ?_) (Nat.lt_succ_self _) (Nat.le_succ _)
  rw [h.fresh asked (Nat.le_refl _), List.nil_append]
  exact ⟨[.opened], .opened, rfl⟩

/-- An instance that is held makes an interpreter. -/
theorem created (h : Custody keeps made asked past) (hn : keeps n ∨ n ∈ made)
    (he : Records n [.created] effects) : Custody keeps (n :: made) asked (past ++ effects) := by
  refine h.move he (fun _ _ => Iff.rfl) (fun m hm => List.count_cons_of_ne hm.symm) (fun _ => ?_)
    (fun hnot => absurd (.inr List.mem_cons_self) hnot) (h.lt_asked hn) (Nat.le_refl _)
  rw [List.count_cons_self]
  exact .created (h.held n hn)

/-- An interpreter is used. -/
theorem used (h : Custody keeps made asked past) (hn : n ∈ made) {event : Life}
    (hu : event.isUse = true) (he : Records n [event] effects) :
    Custody keeps made asked (past ++ effects) := by
  refine h.move he (fun _ _ => Iff.rfl) (fun _ _ => rfl) (fun _ => ?_)
    (fun hnot => absurd (.inr hn) hnot) (h.lt_asked (.inr hn)) (Nat.le_refl _)
  have hheld := h.held n (.inr hn)
  obtain ⟨k, hk⟩ := Nat.exists_eq_add_one.2 (List.count_pos_iff.2 hn)
  rw [hk] at hheld ⊢
  exact .used hheld hu

/-- An interpreter is dropped; its instance is kept until it is let go. -/
theorem dropped (h : Custody keeps (n :: made) asked past) (he : Records n [.dropped] effects) :
    Custody (fun m => keeps m ∨ m = n) made asked (past ++ effects) := by
  have hheld := h.held n (.inr List.mem_cons_self)
  rw [List.count_cons_self] at hheld
  exact h.move he (fun m hm => or_iff_left hm) (fun m hm => (List.count_cons_of_ne hm.symm).symm)
    (fun _ => .dropped hheld) (fun hnot => absurd (.inl (.inr rfl)) hnot)
    (h.lt_asked (.inr List.mem_cons_self)) (Nat.le_refl _)

/-- An instance is let go and closed, since nothing else holds it. -/
theorem closed (h : Custody (fun m => keeps m ∨ m = n) made asked past)
    (hn : ¬ (keeps n ∨ n ∈ made)) (he : Records n [.closed] effects) :
    Custody keeps made asked (past ++ effects) := by
  have hheld := h.held n (.inl (.inr rfl))
  rw [List.count_eq_zero.2 fun hm => hn (.inr hm)] at hheld
  exact h.move he (fun m hm => (or_iff_left hm).symm) (fun _ _ => rfl)
    (fun hheld => absurd hheld hn) (fun _ => ⟨_, hheld, rfl⟩) (h.lt_asked (.inl (.inr rfl)))
    (Nat.le_refl _)

/-- An instance is let go that something else holds. -/
theorem passed (h : Custody (fun m => keeps m ∨ m = n) made asked past)
    (hn : keeps n ∨ n ∈ made) : Custody keeps made asked past := by
  refine h.congr (fun m => ⟨?_, fun hm => hm.imp_left .inl⟩) (List.Perm.refl _)
  rintro ((hm | rfl) | hm)
  · exact .inl hm
  · exact hn
  · exact .inr hm

/-! ## 4. What the account says -/

/-- What has a record and is not held has ended. -/
theorem ended_of_mem (h : Custody keeps made asked past) (hn : ¬ (keeps n ∨ n ∈ made))
    {event : Life} (he : event ∈ lives n past) : Ended (lives n past) :=
  (h.others n hn).resolve_left (List.ne_nil_of_mem he)

/-- What was closed is not held. -/
theorem not_held (h : Custody keeps made asked past) (hn : .closed ∈ lives n past) :
    ¬ (keeps n ∨ n ∈ made) :=
  fun hheld => (h.held n hheld).not_mem_closed hn

/-- What was closed has ended. -/
theorem ended (h : Custody keeps made asked past) (hn : .closed ∈ lives n past) :
    Ended (lives n past) :=
  h.ended_of_mem (h.not_held hn) hn

/-- What was closed has no further record. -/
theorem silent (h : Custody keeps made asked past)
    (h' : Custody keeps' made' asked' (past ++ effects)) (hn : .closed ∈ lives n past) :
    lives n effects = [] := by
  have hended' : Ended (lives n (past ++ effects)) := by
    refine h'.ended ?_
    rw [lives_append]
    exact List.mem_append_left _ hn
  rw [lives_append] at hended'
  exact (h.ended hn).append_eq_nil hended'

/-- What some effects close was held before them, or they opened it. -/
theorem held_or_opened (h : Custody keeps made asked past)
    (h' : Custody keeps' made' asked' (past ++ effects)) (hn : .closed ∈ lives n effects) :
    (keeps n ∨ n ∈ made) ∨ .opened ∈ lives n effects := by
  have hended : Ended (lives n past ++ lives n effects) := by
    rw [← lives_append]
    refine h'.ended ?_
    rw [lives_append]
    exact List.mem_append_right _ hn
  by_cases hheld : keeps n ∨ n ∈ made
  · exact .inl hheld
  rcases h.others n hheld with hnone | hbefore
  · rw [hnone, List.nil_append] at hended
    exact .inr hended.mem_opened
  · rw [hbefore.append_eq_nil hended] at hn
    cases hn

/-- **An instance is closed by exactly those effects** before which something held it, or which
opened it, and after which nothing holds it. -/
theorem closes (h : Custody keeps made asked past)
    (h' : Custody keeps' made' asked' (past ++ effects)) (n : Nat) :
    .closed ∈ lives n effects ↔
      ((keeps n ∨ n ∈ made) ∨ .opened ∈ lives n effects) ∧ ¬ (keeps' n ∨ n ∈ made') := by
  constructor
  · intro hclosed
    refine ⟨h.held_or_opened h' hclosed, h'.not_held ?_⟩
    rw [lives_append]
    exact List.mem_append_right _ hclosed
  · rintro ⟨hbefore, hafter⟩
    have hopened : .opened ∈ lives n (past ++ effects) := by
      rw [lives_append]
      rcases hbefore with hheld | hopened
      · exact List.mem_append_left _ (h.held n hheld).mem_opened
      · exact List.mem_append_right _ hopened
    have hclosed := (h'.ended_of_mem hafter hopened).mem_closed
    rw [lives_append] at hclosed
    refine (List.mem_append.1 hclosed).resolve_left fun hpast => ?_
    -- what was closed before is neither held nor opened now
    rcases hbefore with hheld | hopened
    · exact h.not_held hpast hheld
    · rw [h.silent h' hpast] at hopened
      cases hopened

/-- **The open instances are those that are held.** -/
theorem mem_openInstances (h : Custody keeps made asked past) (n : Nat) :
    n ∈ openInstances past ↔ keeps n ∨ n ∈ made := by
  rw [ScriptHost.mem_openInstances]
  constructor
  · rintro ⟨hopened, hclosed⟩
    exact Classical.byContradiction fun hn => hclosed (h.ended_of_mem hn hopened).mem_closed
  · intro hn
    exact ⟨(h.held n hn).mem_opened, (h.held n hn).not_mem_closed⟩

end Custody

end ScriptHost
