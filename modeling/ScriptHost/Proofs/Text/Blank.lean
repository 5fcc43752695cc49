import ScriptHost.Text.Blank

/-!
# Blanks, words and gaps

What the two cuts at blanks make of a text that is put together from words and gaps.

* `Blank`, `Word`, `Gap`: what consists of blanks, what holds none, and blanks between two words.
* `trimStart_trimEnd`: it does not matter which end is trimmed first. `trim_between`: **blanks at
  the ends do not count.**
* `splitWord_gap`: **a word is parted from what follows behind a gap**, whichever gap it is.
-/

namespace ScriptHost.Text

/-! ## 1. Blanks, words and gaps -/

/-- All characters are blank. -/
def Blank (s : List Char) : Prop := ∀ c ∈ s, isBlank c = true

/-- There is a character, and none is blank. -/
def Word (s : List Char) : Prop := s ≠ [] ∧ ∀ c ∈ s, isBlank c = false

/-- A gap: some blanks. -/
def Gap (s : List Char) : Prop := s ≠ [] ∧ Blank s

theorem blank_of_all {s : List Char} (h : s.all isBlank = true) : Blank s := List.all_eq_true.1 h

theorem blank_nil : Blank [] := blank_of_all rfl

theorem word_of_all {s : List Char} (hne : s ≠ []) (h : (s.all fun c => !isBlank c) = true) :
    Word s :=
  ⟨hne, fun c hc => by simpa using List.all_eq_true.1 h c hc⟩

/-- What can be seen of ASCII is not blank. -/
theorem not_blank_of_bounds {c : Char} (hge : 0x21 ≤ c.toNat) (hle : c.toNat ≤ 0x7E) :
    isBlank c = false := by
  rw [Bool.eq_false_iff, isBlank]
  simp only [ne_eq, Bool.or_eq_true, Bool.and_eq_true, decide_eq_true_eq, beq_iff_eq]
  omega

/-! ## 2. Trimming -/

/-- Blanks are taken off the end of a text behind its last character that is none. -/
theorem trimEnd_append_cons (a b : List Char) {c : Char} (hc : isBlank c = false) :
    trimEnd (a ++ c :: b) = a ++ c :: trimEnd b := by
  unfold trimEnd
  rw [List.reverse_append, List.reverse_cons, List.append_assoc, List.dropWhile_append]
  by_cases hb : b.reverse.dropWhile isBlank = []
  · simp [hb, hc]
  · simp [hb]

theorem trimEnd_cons_of_blank (s : List Char) {c : Char} (hc : isBlank c = true) :
    trimEnd (c :: s) = if trimEnd s = [] then [] else c :: trimEnd s := by
  unfold trimEnd
  rw [List.reverse_cons, List.dropWhile_append]
  by_cases hs : s.reverse.dropWhile isBlank = []
  · simp [hs, hc]
  · simp [hs]

/-- What is left of a text that begins with a blank is empty or begins with it. -/
theorem head?_trimEnd_cons (s : List Char) {c : Char} (hc : isBlank c = true) :
    ∀ d, (trimEnd (c :: s)).head? = some d → isBlank d = true := by
  intro d hd
  rw [trimEnd_cons_of_blank s hc] at hd
  split at hd
  · cases hd
  · obtain rfl : c = d := Option.some.inj hd
    exact hc

/-- It does not matter which end is trimmed first. -/
theorem trimStart_trimEnd (s : List Char) : trimStart (trimEnd s) = trim s := by
  induction s with
  | nil => rfl
  | cons c s ih =>
    cases hc : isBlank c with
    | true =>
      have htrim : trim (c :: s) = trim s := by
        rw [trim, trim, trimStart, List.dropWhile_cons_of_pos hc, trimStart]
      rw [trimEnd_cons_of_blank s hc, htrim, ← ih]
      by_cases hs : trimEnd s = []
      · rw [if_pos hs, hs]
      · rw [if_neg hs, trimStart, List.dropWhile_cons_of_pos hc, trimStart]
    | false =>
      have hneg : ¬ isBlank c = true := Bool.eq_false_iff.1 hc
      rw [trim, trimStart, trimStart, List.dropWhile_cons_of_neg hneg]
      have hend := trimEnd_append_cons [] s hc
      rw [List.nil_append] at hend
      rw [hend, List.nil_append, List.dropWhile_cons_of_neg hneg]

theorem trimStart_blank_append {blanks : List Char} (h : Blank blanks) (s : List Char) :
    trimStart (blanks ++ s) = trimStart s := List.dropWhile_append_of_pos h

theorem trim_blank_append {blanks : List Char} (h : Blank blanks) (s : List Char) :
    trim (blanks ++ s) = trim s := by
  rw [trim, trim, trimStart_blank_append h]

theorem trimEnd_append_blank {blanks : List Char} (h : Blank blanks) (s : List Char) :
    trimEnd (s ++ blanks) = trimEnd s := by
  have hreverse : ∀ c ∈ blanks.reverse, isBlank c = true := fun c hc => h c (List.mem_reverse.1 hc)
  rw [trimEnd, trimEnd, List.reverse_append, List.dropWhile_append_of_pos hreverse]

theorem trim_append_blank {blanks : List Char} (h : Blank blanks) (s : List Char) :
    trim (s ++ blanks) = trim s := by
  rw [← trimStart_trimEnd, ← trimStart_trimEnd, trimEnd_append_blank h]

/-- **Blanks at the two ends do not count.** -/
theorem trim_between {front back : List Char} (hfront : Blank front) (hback : Blank back)
    (s : List Char) : trim (front ++ s ++ back) = trim s := by
  rw [trim_append_blank hback, trim_blank_append hfront]

theorem trim_of_blank {s : List Char} (h : Blank s) : trim s = [] := by
  have hs := trim_blank_append h []
  rwa [List.append_nil] at hs

/-- From a word on nothing is trimmed but the end of what follows. -/
theorem trim_word_append {word : List Char} (h : Word word) (rest : List Char) :
    trim (word ++ rest) = word ++ trimEnd rest := by
  obtain ⟨hne, hword⟩ := h
  have hstart : trimStart (word ++ rest) = word ++ rest := by
    obtain ⟨c, r, rfl⟩ := List.exists_cons_of_ne_nil hne
    exact List.dropWhile_cons_of_neg (Bool.eq_false_iff.1 (hword c List.mem_cons_self))
  rw [trim, hstart]
  obtain ⟨inner, last, rfl⟩ := (List.eq_nil_or_concat word).resolve_left hne
  have hlast := trimEnd_append_cons inner rest (hword last (by simp))
  simpa using hlast

/-! ## 3. Parting -/

theorem takeWhile_of_boundary {p : Char → Bool} {inner rest : List Char}
    (hin : ∀ c ∈ inner, p c = true) (hrest : ∀ c, rest.head? = some c → p c = false) :
    (inner ++ rest).takeWhile p = inner := by
  rw [List.takeWhile_append_of_pos hin]
  cases rest with
  | nil => simp
  | cons c r => simp [hrest c rfl]

/-- A word without blanks is parted from a text that is empty or begins with a blank. -/
theorem splitWord_append {word rest : List Char} (hword : ∀ c ∈ word, isBlank c = false)
    (hrest : ∀ c, rest.head? = some c → isBlank c = true) :
    splitWord (word ++ rest) = (word, trimStart rest) := by
  have hin : ∀ c ∈ word, (!isBlank c) = true := fun c hc => by rw [hword c hc]; rfl
  have hend : ∀ c, rest.head? = some c → (!isBlank c) = false := fun c hc => by
    rw [hrest c hc]; rfl
  have htake := takeWhile_of_boundary hin hend
  have hdrop : (word ++ rest).dropWhile (!isBlank ·) = rest := by
    have h := List.takeWhile_append_dropWhile (p := (!isBlank ·)) (l := word ++ rest)
    rw [htake] at h
    exact List.append_cancel_left h
  rw [splitWord, htake, hdrop]

/-- **A word is parted from the text behind a gap**, and it does not matter which gap. -/
theorem splitWord_gap {word gap : List Char} (hword : Word word) (hgap : Gap gap)
    (text : List Char) : splitWord (word ++ trimEnd (gap ++ text)) = (word, trim text) := by
  obtain ⟨b, r, rfl⟩ := List.exists_cons_of_ne_nil hgap.1
  have hhead : ∀ d, (trimEnd (b :: r ++ text)).head? = some d → isBlank d = true :=
    head?_trimEnd_cons (r ++ text) (hgap.2 b List.mem_cons_self)
  rw [splitWord_append hword.2 hhead, trimStart_trimEnd, trim_blank_append hgap.2]

end ScriptHost.Text
