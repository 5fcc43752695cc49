import Mathlib.Tactic.SplitIfs
import ScriptHost.Proofs.Text.Order

/-!
# Reading UTF-8

What is read as a text is the encoding of the text and nothing else.

* `Completes`: the bytes that end a character that has begun. `exists_completes`: **a character that
  has begun is ended or broken.**
* `Spells`: the bytes that are read as one character. `spells_iff`: **they are its encoding.**
* **`decode?_eq_some_iff`**: the same for texts.
-/

namespace ScriptHost.Utf8

/-! ## 1. Characters that have begun -/

/-- The bytes end the character that has begun. -/
inductive Completes : Pending → List UInt8 → Char → Prop where
  | last {p : Pending} {b : UInt8} {c : Char} (hadmits : p.admits b = true)
      (hnext : p.next b = .inl (.char c)) : Completes p [b] c
  | more {p q : Pending} {b : UInt8} {tail : List UInt8} {c : Char} (hadmits : p.admits b = true)
      (hnext : p.next b = .inr q) (htail : Completes q tail c) : Completes p (b :: tail) c

/-- The bytes are read as the character. -/
inductive Spells : List UInt8 → Char → Prop where
  | one {b : UInt8} {c : Char} (h : start b = .inl (.char c)) : Spells [b] c
  | more {b : UInt8} {p : Pending} {tail : List UInt8} {c : Char} (h : start b = .inr p)
      (htail : Completes p tail c) : Spells (b :: tail) c

theorem piecesFrom_completes {p : Pending} {tail : List UInt8} {c : Char} (h : Completes p tail c)
    (rest : List UInt8) : piecesFrom (some p) (tail ++ rest) = .char c :: pieces rest := by
  induction h with
  | last hadmits hnext =>
    rw [List.singleton_append, piecesFrom, if_pos hadmits, hnext]
    rfl
  | more hadmits hnext htail ih =>
    rw [List.cons_append, piecesFrom, if_pos hadmits, hnext]
    exact ih

theorem pieces_spells {bytes : List UInt8} {c : Char} (h : Spells bytes c) (rest : List UInt8) :
    pieces (bytes ++ rest) = .char c :: pieces rest := by
  cases h with
  | one h =>
    rw [List.singleton_append, pieces, piecesFrom, h]
    rfl
  | more h htail =>
    rw [List.cons_append, pieces, piecesFrom, h]
    exact piecesFrom_completes htail rest

/-- No piece is broken. -/
def Whole (pieces : List Piece) : Prop := ∀ piece ∈ pieces, ∃ c, piece = .char c

theorem not_whole_broken (bytes : List UInt8) (rest : List Piece) :
    ¬ Whole (.broken bytes :: rest) := by
  intro h
  obtain ⟨c, hc⟩ := h _ List.mem_cons_self
  cases hc

/-- **A character that has begun is ended, or it is broken.** -/
theorem exists_completes (bytes : List UInt8) : ∀ {p : Pending}, Whole (piecesFrom (some p) bytes) →
    ∃ tail rest c, bytes = tail ++ rest ∧ Completes p tail c := by
  induction bytes with
  | nil =>
    intro p h
    exact absurd h (not_whole_broken _ _)
  | cons b r ih =>
    intro p h
    rw [piecesFrom] at h
    by_cases hadmits : p.admits b = true
    · rw [if_pos hadmits] at h
      cases hnext : p.next b with
      | inl piece =>
        rw [hnext] at h
        obtain ⟨c, rfl⟩ := h _ List.mem_cons_self
        exact ⟨[b], r, c, rfl, .last hadmits hnext⟩
      | inr q =>
        rw [hnext] at h
        obtain ⟨tail, rest, c, rfl, htail⟩ := ih h
        exact ⟨b :: tail, rest, c, rfl, .more hadmits hnext htail⟩
    · rw [if_neg hadmits] at h
      exact absurd h (not_whole_broken _ _)

/-- Bytes without a broken part begin with a character. -/
theorem exists_spells {b : UInt8} {r : List UInt8} (h : Whole (pieces (b :: r))) :
    ∃ tail rest c, r = tail ++ rest ∧ Spells (b :: tail) c := by
  rw [pieces, piecesFrom] at h
  cases hstart : start b with
  | inl piece =>
    rw [hstart] at h
    obtain ⟨c, rfl⟩ := h _ List.mem_cons_self
    exact ⟨[], r, c, rfl, .one hstart⟩
  | inr p =>
    rw [hstart] at h
    obtain ⟨tail, rest, c, rfl, htail⟩ := exists_completes r h
    exact ⟨tail, rest, c, rfl, .more hstart htail⟩

/-! ## 2. Bytes and their numbers -/

section Machine

variable {b : UInt8} {bits missing : Nat} {seen tail : List UInt8} {low high : UInt8} {c : Char}

theorem admits_iff {p : Pending} :
    p.admits b = true ↔ p.low.toNat ≤ b.toNat ∧ b.toNat ≤ p.high.toNat := by
  simp only [Pending.admits, Bool.and_eq_true, decide_eq_true_eq, UInt8.le_iff_toNat_le]

/-- The last byte makes the character. -/
theorem completes_zero : Completes ⟨seen, bits, 0, low, high⟩ tail c ↔
    ∃ b : UInt8, tail = [b] ∧ (low.toNat ≤ b.toNat ∧ b.toNat ≤ high.toNat) ∧
      Char.ofNat (bits * 64 + b.toNat % 64) = c := by
  constructor
  · intro h
    cases h with
    | last hadmits hnext =>
      cases hnext
      exact ⟨_, rfl, admits_iff.1 hadmits, rfl⟩
    | more hadmits hnext htail => cases hnext
  · rintro ⟨b, rfl, hadmits, rfl⟩
    exact .last (admits_iff.2 hadmits) rfl

/-- A byte before the last one adds its bits. -/
theorem completes_succ : Completes ⟨seen, bits, missing + 1, low, high⟩ tail c ↔
    ∃ (b : UInt8) (rest : List UInt8), tail = b :: rest ∧
      (low.toNat ≤ b.toNat ∧ b.toNat ≤ high.toNat) ∧
      Completes ⟨seen ++ [b], bits * 64 + b.toNat % 64, missing, 0x80, 0xBF⟩ rest c := by
  constructor
  · intro h
    cases h with
    | last hadmits hnext => cases hnext
    | more hadmits hnext htail =>
      cases hnext
      exact ⟨_, _, rfl, admits_iff.1 hadmits, htail⟩
  · rintro ⟨b, rest, rfl, hadmits, htail⟩
    exact .more (admits_iff.2 hadmits) rfl htail

end Machine

/-- The least byte behind the first one: overlong forms are left out. -/
def leastSecond (b : UInt8) : UInt8 :=
  if b.toNat = 0xE0 then 0xA0 else if b.toNat = 0xF0 then 0x90 else 0x80

/-- The largest byte behind the first one: surrogates and what is above U+10FFFF are left out. -/
def greatestSecond (b : UInt8) : UInt8 :=
  if b.toNat = 0xED then 0x9F else if b.toNat = 0xF4 then 0x8F else 0xBF

/-- The character that has begun with the byte and of whose bits it holds these. -/
def Pending.first (b : UInt8) (bits missing : Nat) : Pending :=
  ⟨[b], bits, missing, leastSecond b, greatestSecond b⟩

/-- What a byte begins, by its number. -/
theorem start_eq (b : UInt8) : start b =
    if b.toNat < 0x80 then .inl (.char (Char.ofNat b.toNat))
    else if b.toNat < 0xC2 ∨ 0xF5 ≤ b.toNat then .inl (.broken [b])
    else if b.toNat < 0xE0 then .inr (.first b (b.toNat % 32) 0)
    else if b.toNat < 0xF0 then .inr (.first b (b.toNat % 16) 1)
    else .inr (.first b (b.toNat % 8) 2) := by
  unfold start Pending.first leastSecond greatestSecond
  simp only [UInt8.lt_iff_toNat_lt, ← UInt8.toNat_inj, UInt8.reduceToNat]
  split_ifs
  -- ranges that exclude each other go first; in the others both sides say the same
  all_goals try omega
  all_goals rfl

theorem start_two {b : UInt8} (hlow : 0xC2 ≤ b.toNat) (hhigh : b.toNat < 0xE0) :
    start b = .inr (.first b (b.toNat % 32) 0) := by
  rw [start_eq]
  simp (disch := omega) only [if_pos, if_neg]

theorem start_three {b : UInt8} (hlow : 0xE0 ≤ b.toNat) (hhigh : b.toNat < 0xF0) :
    start b = .inr (.first b (b.toNat % 16) 1) := by
  rw [start_eq]
  simp (disch := omega) only [if_pos, if_neg]

theorem start_four {b : UInt8} (hlow : 0xF0 ≤ b.toNat) (hhigh : b.toNat < 0xF5) :
    start b = .inr (.first b (b.toNat % 8) 2) := by
  rw [start_eq]
  simp (disch := omega) only [if_neg]

theorem toNat_leastSecond (b : UInt8) :
    (b.toNat = 0xE0 → (leastSecond b).toNat = 0xA0) ∧
    (b.toNat = 0xF0 → (leastSecond b).toNat = 0x90) ∧
    (b.toNat ≠ 0xE0 → b.toNat ≠ 0xF0 → (leastSecond b).toNat = 0x80) := by
  unfold leastSecond
  split_ifs <;> simp_all

theorem toNat_greatestSecond (b : UInt8) :
    (b.toNat = 0xED → (greatestSecond b).toNat = 0x9F) ∧
    (b.toNat = 0xF4 → (greatestSecond b).toNat = 0x8F) ∧
    (b.toNat ≠ 0xED → b.toNat ≠ 0xF4 → (greatestSecond b).toNat = 0xBF) := by
  unfold greatestSecond
  split_ifs <;> simp_all

/-! ## 3. Encodings -/

theorem toNat_val_ofNat {n : Nat} (h : n < 0xD800 ∨ 0xDFFF < n ∧ n < 0x110000) :
    (Char.ofNat n).val.toNat = n := by
  have hvalid : n.isValidChar := h
  rw [Char.ofNat, dif_pos hvalid]
  rfl

theorem byte_eq {b : UInt8} {n : Nat} (h : n = b.toNat) : UInt8.ofNat n = b := by
  rw [h]
  exact UInt8.ofNat_toNat

section Encodings

variable {b x y z : UInt8}

theorem encodeChar_two (hb : 0xC2 ≤ b.toNat ∧ b.toNat < 0xE0)
    (hx : 0x80 ≤ x.toNat ∧ x.toNat ≤ 0xBF) :
    String.utf8EncodeChar (Char.ofNat (b.toNat % 32 * 64 + x.toNat % 64)) = [b, x] := by
  have hvalue := toNat_val_ofNat (n := b.toNat % 32 * 64 + x.toNat % 64) (by omega)
  simp only [String.utf8EncodeChar, hvalue]
  rw [if_neg (by omega), if_pos (by omega), byte_eq (b := b) (by omega),
    byte_eq (b := x) (by omega)]

theorem encodeChar_three (hb : 0xE0 ≤ b.toNat ∧ b.toNat < 0xF0)
    (hx : (leastSecond b).toNat ≤ x.toNat ∧ x.toNat ≤ (greatestSecond b).toNat)
    (hy : 0x80 ≤ y.toNat ∧ y.toNat ≤ 0xBF) :
    String.utf8EncodeChar
      (Char.ofNat ((b.toNat % 16 * 64 + x.toNat % 64) * 64 + y.toNat % 64)) = [b, x, y] := by
  have hlow := toNat_leastSecond b
  have hhigh := toNat_greatestSecond b
  have hvalue := toNat_val_ofNat
    (n := (b.toNat % 16 * 64 + x.toNat % 64) * 64 + y.toNat % 64) (by omega)
  simp only [String.utf8EncodeChar, hvalue]
  rw [if_neg (by omega), if_neg (by omega), if_pos (by omega), byte_eq (b := b) (by omega),
    byte_eq (b := x) (by omega), byte_eq (b := y) (by omega)]

theorem encodeChar_four (hb : 0xF0 ≤ b.toNat ∧ b.toNat < 0xF5)
    (hx : (leastSecond b).toNat ≤ x.toNat ∧ x.toNat ≤ (greatestSecond b).toNat)
    (hy : 0x80 ≤ y.toNat ∧ y.toNat ≤ 0xBF) (hz : 0x80 ≤ z.toNat ∧ z.toNat ≤ 0xBF) :
    String.utf8EncodeChar (Char.ofNat
      (((b.toNat % 8 * 64 + x.toNat % 64) * 64 + y.toNat % 64) * 64 + z.toNat % 64)) =
        [b, x, y, z] := by
  have hlow := toNat_leastSecond b
  have hhigh := toNat_greatestSecond b
  have hvalue := toNat_val_ofNat
    (n := ((b.toNat % 8 * 64 + x.toNat % 64) * 64 + y.toNat % 64) * 64 + z.toNat % 64) (by omega)
  simp only [String.utf8EncodeChar, hvalue]
  rw [if_neg (by omega), if_neg (by omega), if_neg (by omega), byte_eq (b := b) (by omega),
    byte_eq (b := x) (by omega), byte_eq (b := y) (by omega), byte_eq (b := z) (by omega)]

end Encodings

/-- **What is read as a character is its encoding.** -/
theorem eq_of_spells {bytes : List UInt8} {c : Char} (h : Spells bytes c) :
    bytes = String.utf8EncodeChar c := by
  cases h with
  | @one b c h =>
    rw [start_eq] at h
    split_ifs at h with hone hbroken
    · cases h
      have hvalue := toNat_val_ofNat (n := b.toNat) (.inl (by omega))
      rw [String.utf8EncodeChar, hvalue, if_pos (by omega), byte_eq rfl]
    · cases h
  | @more b p tail c h htail =>
    have hlow := toNat_leastSecond b
    have hhigh := toNat_greatestSecond b
    rw [start_eq] at h
    split_ifs at h with hone hbroken htwo hthree
    · cases h
      obtain ⟨x, rfl, hx, rfl⟩ := completes_zero.1 htail
      exact (encodeChar_two ⟨by omega, htwo⟩ ⟨by omega, by omega⟩).symm
    · cases h
      obtain ⟨x, rest, rfl, hx, hrest⟩ := completes_succ.1 htail
      obtain ⟨y, rfl, hy, rfl⟩ := completes_zero.1 hrest
      exact (encodeChar_three ⟨by omega, hthree⟩ hx hy).symm
    · cases h
      obtain ⟨x, rest, rfl, hx, hrest⟩ := completes_succ.1 htail
      obtain ⟨y, rest, rfl, hy, hrest⟩ := completes_succ.1 hrest
      obtain ⟨z, rfl, hz, rfl⟩ := completes_zero.1 hrest
      exact (encodeChar_four ⟨by omega, by omega⟩ hx hy hz).symm

section Readings

variable {c : Char}

theorem ofNat_eq {n : Nat} (h : n = c.val.toNat) : Char.ofNat n = c := by
  rw [h]
  exact Char.ofNat_toNat c

/-- The byte made of a number, and its number. -/
theorem exists_byte {n : Nat} (h : n < 256) : ∃ b : UInt8, UInt8.ofNat n = b ∧ b.toNat = n :=
  ⟨_, rfl, toNat_byte h⟩

theorem spells_two (hlow : 0x80 ≤ c.val.toNat) (hhigh : c.val.toNat < 0x800) :
    Spells [UInt8.ofNat (c.val.toNat / 64 % 0x20 + 0xC0),
      UInt8.ofNat (c.val.toNat % 0x40 + 0x80)] c := by
  obtain ⟨b, hb, hn⟩ := exists_byte (n := c.val.toNat / 64 % 0x20 + 0xC0) (by omega)
  obtain ⟨x, hx, hm⟩ := exists_byte (n := c.val.toNat % 0x40 + 0x80) (by omega)
  have hleast := toNat_leastSecond b
  have hgreatest := toNat_greatestSecond b
  rw [hb, hx]
  refine .more (start_two (by omega) (by omega)) ?_
  exact completes_zero.2 ⟨x, rfl, ⟨by omega, by omega⟩, ofNat_eq (by omega)⟩

theorem spells_three (hlow : 0x800 ≤ c.val.toNat) (hhigh : c.val.toNat < 0x10000) :
    Spells [UInt8.ofNat (c.val.toNat / 4096 % 0x10 + 0xE0),
      UInt8.ofNat (c.val.toNat / 64 % 0x40 + 0x80),
      UInt8.ofNat (c.val.toNat % 0x40 + 0x80)] c := by
  have hvalid : c.val.toNat < 0xD800 ∨ 0xDFFF < c.val.toNat ∧ c.val.toNat < 0x110000 := c.valid
  obtain ⟨b, hb, hn⟩ := exists_byte (n := c.val.toNat / 4096 % 0x10 + 0xE0) (by omega)
  obtain ⟨x, hx, hm⟩ := exists_byte (n := c.val.toNat / 64 % 0x40 + 0x80) (by omega)
  obtain ⟨y, hy, hk⟩ := exists_byte (n := c.val.toNat % 0x40 + 0x80) (by omega)
  have hleast := toNat_leastSecond b
  have hgreatest := toNat_greatestSecond b
  have htail : 0x80 ≤ y.toNat ∧ y.toNat ≤ 0xBF := by omega
  rw [hb, hx, hy]
  refine .more (start_three (by omega) (by omega)) ?_
  refine completes_succ.2 ⟨x, [y], rfl, ⟨by omega, by omega⟩, ?_⟩
  exact completes_zero.2 ⟨y, rfl, htail, ofNat_eq (by omega)⟩

theorem spells_four (hlow : 0x10000 ≤ c.val.toNat) :
    Spells [UInt8.ofNat (c.val.toNat / 262144 % 0x08 + 0xF0),
      UInt8.ofNat (c.val.toNat / 4096 % 0x40 + 0x80),
      UInt8.ofNat (c.val.toNat / 64 % 0x40 + 0x80),
      UInt8.ofNat (c.val.toNat % 0x40 + 0x80)] c := by
  have hhigh := toNat_val_lt c
  obtain ⟨b, hb, hn⟩ := exists_byte (n := c.val.toNat / 262144 % 0x08 + 0xF0) (by omega)
  obtain ⟨x, hx, hm⟩ := exists_byte (n := c.val.toNat / 4096 % 0x40 + 0x80) (by omega)
  obtain ⟨y, hy, hk⟩ := exists_byte (n := c.val.toNat / 64 % 0x40 + 0x80) (by omega)
  obtain ⟨z, hz, hl⟩ := exists_byte (n := c.val.toNat % 0x40 + 0x80) (by omega)
  have hleast := toNat_leastSecond b
  have hgreatest := toNat_greatestSecond b
  have hthird : 0x80 ≤ y.toNat ∧ y.toNat ≤ 0xBF := by omega
  have hfourth : 0x80 ≤ z.toNat ∧ z.toNat ≤ 0xBF := by omega
  rw [hb, hx, hy, hz]
  refine .more (start_four (by omega) (by omega)) ?_
  refine completes_succ.2 ⟨x, [y, z], rfl, ⟨by omega, by omega⟩, ?_⟩
  refine completes_succ.2 ⟨y, [z], rfl, hthird, ?_⟩
  exact completes_zero.2 ⟨z, rfl, hfourth, ofNat_eq (by omega)⟩

end Readings

/-- **The encoding of a character is read as the character.** -/
theorem spells_encodeChar (c : Char) : Spells (String.utf8EncodeChar c) c := by
  unfold String.utf8EncodeChar
  simp only
  split_ifs with hone htwo hthree
  · have hn := toNat_byte (n := c.val.toNat) (by omega)
    refine .one ?_
    rw [start_eq, hn, if_pos (by omega), ofNat_eq rfl]
  · exact spells_two (by omega) (by omega)
  · exact spells_three (by omega) (by omega)
  · exact spells_four (by omega)

/-- **What is read as a character is its encoding.** -/
theorem spells_iff {bytes : List UInt8} {c : Char} :
    Spells bytes c ↔ bytes = String.utf8EncodeChar c :=
  ⟨eq_of_spells, fun h => h ▸ spells_encodeChar c⟩

/-! ## 4. Texts -/

/-- The pieces of an encoded text are its characters. -/
theorem pieces_flatMap_encodeChar (s : List Char) :
    pieces (s.flatMap String.utf8EncodeChar) = s.map .char := by
  induction s with
  | nil => rfl
  | cons c r ih =>
    rw [List.flatMap_cons, pieces_spells (spells_encodeChar c), ih, List.map_cons]

/-- Bytes without a broken part are the encoding of the characters that they are cut into. -/
theorem exists_of_whole :
    ∀ {bytes : List UInt8}, Whole (pieces bytes) →
      ∃ s : List Char, bytes = s.flatMap String.utf8EncodeChar
  | [], _ => ⟨[], rfl⟩
  | b :: r, h => by
    obtain ⟨tail, rest, c, rfl, hfirst⟩ := exists_spells h
    have hpieces := pieces_spells hfirst rest
    rw [List.cons_append] at hpieces
    rw [hpieces] at h
    obtain ⟨s, rfl⟩ := exists_of_whole fun piece hpiece => h piece (List.mem_cons_of_mem _ hpiece)
    exact ⟨c :: s, by rw [List.flatMap_cons, ← spells_iff.1 hfirst, List.cons_append]⟩
termination_by bytes => bytes.length

theorem mapM_char?_eq_some_iff : ∀ {pieces : List Piece} {s : List Char},
    pieces.mapM Piece.char? = some s ↔ pieces = s.map .char
  | [], s => by
    rw [List.mapM_nil]
    cases s <;> simp
  | .char c :: rest, s => by
    rw [List.mapM_cons]
    show ((rest.mapM Piece.char?).bind fun chars => some (c :: chars)) = some s ↔ _
    rw [Option.bind_eq_some_iff]
    constructor
    · rintro ⟨chars, hchars, h⟩
      cases h
      rw [mapM_char?_eq_some_iff.1 hchars, List.map_cons]
    · intro h
      obtain ⟨d, tail, rfl, hd, htail⟩ := List.map_eq_cons_iff.1 h.symm
      cases hd
      exact ⟨tail, mapM_char?_eq_some_iff.2 htail.symm, rfl⟩
  | .broken bytes :: rest, s => by
    rw [List.mapM_cons]
    cases s <;> simp [Piece.char?]

/-- **What is read as a text is its encoding, and every encoded text is read.** -/
theorem decode?_eq_some_iff {bytes : List UInt8} {s : String} :
    decode? bytes = some s ↔ bytes = encode s := by
  unfold decode? encode
  rw [Option.map_eq_some_iff]
  constructor
  · rintro ⟨chars, hchars, rfl⟩
    rw [mapM_char?_eq_some_iff] at hchars
    have hwhole : Whole (pieces bytes) := by
      intro piece hpiece
      rw [hchars] at hpiece
      obtain ⟨c, -, rfl⟩ := List.mem_map.1 hpiece
      exact ⟨c, rfl⟩
    obtain ⟨s, rfl⟩ := exists_of_whole hwhole
    rw [pieces_flatMap_encodeChar, List.map_inj_right fun _ _ h => Piece.char.inj h] at hchars
    rw [hchars, String.toList_ofList]
  · rintro rfl
    refine ⟨s.toList, ?_, String.ofList_toList⟩
    rw [mapM_char?_eq_some_iff, pieces_flatMap_encodeChar]

theorem decode?_encode (s : String) : decode? (encode s) = some s := decode?_eq_some_iff.2 rfl

end ScriptHost.Utf8
