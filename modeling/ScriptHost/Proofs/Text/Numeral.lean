import Mathlib.Data.Nat.Digits.Defs
import ScriptHost.Text.Numeral

/-!
# Numerals

What decimal numerals denote, and what is read.

* `Denotes`: the grammar of signed numerals -- at most one sign, then one or more digits, any of
  them zeros -- with the integer that each of them denotes.
* `integer?_eq_some_iff`: **what is read is a numeral, every numeral is read, and it is read as what
  it denotes**. `int32?_eq_some_iff` says so of the numerals that denote 32 bits.
* `uint32?_toString`, `int32?_toString`: a written number is read back.
-/

namespace ScriptHost.Numeral

/-! ## 1. Reading on -/

theorem readFrom_append (base : Nat) (a b : List Char) :
    ∀ value, readFrom base value (a ++ b) =
      (readFrom base value a).bind fun read => readFrom base read b := by
  induction a with
  | nil =>
    intro value
    rfl
  | cons c a ih =>
    intro value
    rw [List.cons_append, readFrom, readFrom]
    cases digit? base c with
    | none => rfl
    | some d =>
      rw [Option.bind_some, Option.bind_some]
      exact ih _

/-- A decimal digit is read as its value. -/
theorem digit?_digitChar : ∀ {d : Nat}, d < 10 → digit? 10 (Nat.digitChar d) = some d := by
  decide

/-- The digits of a number are read as the number. -/
theorem readFrom_toDigits (n : Nat) : readFrom 10 0 (Nat.toDigits 10 n) = some n := by
  induction n using Nat.strongRecOn with
  | ind n ih =>
    by_cases h : n < 10
    · rw [Nat.toDigits_of_lt_base h, readFrom, digit?_digitChar h, Option.bind_some, readFrom,
        Nat.zero_mul, Nat.zero_add]
    · have hdigit : n % 10 < 10 := Nat.mod_lt n (by decide)
      have hsplit := Nat.toDigits_append_toDigits (b := 10) (by decide)
        (show 0 < n / 10 by omega) hdigit
      rw [Nat.div_add_mod] at hsplit
      rw [← hsplit, readFrom_append, ih (n / 10) (by omega), Option.bind_some,
        Nat.toDigits_of_lt_base hdigit, readFrom, digit?_digitChar hdigit, Option.bind_some,
        readFrom]
      congr 1
      omega

/-- The first digit of a number. -/
theorem toDigits_eq_cons (n : Nat) : ∃ c r, Nat.toDigits 10 n = c :: r ∧ c.isDigit = true := by
  cases h : Nat.toDigits 10 n with
  | nil => exact absurd h Nat.toDigits_ne_nil
  | cons c r =>
    refine ⟨c, r, rfl, Nat.isDigit_of_mem_toDigits (b := 10) (n := n) (by decide) (by decide) ?_⟩
    rw [h]
    exact List.mem_cons_self

/-! ## 2. What numerals denote -/

/-- One or more ASCII digits. -/
def Digits (s : List Char) : Prop := s ≠ [] ∧ ∀ c ∈ s, '0' ≤ c ∧ c ≤ '9'

/-- The number that digits stand for; the last one counts ones. -/
def value (digits : List Char) : Nat :=
  Nat.ofDigits 10 (digits.reverse.map fun c => c.toNat - '0'.toNat)

/-- The numeral denotes the integer. -/
inductive Denotes : List Char → Int → Prop where
  | bare {digits : List Char} (h : Digits digits) : Denotes digits (value digits)
  | plus {digits : List Char} (h : Digits digits) : Denotes ('+' :: digits) (value digits)
  | minus {digits : List Char} (h : Digits digits) : Denotes ('-' :: digits) (-(value digits : Int))

theorem value_cons (c : Char) (r : List Char) :
    value (c :: r) = 10 ^ r.length * (c.toNat - '0'.toNat) + value r := by
  rw [value, List.reverse_cons, List.map_append, Nat.ofDigits_append, List.length_map,
    List.length_reverse, List.map_cons, List.map_nil, Nat.ofDigits_singleton, Nat.add_comm]
  rfl

/-- To the base ten the digits are the ten digits of ASCII. -/
theorem digit?_ten (c : Char) :
    digit? 10 c = if '0' ≤ c ∧ c ≤ '9' then some (c.toNat - '0'.toNat) else none := by
  unfold digit?
  by_cases hdigit : '0' ≤ c ∧ c ≤ '9'
  · have hlt : c.toNat - '0'.toNat < 10 := by
      have hle : c.toNat ≤ '9'.toNat := hdigit.2
      have hends : '9'.toNat = 57 ∧ '0'.toNat = 48 := by decide
      omega
    simp only [if_pos hdigit, if_pos hlt]
  · simp only [if_neg hdigit]
    -- a letter is worth ten and more, and all else is no digit
    split
    · exact if_neg (by omega)
    · split
      · exact if_neg (by omega)
      · rfl

/-- Digits are read on one by one, each time at ten times the number so far. -/
theorem readFrom_eq_some_iff {n : Nat} (s : List Char) : ∀ {start : Nat},
    readFrom 10 start s = some n ↔
      (∀ c ∈ s, '0' ≤ c ∧ c ≤ '9') ∧ n = 10 ^ s.length * start + value s := by
  induction s with
  | nil =>
    intro start
    have hvalue : value [] = 0 := rfl
    simp [readFrom, hvalue, eq_comm]
  | cons c r ih =>
    intro start
    rw [readFrom, digit?_ten, List.forall_mem_cons]
    by_cases hc : '0' ≤ c ∧ c ≤ '9'
    · rw [if_pos hc, Option.bind_some, ih, value_cons, List.length_cons, Nat.pow_succ,
        Nat.mul_add, Nat.mul_comm start, ← Nat.mul_assoc, Nat.add_assoc]
      exact ⟨fun h => ⟨⟨hc, h.1⟩, h.2⟩, fun h => ⟨h.1.2, h.2⟩⟩
    · rw [if_neg hc, Option.bind_none]
      exact ⟨fun h => (nomatch h), fun h => absurd h.1.1 hc⟩

theorem natural?_eq_some_iff {s : List Char} {n : Nat} :
    natural? 10 s = some n ↔ Digits s ∧ n = value s := by
  cases s with
  | nil => exact ⟨fun h => (nomatch h), fun h => absurd rfl h.1.1⟩
  | cons c r =>
    rw [natural?, readFrom_eq_some_iff, Nat.mul_zero, Nat.zero_add]
    exact ⟨fun h => ⟨⟨List.cons_ne_nil c r, h.1⟩, h.2⟩, fun h => ⟨h.1.2, h.2⟩⟩

/-- What is read as a number are digits, and they stand for it. -/
theorem digits_of_readFrom {s : List Char} {n : Nat} (hne : s ≠ [])
    (h : readFrom 10 0 s = some n) : Digits s ∧ value s = n := by
  obtain ⟨hdigits, hn⟩ := (readFrom_eq_some_iff s).1 h
  rw [Nat.mul_zero, Nat.zero_add] at hn
  exact ⟨⟨hne, hdigits⟩, hn.symm⟩

/-! ## 3. What is read -/

/-- Digits do not begin with a sign. -/
theorem Digits.ne_sign {c : Char} {r : List Char} (h : Digits (c :: r)) : c ≠ '+' ∧ c ≠ '-' := by
  have hc := (h.2 c List.mem_cons_self).1
  constructor
  · rintro rfl
    exact absurd hc (by decide)
  · rintro rfl
    exact absurd hc (by decide)

/-- **What is read is a numeral, every numeral is read, and it is read as what it denotes.** -/
theorem integer?_eq_some_iff {s : List Char} {i : Int} : integer? s = some i ↔ Denotes s i := by
  constructor
  · intro h
    unfold integer? at h
    split at h
    all_goals
      obtain ⟨n, hn, rfl⟩ := Option.map_eq_some_iff.1 h
      obtain ⟨hdigits, rfl⟩ := natural?_eq_some_iff.1 hn
    · exact .plus hdigits
    · exact .minus hdigits
    · exact .bare hdigits
  · intro h
    cases h with
    | bare h =>
      have hread := natural?_eq_some_iff.2 ⟨h, rfl⟩
      unfold integer?
      split
      · exact absurd rfl h.ne_sign.1
      · exact absurd rfl h.ne_sign.2
      · rw [hread, Option.map_some]
        rfl
    | plus h =>
      rw [integer?, natural?_eq_some_iff.2 ⟨h, rfl⟩]
      rfl
    | minus h =>
      rw [integer?, natural?_eq_some_iff.2 ⟨h, rfl⟩]
      rfl

/-- The integer has 32 bits with a sign. -/
def Fits (i : Int) : Prop := -2147483648 ≤ i ∧ i ≤ 2147483647

theorem fits_toInt (n : Int32) : Fits n.toInt := by
  have hlow := n.le_toInt
  have hhigh := n.toInt_lt
  unfold Fits
  omega

/-- **The numerals of 32 bits are read as what they denote.** -/
theorem int32?_eq_some_iff {s : List Char} {n : Int32} :
    int32? s = some n ↔ Denotes s n.toInt := by
  rw [int32?, Option.bind_eq_some_iff]
  constructor
  · rintro ⟨i, hi, h⟩
    split at h
    · next hfits =>
      cases h
      rw [Int32.toInt_ofInt_of_le (by omega) (by omega)]
      exact integer?_eq_some_iff.1 hi
    · cases h
  · intro h
    have hrange : -2147483648 ≤ n.toInt ∧ n.toInt ≤ 2147483647 := fits_toInt n
    refine ⟨n.toInt, integer?_eq_some_iff.2 h, ?_⟩
    rw [if_pos hrange, Int32.ofInt_toInt]

/-- Nothing else is read. -/
theorem int32?_eq_none_iff {s : List Char} :
    int32? s = none ↔ ¬ ∃ i, Denotes s i ∧ Fits i := by
  constructor
  · rintro h ⟨i, hi, hfits⟩
    have hrange : -2147483648 ≤ i ∧ i ≤ 2147483647 := hfits
    rw [int32?, integer?_eq_some_iff.2 hi, Option.bind_some, if_pos hrange] at h
    cases h
  · intro h
    refine Option.eq_none_iff_forall_ne_some.2 fun n hn => h ⟨n.toInt, ?_, fits_toInt n⟩
    exact int32?_eq_some_iff.1 hn

/-- Digits that stand for a number of 32 bits are read as the number. -/
theorem uint32?_of_readFrom {s : List Char} {n : UInt32} (hne : s ≠ [])
    (hread : readFrom 10 0 s = some n.toNat) : uint32? s = some n := by
  obtain ⟨hdigits, hvalue⟩ := digits_of_readFrom hne hread
  have hinteger : integer? s = some (Int.ofNat n.toNat) :=
    integer?_eq_some_iff.2 (hvalue ▸ Denotes.bare hdigits)
  have hn : n.toNat ≤ 4294967295 := Nat.le_of_lt_succ n.toNat_lt
  have hrange : (0 : Int) ≤ Int.ofNat n.toNat ∧ Int.ofNat n.toNat ≤ 4294967295 :=
    ⟨Int.natCast_nonneg _, Int.ofNat_le.2 hn⟩
  rw [uint32?, hinteger, Option.bind_some, if_pos hrange]
  exact congrArg some UInt32.ofNat_toNat

/-! ## 4. Written numbers -/

theorem toList_toString_ofNat (n : Nat) : (toString (Int.ofNat n)).toList = Nat.toDigits 10 n :=
  Nat.toList_repr

theorem toList_toString_negSucc (n : Nat) :
    (toString (Int.negSucc n)).toList = '-' :: Nat.toDigits 10 (n + 1) := by
  show ("-" ++ Nat.repr (n + 1)).toList = _
  rw [String.toList_append, Nat.toList_repr]
  rfl

theorem digits_toDigits (n : Nat) : Digits (Nat.toDigits 10 n) ∧ value (Nat.toDigits 10 n) = n :=
  digits_of_readFrom Nat.toDigits_ne_nil (readFrom_toDigits n)

/-- A written integer denotes itself. -/
theorem denotes_toString (i : Int) : Denotes (toString i).toList i := by
  cases i with
  | ofNat n =>
    obtain ⟨hdigits, hvalue⟩ := digits_toDigits n
    have h := Denotes.bare hdigits
    rw [hvalue] at h
    rw [toList_toString_ofNat]
    exact h
  | negSucc n =>
    obtain ⟨hdigits, hvalue⟩ := digits_toDigits (n + 1)
    have h := Denotes.minus hdigits
    rw [hvalue] at h
    rw [toList_toString_negSucc]
    exact h

/-- **A written number of 32 bits is read back.** -/
theorem uint32?_toString (n : UInt32) : uint32? (toString n).toList = some n := by
  have hdigits : (toString n).toList = Nat.toDigits 10 n.toNat := Nat.toList_repr
  rw [hdigits]
  exact uint32?_of_readFrom Nat.toDigits_ne_nil (readFrom_toDigits n.toNat)

/-- So is one with a sign. -/
theorem int32?_toString (n : Int32) : int32? (toString n).toList = some n :=
  int32?_eq_some_iff.2 (denotes_toString n.toInt)

end ScriptHost.Numeral
