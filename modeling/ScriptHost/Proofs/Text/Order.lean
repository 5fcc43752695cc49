import Mathlib.Tactic.SplitIfs
import ScriptHost.Text.Utf8

/-!
# The order of texts in UTF-8

Texts are ordered like their characters, from left to right, and characters by their numbers.

* `Utf8.encodeChar_lt`: a smaller character has smaller bytes, and neither of two characters begins
  the other, so what follows them does not count.
* `Utf8.encode_lt_iff`: **texts are ordered like their bytes.**
-/

namespace ScriptHost.Utf8

/-! ## 1. Characters -/

/-- The byte made of a number below 256 is that number. -/
theorem toNat_byte {n : Nat} (h : n < 256) : (UInt8.ofNat n).toNat = n := by
  rw [UInt8.toNat_ofNat']
  exact Nat.mod_eq_of_lt h

/-- Lists of bytes are ordered by their first bytes, and where those are equal by the rest. -/
theorem cons_lt_cons {m n : Nat} (hm : m < 256) (hn : n < 256) {s t : List UInt8} :
    UInt8.ofNat m :: s < UInt8.ofNat n :: t ↔ m < n ∨ m = n ∧ s < t := by
  rw [List.cons_lt_cons_iff, UInt8.lt_iff_toNat_lt, ← UInt8.toNat_inj, toNat_byte hm, toNat_byte hn]

theorem toNat_val_lt (c : Char) : c.val.toNat < 0x110000 := by
  have h := c.valid
  simp only [UInt32.isValidChar, Nat.isValidChar] at h
  omega

/-- **A smaller character has smaller bytes**, whatever follows. -/
theorem encodeChar_lt {c d : Char} (h : c < d) (s t : List UInt8) :
    String.utf8EncodeChar c ++ s < String.utf8EncodeChar d ++ t := by
  have hlt : c.val.toNat < d.val.toNat := UInt32.lt_iff_toNat_lt.1 h
  have hmax := toNat_val_lt d
  unfold String.utf8EncodeChar
  generalize c.val.toNat = v at hlt
  generalize d.val.toNat = w at hlt hmax
  -- the digits of a number to the base 64, one after the other
  have hdigits : ∀ n, n / 4096 = n / 64 / 64 ∧ n / 262144 = n / 64 / 64 / 64 := by omega
  -- a longer encoding begins with a larger byte; of two that are as long the first byte counts that
  -- differs
  simp only
  split_ifs <;>
    simp (disch := omega) only [List.cons_append, List.nil_append, cons_lt_cons, hdigits] <;>
    omega

/-! ## 2. Texts -/

theorem flatMap_encodeChar_lt : ∀ {s t : List Char}, s < t →
    s.flatMap String.utf8EncodeChar < t.flatMap String.utf8EncodeChar
  | [], [], h => absurd h (List.lt_irrefl [])
  | [], d :: t, _ => by
    rw [List.flatMap_nil, List.flatMap_cons]
    cases hd : String.utf8EncodeChar d with
    | nil => exact absurd hd String.utf8EncodeChar_ne_nil
    | cons b r => exact List.nil_lt_cons b _
  | c :: s, [], h => absurd h (List.not_lt_nil _)
  | c :: s, d :: t, h => by
    rw [List.flatMap_cons, List.flatMap_cons]
    rcases List.cons_lt_cons_iff.1 h with hcd | ⟨rfl, hst⟩
    · exact encodeChar_lt hcd _ _
    · exact List.append_left_lt (flatMap_encodeChar_lt hst)

/-- **Texts are ordered like their bytes.** -/
theorem encode_lt_iff {s t : String} : encode s < encode t ↔ s < t := by
  have hlt : ∀ {s t : String}, s < t → encode s < encode t := fun h =>
    flatMap_encodeChar_lt (String.lt_iff.1 h)
  refine ⟨fun h => ?_, hlt⟩
  refine Classical.byContradiction fun hst => ?_
  by_cases hts : t < s
  · exact List.lt_asymm h (hlt hts)
  · have heq : s = t := String.toList_inj.1
      (List.le_antisymm (fun h => hts (String.lt_iff.2 h)) fun h => hst (String.lt_iff.2 h))
    rw [heq] at h
    exact List.lt_irrefl _ h

end ScriptHost.Utf8
