/-!
# Numerals

Whole numbers written with ASCII digits.

* `Numeral.natural?` reads one or more digits in a base.
* `Numeral.integer?` reads an optional single sign and one or more decimal digits.
* `Numeral.int32?` and `Numeral.uint32?` accept an integer of their range; how many zeros lead, and
  whether a sign is written, plays no part.
-/

namespace ScriptHost.Numeral

/-! ## 1. Digits -/

/-- The value of an ASCII digit or letter as a digit, if it is one of the base. -/
def digit? (base : Nat) (c : Char) : Option Nat :=
  let v :=
    if '0' ≤ c ∧ c ≤ '9' then c.toNat - '0'.toNat
    else if 'a' ≤ c ∧ c ≤ 'z' then c.toNat - 'a'.toNat + 10
    else if 'A' ≤ c ∧ c ≤ 'Z' then c.toNat - 'A'.toNat + 10
    else base
  if v < base then some v else none

/-- Whether the character is an ASCII digit. -/
def isDigit (c : Char) : Bool := (digit? 10 c).isSome

/-- Reads on at `value`. -/
def readFrom (base value : Nat) : List Char → Option Nat
  | [] => some value
  | c :: r => (digit? base c).bind fun d => readFrom base (value * base + d) r

/-- The number that the digits denote; there has to be one. -/
def natural? (base : Nat) : List Char → Option Nat
  | [] => none
  | c :: r => readFrom base 0 (c :: r)

/-! ## 2. Signed numerals -/

/-- The integer that an optional sign and decimal digits denote. -/
def integer? : List Char → Option Int
  | '+' :: r => (natural? 10 r).map Int.ofNat
  | '-' :: r => (natural? 10 r).map fun n => -Int.ofNat n
  | s => (natural? 10 s).map Int.ofNat

/-- The integer, if it has 32 bits with a sign. -/
def int32? (s : List Char) : Option Int32 :=
  (integer? s).bind fun i =>
    if -2147483648 ≤ i ∧ i ≤ 2147483647 then some (Int32.ofInt i) else none

/-- The integer, if it has 32 bits without a sign. -/
def uint32? (s : List Char) : Option UInt32 :=
  (integer? s).bind fun i =>
    if 0 ≤ i ∧ i ≤ 4294967295 then some (UInt32.ofNat i.toNat) else none

end ScriptHost.Numeral
