/-!
# Binary fractions of double precision

The numbers of the binary format with 64 bits: a sign, a mantissa below 2^53 and an exponent of two,
beside the infinities and one value that is no number. `Binary64.nearest` is the number nearest to a
decimal; of two that are equally near, it is the one with the even mantissa.

All arithmetic is that of natural numbers.
-/

namespace ScriptHost

/-! ## 1. Numbers -/

/-- A number of double precision. -/
inductive Binary64 where
  /-- The number `mantissa · 2 ^ exponent`, or the negative of it. -/
  | finite (negative : Bool) (mantissa : Nat) (exponent : Int)
  | infinite (negative : Bool)
  | nan
  deriving DecidableEq, Repr

namespace Decimal

/-! ## 2. Quotients -/

/-- A positive fraction. -/
structure Quotient where
  num : Nat
  den : Nat
  deriving DecidableEq, Repr

/-- The fraction `n · base ^ e`. -/
def Quotient.ofPower (base n : Nat) (e : Int) : Quotient :=
  if 0 ≤ e then ⟨n * Nat.pow base e.toNat, 1⟩ else ⟨n, Nat.pow base (-e).toNat⟩

/-- The quotient divided by `base ^ e`. -/
def Quotient.scaled (x : Quotient) (base : Nat) (e : Int) : Quotient :=
  if 0 ≤ e then ⟨x.num, x.den * Nat.pow base e.toNat⟩ else ⟨x.num * Nat.pow base (-e).toNat, x.den⟩

/-- The largest whole number that is not above the quotient. -/
def Quotient.floor (x : Quotient) : Nat := x.num / x.den

/-- The nearest whole number; of two that are equally near, the even one. -/
def Quotient.round (x : Quotient) : Nat :=
  let n := x.floor
  let twice := 2 * (x.num % x.den)
  if twice < x.den then n
  else if x.den < twice then n + 1
  else n + n % 2

end Decimal

/-! ## 3. The nearest number -/

namespace Binary64

/-- Mantissas stay below this. -/
def mantissaLimit : Nat := Nat.pow 2 53

/-- The least exponent. -/
def leastExponent : Int := -1074

/-- The largest exponent. -/
def largestExponent : Int := 971

/-- The least exponent at which the mantissa stays below its limit. -/
def exponentOf (x : Decimal.Quotient) : Int :=
  let guess := max leastExponent (Int.ofNat (Nat.log2 x.num) - Int.ofNat (Nat.log2 x.den) - 53)
  if (x.scaled 2 guess).floor < mantissaLimit then guess else guess + 1

/-- The number nearest to a quotient that is not zero. -/
def ofQuotient (negative : Bool) (x : Decimal.Quotient) : Binary64 :=
  let q := exponentOf x
  let m := (x.scaled 2 q).round
  let (m, q) := if m < mantissaLimit then (m, q) else (mantissaLimit / 2, q + 1)
  if largestExponent < q then .infinite negative else .finite negative m q

/-- From this power of ten on, everything is infinite. -/
def decimalLimit : Int := 310

/-- Below this power of ten, everything is zero. -/
def decimalFloor : Int := -330

/-- The number nearest to `digits · 10 ^ power`. -/
def nearest (negative : Bool) (digits : Nat) (power : Int) : Binary64 :=
  let magnitude := Int.ofNat (Nat.toDigits 10 digits).length + power
  if digits = 0 ∨ magnitude < decimalFloor then .finite negative 0 leastExponent
  else if decimalLimit < magnitude then .infinite negative
  else ofQuotient negative (.ofPower 10 digits power)

end Binary64

end ScriptHost
