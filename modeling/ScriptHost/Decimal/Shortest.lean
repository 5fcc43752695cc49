import ScriptHost.Decimal.Binary64

/-!
# The shortest decimal

The decimal of a number of double precision has the fewest digits that read back as the number. Of
those it is the nearest one; if two are equally near, it is the larger.

It is written with a point and without an exponent, and with at least one digit on each side of the
point.
-/

namespace ScriptHost.Decimal

/-! ## 1. The interval that reads back -/

/-- The decimals that read back as a number: those between the bounds, and the bounds too if the
mantissa is even. -/
structure Interval where
  low : Quotient
  high : Quotient
  closed : Bool

/-- Whether the first quotient is less than the second. -/
def Quotient.lt (x y : Quotient) : Bool := x.num * y.den < y.num * x.den

/-- The interval of `m · 2 ^ q`: it ends half way to the neighbours. Below the least mantissa of an
exponent the neighbour is only half as far. -/
def Interval.of (m : Nat) (q : Int) : Interval :=
  let below :=
    if m = Binary64.mantissaLimit / 2 ∧ Binary64.leastExponent < q then 1 else 2
  ⟨.ofPower 2 (4 * m - below) (q - 2), .ofPower 2 (4 * m + 2) (q - 2), m % 2 == 0⟩

/-- Whether the decimal reads back as the number. -/
def Interval.contains (i : Interval) (x : Quotient) : Bool :=
  if i.closed then !x.lt i.low && !i.high.lt x else i.low.lt x && x.lt i.high

/-! ## 2. Digits -/

/-- A decimal: its digits, and how many of them stand before the point. A negative count are zeros
behind the point. -/
structure Digits where
  digits : List Char
  before : Int
  deriving DecidableEq, Repr

/-- The digits of `n · 10 ^ e` without the zeros at the end. -/
def Digits.of (n : Nat) (e : Int) : Digits :=
  let all := Nat.toDigits 10 n
  ⟨(all.reverse.dropWhile (· == '0')).reverse, Int.ofNat all.length + e⟩

/-- The power of ten just above the quotient, as its exponent. -/
def magnitude (x : Quotient) : Int :=
  if x.den ≤ x.num then Int.ofNat (Nat.toDigits 10 x.floor).length
  else 1 - Int.ofNat (Nat.toDigits 10 (Quotient.floor ⟨x.den, x.num⟩)).length

/-- Whether the grid point above the quotient `n + f` is the nearer one. -/
def isNearerAbove (x : Quotient) : Bool := x.den ≤ 2 * (x.num % x.den)

/-- The grid point at `10 ^ e` that reads back and is nearer to the value. -/
def gridPoint? (i : Interval) (x : Quotient) (e : Int) : Option Digits :=
  let scaled := x.scaled 10 e
  let n := scaled.floor
  let below := i.contains (.ofPower 10 n e)
  let above := i.contains (.ofPower 10 (n + 1) e)
  if above && (!below || isNearerAbove scaled) then some (.of (n + 1) e)
  else if below then some (.of n e)
  else none

/-- The most digits that a number needs. -/
def mostDigits : Nat := 17

/-- The shortest digits of `m · 2 ^ q`. -/
def shortest (m : Nat) (q : Int) : Digits :=
  let x := Quotient.ofPower 2 m q
  let p := magnitude x
  let found := (List.range mostDigits).findSome? fun k =>
    gridPoint? (.of m q) x (p - Int.ofNat (k + 1))
  found.getD (.of (x.scaled 10 (p - Int.ofNat mostDigits)).floor (p - Int.ofNat mostDigits))

/-! ## 3. Text -/

/-- The decimal with its point. -/
def Digits.text (d : Digits) : List Char :=
  let count := d.digits.length
  if d.before ≤ 0 then '0' :: '.' :: (List.replicate (-d.before).toNat '0' ++ d.digits)
  else if d.before.toNat < count then
    d.digits.take d.before.toNat ++ '.' :: d.digits.drop d.before.toNat
  else d.digits ++ List.replicate (d.before.toNat - count) '0' ++ ['.', '0']

/-- The number as it stands in messages. -/
def text : Binary64 → String
  | .nan => "NaN"
  | .infinite negative => if negative then "-inf" else "inf"
  | .finite negative m q =>
    let body := if m = 0 then ['0', '.', '0'] else (shortest m q).text
    String.ofList (if negative then '-' :: body else body)

end ScriptHost.Decimal
