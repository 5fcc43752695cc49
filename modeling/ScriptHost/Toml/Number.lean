import ScriptHost.Text.Numeral
import ScriptHost.Toml.Reader
import ScriptHost.Toml.Value

/-!
# Numbers

Integers of 64 bits in decimal, hexadecimal, octal and binary digits, and floats of double
precision. Between two digits there may be an underscore. Only decimal numbers have a sign, and no
decimal number begins with a zero that could be left out.
-/

namespace ScriptHost.Toml

open Reader

/-! ## 1. Digits -/

/-- The digits at the beginning of the text, and what is left. An underscore with a digit behind it
is left out. -/
def digitsFrom (base : Nat) : List Char → List Char × List Char
  | [] => ([], [])
  | '_' :: c :: r =>
    if (Numeral.digit? base c).isSome then
      let more := digitsFrom base r
      (c :: more.1, more.2)
    else ([], '_' :: c :: r)
  | c :: r =>
    if (Numeral.digit? base c).isSome then
      let more := digitsFrom base r
      (c :: more.1, more.2)
    else ([], c :: r)

/-- One digit or more, the first without an underscore. -/
def digits (base : Nat) : Reader (List Char) := do
  let first ← satisfy fun c => (Numeral.digit? base c).isSome
  let rest ← fun s => some (digitsFrom base s)
  return first :: rest

/-- The number that digits denote. -/
def valueOf (base : Nat) (ds : List Char) : Nat := (Numeral.natural? base ds).getD 0

/-- Whether a minus is written; a plus may be. -/
def sign : Reader Bool := do
  let read ← optional (satisfy fun c => c == '+' || c == '-')
  return read == some '-'

/-- Decimal digits without a zero that could be left out. -/
def decimalDigits : Reader (List Char) := do
  if (← peek) == '0' then
    char '0'
    return ['0']
  else digits 10

/-! ## 2. Integers -/

/-- The integer, if it has 64 bits. -/
def integerOf? (negative : Bool) (n : Nat) : Option Int :=
  let i : Int := if negative then -Int.ofNat n else Int.ofNat n
  if -9223372036854775808 ≤ i ∧ i ≤ 9223372036854775807 then some i else none

/-- The letter that stands behind a zero before the digits of each base but ten. -/
def baseLetters : List (Char × Nat) := [('x', 16), ('o', 8), ('b', 2)]

/-- An integer in another base than ten. -/
def basedInteger : Reader Int := do
  char '0'
  let letter ← peek
  let base ← (baseLetters.lookup letter : Option Nat)
  char letter
  let ds ← digits base
  integerOf? false (valueOf base ds)

/-- A decimal integer. -/
def decimalInteger : Reader Int := do
  let negative ← sign
  let ds ← decimalDigits
  integerOf? negative (valueOf 10 ds)

/-- An integer. -/
def integer : Reader Int := basedInteger <|> decimalInteger

/-! ## 3. Floats -/

/-- The exponent of ten. -/
def exponent : Reader Int := do
  let _ ← satisfy fun c => c == 'e' || c == 'E'
  let negative ← sign
  let ds ← digits 10
  let n := valueOf 10 ds
  return if negative then -Int.ofNat n else Int.ofNat n

/-- The digits behind the point. -/
def fraction : Reader (List Char) := do
  char '.'
  digits 10

/-- A float with a fraction, an exponent or both. One that is too large for the format is refused,
unless it is negative. -/
def decimalFloat : Reader Binary64 := do
  let negative ← sign
  let whole ← decimalDigits
  let behind ← optional fraction
  let power ← match behind with
    | some _ => optional exponent
    | none => some <$> exponent
  let behind := behind.getD []
  let x := Binary64.nearest negative (valueOf 10 (whole ++ behind))
    (power.getD 0 - Int.ofNat behind.length)
  if x = .infinite false then failure else return x

/-- An infinity, or what is no number. -/
def namedFloat : Reader Binary64 := do
  let negative ← sign
  (do word ['i', 'n', 'f']; return .infinite negative) <|> (do word ['n', 'a', 'n']; return .nan)

/-- A float. -/
def float : Reader Binary64 := decimalFloat <|> namedFloat

end ScriptHost.Toml
