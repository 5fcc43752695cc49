import ScriptHost.Toml.Number

/-!
# Dates and times

A date, a time, or a date and a time with or without an offset. Days are days of their month, and a
minute may have a second numbered 60.
-/

namespace ScriptHost.Toml

open Reader

/-! ## 1. Parts -/

/-- A number of exactly so many decimal digits. -/
def fixedNumber : Nat → Reader Nat
  | 0 => return 0
  | n + 1 => do
    let before ← fixedNumber n
    let c ← satisfy Numeral.isDigit
    return before * 10 + (c.toNat - '0'.toNat)

/-- A number of two digits between the bounds. -/
def twoDigits (low high : Nat) : Reader Nat := do
  let n ← fixedNumber 2
  if low ≤ n ∧ n ≤ high then return n else failure

/-- Whether the year has a leap day. -/
def isLeapYear (year : Nat) : Bool := year % 4 == 0 && (year % 100 != 0 || year % 400 == 0)

/-- How many days the month has. -/
def daysOf (year month : Nat) : Nat :=
  if month = 2 then if isLeapYear year then 29 else 28
  else if month ∈ [4, 6, 9, 11] then 30
  else 31

/-! ## 2. Dates, times and offsets -/

/-- A date. -/
def date : Reader Unit := do
  let year ← fixedNumber 4
  char '-'
  let month ← twoDigits 1 12
  char '-'
  let _ ← twoDigits 1 (daysOf year month)

/-- A time of the day, with or without a fraction of a second. -/
def time : Reader Unit := do
  let _ ← twoDigits 0 23
  char ':'
  let _ ← twoDigits 0 59
  char ':'
  let _ ← twoDigits 0 60
  let _ ← optional do
    char '.'
    let _ ← satisfy Numeral.isDigit
    takeWhile Numeral.isDigit

/-- How far a time is from that of the zero meridian. -/
def offset : Reader Unit := do
  let c ← satisfy (['Z', 'z', '+', '-'].contains ·)
  if c == '+' || c == '-' then
    let _ ← twoDigits 0 23
    char ':'
    let _ ← twoDigits 0 59

/-- A time behind a date. -/
def timeBehind : Reader Unit := do
  let _ ← satisfy (['T', 't', ' '].contains ·)
  time
  let _ ← optional offset

/-- A date, a time or both. -/
def datetime : Reader Unit :=
  (do date; let _ ← optional timeBehind) <|> time

end ScriptHost.Toml
