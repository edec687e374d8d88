import ParamSchema.Text.Bytes

/-!
# Dates and times

Days are those of the proleptic Gregorian calendar. A date is `YYYY-MM-DD`, a
time is `HH:MM:SS` with at most three decimals, and a date-time joins them with
`T` and ends in an offset from UTC. They are read from the bytes of a text, at
fixed offsets up to the decimals.
-/

set_option autoImplicit false

namespace ParamSchema.Format

def twoDigits? (tens ones : Char) : Option Nat :=
  if tens.isDigit ∧ ones.isDigit then
    some (10 * (tens.toNat - '0'.toNat) + (ones.toNat - '0'.toNat))
  else none

def isLeapYear (year : Nat) : Bool :=
  year % 4 == 0 && (year % 100 != 0 || year % 400 == 0)

def daysInMonth (year month : Nat) : Nat :=
  if month = 2 then (if isLeapYear year then 29 else 28)
  else if month = 4 ∨ month = 6 ∨ month = 9 ∨ month = 11 then 30
  else 31

/-- A day that exists, in a year from 0000, which is a leap year. -/
def isDay (year month day : Nat) : Bool :=
  decide (1 ≤ month ∧ month ≤ 12 ∧ 1 ≤ day ∧ day ≤ daysInMonth year month)

def isDate : List Char → Bool
  | [c1, c2, y1, y2, '-', m1, m2, '-', d1, d2] =>
    match twoDigits? c1 c2, twoDigits? y1 y2, twoDigits? m1 m2, twoDigits? d1 d2 with
    | some century, some year, some month, some day => isDay (100 * century + year) month day
    | _, _, _, _ => false
  | _ => false

open Text

def isDigitByte (byte : UInt8) : Bool := decide ('0'.toUInt8 ≤ byte ∧ byte ≤ '9'.toUInt8)

/-- The value of two ASCII digits. Differences of bytes are taken modulo 256. -/
def digitsValue? (tens ones : UInt8) : Option UInt8 :=
  let tens := tens - '0'.toUInt8
  let ones := ones - '0'.toUInt8
  if 9 < tens ∨ 9 < ones then none else some (tens * 10 + ones)

def twoDigitsAt (bytes : List UInt8) (offset : Nat) : Except OutOfRange (Option UInt8) := do
  if bytes.length < offset + 2 then
    return none
  return digitsValue? (← byteAt bytes offset) (← byteAt bytes (offset + 1))

def readDate (bytes : List UInt8) : Except OutOfRange Bool := do
  if bytes.length ≠ 10 then
    return false
  if (← byteAt bytes 4) ≠ '-'.toUInt8 then
    return false
  if (← byteAt bytes 7) ≠ '-'.toUInt8 then
    return false
  let some century ← twoDigitsAt bytes 0 | return false
  let some year ← twoDigitsAt bytes 2 | return false
  let some month ← twoDigitsAt bytes 5 | return false
  let some day ← twoDigitsAt bytes 8 | return false
  return isDay (100 * century.toNat + year.toNat) month.toNat day.toNat

def afterDigits (bytes : List UInt8) (offset : Nat) : Nat :=
  if h : offset < bytes.length then
    if isDigitByte bytes[offset] then afterDigits bytes (offset + 1) else offset
  else offset
  termination_by bytes.length - offset

/-- The offset after the decimals that may stand at an offset: none, or a point and one, two
or three digits. -/
def afterDecimals? (bytes : List UInt8) (offset : Nat) : Option Nat :=
  if bytes[offset]? = some '.'.toUInt8 then
    let last := afterDigits bytes (offset + 1)
    let count := last - (offset + 1)
    if 1 ≤ count ∧ count ≤ 3 then some last else none
  else some offset

def timeLength (bytes : List UInt8) : Except OutOfRange (Option Nat) := do
  if bytes.length < 8 then
    return none
  if (← byteAt bytes 2) ≠ ':'.toUInt8 then
    return none
  if (← byteAt bytes 5) ≠ ':'.toUInt8 then
    return none
  let some hour ← twoDigitsAt bytes 0 | return none
  let some minute ← twoDigitsAt bytes 3 | return none
  let some second ← twoDigitsAt bytes 6 | return none
  if 23 < hour ∨ 59 < minute ∨ 59 < second then
    return none
  return afterDecimals? bytes 8

def readTime (bytes : List UInt8) : Except OutOfRange Bool := do
  return (← timeLength bytes) == some bytes.length

/-- Whether the bytes are `Z`, or a sign, hours and a quarter hour other than 15; from `-12:45`
to `+14:45`. -/
def readOffset (bytes : List UInt8) : Except OutOfRange Bool := do
  match bytes with
  | [letter] => return letter == 'Z'.toUInt8
  | [sign, _, _, colon, _, _] =>
    if (sign ≠ '+'.toUInt8 ∧ sign ≠ '-'.toUInt8) ∨ colon ≠ ':'.toUInt8 then
      return false
    let some hour ← twoDigitsAt bytes 1 | return false
    let some minute ← twoDigitsAt bytes 4 | return false
    let most : UInt8 := if sign = '-'.toUInt8 then 12 else 14
    return decide (hour ≤ most) && (minute == 0 || minute == 30 || minute == 45)
  | _ => return false

def readDateTime (bytes : List UInt8) : Except OutOfRange Bool := do
  if bytes.length < 11 then
    return false
  if (← byteAt bytes 10) ≠ 'T'.toUInt8 then
    return false
  let some date := bytesBefore? bytes 10 | return false
  if !(← readDate date) then
    return false
  let some length ← timeLength (← bytesFrom bytes 11) | return false
  readOffset (← bytesFrom bytes (11 + length))

end ParamSchema.Format
