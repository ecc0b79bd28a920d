import TypedQuery.Decimal.Reading
import TypedQuery.Toml.Cursor

/-! Dates and times. -/
namespace TypedQuery.Toml

open Scan

def field (n low high : Nat) : Scan Nat := do
  let value := Decimal.natOfDigits (← exactly n Char.isDigit)
  if low ≤ value ∧ value ≤ high then return value else fail

def isLeapYear (year : Nat) : Bool := year % 4 = 0 && (year % 100 ≠ 0 || year % 400 = 0)

def daysInMonth (year month : Nat) : Nat :=
  if month = 2 then (if isLeapYear year then 29 else 28)
  else if month ∈ [4, 6, 9, 11] then 30
  else 31

def date : Scan Unit := do
  let year ← field 4 0 9999
  char '-'
  let month ← field 2 1 12
  char '-'
  let _ ← field 2 1 (daysInMonth year month)

/-- Hours, minutes, seconds, where a leap second counts, and perhaps a fraction of a second. -/
def time : Scan Unit := do
  let _ ← field 2 0 23
  char ':'
  let _ ← field 2 0 59
  char ':'
  let _ ← field 2 0 60
  let _ ← attempt do
    char '.'
    many1 Char.isDigit

def offset : Scan Unit := do
  let mark ← one fun c => c ∈ ['Z', 'z', '+', '-']
  if mark = '+' ∨ mark = '-' then
    let _ ← field 2 0 23
    char ':'
    let _ ← field 2 0 59

/-- A date, a date with a time, or a time alone. -/
def moment : Scan Unit :=
  let dateTime := do
    date
    let _ ← attempt do
      let _ ← one fun c => c ∈ ['T', 't', ' ']
      time
      let _ ← attempt offset
  first [dateTime, time]

end TypedQuery.Toml
