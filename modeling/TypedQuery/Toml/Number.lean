import TypedQuery.Decimal.Reading
import TypedQuery.Toml.Item
import TypedQuery.Toml.Text

/-! Numbers. -/
namespace TypedQuery.Toml

open Scan

/-- Digits, with single underscores between them. -/
def digitGroups (isDigit : Char → Bool) : Scan (List Char) := do
  let first ← one isDigit
  let rec more : Nat → Scan (List Char)
    | 0 => return []
    | fuel + 1 => do
      let next ← attempt do
        let _ ← attempt (char '_')
        one isDigit
      match next with
      | some c => return c :: (← more fuel)
      | none => return []
  return first :: (← more (← rest).length)

/-- A sign; whether it is a minus. -/
def sign : Scan Bool := do
  if ← sees ['-'] then
    char '-'
    return true
  else
    let _ ← attempt (char '+')
    return false

/-- Decimal digits that do not start with a zero, unless that is all. -/
def wholeDigits : Scan (List Char) := do
  if ← sees ['0'] then
    char '0'
    return ['0']
  else digitGroups Char.isDigit

def fractionDigits : Scan (List Char) := do
  char '.'
  digitGroups Char.isDigit

def exponent : Scan Int := do
  let _ ← one fun c => c = 'e' || c = 'E'
  let negative ← sign
  let value : Int := Decimal.natOfDigits (← digitGroups Char.isDigit)
  return if negative then -value else value

/-- A number with a fraction, an exponent or both. One too large for a float is refused, but a
negative one is minus infinity. -/
def decimalFloat : Scan Float := do
  let negative ← sign
  let whole ← wholeDigits
  let fraction ← attempt fractionDigits
  let power ← attempt exponent
  if fraction = none ∧ power = none then fail
  else
    let digits := fraction.getD []
    let value := Decimal.toFloat negative (Decimal.natOfDigits (whole ++ digits))
      (power.getD 0 - digits.length)
    if value.isInf ∧ !negative then fail else return value

/-- Infinity or no number, with or without a sign. -/
def specialFloat : Scan Float := do
  let negative ← sign
  let value ← first
    [do chars ['i', 'n', 'f']; return 1.0 / 0.0,
     do chars ['n', 'a', 'n']; return 0.0 / 0.0]
  return if negative then -value else value

/-- An integer that 64 bits hold. -/
def bounded (value : Int) : Scan Int :=
  if -0x8000000000000000 ≤ value ∧ value < 0x8000000000000000 then return value else fail

def basedInt (letter : Char) (base : Nat) (isDigit : Char → Bool) : Scan Int := do
  chars ['0', letter]
  let digits ← digitGroups isDigit
  bounded (digits.foldl (fun value c => value * base + hexValue c) 0)

def decimalInt : Scan Int := do
  let negative ← sign
  let value : Int := Decimal.natOfDigits (← wholeDigits)
  bounded (if negative then -value else value)

def integer : Scan Int := do
  if ← sees ['0', 'x'] then basedInt 'x' 16 isHexDigit
  else if ← sees ['0', 'o'] then basedInt 'o' 8 fun c => '0' ≤ c && c ≤ '7'
  else if ← sees ['0', 'b'] then basedInt 'b' 2 fun c => c = '0' || c = '1'
  else decimalInt

end TypedQuery.Toml
