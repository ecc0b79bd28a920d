import TypedQuery.Decimal.Shortest

/-! Texts of floats. -/
namespace TypedQuery.Decimal

namespace Digits

def zeros (n : Int) : List Char := List.replicate n.toNat '0'

/-- With a point and at least one digit on each side of it. -/
def positional (d : Digits) : List Char :=
  if d.point ≤ 0 then '0' :: '.' :: zeros (-d.point) ++ d.digits
  else if d.digits.length ≤ d.point then
    d.digits ++ zeros (d.point - d.digits.length) ++ ['.', '0']
  else d.digits.take d.point.toNat ++ '.' :: d.digits.drop d.point.toNat

/-- With an exponent after the first digit and its fraction. -/
def scientific (d : Digits) : List Char :=
  let mantissa :=
    match d.digits with
    | [] => []
    | [c] => [c]
    | c :: fraction => c :: '.' :: fraction
  mantissa ++ 'e' :: (toString (d.point - 1)).toList

/-- Positional unless the number is below `10 ^ -5` or not below `10 ^ 16`. -/
def compact (d : Digits) : List Char :=
  if -5 < d.point ∧ d.point ≤ 16 then d.positional else d.scientific

end Digits

/-- The text of a float whose digits are laid out by `layout`. -/
def floatText (layout : Digits → List Char) (x : Float) : String :=
  let bits := x.toBits.toNat
  let sign := if bits < Nat.pow 2 63 then "" else "-"
  if x.isNaN then "NaN"
  else if x.isInf then sign ++ "inf"
  else if x == 0.0 then sign ++ "0.0"
  else sign ++ .ofList (layout (.ofBits (bits % Nat.pow 2 63)))

/-- The text of a float with an exponent where it is very small or large. -/
def compactText : Float → String := floatText Digits.compact

def positionalText : Float → String := floatText Digits.positional

end TypedQuery.Decimal
