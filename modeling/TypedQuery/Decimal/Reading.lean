/-! Floats from decimals. -/
namespace TypedQuery.Decimal

def natOfDigits (digits : List Char) : Nat :=
  digits.foldl (fun n c => n * 10 + (c.toNat - '0'.toNat)) 0

/-- The float nearest to `mantissa · 10 ^ exponent`. Far outside the range of floats it is infinite
or zero. -/
def toFloat (negative : Bool) (mantissa : Nat) (exponent : Int) : Float :=
  let top := exponent + (Nat.toDigits 10 mantissa).length
  let magnitude : Float :=
    if mantissa = 0 ∨ top < -400 then 0.0
    else if top > 400 then 1.0 / 0.0
    else Float.ofScientific mantissa (exponent < 0) exponent.natAbs
  if negative then -magnitude else magnitude

end TypedQuery.Decimal
