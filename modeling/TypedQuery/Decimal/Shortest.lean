/-! The shortest decimal that reads back as a given float. -/
namespace TypedQuery.Decimal

/-- A decimal `0.d₁d₂… · 10 ^ point`, without zeros at the ends of its digits. -/
structure Digits where
  digits : List Char
  point : Int
  deriving DecidableEq, Repr

structure Ratio where
  num : Nat
  den : Nat

/-- `a · 2 ^ e`. -/
def Ratio.dyadic (a : Nat) (e : Int) : Ratio := ⟨a * Nat.pow 2 e.toNat, Nat.pow 2 (-e).toNat⟩

/-- `a · 10 ^ k`. -/
def Ratio.decimal (a : Nat) (k : Int) : Ratio := ⟨a * Nat.pow 10 k.toNat, Nat.pow 10 (-k).toNat⟩

def Ratio.compare (a b : Ratio) : Ordering := Ord.compare (a.num * b.den) (b.num * a.den)

/-- The exponent `k` with `10 ^ k ≤ r < 10 ^ (k + 1)`. -/
def Ratio.log10 (r : Ratio) : Int :=
  if r.den ≤ r.num then (Nat.toDigits 10 (r.num / r.den)).length - 1
  else -((Nat.toDigits 10 ((r.den - 1) / r.num)).length : Int)

/-- The reals that round to a float. Those of an even mantissa include both ends. -/
structure Interval where
  low : Ratio
  value : Ratio
  high : Ratio
  closed : Bool

/-- The interval of the positive float `mantissa · 2 ^ exponent`. Below a power of two the next
float is only half as far away, unless that is the smallest normal one. -/
def Interval.ofFloat (mantissa : Nat) (exponent : Int) (halfGap : Bool) : Interval :=
  { low := .dyadic (4 * mantissa - if halfGap then 1 else 2) (exponent - 2)
    value := .dyadic mantissa exponent
    high := .dyadic (4 * mantissa + 2) (exponent - 2)
    closed := mantissa % 2 = 0 }

def Interval.contains (i : Interval) (r : Ratio) : Bool :=
  match i.low.compare r, r.compare i.high with
  | .lt, .lt => true
  | .gt, _ | _, .gt => false
  | _, _ => i.closed

/-- Of the two points next to the value on the grid of step `10 ^ k`, the nearer one that lies in
the interval. -/
def Interval.onGrid? (i : Interval) (k : Int) : Option Nat :=
  let v := i.value
  let below := v.num * Nat.pow 10 (-k).toNat / (v.den * Nat.pow 10 k.toNat)
  let above := below + 1
  match i.contains (.decimal below k), i.contains (.decimal above k) with
  | true, true =>
    -- The middle between the two is `(below + above) / 2`.
    match (Ratio.decimal (below + above) k).compare ⟨2 * v.num, v.den⟩ with
    | .lt => some above
    | .gt => some below
    | .eq => some (if below % 2 = 0 then below else above)
  | true, false => some below
  | false, true => some above
  | false, false => none

/-- The first grid from coarse to fine that has a point in the interval. -/
def Interval.shortest (i : Interval) : Nat × Int :=
  let top := i.value.log10
  let grids := (List.range 17).map fun n : Nat => top - (n : Int)
  (grids.findSome? fun k => (i.onGrid? k).map (·, k)).getD (0, 0)

/-- The digits of a positive number `a · 10 ^ k`. -/
def Digits.ofGrid (a : Nat) (k : Int) : Digits :=
  let all := Nat.toDigits 10 a
  { digits := (all.reverse.dropWhile (· = '0')).reverse, point := all.length + k }

/-- The shortest digits of a positive finite float given by its bits. -/
def Digits.ofBits (bits : Nat) : Digits :=
  let biased : Nat := bits / Nat.pow 2 52 % Nat.pow 2 11
  let fraction : Nat := bits % Nat.pow 2 52
  let interval :=
    if biased = 0 then Interval.ofFloat fraction (-1074) false
    else Interval.ofFloat (Nat.pow 2 52 + fraction) (biased - 1075) (fraction = 0 ∧ biased > 1)
  let (a, k) := interval.shortest
  .ofGrid a k

end TypedQuery.Decimal
