/-! Stretches of time. -/
namespace TypedQuery.Rows

structure Duration where
  nanoseconds : Nat
  deriving DecidableEq, Repr

namespace Duration

/-- The number `n / Nat.pow 10 places` without zeros at the end. -/
def decimal (n places : Nat) : List Char :=
  let digits := Nat.toDigits 10 (n % Nat.pow 10 places)
  let fraction := List.replicate (places - digits.length) '0' ++ digits
  match (fraction.reverse.dropWhile (· = '0')).reverse with
  | [] => Nat.toDigits 10 (n / Nat.pow 10 places)
  | shown => Nat.toDigits 10 (n / Nat.pow 10 places) ++ '.' :: shown

/-- In the largest unit from nanoseconds to seconds of which there is at least one. -/
def text (d : Duration) : String :=
  let n := d.nanoseconds
  if 1000000000 ≤ n then .ofList (decimal n 9) ++ "s"
  else if 1000000 ≤ n then .ofList (decimal n 6) ++ "ms"
  else if 1000 ≤ n then .ofList (decimal n 3) ++ "µs"
  else toString n ++ "ns"

/-- Whole milliseconds, rounded up. -/
def milliseconds (d : Duration) : Nat := (d.nanoseconds + 999999) / 1000000

end Duration

example : Duration.text ⟨1500000⟩ = "1.5ms" ∧ Duration.text ⟨61000000000⟩ = "61s" ∧
    Duration.text ⟨1001⟩ = "1.001µs" ∧ Duration.text ⟨0⟩ = "0ns" := by decide

end TypedQuery.Rows
