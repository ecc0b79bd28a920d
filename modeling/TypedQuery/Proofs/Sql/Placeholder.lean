import TypedQuery.Dialect
import TypedQuery.Proofs.Text.Span
import TypedQuery.Sql.Run

/-! How a database reads placeholders: the values of a statement in their places. -/
namespace TypedQuery

open Text (Stops)

namespace Sql

/-- Each mark takes the value that the digits after it number, counted from one. There is no text
if a mark has no value. -/
def fillNumbered (mark : Char) (values : List (List Char)) : List Char → Option (List Char)
  | [] => some []
  | c :: rest =>
    if c = mark then
      match Nat.ofDigitChars 10 (rest.takeWhile Char.isDigit) 0 with
      | 0 => none
      | n + 1 => do
        let value ← values[n]?
        let text ← fillNumbered mark values (rest.dropWhile Char.isDigit)
        return value ++ text
    else (fillNumbered mark values rest).map (c :: ·)
termination_by text => text.length
decreasing_by
  · have := (List.dropWhile_sublist (l := rest) Char.isDigit).length_le
    simp only [List.length_cons]
    omega
  · simp

/-- Each mark takes the next value. The values that are left come with the text. -/
def fillNext (mark : Char) :
    List (List Char) → List Char → Option (List Char × List (List Char))
  | values, [] => some ([], values)
  | values, c :: rest =>
    if c = mark then
      match values with
      | [] => none
      | value :: values => (fillNext mark values rest).map fun (text, left) => (value ++ text, left)
    else (fillNext mark values rest).map fun (text, left) => (c :: text, left)

/-- The text of all runs with values in the places of the code's placeholders. Each run leaves to
the next ones the values that they may take. -/
def fillRuns (fill : List (List Char) → List Char → Option (List Char × List (List Char))) :
    List (List Char) → List Run → Option (List Char)
  | _, [] => some []
  | values, run :: runs =>
    if run.code then do
      let (text, left) ← fill values run.text
      let rest ← fillRuns fill left runs
      return text ++ rest
    else (fillRuns fill values runs).map (run.text ++ ·)

section Filling

variable {mark : Char} {values : List (List Char)} {text rest : List Char}

theorem fillNumbered_append_of_not_mem (h : mark ∉ text) :
    fillNumbered mark values (text ++ rest) =
      (fillNumbered mark values rest).map (text ++ ·) := by
  induction text with
  | nil => simp
  | cons c text ih =>
    have hc : c ≠ mark := (List.ne_of_not_mem_cons h).symm
    rw [List.cons_append, fillNumbered, if_neg hc, ih (List.not_mem_of_not_mem_cons h),
      Option.map_map]
    rfl

/-- The number of a placeholder ends where its digits do. -/
theorem fillNumbered_placeholder {value : List Char} {n : Nat} (hvalue : values[n]? = some value)
    (hs : Stops Char.isDigit rest) :
    fillNumbered mark values (mark :: (Nat.toDigits 10 (n + 1) ++ rest)) =
      (fillNumbered mark values rest).map (value ++ ·) := by
  have hdigits : ∀ c ∈ Nat.toDigits 10 (n + 1), c.isDigit := fun c hc =>
    Nat.isDigit_of_mem_toDigits (by decide) (by decide) hc
  rw [fillNumbered, if_pos rfl, Text.takeWhile_append_of_stops hdigits hs,
    Text.dropWhile_append_of_stops hdigits hs, Nat.ofDigitChars_ten_toDigits]
  simp only [hvalue, Option.bind_eq_bind, Option.bind_some]
  cases fillNumbered mark values rest <;> rfl

theorem fillNext_cons {c : Char} (hc : c ≠ mark) :
    fillNext mark values (c :: rest) =
      (fillNext mark values rest).map fun (filled, left) => (c :: filled, left) := by
  rw [fillNext.eq_def]
  exact if_neg hc

theorem fillNext_mark {value : List Char} :
    fillNext mark (value :: values) (mark :: rest) =
      (fillNext mark values rest).map fun (filled, left) => (value ++ filled, left) := by
  rw [fillNext.eq_def]
  exact if_pos rfl

theorem fillNext_append_of_not_mem (h : mark ∉ text) :
    fillNext mark values (text ++ rest) =
      (fillNext mark values rest).map fun (filled, left) => (text ++ filled, left) := by
  induction text with
  | nil => exact Option.map_id'.symm
  | cons c text ih =>
    have hc : c ≠ mark := (List.ne_of_not_mem_cons h).symm
    rw [List.cons_append, fillNext_cons hc, ih (List.not_mem_of_not_mem_cons h),
      Option.map_map]
    rfl

end Filling

end Sql

namespace Dialect

/-- The character that begins a placeholder. -/
def mark : Dialect → Char
  | postgres => '$'
  | mysql | sqlite => '?'

/-- Code with values in the places of its placeholders, and the values left for code after it. -/
def fill (dialect : Dialect) (values : List (List Char)) (code : List Char) :
    Option (List Char × List (List Char)) :=
  match dialect with
  | mysql => Sql.fillNext dialect.mark values code
  | postgres | sqlite => (Sql.fillNumbered dialect.mark values code).map (·, values)

theorem head?_placeholder (dialect : Dialect) (slot : Nat) :
    (dialect.placeholder slot).head? = some dialect.mark := by
  cases dialect <;> rfl

section Fill

variable {dialect : Dialect} {values left : List (List Char)} {text rest : List Char}

theorem fill_nil : dialect.fill values [] = some ([], values) := by
  cases dialect <;> simp [fill, Sql.fillNext, Sql.fillNumbered]

theorem fill_append_of_not_mem (h : dialect.mark ∉ text) :
    dialect.fill values (text ++ rest) =
      (dialect.fill values rest).map fun (filled, left) => (text ++ filled, left) := by
  cases dialect with
  | mysql => exact Sql.fillNext_append_of_not_mem h
  | postgres | sqlite =>
    unfold fill
    simp only [Sql.fillNumbered_append_of_not_mem h, Option.map_map]
    rfl

/-- A placeholder without a number uses up the first value. One with a number leaves all values to
the next ones. -/
theorem fill_placeholder {value : List Char} {slot : Nat}
    (hvalues : values = if dialect.bindsPerOccurrence then value :: left else left)
    (hslot : dialect.bindsPerOccurrence = false → left[slot]? = some value)
    (hs : Stops Char.isDigit rest) :
    dialect.fill values (dialect.placeholder slot ++ rest) =
      (dialect.fill left rest).map fun (filled, left) => (value ++ filled, left) := by
  cases dialect with
  | mysql =>
    rw [hvalues]
    exact Sql.fillNext_mark
  | postgres | sqlite =>
    obtain rfl : values = left := hvalues
    unfold fill placeholder
    simp only [List.cons_append]
    rw [mark, Sql.fillNumbered_placeholder (hslot rfl) hs, Option.map_map, Option.map_map]
    rfl

end Fill

end Dialect
end TypedQuery
