import Mathlib.Data.List.TakeWhile

/-! Longest stretches of one class of characters. -/
namespace TypedQuery.Text

/-- The text does not begin with a character of the class, so a stretch of it ends here. -/
def Stops (p : Char → Bool) (text : List Char) : Prop := ∀ c ∈ text.head?, p c = false

variable {p : Char → Bool}

@[simp] theorem stops_nil : Stops p [] := by simp [Stops]

@[simp] theorem stops_cons {c : Char} {rest : List Char} :
    Stops p (c :: rest) ↔ p c = false := by simp [Stops]

theorem stops_congr {a b : List Char} (h : a.head? = b.head?) : Stops p a ↔ Stops p b := by
  rw [Stops, Stops, h]

theorem Stops.mono {q : Char → Bool} {text : List Char} (h : Stops p text)
    (hq : ∀ c, q c → p c) : Stops q text := by
  intro c hc
  rw [Bool.eq_false_iff]
  intro hqc
  have hp := h c hc
  rw [hq c hqc] at hp
  cases hp

theorem stops_append {a b : List Char} (ha : Stops p a) (hb : a = [] → Stops p b) :
    Stops p (a ++ b) := by
  cases a with
  | nil => exact hb rfl
  | cons c a => simpa using ha

theorem stops_dropWhile (text : List Char) : Stops p (text.dropWhile p) := by
  intro c hc
  have h := List.head?_dropWhile_not p text
  rw [Option.mem_def.mp hc] at h
  exact h

theorem takeWhile_eq_nil {text : List Char} : text.takeWhile p = [] ↔ Stops p text := by
  cases text with
  | nil => simp
  | cons c rest => by_cases hc : p c <;> simp [hc]

theorem takeWhile_append_of_stops {a b : List Char} (ha : ∀ c ∈ a, p c) (hb : Stops p b) :
    (a ++ b).takeWhile p = a := by
  rw [List.takeWhile_append_of_pos ha, takeWhile_eq_nil.mpr hb, List.append_nil]

theorem dropWhile_append_of_stops {a b : List Char} (ha : ∀ c ∈ a, p c) (hb : Stops p b) :
    (a ++ b).dropWhile p = b := by
  rw [List.dropWhile_append_of_pos ha]
  cases b with
  | nil => rfl
  | cons c b => rw [List.dropWhile_cons_of_neg (by simpa using hb)]

/-- A stretch, as it is cut off, together with what follows it. -/
theorem exists_span (p : Char → Bool) (text : List Char) :
    ∃ a b, text = a ++ b ∧ (∀ c ∈ a, p c) ∧ Stops p b :=
  ⟨text.takeWhile p, text.dropWhile p, List.takeWhile_append_dropWhile.symm,
    fun _ => List.mem_takeWhile_imp, stops_dropWhile text⟩

end TypedQuery.Text
