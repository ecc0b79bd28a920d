import TypedQuery.Proofs.Text.Line

/-! The other way to end a line: a carriage return before each line feed. -/
namespace TypedQuery.Text

def crlf (text : List Char) : List Char :=
  text.flatMap fun c => if c = '\n' then ['\r', '\n'] else [c]

def withReturns (text : String) : String := .ofList (crlf text.toList)

variable {p : Char → Bool} {text a b : List Char} {c : Char}

@[simp] theorem toList_withReturns (text : String) :
    (withReturns text).toList = crlf text.toList := String.toList_ofList

@[simp] theorem crlf_nil : crlf [] = [] := rfl

@[simp] theorem crlf_newline : crlf ('\n' :: text) = '\r' :: '\n' :: crlf text := rfl

theorem crlf_cons (h : c ≠ '\n') : crlf (c :: text) = c :: crlf text := by
  rw [crlf, List.flatMap_cons, if_neg h]
  rfl

theorem crlf_append (a b : List Char) : crlf (a ++ b) = crlf a ++ crlf b := List.flatMap_append

/-- A single line stays as it is. -/
theorem crlf_of_not_mem (h : '\n' ∉ text) : crlf text = text := by
  induction text with
  | nil => rfl
  | cons c text ih =>
    have hc : c ≠ '\n' := (List.ne_of_not_mem_cons h).symm
    rw [crlf_cons hc, ih (List.not_mem_of_not_mem_cons h)]

theorem crlf_eq_nil_iff : crlf text = [] ↔ text = [] := by
  cases text with
  | nil => exact Iff.rfl
  | cons c text =>
    by_cases hc : c = '\n'
    · subst hc
      simp
    · simp [crlf_cons hc]

/-- Only line endings differ at the front. -/
theorem head?_crlf_eq_some_iff (hreturn : c ≠ '\r') (hnewline : c ≠ '\n') :
    (crlf text).head? = some c ↔ text.head? = some c := by
  cases text with
  | nil => exact Iff.rfl
  | cons d text =>
    by_cases hd : d = '\n'
    · subst hd
      simp [hreturn.symm, hnewline.symm]
    · rw [crlf_cons hd]
      rfl

theorem isPrefix_crlf_iff {front : List Char} (hfront : ∀ c ∈ front, c ≠ '\r' ∧ c ≠ '\n') :
    front <+: crlf text ↔ front <+: text := by
  induction front generalizing text with
  | nil => exact iff_of_true List.nil_prefix List.nil_prefix
  | cons c front ih =>
    obtain ⟨⟨hreturn, hnewline⟩, hfront⟩ := List.forall_mem_cons.mp hfront
    cases text with
    | nil => exact Iff.rfl
    | cons d text =>
      by_cases hd : d = '\n'
      · subst hd
        simp [hreturn, hnewline]
      · rw [crlf_cons hd, List.cons_prefix_cons, List.cons_prefix_cons, ih hfront]

theorem stops_crlf (hreturn : p '\r' = false) (h : Stops p text) : Stops p (crlf text) := by
  cases text with
  | nil => exact h
  | cons c text =>
    by_cases hc : c = '\n'
    · subst hc
      exact stops_cons.mpr hreturn
    · rw [crlf_cons hc]
      exact stops_cons.mpr (stops_cons.mp h)

/-- A stretch that no line ending belongs to stays. -/
theorem span_crlf (hreturn : p '\r' = false) (hnewline : p '\n' = false) (text : List Char) :
    (crlf text).takeWhile p = text.takeWhile p ∧
      (crlf text).dropWhile p = crlf (text.dropWhile p) := by
  obtain ⟨front, rest, rfl, hfront, hrest⟩ := exists_span p text
  have hline : '\n' ∉ front := by
    intro hmem
    rw [hfront '\n' hmem] at hnewline
    cases hnewline
  have hstop := stops_crlf hreturn hrest
  rw [crlf_append, crlf_of_not_mem hline, takeWhile_append_of_stops hfront hstop,
    takeWhile_append_of_stops hfront hrest, dropWhile_append_of_stops hfront hstop,
    dropWhile_append_of_stops hfront hrest]
  exact ⟨rfl, rfl⟩

end TypedQuery.Text
