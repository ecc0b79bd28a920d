import TypedQuery.Proofs.Text.Line
import TypedQuery.Query.Directive

/-! Directives are found line by line, and it does not matter how a line ends. -/
namespace TypedQuery.Query

open Text (isBlank isIndent lines trim)

variable {key text rest : List Char}

theorem after?_eq_some_iff : after? key text = some rest ↔ text = key ++ rest := by
  induction key generalizing text with
  | nil => simp [after?]
  | cons a key ih =>
    cases text with
    | nil => simp [after?]
    | cons c text =>
      rw [after?]
      split
      · next hc =>
        subst hc
        rw [ih, List.cons_append, List.cons_inj_right]
      · next hc =>
        refine iff_of_false nofun ?_
        intro h
        exact hc (List.cons.inj h).1.symm

theorem after?_append (start text : List Char) : after? start (start ++ text) = some text :=
  after?_eq_some_iff.mpr rfl

/-- What a directive looks at: the text without the spaces, tabs and dashes in front. -/
def directiveBody (text : List Char) : List Char :=
  (skipDashes (text.dropWhile isIndent)).dropWhile isIndent

theorem directive?_eq_some_iff {value : List Char} : directive? key text = some value ↔
    ∃ rest, directiveBody text = key ++ ':' :: rest ∧ rest.dropWhile isIndent = value := by
  rw [directive?, directiveBody]
  constructor
  · intro h
    split at h
    · next rest hafter =>
      exact ⟨rest, after?_eq_some_iff.mp hafter, Option.some.inj h⟩
    · cases h
  · rintro ⟨rest, hbody, rfl⟩
    rw [after?_eq_some_iff.mpr hbody]
    rfl

section Subset

theorem skipDashes_suffix (text : List Char) : skipDashes text <:+ text := by
  unfold skipDashes
  split
  · exact ⟨['-', '-'], rfl⟩
  · exact List.suffix_refl _

theorem directive?_suffix {value : List Char} (h : directive? key text = some value) :
    value <:+ text := by
  obtain ⟨rest, hbody, rfl⟩ := directive?_eq_some_iff.mp h
  have hrest : rest <:+ directiveBody text := ⟨key ++ [':'], by simp [hbody]⟩
  have hbody : directiveBody text <:+ text :=
    (List.dropWhile_suffix isIndent).trans
      ((skipDashes_suffix _).trans (List.dropWhile_suffix isIndent))
  exact (List.dropWhile_suffix isIndent).trans (hrest.trans hbody)

theorem value?_subset {value : List Char} (h : value? key text = some value) : value ⊆ text := by
  obtain ⟨hmap, _⟩ := Option.filter_eq_some_iff.mp h
  obtain ⟨found, hfound, rfl⟩ := Option.map_eq_some_iff.mp hmap
  exact List.Subset.trans (Text.trim_subset found) (directive?_suffix hfound).subset

theorem suffix_of_mem_comments {line comment : List Char} (h : comment ∈ comments line) :
    comment <:+ line := by
  fun_induction comments line with
  | case1 rest ih =>
    rcases List.mem_cons.mp h with rfl | h
    · exact List.suffix_refl _
    · exact (ih h).trans ⟨['-', '-'], rfl⟩
  | case2 c rest _ ih => exact (ih h).trans (List.suffix_cons c rest)
  | case3 => cases h

theorem suffix_of_mem_candidates {line candidate : List Char}
    (h : candidate ∈ line :: comments line) : candidate <:+ line := by
  rcases List.mem_cons.mp h with rfl | h
  · exact List.suffix_refl _
  · exact suffix_of_mem_comments h

theorem lineValue?_subset {line value : List Char} (h : lineValue? key line = some value) :
    value ⊆ line := by
  obtain ⟨candidate, hmem, hvalue⟩ := List.exists_of_findSome?_eq_some h
  exact List.Subset.trans (value?_subset hvalue) (suffix_of_mem_candidates hmem).subset

end Subset

section Return

theorem skipDashes_concat_return (text : List Char) :
    skipDashes (text ++ ['\r']) = skipDashes text ++ ['\r'] := by
  match text with
  | [] => rfl
  | [c] =>
    by_cases hc : c = '-'
    · subst hc
      rfl
    · simp [skipDashes, hc]
  | c :: d :: rest =>
    by_cases hdash : c = '-' ∧ d = '-'
    · obtain ⟨rfl, rfl⟩ := hdash
      rfl
    · simp_all [skipDashes]

theorem directiveBody_concat_return (text : List Char) :
    directiveBody (text ++ ['\r']) = directiveBody text ++ ['\r'] := by
  have hstop : Text.Stops isIndent ['\r'] := Text.stops_cons.mpr (by decide)
  rw [directiveBody, Text.dropWhile_append_eq hstop, skipDashes_concat_return,
    Text.dropWhile_append_eq hstop]
  rfl

/-- A return at the end is part of the value. -/
theorem directive?_concat_return (key text : List Char) :
    directive? key (text ++ ['\r']) = (directive? key text).map (· ++ ['\r']) := by
  have hstop : Text.Stops isIndent ['\r'] := Text.stops_cons.mpr (by decide)
  apply Option.ext
  intro value
  rw [Option.map_eq_some_iff, directive?_eq_some_iff, directiveBody_concat_return]
  simp only [directive?_eq_some_iff]
  constructor
  · rintro ⟨rest, hbody, rfl⟩
    rcases List.eq_nil_or_concat' rest with rfl | ⟨front, last, rfl⟩
    · -- The colon would be the return.
      have hlast := congrArg List.getLast? hbody
      simp at hlast
    · have hparts : directiveBody text ++ ['\r'] = (key ++ ':' :: front) ++ [last] := by
        rw [hbody, List.append_assoc, List.cons_append]
      obtain ⟨hfront, hlast⟩ := List.append_inj' hparts rfl
      obtain rfl : '\r' = last := (List.cons.inj hlast).1
      exact ⟨_, ⟨front, hfront, rfl⟩, (Text.dropWhile_append_eq hstop).symm⟩
  · rintro ⟨_, ⟨rest, hbody, rfl⟩, rfl⟩
    refine ⟨rest ++ ['\r'], ?_, Text.dropWhile_append_eq hstop⟩
    rw [hbody, List.append_assoc, List.cons_append]

theorem value?_concat_return (key text : List Char) :
    value? key (text ++ ['\r']) = value? key text := by
  have htrim : ∀ value, trim (value ++ ['\r']) = trim value := Text.trim_concat (by decide)
  rw [value?, value?, directive?_concat_return, Option.map_map]
  congr 1
  exact congrArg (Option.map · (directive? key text)) (funext htrim)

theorem comments_concat_return (line : List Char) :
    comments (line ++ ['\r']) = (comments line).map (· ++ ['\r']) := by
  fun_induction comments line with
  | case1 rest ih =>
    simp only [List.cons_append, comments, List.map_cons]
    rw [ih]
  | case2 c rest hdashes ih =>
    rw [← ih, List.cons_append]
    cases rest with
    | nil => simp [comments]
    | cons d rest =>
      have hnot : ¬ (c = '-' ∧ d = '-') := by
        rintro ⟨rfl, rfl⟩
        exact hdashes rest rfl rfl
      simp_all [comments]
  | case3 => rfl

theorem lineValue?_concat_return (key line : List Char) :
    lineValue? key (line ++ ['\r']) = lineValue? key line := by
  have hcandidates : (line ++ ['\r']) :: comments (line ++ ['\r']) =
      (line :: comments line).map (· ++ ['\r']) := by
    rw [comments_concat_return]
    rfl
  rw [lineValue?, hcandidates, List.findSome?_map]
  exact congrArg (List.findSome? · _) (funext (value?_concat_return key))

end Return

theorem lineValue?_nil (key : List Char) : lineValue? key [] = none := by
  cases key <;> rfl

/-- The value comes from the first piece between line feeds that has one. -/
theorem textValue?_eq (key text : List Char) :
    textValue? key text = (text.splitOn '\n').findSome? (lineValue? key) :=
  Text.findSome?_lines (lineValue?_nil key) (lineValue?_concat_return key) text

/-- A value stands on one line of the text. -/
theorem mem_of_textValue? {value : List Char} {c : Char} (h : textValue? key text = some value)
    (hc : c ∈ value) : c ∈ text ∧ c ≠ '\n' := by
  rw [textValue?_eq] at h
  obtain ⟨line, hline, hvalue⟩ := List.exists_of_findSome?_eq_some h
  exact Text.mem_of_mem_splitOn hline (lineValue?_subset hvalue hc)

theorem textValue?_line {line : List Char} (h : '\n' ∉ line) :
    textValue? key line = lineValue? key line := by
  rw [textValue?_eq, List.splitOn_eq_singleton h]
  simp

theorem textValue?_append (key a b : List Char) :
    textValue? key (a ++ '\n' :: b) = (textValue? key a).or (textValue? key b) := by
  rw [textValue?_eq, textValue?_eq, textValue?_eq, List.splitOn_append_cons_self,
    List.findSome?_append]

end TypedQuery.Query
