import TypedQuery.Proofs.Text.Span
import TypedQuery.Proofs.Text.Split
import TypedQuery.Text.Blank
import TypedQuery.Text.Lines
import TypedQuery.Text.Word
import Mathlib.Data.List.Basic

/-! Texts line by line, and blanks at the end of a line. -/
namespace TypedQuery.Text

variable {p : Char → Bool} {text a b : List Char} {c : Char}

/-- Only the stretch at the front counts if no stretch goes on behind it. -/
theorem dropWhile_append_eq (hb : Stops p b) :
    (a ++ b).dropWhile p = a.dropWhile p ++ b := by
  obtain ⟨front, rest, rfl, hfront, hrest⟩ := exists_span p a
  rw [List.append_assoc, dropWhile_append_of_stops hfront (stops_append hrest fun _ => hb),
    dropWhile_append_of_stops hfront hrest]

theorem isWord_of_isBlank (h : isBlank c) : isWord c = false := by
  obtain ⟨range, hmem, hlo, hhi⟩ := exists_mem_of_covers h
  have hall : ∀ range ∈ blankRanges, ∀ n ∈ List.range' range.1 (range.2 + 1 - range.1),
      covers wordRanges n = false := by decide +kernel
  exact hall range hmem c.toNat (List.mem_range'_1.mpr ⟨hlo, by omega⟩)

theorem trim_concat (hc : isBlank c) (text : List Char) : trim (text ++ [c]) = trim text := by
  obtain ⟨front, rest, rfl, hfront, hrest⟩ := exists_span isBlank text
  rw [List.append_assoc]
  cases rest with
  | nil =>
    have hall : ∀ d ∈ front ++ [c], isBlank d :=
      List.forall_mem_append.mpr ⟨hfront, List.forall_mem_singleton.mpr hc⟩
    have hleft : (front ++ [c]).dropWhile isBlank = [] := List.dropWhile_eq_nil_iff.mpr hall
    have hright : (front ++ []).dropWhile isBlank = [] := by
      rw [List.append_nil]
      exact List.dropWhile_eq_nil_iff.mpr hfront
    rw [trim, trim, List.nil_append, hleft, hright]
  | cons d rest =>
    have hstop : Stops isBlank (d :: rest ++ [c]) := by
      rw [List.cons_append]
      exact stops_cons.mpr (stops_cons.mp hrest)
    rw [trim, trim, dropWhile_append_of_stops hfront hstop, dropWhile_append_of_stops hfront hrest,
      List.reverse_append, List.reverse_singleton, List.singleton_append,
      List.dropWhile_cons_of_pos hc]

theorem trim_dropWhile_isIndent (text : List Char) : trim (text.dropWhile isIndent) = trim text := by
  obtain ⟨front, rest, rfl, hfront, hrest⟩ := exists_span isIndent text
  have hblank : ∀ c ∈ front, isBlank c := fun c hc => isBlank_of_isIndent (hfront c hc)
  rw [dropWhile_append_of_stops hfront hrest, trim, trim, List.dropWhile_append_of_pos hblank]

theorem trim_subset (text : List Char) : trim text ⊆ text := fun c hc => by
  have hfront := (List.dropWhile_sublist isBlank).subset (List.mem_reverse.mp hc)
  exact (List.dropWhile_sublist isBlank).subset (List.mem_reverse.mp hfront)

/-- Induction along the lines of a text. -/
theorem line_induction {motive : List Char → Prop}
    (last : ∀ line, '\n' ∉ line → motive line)
    (line : ∀ line rest, '\n' ∉ line → motive rest → motive (line ++ '\n' :: rest))
    (text : List Char) : motive text := by
  induction hlen : text.length using Nat.strong_induction_on generalizing text with
  | _ n ih =>
    subst hlen
    obtain ⟨front, rest, rfl, hfront, hrest⟩ := exists_span (· ≠ '\n') text
    have hfront : '\n' ∉ front := fun hmem => by simpa using hfront '\n' hmem
    cases rest with
    | nil =>
      rw [List.append_nil]
      exact last front hfront
    | cons c rest =>
      obtain rfl : c = '\n' := by simpa using hrest
      have hlt : rest.length < (front ++ '\n' :: rest).length := by
        rw [List.length_append, List.length_cons]
        omega
      exact line front rest hfront (ih _ hlt rest rfl)

/-- Whether a carriage return was removed, and whether the text ends with a line feed, can only
make a difference to what looks for either. -/
theorem findSome?_lines {α : Type} {f : List Char → Option α} (hnil : f [] = none)
    (hreturn : ∀ line, f (line ++ ['\r']) = f line) (text : List Char) :
    (lines text).findSome? f = (text.splitOn '\n').findSome? f := by
  have hdrop : ∀ line, f (dropReturn line) = f line := by
    intro line
    unfold dropReturn
    split
    · next hlast =>
      obtain ⟨front, rfl⟩ := List.getLast?_eq_some_iff.mp hlast
      rw [List.dropLast_concat, hreturn]
    · rfl
  obtain ⟨front, last, hpieces⟩ :=
    (List.eq_nil_or_concat' (text.splitOn '\n')).resolve_left (List.splitOn_ne_nil _ _)
  have hfront : (front.map dropReturn).findSome? f = front.findSome? f := by
    rw [List.findSome?_map]
    exact congrArg (List.findSome? · front) (funext hdrop)
  have hlast : ((some last).filter (· ≠ [])).toList.findSome? f = [last].findSome? f := by
    by_cases hempty : last = []
    · simp [hempty, hnil]
    · rw [Option.filter_some_pos (by simpa using hempty)]
      rfl
  rw [lines, hpieces, List.dropLast_concat, List.getLast?_concat, List.findSome?_append, hfront,
    hlast, List.findSome?_append]

section Lines

variable {line rest : List Char}

theorem dropReturn_subset (line : List Char) : dropReturn line ⊆ line := by
  unfold dropReturn
  split
  · exact List.dropLast_subset line
  · exact List.Subset.refl line

theorem newline_not_mem_of_mem_lines (h : line ∈ lines text) : '\n' ∉ line := by
  have hpieces : ∀ piece ∈ text.splitOn '\n', '\n' ∉ piece := fun piece hpiece hmem =>
    (mem_of_mem_splitOn hpiece hmem).2 rfl
  rcases List.mem_append.mp h with h | h
  · obtain ⟨piece, hpiece, rfl⟩ := List.mem_map.mp h
    exact fun hmem => hpieces piece (List.dropLast_subset _ hpiece) (dropReturn_subset piece hmem)
  · have hlast := (Option.filter_eq_some_iff.mp (Option.mem_toList.mp h)).1
    exact hpieces line (List.mem_of_getLast? hlast)

/-- A text without line feeds is one line, or none. -/
theorem lines_of_not_mem (h : '\n' ∉ line) : lines line = if line = [] then [] else [line] := by
  rw [lines, List.splitOn_eq_singleton h]
  by_cases hline : line = []
  · rw [if_pos hline, hline]
    rfl
  · rw [if_neg hline, List.getLast?_singleton, Option.filter_some_pos (by simpa using hline)]
    rfl

theorem lines_append_newline (h : '\n' ∉ line) :
    lines (line ++ '\n' :: rest) = dropReturn line :: lines rest := by
  have hne : rest.splitOn '\n' ≠ [] := List.splitOn_ne_nil _ _
  have hlast : (line :: rest.splitOn '\n').getLast? = (rest.splitOn '\n').getLast? := by
    rw [List.getLast?_cons, List.getLast?_eq_some_getLast hne]
    rfl
  rw [lines, List.splitOn_append_cons_self_of_not_mem h]
  simp only [List.dropLast_cons_of_ne_nil hne, hlast]
  rfl

end Lines

end TypedQuery.Text
