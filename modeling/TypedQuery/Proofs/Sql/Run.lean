import TypedQuery.Proofs.Text.Span
import TypedQuery.Sql.Run

/-! What decides how a text falls apart into runs, and which changes to it leave the runs alone. -/
namespace TypedQuery.Sql

open Text (Stops)

/-- The characters that open and close comments and quoted text. -/
def isDelimiter (c : Char) : Bool := c ∈ ['-', '/', '*', '\n'] || isQuote c

/-- A comment or quoted text opens at `c` if `next` follows. -/
def opens (c : Char) (next : Option Char) : Bool :=
  isQuote c || (c = '-' && next = some '-') || (c = '/' && next = some '*')

theorem isDelimiter_of_isQuote {c : Char} (h : isQuote c) : isDelimiter c := by
  simp [isDelimiter, h]

theorem eq_false_of_isDelimiter {p : Char → Bool} {c : Char}
    (hp : ['-', '/', '*', '\n', '\x27', '\x22', '\x60'].all (!p ·)) (h : isDelimiter c) :
    p c = false := by
  have hmem : c ∈ ['-', '/', '*', '\n', '\x27', '\x22', '\x60'] := by
    simp only [isDelimiter, isQuote, Bool.or_eq_true, decide_eq_true_eq] at h
    simp only [List.mem_cons, List.not_mem_nil, or_false, or_assoc] at h ⊢
    exact h
  have hnot : (!p c) = true := List.all_eq_true.mp hp c hmem
  rwa [Bool.not_eq_true'] at hnot

theorem isDelimiter_of_opens {c : Char} {next : Option Char} (h : opens c next) :
    isDelimiter c := by
  simp only [opens, Bool.or_eq_true, Bool.and_eq_true, decide_eq_true_eq] at h
  rcases h with (h | ⟨rfl, _⟩) | ⟨rfl, _⟩
  · exact isDelimiter_of_isQuote h
  · decide
  · decide

/-- `body` goes on through the first `closing` behind it, or to the end of the text without one. -/
inductive ClosedBy (closing : List Char) : List Char → List Char → Prop where
  | unclosed : ClosedBy closing [] []
  | closed (rest : List Char) : ClosedBy closing closing rest
  | cons {c : Char} {body rest : List Char} (h : ¬ closing <+: c :: (body ++ rest))
      (tail : ClosedBy closing body rest) : ClosedBy closing (c :: body) rest

section Scan

variable {c mark : Char} {text run rest body closing : List Char}

namespace ClosedBy

theorem last (h : ClosedBy closing body rest) : rest = [] ∨ closing <:+ body := by
  induction h with
  | unclosed => exact .inl rfl
  | closed rest => exact .inr List.suffix_rfl
  | cons _ _ ih => exact ih.imp_right fun hsuffix => hsuffix.trans (List.suffix_cons _ _)

theorem append_iff {front : List Char} (hne : closing ≠ []) (hfront : ∀ c ∈ front, c ∉ closing) :
    ClosedBy closing (front ++ body) rest ↔ ClosedBy closing body rest := by
  induction front with
  | nil => exact Iff.rfl
  | cons c front ih =>
    obtain ⟨hc, hfront⟩ := List.forall_mem_cons.mp hfront
    constructor
    · intro h
      cases h with
      | closed => exact absurd List.mem_cons_self hc
      | cons _ tail => exact (ih hfront).mp tail
    · intro h
      refine .cons (fun hclosing => ?_) ((ih hfront).mpr h)
      obtain ⟨d, closing, rfl⟩ := List.exists_cons_of_ne_nil hne
      exact hc ((List.cons_prefix_cons.mp hclosing).1 ▸ List.mem_cons_self)

end ClosedBy

theorem throughCommentEnd_cons (h : ¬ ['*', '/'] <+: c :: text) :
    throughCommentEnd (c :: text) =
      (c :: (throughCommentEnd text).1, (throughCommentEnd text).2) := by
  rw [throughCommentEnd.eq_def]
  split
  · next after heq =>
    rw [heq] at h
    exact absurd ⟨after, rfl⟩ h
  · next heq =>
    obtain ⟨rfl, rfl⟩ := List.cons.inj heq
    rfl
  · next heq => cases heq

theorem through_cons (h : ¬ [mark] <+: c :: text) :
    through mark (c :: text) = (c :: (through mark text).1, (through mark text).2) := by
  have hne : c ≠ mark := by
    rintro rfl
    exact h ⟨text, rfl⟩
  rw [through, if_neg hne]

theorem throughCommentEnd_eq_iff :
    throughCommentEnd (body ++ rest) = (body, rest) ↔ ClosedBy ['*', '/'] body rest := by
  constructor
  · intro h
    induction body with
    | nil =>
      cases rest with
      | nil => exact .unclosed
      | cons c rest =>
        unfold throughCommentEnd at h
        split at h <;> cases h
    | cons c body ih =>
      by_cases hend : ['*', '/'] <+: c :: (body ++ rest)
      · obtain ⟨after, hafter⟩ := hend
        rw [List.cons_append, ← hafter] at h
        obtain ⟨hbody, -⟩ := Prod.mk.inj h
        rw [← hbody]
        exact .closed rest
      · rw [List.cons_append, throughCommentEnd_cons hend] at h
        obtain ⟨hbody, hrest⟩ := Prod.mk.inj h
        exact .cons hend (ih (Prod.ext (List.cons.inj hbody).2 hrest))
  · intro h
    induction h with
    | unclosed | closed => rfl
    | cons hend _ ih => rw [List.cons_append, throughCommentEnd_cons hend, ih]

theorem through_eq_iff : through mark (body ++ rest) = (body, rest) ↔ ClosedBy [mark] body rest := by
  constructor
  · intro h
    induction body with
    | nil =>
      cases rest with
      | nil => exact .unclosed
      | cons c rest =>
        rw [List.nil_append, through] at h
        split at h <;> cases h
    | cons c body ih =>
      by_cases hend : [mark] <+: c :: (body ++ rest)
      · obtain ⟨rfl, -⟩ := List.cons_prefix_cons.mp hend
        rw [List.cons_append, through, if_pos rfl] at h
        obtain ⟨hbody, -⟩ := Prod.mk.inj h
        rw [← hbody]
        exact .closed rest
      · rw [List.cons_append, through_cons hend] at h
        obtain ⟨hbody, hrest⟩ := Prod.mk.inj h
        exact .cons hend (ih (Prod.ext (List.cons.inj hbody).2 hrest))
  · intro h
    induction h with
    | unclosed => rfl
    | closed rest => rw [List.singleton_append, through, if_pos rfl]
    | cons hend _ ih => rw [List.cons_append, through_cons hend, ih]

theorem nonCode?_eq_none_iff : nonCode? (c :: rest) = none ↔ opens c rest.head? = false := by
  unfold nonCode? opens
  split
  · next h => obtain ⟨rfl, rfl⟩ := List.cons.inj h; simp
  · next h => obtain ⟨rfl, rfl⟩ := List.cons.inj h; simp
  · next hline hblock h =>
    obtain ⟨rfl, rfl⟩ := List.cons.inj h
    have hdash : ¬ (c = '-' ∧ rest.head? = some '-') := by
      rintro ⟨rfl, hhead⟩
      obtain ⟨after, rfl⟩ := List.head?_eq_some_iff.mp hhead
      exact hline after rfl rfl
    have hslash : ¬ (c = '/' ∧ rest.head? = some '*') := by
      rintro ⟨rfl, hhead⟩
      obtain ⟨after, rfl⟩ := List.head?_eq_some_iff.mp hhead
      exact hblock after rfl rfl
    cases hq : isQuote c <;> simp_all
  · next h => cases h

theorem nonCode?_line (hbody : '\n' ∉ body) (hrest : Stops (· ≠ '\n') rest) :
    nonCode? ('-' :: '-' :: (body ++ rest)) = some ('-' :: '-' :: body, rest) := by
  have hall : ∀ c ∈ body, (decide (c ≠ '\n')) := by
    intro c hc
    rw [decide_eq_true_eq]
    rintro rfl
    exact hbody hc
  rw [nonCode?, Text.takeWhile_append_of_stops hall hrest,
    Text.dropWhile_append_of_stops hall hrest]

theorem nonCode?_block (h : ClosedBy ['*', '/'] body rest) :
    nonCode? ('/' :: '*' :: (body ++ rest)) = some ('/' :: '*' :: body, rest) := by
  rw [nonCode?, throughCommentEnd_eq_iff.mpr h]

theorem nonCode?_quoted (hmark : isQuote mark) (h : ClosedBy [mark] body rest) :
    nonCode? (mark :: (body ++ rest)) = some (mark :: body, rest) := by
  unfold nonCode?
  split
  · next heq => cases (List.cons.inj heq).1; exact absurd hmark (by decide)
  · next heq => cases (List.cons.inj heq).1; exact absurd hmark (by decide)
  · next heq =>
    obtain ⟨rfl, rfl⟩ := List.cons.inj heq
    rw [if_pos hmark, through_eq_iff.mpr h]
  · next heq => cases heq

/-- The three kinds of text that are no code. -/
theorem nonCode?_eq_some (h : nonCode? (run ++ rest) = some (run, rest)) :
    (∃ body, run = '-' :: '-' :: body ∧ '\n' ∉ body ∧ Stops (· ≠ '\n') rest) ∨
      (∃ body, run = '/' :: '*' :: body ∧ ClosedBy ['*', '/'] body rest) ∨
      ∃ mark body, run = mark :: body ∧ isQuote mark ∧ ClosedBy [mark] body rest := by
  generalize htext : run ++ rest = text at h
  unfold nonCode? at h
  split at h
  · next after =>
    obtain ⟨rfl, rfl⟩ := Prod.mk.inj (Option.some.inj h)
    refine .inl ⟨_, rfl, ?_, Text.stops_dropWhile after⟩
    intro hmem
    simpa using List.mem_takeWhile_imp hmem
  · next after =>
    obtain ⟨rfl, rfl⟩ := Prod.mk.inj (Option.some.inj h)
    exact .inr (.inl ⟨_, rfl, throughCommentEnd_eq_iff.mp (by rw [throughCommentEnd_append])⟩)
  · next c after _ _ =>
    split at h
    · next hq =>
      obtain ⟨rfl, rfl⟩ := Prod.mk.inj (Option.some.inj h)
      exact .inr (.inr ⟨c, _, rfl, hq, through_eq_iff.mp (by rw [through_append])⟩)
    · cases h
  · cases h

/-- Text that is no code is told from what follows by a delimiter on one side or the other. -/
theorem nonCode?_seam (h : nonCode? (run ++ rest) = some (run, rest)) :
    (∀ c ∈ rest.head?, isDelimiter c) ∨ ∃ front c, run = front ++ [c] ∧ isDelimiter c := by
  rcases nonCode?_eq_some h with ⟨body, rfl, _, hrest⟩ | ⟨body, rfl, hbody⟩ |
    ⟨mark, body, rfl, hmark, hbody⟩
  · left
    intro c hc
    have hline : c = '\n' := by simpa using hrest c hc
    rw [hline]
    decide
  · rcases hbody.last with rfl | ⟨front, rfl⟩
    · exact .inl (by simp)
    · exact .inr ⟨'/' :: '*' :: (front ++ ['*']), '/', by simp, by decide⟩
  · rcases hbody.last with rfl | ⟨front, rfl⟩
    · exact .inl (by simp)
    · exact .inr ⟨mark :: front, mark, rfl, isDelimiter_of_isQuote hmark⟩

end Scan

/-- No comment or quoted text opens in `text` when `rest` follows. -/
def Bare : List Char → List Char → Prop
  | [], _ => True
  | c :: text, rest => nonCode? (c :: (text ++ rest)) = none ∧ Bare text rest

/-- The runs of a text, each as long as it can be. -/
inductive Segmented : List Char → List Run → Prop where
  | nil : Segmented [] []
  | nonCode {text rest segments} (h : nonCode? (text ++ rest) = some (text, rest))
      (tail : Segmented rest segments) : Segmented (text ++ rest) (⟨text, false⟩ :: segments)
  | code {text rest segments} (hne : text ≠ []) (h : Bare text rest)
      (hlast : ∀ run ∈ segments.head?, run.code = false) (tail : Segmented rest segments) :
      Segmented (text ++ rest) (⟨text, true⟩ :: segments)

@[simp] theorem runs_nil : runs [] = [] := by
  rw [runs]
  rfl

theorem runs_of_nonCode? {text run rest : List Char} (h : nonCode? text = some (run, rest)) :
    runs text = ⟨run, false⟩ :: runs rest := by
  rw [runs]
  split
  · next hsome =>
    rw [h] at hsome
    cases hsome
    rfl
  · next hnone => rw [h] at hnone; cases hnone

theorem runs_cons_of_none {c : Char} {rest : List Char} (h : nonCode? (c :: rest) = none) :
    runs (c :: rest) = consCode c (runs rest) := by
  rw [runs]
  split
  · next hsome => rw [h] at hsome; cases hsome
  · rfl

theorem runs_append_of_bare {text rest : List Char} {segments : List Run} (hne : text ≠ [])
    (h : Bare text rest) (hruns : runs rest = segments)
    (hlast : ∀ run ∈ segments.head?, run.code = false) :
    runs (text ++ rest) = ⟨text, true⟩ :: segments := by
  induction text with
  | nil => exact absurd rfl hne
  | cons c text ih =>
    obtain ⟨hnone, hbare⟩ := h
    rw [List.cons_append, runs_cons_of_none hnone]
    cases text with
    | nil =>
      rw [List.nil_append, hruns]
      match segments, hlast with
      | [], _ => rfl
      | ⟨_, false⟩ :: _, _ => rfl
      | ⟨_, true⟩ :: _, hlast => exact absurd (hlast _ rfl) (by simp)
    | cons d text =>
      rw [ih (List.cons_ne_nil _ _) hbare]
      rfl

theorem segmented_consCode {c : Char} {text : List Char} {segments : List Run}
    (h : nonCode? (c :: text) = none) (hs : Segmented text segments) :
    Segmented (c :: text) (consCode c segments) := by
  have hsingle : ∀ {rest segments}, nonCode? (c :: rest) = none → Segmented rest segments →
      (∀ run ∈ segments.head?, run.code = false) →
      Segmented (c :: rest) (⟨[c], true⟩ :: segments) := by
    intro rest segments h hs hlast
    exact Segmented.code (List.cons_ne_nil c []) ⟨h, trivial⟩ hlast hs
  cases hs with
  | nil => exact hsingle h .nil (by simp)
  | nonCode hsome tail => exact hsingle h (.nonCode hsome tail) (by simp)
  | code hne hbare hlast tail =>
    exact Segmented.code (List.cons_ne_nil c _) ⟨h, hbare⟩ hlast tail

theorem segmented_runs (text : List Char) : Segmented text (runs text) := by
  induction hlen : text.length using Nat.strong_induction_on generalizing text with
  | _ n ih =>
    subst hlen
    cases hsome : nonCode? text with
    | some split =>
      obtain ⟨run, rest⟩ := split
      have htext := nonCode?_append hsome
      rw [runs_of_nonCode? hsome, ← htext]
      exact .nonCode (htext ▸ hsome) (ih _ (nonCode?_length_lt hsome) rest rfl)
    | none =>
      cases text with
      | nil => rw [runs_nil]; exact .nil
      | cons c rest =>
        rw [runs_cons_of_none hsome]
        exact segmented_consCode hsome (ih _ (by simp) rest rfl)

namespace Segmented

variable {text : List Char} {segments : List Run}

theorem runs_eq (h : Segmented text segments) : runs text = segments := by
  induction h with
  | nil => exact runs_nil
  | nonCode hsome _ ih => rw [runs_of_nonCode? hsome, ih]
  | code hne hbare hlast _ ih => exact runs_append_of_bare hne hbare ih hlast

theorem flatMap_text (h : Segmented text segments) : segments.flatMap Run.text = text := by
  induction h with
  | nil => rfl
  | nonCode _ _ ih | code _ _ _ _ ih => rw [List.flatMap_cons, ih]

/-- Code ends at a delimiter. -/
theorem head?_delimiter (h : Segmented text segments)
    (hlast : ∀ run ∈ segments.head?, run.code = false) : ∀ c ∈ text.head?, isDelimiter c := by
  cases h with
  | nil => simp
  | code => exact absurd (hlast _ rfl) (by simp)
  | nonCode hsome _ =>
    intro c hc
    obtain ⟨rest, htext⟩ := List.head?_eq_some_iff.mp hc
    rw [htext] at hsome
    have hopens : opens c rest.head? ≠ false := fun hfalse => by
      rw [nonCode?_eq_none_iff.mpr hfalse] at hsome
      cases hsome
    exact isDelimiter_of_opens ((Bool.not_eq_false _).mp hopens)

end Segmented

end TypedQuery.Sql
