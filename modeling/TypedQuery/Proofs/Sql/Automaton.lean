import TypedQuery.Proofs.Sql.Run
import Mathlib.Data.List.Chain

/-! An automaton that reads a text once and tells code from what is no code, and its agreement with
the runs of the text. -/
namespace TypedQuery.Sql

open Text (Stops)

/-- Where the automaton is. Two characters open and close a block comment: `delimiter` is between
them, so that the star that opens a comment does not close it too. -/
inductive Context where
  | code
  | lineComment
  | blockComment
  | quoted (mark : Char)
  | delimiter (opening : Bool)
  deriving DecidableEq, Repr

/-- Reads a character and looks at the next one: whether it is code, and the context behind it. -/
def Context.read (context : Context) (c : Char) (next : Option Char) : Bool × Context :=
  match context with
  | code =>
    if c = '-' ∧ next = some '-' then (false, lineComment)
    else if c = '/' ∧ next = some '*' then (false, delimiter true)
    else if isQuote c then (false, quoted c)
    else (true, code)
  | lineComment => if c = '\n' then (true, code) else (false, lineComment)
  | blockComment =>
    if c = '*' ∧ next = some '/' then (false, delimiter false) else (false, blockComment)
  | quoted mark => if c = mark then (false, code) else (false, quoted mark)
  | delimiter opening => if opening then (false, blockComment) else (false, code)

/-- For each character of a text whether it is code. -/
def flags : Context → List Char → List Bool
  | _, [] => []
  | context, c :: rest =>
    (context.read c rest.head?).1 :: flags (context.read c rest.head?).2 rest

section Flags

variable {c mark : Char} {text body run rest : List Char}

theorem flags_code_cons (h : opens c rest.head? = false) :
    flags .code (c :: rest) = true :: flags .code rest := by
  simp only [opens, Bool.or_eq_false_iff, Bool.and_eq_false_iff, decide_eq_false_iff_not,
    ← not_and_or] at h
  obtain ⟨⟨hquote, hdashes⟩, hslash⟩ := h
  rw [flags, Context.read, if_neg hdashes, if_neg hslash, hquote, if_neg Bool.false_ne_true]

theorem flags_code_dashes :
    flags .code ('-' :: '-' :: rest) = false :: false :: flags .lineComment rest := rfl

theorem flags_code_slashStar :
    flags .code ('/' :: '*' :: rest) = false :: false :: flags .blockComment rest := rfl

theorem flags_code_quote (h : isQuote c) :
    flags .code (c :: rest) = false :: flags (.quoted c) rest := by
  have hdash : c ≠ '-' := by
    rintro rfl
    exact absurd h (by decide)
  have hslash : c ≠ '/' := by
    rintro rfl
    exact absurd h (by decide)
  rw [flags, Context.read, if_neg (fun hboth => hdash hboth.1), if_neg (fun hboth => hslash hboth.1),
    if_pos h]

theorem flags_lineComment_cons (h : c ≠ '\n') :
    flags .lineComment (c :: rest) = false :: flags .lineComment rest := by
  rw [flags, Context.read, if_neg h]

theorem flags_blockComment_cons (h : ¬ (c = '*' ∧ rest.head? = some '/')) :
    flags .blockComment (c :: rest) = false :: flags .blockComment rest := by
  rw [flags, Context.read, if_neg h]

theorem flags_blockComment_starSlash :
    flags .blockComment ('*' :: '/' :: rest) = false :: false :: flags .code rest := rfl

theorem flags_quoted_cons (h : c ≠ mark) :
    flags (.quoted mark) (c :: rest) = false :: flags (.quoted mark) rest := by
  rw [flags, Context.read, if_neg h]

theorem flags_quoted_mark :
    flags (.quoted mark) (mark :: rest) = false :: flags .code rest := by
  rw [flags, Context.read, if_pos rfl]

theorem flags_bare (h : Bare text rest) :
    flags .code (text ++ rest) = List.replicate text.length true ++ flags .code rest := by
  induction text with
  | nil => rfl
  | cons c text ih =>
    obtain ⟨hnone, hbare⟩ := h
    rw [List.cons_append, flags_code_cons (nonCode?_eq_none_iff.mp hnone), ih hbare]
    rfl

/-- The line feed behind a line comment is code and opens nothing. -/
theorem flags_line (hbody : '\n' ∉ body) (hrest : Stops (· ≠ '\n') rest) :
    flags .lineComment (body ++ rest) = List.replicate body.length false ++ flags .code rest := by
  induction body with
  | nil =>
    cases rest with
    | nil => rfl
    | cons c rest =>
      obtain rfl : c = '\n' := by simpa using hrest
      rfl
  | cons c body ih =>
    have hc : c ≠ '\n' := (List.ne_of_not_mem_cons hbody).symm
    rw [List.cons_append, flags_lineComment_cons hc, ih (List.not_mem_of_not_mem_cons hbody)]
    rfl

theorem flags_block (h : ClosedBy ['*', '/'] body rest) :
    flags .blockComment (body ++ rest) = List.replicate body.length false ++ flags .code rest := by
  induction h with
  | unclosed => rfl
  | closed rest => exact flags_blockComment_starSlash
  | @cons c body rest hopen _ ih =>
    have hnext : ¬ (c = '*' ∧ (body ++ rest).head? = some '/') := by
      rintro ⟨rfl, hslash⟩
      obtain ⟨after, hafter⟩ := List.head?_eq_some_iff.mp hslash
      exact hopen ⟨after, by rw [hafter]; rfl⟩
    rw [List.cons_append, flags_blockComment_cons hnext, ih]
    rfl

theorem flags_quoted (h : ClosedBy [mark] body rest) :
    flags (.quoted mark) (body ++ rest) = List.replicate body.length false ++ flags .code rest := by
  induction h with
  | unclosed => rfl
  | closed rest => exact flags_quoted_mark
  | @cons c body rest hopen _ ih =>
    have hc : c ≠ mark := by
      rintro rfl
      exact hopen ⟨_, rfl⟩
    rw [List.cons_append, flags_quoted_cons hc, ih]
    rfl

theorem flags_nonCode (h : nonCode? (run ++ rest) = some (run, rest)) :
    flags .code (run ++ rest) = List.replicate run.length false ++ flags .code rest := by
  rcases nonCode?_eq_some h with ⟨body, rfl, hbody, hrest⟩ | ⟨body, rfl, hbody⟩ |
    ⟨mark, body, rfl, hmark, hbody⟩
  · rw [List.cons_append, List.cons_append, flags_code_dashes, flags_line hbody hrest]
    rfl
  · rw [List.cons_append, List.cons_append, flags_code_slashStar, flags_block hbody]
    rfl
  · rw [List.cons_append, flags_code_quote hmark, flags_quoted hbody]
    rfl

end Flags

namespace Segmented

variable {text : List Char} {segments : List Run}

theorem flags_eq (h : Segmented text segments) :
    flags .code text = segments.flatMap fun run => List.replicate run.text.length run.code := by
  induction h with
  | nil => rfl
  | nonCode hsome _ ih => rw [flags_nonCode hsome, ih, List.flatMap_cons]
  | code _ hbare _ _ ih => rw [flags_bare hbare, ih, List.flatMap_cons]

theorem text_ne_nil (h : Segmented text segments) : ∀ run ∈ segments, run.text ≠ [] := by
  induction h with
  | nil => exact fun _ hrun => absurd hrun List.not_mem_nil
  | nonCode hsome _ ih => exact List.forall_mem_cons.mpr ⟨nonCode?_ne_nil hsome, ih⟩
  | code hne _ _ _ ih => exact List.forall_mem_cons.mpr ⟨hne, ih⟩

/-- No two runs of code are next to each other. -/
theorem isChain (h : Segmented text segments) :
    segments.IsChain fun a b => a.code = false ∨ b.code = false := by
  induction h with
  | nil => exact .nil
  | nonCode _ _ ih => exact ih.cons fun _ _ => .inl rfl
  | code _ _ hlast _ ih => exact ih.cons fun b hb => .inr (hlast b hb)

end Segmented

end TypedQuery.Sql
