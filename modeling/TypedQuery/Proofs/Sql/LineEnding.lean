import TypedQuery.Proofs.Sql.Clean
import TypedQuery.Proofs.Sql.Run
import TypedQuery.Proofs.Text.LineEnding

/-! References and runs of a text with the other line ending. No reference holds a line feed, but a
line comment takes the carriage return that its line ends with. -/
namespace TypedQuery.Sql

open Text (Stops crlf isWord)

section Tokens

/-- The tokens that stand for a token once returns are put in. -/
def Token.withReturn : Token → List Token
  | .plain c => if c = '\n' then [.plain '\r', .plain '\n'] else [.plain c]
  | token => [token]

def TypedToken.withReturn : TypedToken → List TypedToken
  | .plain c => if c = '\n' then [.plain '\r', .plain '\n'] else [.plain c]
  | token => [token]

theorem span_isWord_crlf (text : List Char) : (crlf text).takeWhile isWord = text.takeWhile isWord ∧
    (crlf text).dropWhile isWord = crlf (text.dropWhile isWord) :=
  Text.span_crlf (by decide) (by decide) text

theorem tokens_crlf (text : List Char) :
    tokens (crlf text) = (tokens text).flatMap Token.withReturn := by
  fun_induction tokens text with
  | case1 => rw [Text.crlf_nil, tokens_nil]; rfl
  | case2 c rest h ih =>
    obtain ⟨hword, hafter⟩ := span_isWord_crlf rest
    obtain ⟨rfl, hname⟩ := h
    rw [Text.crlf_cons (by decide), tokens, hword, hafter, if_pos ⟨rfl, hname⟩, ih]
    rfl
  | case3 c rest h ih =>
    by_cases hc : c = '\n'
    · subst hc
      have hending : tokens (crlf ('\n' :: rest)) =
          ['\r', '\n'].map .plain ++ tokens (crlf rest) := tokens_append_of_not_mem (by decide)
      rw [hending, ih]
      rfl
    · obtain ⟨hword, _⟩ := span_isWord_crlf rest
      have hplain : Token.withReturn (.plain c) = [.plain c] := if_neg hc
      rw [Text.crlf_cons hc, tokens, hword, if_neg h, ih, List.flatMap_cons, hplain]
      rfl

theorem declaration?_crlf (text : List Char) : declaration? (crlf text) =
    (declaration? text).map fun (name, type, rest) => (name, type, crlf rest) := by
  obtain ⟨hname, hafter⟩ := span_isWord_crlf text
  unfold declaration?
  rw [hname, hafter]
  cases htext : text.dropWhile isWord with
  | nil => rfl
  | cons c rest =>
    by_cases hcolon : c = ':'
    · subst hcolon
      obtain ⟨htype, hrest⟩ := span_isWord_crlf rest
      rw [Text.crlf_cons (by decide)]
      simp only [htype, hrest]
      split <;> rfl
    · by_cases hnewline : c = '\n'
      · subst hnewline
        simp
      · rw [Text.crlf_cons hnewline]
        simp [hcolon]

theorem typedTokens_crlf (text : List Char) :
    typedTokens (crlf text) = (typedTokens text).flatMap TypedToken.withReturn := by
  fun_induction typedTokens text with
  | case1 => rw [Text.crlf_nil, typedTokens_nil]; rfl
  | case2 c rest name type after h ih =>
    split at h
    · next hc =>
      subst hc
      rw [Text.crlf_cons (by decide), typedTokens]
      split
      · next hsome =>
        rw [if_pos rfl, declaration?_crlf, h] at hsome
        cases hsome
        rw [ih]
        rfl
      · next hnone =>
        rw [if_pos rfl, declaration?_crlf, h] at hnone
        cases hnone
    · cases h
  | case3 c rest h ih =>
    by_cases hc : c = '\n'
    · subst hc
      have hending : typedTokens (crlf ('\n' :: rest)) =
          ['\r', '\n'].map .plain ++ typedTokens (crlf rest) :=
        typedTokens_append_of_not_mem (by decide)
      rw [hending, ih]
      rfl
    · have hnone : c = '@' → declaration? (crlf rest) = none := by
        intro hat
        rw [dif_pos hat] at h
        rw [declaration?_crlf, h]
        rfl
      have hplain : TypedToken.withReturn (.plain c) = [.plain c] := if_neg hc
      rw [Text.crlf_cons hc, typedTokens_plain hnone, ih, List.flatMap_cons, hplain]
      rfl

theorem newline_not_mem {word : List Char} (h : IsWord word) : '\n' ∉ word := fun hmem =>
  absurd (h.2 '\n' hmem) (by decide)

theorem references_crlf (text : List Char) : references (crlf text) = references text := by
  rw [references, tokens_crlf, List.filterMap_flatMap, references,
    List.filterMap_eq_flatMap_toList]
  apply List.flatMap_congr
  intro token _
  cases token with
  | reference name => rfl
  | plain c => by_cases hc : c = '\n' <;> simp [Token.withReturn, Token.name?, hc]

theorem declarations_crlf (text : List Char) : declarations (crlf text) = declarations text := by
  rw [declarations, typedTokens_crlf, List.filterMap_flatMap, declarations,
    List.filterMap_eq_flatMap_toList]
  apply List.flatMap_congr
  intro token _
  cases token with
  | typed name type => rfl
  | plain c => by_cases hc : c = '\n' <;> simp [TypedToken.withReturn, TypedToken.declaration?, hc]

theorem clean_crlf (text : List Char) : clean (crlf text) = crlf (clean text) := by
  rw [clean, typedTokens_crlf, List.flatMap_assoc, clean, crlf, List.flatMap_assoc]
  apply List.flatMap_congr
  intro token hmem
  change token.withReturn.flatMap TypedToken.cleaned = crlf token.cleaned
  cases token with
  | plain c =>
    by_cases hc : c = '\n'
    · subst hc
      rfl
    · simp [TypedToken.withReturn, TypedToken.cleaned, hc, Text.crlf_cons hc]
  | typed name type =>
    have hdeclared : (name, type) ∈ declarations text := List.mem_filterMap.mpr ⟨_, hmem, rfl⟩
    have hname := newline_not_mem (isWord_of_mem_declarations hdeclared).1
    have hreference : '\n' ∉ '@' :: name := by simpa using hname
    exact (List.append_nil _).trans (Text.crlf_of_not_mem hreference).symm

end Tokens

section Runs

variable {c mark : Char} {body text rest : List Char} {segments other : List Run}

theorem opens_crlf : opens c (crlf text).head? = opens c text.head? := by
  have hdash : (crlf text).head? = some '-' ↔ text.head? = some '-' :=
    Text.head?_crlf_eq_some_iff (by decide) (by decide)
  have hstar : (crlf text).head? = some '*' ↔ text.head? = some '*' :=
    Text.head?_crlf_eq_some_iff (by decide) (by decide)
  unfold opens
  rw [decide_eq_decide.mpr hdash, decide_eq_decide.mpr hstar]

theorem ClosedBy.crlf {closing : List Char} (hne : closing ≠ [])
    (hclosing : ∀ c ∈ closing, c ≠ '\r' ∧ c ≠ '\n') (h : ClosedBy closing body rest) :
    ClosedBy closing (crlf body) (crlf rest) := by
  have hline : ∀ c ∈ ['\r', '\n'], c ∉ closing := by
    simp only [List.forall_mem_cons, List.not_mem_nil, false_imp_iff, implies_true, and_true]
    exact ⟨fun hmem => (hclosing _ hmem).1 rfl, fun hmem => (hclosing _ hmem).2 rfl⟩
  induction h with
  | unclosed => exact .unclosed
  | closed rest =>
    rw [Text.crlf_of_not_mem (hline _ (by simp))]
    exact .closed _
  | @cons c body rest hopen _ ih =>
    by_cases hc : c = '\n'
    · subst hc
      exact (ClosedBy.append_iff hne hline).mpr ih
    · rw [← Text.isPrefix_crlf_iff hclosing, Text.crlf_cons hc, Text.crlf_append] at hopen
      rw [Text.crlf_cons hc]
      exact .cons hopen ih

theorem bare_crlf (h : Bare text rest) : Bare (crlf text) (crlf rest) := by
  induction text with
  | nil => trivial
  | cons c text ih =>
    obtain ⟨hnone, htail⟩ := h
    by_cases hc : c = '\n'
    · subst hc
      exact ⟨nonCode?_eq_none_iff.mpr rfl, nonCode?_eq_none_iff.mpr rfl, ih htail⟩
    · rw [Text.crlf_cons hc]
      refine ⟨?_, ih htail⟩
      rw [nonCode?_eq_none_iff] at hnone ⊢
      rw [← Text.crlf_append, opens_crlf, hnone]

/-- The runs of a text and those of the text with returns. A line comment takes the return in front
of its line feed, and then, as `taken` tells, the code behind it does not begin with that return. -/
inductive Returned : Bool → List Run → List Run → Prop where
  | nil : Returned false [] []
  | run {run : Run} {segments other : List Run} (tail : Returned false segments other) :
      Returned false (run :: segments) ({ run with text := crlf run.text } :: other)
  | line {text : List Char} {segments other : List Run} (htext : '\n' ∉ text)
      (tail : Returned true segments other) :
      Returned false (⟨text, false⟩ :: segments) (⟨text ++ ['\r'], false⟩ :: other)
  | code {text : List Char} {segments other : List Run} (tail : Returned false segments other) :
      Returned true (⟨'\n' :: text, true⟩ :: segments) (⟨'\n' :: crlf text, true⟩ :: other)

theorem Returned.head?_code {taken : Bool} (h : Returned taken segments other)
    (hlast : ∀ run ∈ segments.head?, run.code = false) : ∀ run ∈ other.head?, run.code = false := by
  cases h with
  | nil => exact hlast
  | run => simpa using hlast
  | line => simp
  | code => simp at hlast

/-- No comment or quoted text begins with a line feed. -/
theorem not_nonCode?_newline (h : nonCode? (text ++ rest) = some (text, rest)) (after : List Char) :
    text ++ rest ≠ '\n' :: after := by
  intro htext
  rw [htext, nonCode?_eq_none_iff.mpr rfl] at h
  cases h

/-- A block comment and quoted text end where they did. -/
theorem nonCode?_crlf
    (h : (∃ body, text = '/' :: '*' :: body ∧ ClosedBy ['*', '/'] body rest) ∨
      ∃ mark body, text = mark :: body ∧ isQuote mark ∧ ClosedBy [mark] body rest) :
    nonCode? (crlf text ++ crlf rest) = some (crlf text, crlf rest) := by
  rcases h with ⟨body, rfl, hbody⟩ | ⟨mark, body, rfl, hmark, hbody⟩
  · have hclosing : ∀ c ∈ ['*', '/'], c ≠ '\r' ∧ c ≠ '\n' :=
      List.forall_mem_cons.mpr ⟨by decide, List.forall_mem_singleton.mpr (by decide)⟩
    exact nonCode?_block (hbody.crlf (by simp) hclosing)
  · have hreturn : mark ≠ '\r' := by
      rintro rfl
      exact absurd hmark (by decide)
    have hnewline : mark ≠ '\n' := by
      rintro rfl
      exact absurd hmark (by decide)
    rw [Text.crlf_cons hnewline]
    exact nonCode?_quoted hmark (hbody.crlf (by simp) (by simp [hreturn, hnewline]))

/-- A line comment goes on up to the line feed. -/
theorem nonCode?_line_return (hbody : '\n' ∉ body) (after : List Char) :
    nonCode? (('-' :: '-' :: body ++ ['\r']) ++ '\n' :: after) =
      some ('-' :: '-' :: body ++ ['\r'], '\n' :: after) := by
  have hline : '\n' ∉ body ++ ['\r'] := by simpa using hbody
  exact nonCode?_line hline (Text.stops_cons.mpr (by decide))

/-- The runs of a text with returns, also where a comment has taken the first one. -/
theorem Segmented.exists_returned (h : Segmented text segments) :
    (∃ other, Segmented (crlf text) other ∧ Returned false segments other) ∧
      ∀ after, text = '\n' :: after →
        ∃ other, Segmented ('\n' :: crlf after) other ∧ Returned true segments other := by
  induction h with
  | nil => exact ⟨⟨[], .nil, .nil⟩, nofun⟩
  | @nonCode text rest segments hsome tail ih =>
    obtain ⟨⟨other, hother, hreturned⟩, hnext⟩ := ih
    refine ⟨?_, fun after htext => absurd htext (not_nonCode?_newline hsome after)⟩
    rcases nonCode?_eq_some hsome with ⟨body, rfl, hbody, hstop⟩ | hclosed
    · have hline : '\n' ∉ '-' :: '-' :: body := by simpa using hbody
      have hsame := Text.crlf_of_not_mem hline
      cases rest with
      | nil =>
        refine ⟨⟨crlf ('-' :: '-' :: body), false⟩ :: other, ?_, .run hreturned⟩
        rw [Text.crlf_append, hsame]
        exact .nonCode hsome hother
      | cons c after =>
        obtain rfl : c = '\n' := by simpa using hstop
        obtain ⟨other, hother, hreturned⟩ := hnext after rfl
        refine ⟨⟨'-' :: '-' :: body ++ ['\r'], false⟩ :: other, ?_, .line hline hreturned⟩
        have hsplit : crlf ('-' :: '-' :: body ++ '\n' :: after) =
            ('-' :: '-' :: body ++ ['\r']) ++ '\n' :: crlf after := by
          rw [Text.crlf_append, hsame, Text.crlf_newline, List.append_assoc]
          rfl
        rw [hsplit]
        exact .nonCode (nonCode?_line_return hbody _) hother
    · refine ⟨⟨crlf text, false⟩ :: other, ?_, .run hreturned⟩
      rw [Text.crlf_append]
      exact .nonCode (nonCode?_crlf hclosed) hother
  | @code text rest segments hne hbare hlast tail ih =>
    obtain ⟨⟨other, hother, hreturned⟩, -⟩ := ih
    have hlast' := hreturned.head?_code hlast
    constructor
    · refine ⟨⟨crlf text, true⟩ :: other, ?_, .run hreturned⟩
      rw [Text.crlf_append]
      exact .code (fun hnil => hne (Text.crlf_eq_nil_iff.mp hnil)) (bare_crlf hbare) hlast' hother
    · intro after htext
      obtain ⟨c, text, rfl⟩ := List.exists_cons_of_ne_nil hne
      obtain ⟨rfl, rfl⟩ := List.cons.inj htext
      refine ⟨⟨'\n' :: crlf text, true⟩ :: other, ?_, .code hreturned⟩
      have hsplit : '\n' :: crlf (text ++ rest) = ('\n' :: crlf text) ++ crlf rest := by
        rw [Text.crlf_append]
        rfl
      change Segmented ('\n' :: crlf (text ++ rest)) _
      rw [hsplit]
      exact .code (List.cons_ne_nil _ _) ⟨nonCode?_eq_none_iff.mpr rfl, bare_crlf hbare.2⟩ hlast'
        hother

theorem returned_runs (text : List Char) : Returned false (runs text) (runs (crlf text)) := by
  obtain ⟨⟨other, hother, hreturned⟩, -⟩ := (segmented_runs text).exists_returned
  rw [hother.runs_eq]
  exact hreturned

end Runs

end TypedQuery.Sql
