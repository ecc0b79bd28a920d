import TypedQuery.Proofs.Query.Binding
import TypedQuery.Proofs.Query.Cleaning
import TypedQuery.Proofs.Query.Directive
import TypedQuery.Proofs.Sql.LineEnding

/-! Carriage returns before the line feeds of a query file change nothing but its SQL, in which they
stand again. -/
namespace TypedQuery.Query

open Sql (Returned Run Token references runs tokens)
open Text (crlf withReturns)

variable {params : List Parameter} {slots : List Nat} {dialect : Dialect}
  {segments other : List Run} {taken : Bool}

theorem textValue?_crlf (key text : List Char) :
    textValue? key (crlf text) = textValue? key text := by
  induction text using Text.line_induction with
  | last line h => rw [Text.crlf_of_not_mem h]
  | line line rest h ih =>
    have hline : '\n' ∉ line ++ ['\r'] := by simpa using h
    have hcrlf : crlf (line ++ '\n' :: rest) = (line ++ ['\r']) ++ '\n' :: crlf rest := by
      rw [Text.crlf_append, Text.crlf_of_not_mem h, Text.crlf_newline, List.append_assoc]
      rfl
    rw [hcrlf, textValue?_append, textValue?_append, ih, textValue?_line hline,
      lineValue?_concat_return, textValue?_line h]

theorem metadataValue_withReturns (text key : String) :
    metadataValue (withReturns text) key = metadataValue text key := by
  rw [metadataValue, Text.toList_withReturns, textValue?_crlf]
  rfl

theorem parameters_withReturns (text : String) :
    parameters (withReturns text) = parameters text := by
  rw [parameters, Text.toList_withReturns, Sql.declarations_crlf]
  rfl

theorem cleanSql_withReturns (text : String) :
    cleanSql (withReturns text) = withReturns (cleanSql text) := by
  rw [cleanSql, Text.toList_withReturns, Sql.clean_crlf, withReturns, toList_cleanSql]

/-- What the code refers to is not moved by line endings. -/
theorem flatMap_references_returned (h : Returned taken segments other) :
    (other.filter (·.code)).flatMap (fun run => (references run.text).filterMap (declared params)) =
      (segments.filter (·.code)).flatMap fun run =>
        (references run.text).filterMap (declared params) := by
  induction h with
  | nil => rfl
  | @run run segments other tail ih =>
    obtain ⟨text, code⟩ := run
    cases code with
    | true =>
      rw [List.filter_cons_of_pos rfl, List.filter_cons_of_pos rfl, List.flatMap_cons,
        List.flatMap_cons, ih, Sql.references_crlf]
    | false =>
      rw [List.filter_cons_of_neg Bool.false_ne_true, List.filter_cons_of_neg Bool.false_ne_true,
        ih]
  | line htext tail ih =>
    rw [List.filter_cons_of_neg Bool.false_ne_true, List.filter_cons_of_neg Bool.false_ne_true, ih]
  | @code text segments other tail ih =>
    have hnewline : ∀ rest, references ('\n' :: rest) = references rest := fun rest =>
      Sql.references_append_of_not_mem (a := ['\n']) (by decide)
    rw [List.filter_cons_of_pos rfl, List.filter_cons_of_pos rfl, List.flatMap_cons,
      List.flatMap_cons, ih, hnewline, hnewline, Sql.references_crlf]

theorem occurrences_crlf (params : List Parameter) (sql : List Char) :
    occurrences params (crlf sql) = occurrences params sql :=
  flatMap_references_returned (Sql.returned_runs sql)

theorem used_crlf (params : List Parameter) (sql : List Char) :
    used params (crlf sql) = used params sql := by
  rw [used, occurrences_crlf]
  rfl

/-- A placeholder is on one line, as a name is. -/
theorem newline_not_mem_bindToken {name : List Char} (h : Sql.IsWord name) :
    '\n' ∉ bindToken params slots dialect (.reference name) := by
  have hdelimiter : Sql.isDelimiter '\n' := by decide
  rcases bindToken_reference params slots dialect name with htoken | ⟨slot, htoken⟩
  · rw [htoken]
    exact (Sql.inert_cons (by decide) (Sql.inert_of_isWord h.2)).not_mem hdelimiter
  · rw [htoken]
    exact (inert_placeholder slot).not_mem hdelimiter

theorem boundCode_crlf (code : List Char) :
    boundCode params slots dialect (crlf code) = crlf (boundCode params slots dialect code) := by
  rw [boundCode, Sql.tokens_crlf, List.flatMap_assoc, boundCode, crlf, List.flatMap_assoc]
  apply List.flatMap_congr
  intro token hmem
  change token.withReturn.flatMap (bindToken params slots dialect) =
    crlf (bindToken params slots dialect token)
  cases token with
  | plain c =>
    by_cases hc : c = '\n'
    · subst hc
      rfl
    · have hplain : Token.withReturn (.plain c) = [.plain c] := if_neg hc
      have hkept : bindToken params slots dialect (.plain c) = [c] := rfl
      rw [hplain, List.flatMap_singleton, hkept, Text.crlf_cons hc, Text.crlf_nil]
  | reference name =>
    have hrefers : Sql.Refers code name :=
      Sql.mem_references_iff.mp (List.mem_filterMap.mpr ⟨_, hmem, rfl⟩)
    obtain ⟨_, _, _, hname, _⟩ := hrefers
    rw [Text.crlf_of_not_mem (newline_not_mem_bindToken hname)]
    exact List.append_nil _

/-- The return that a comment has taken stands in front of the code behind it. -/
theorem flatMap_bindRun_returned (h : Returned taken segments other) :
    (if taken then ['\r'] else []) ++ other.flatMap (bindRun params slots dialect) =
      crlf (segments.flatMap (bindRun params slots dialect)) := by
  have hcode : ∀ text, bindRun params slots dialect ⟨text, true⟩ =
      boundCode params slots dialect text := fun _ => rfl
  have hkept : ∀ text, bindRun params slots dialect ⟨text, false⟩ = text := fun _ => rfl
  induction h with
  | nil => rfl
  | @run run segments other tail ih =>
    obtain ⟨text, code⟩ := run
    rw [List.flatMap_cons, List.flatMap_cons, Text.crlf_append, ← ih]
    cases code with
    | true => simp only [hcode, boundCode_crlf]; rfl
    | false => simp only [hkept]; rfl
  | @line text segments other htext tail ih =>
    rw [List.flatMap_cons, List.flatMap_cons, Text.crlf_append, ← ih, hkept, hkept,
      Text.crlf_of_not_mem htext, List.append_assoc]
    rfl
  | @code text segments other tail ih =>
    have hnewline : ∀ text, boundCode params slots dialect ('\n' :: text) =
        '\n' :: boundCode params slots dialect text := fun _ => boundCode_plain nofun
    rw [List.flatMap_cons, List.flatMap_cons, Text.crlf_append, ← ih, hcode, hcode, hnewline,
      hnewline, boundCode_crlf, Text.crlf_newline]
    rfl

theorem bindPlaceholders_withReturns (sql : String) (params : List Parameter) (dialect : Dialect) :
    bindPlaceholders (withReturns sql) params dialect =
      (withReturns (bindPlaceholders sql params dialect).1,
        (bindPlaceholders sql params dialect).2) := by
  have htext : boundText (crlf sql.toList) params dialect =
      crlf (boundText sql.toList params dialect) := by
    rw [boundText, used_crlf]
    exact flatMap_bindRun_returned (Sql.returned_runs sql.toList)
  have horder : bindOrder (crlf sql.toList) params dialect =
      bindOrder sql.toList params dialect := by
    rw [bindOrder, occurrences_crlf, used_crlf]
    rfl
  rw [bindPlaceholders, bindPlaceholders, Text.toList_withReturns, htext, horder, withReturns,
    String.toList_ofList]

/-- With carriage returns put before its line feeds a query file declares the same. Its SQL, typed
or bound, is the SQL with these returns, and the same parameters are bound in the same order. -/
theorem ofText_withReturns (baseName text : String) (params : List Parameter) (dialect : Dialect) :
    QueryMetadata.ofText baseName (withReturns text) =
      { QueryMetadata.ofText baseName text with
        cleanedSql := withReturns (QueryMetadata.ofText baseName text).cleanedSql } ∧
    bindPlaceholders (QueryMetadata.ofText baseName (withReturns text)).cleanedSql params dialect =
      (withReturns
          (bindPlaceholders (QueryMetadata.ofText baseName text).cleanedSql params dialect).1,
        (bindPlaceholders (QueryMetadata.ofText baseName text).cleanedSql params dialect).2) := by
  have hclean : (QueryMetadata.ofText baseName (withReturns text)).cleanedSql =
      withReturns (QueryMetadata.ofText baseName text).cleanedSql := cleanSql_withReturns text
  refine ⟨?_, ?_⟩
  · rw [QueryMetadata.ofText, metadataValue_withReturns, metadataValue_withReturns,
      parameters_withReturns, cleanSql_withReturns]
    rfl
  · rw [hclean, bindPlaceholders_withReturns]

end TypedQuery.Query
