import TypedQuery.Proofs.Query.Cleaning
import TypedQuery.Proofs.Sql.Cut
import Mathlib.Tactic.TFAE

/-! Cleaned text cleaned again. What a type leaves behind can only be taken for another type if a
colon and a word follow it. -/
namespace TypedQuery.Sql

open Text (isWord Stops)

variable {name type rest text : List Char} {tokens : List TypedToken}

/-- No declaration is followed by a colon and a word. -/
def Unchained (tokens : List TypedToken) : Prop :=
  ∀ before name type after, tokens = before ++ .typed name type :: after →
    Untyped (after.flatMap TypedToken.text)

/-- A name, a type and the beginning of another type stand in the text, with colons between them. -/
def HasChain (text : List Char) : Prop :=
  ∃ before name type c after, text = before ++ '@' :: (name ++ ':' :: (type ++ ':' :: c :: after)) ∧
    IsWord name ∧ IsWord type ∧ isWord c

section Unchained

theorem unchained_nil : Unchained [] := by
  intro before name type after h
  simp at h

theorem unchained_plain {c : Char} : Unchained (.plain c :: tokens) ↔ Unchained tokens := by
  constructor
  · rintro h before name type after rfl
    exact h (.plain c :: before) name type after rfl
  · intro h before name type after htokens
    cases before with
    | nil => cases htokens
    | cons token before => exact h before name type after (List.cons.inj htokens).2

theorem unchained_plain_append (front : List Char) :
    Unchained (front.map .plain ++ tokens) ↔ Unchained tokens := by
  induction front with
  | nil => exact Iff.rfl
  | cons c front ih => exact unchained_plain.trans ih

theorem unchained_typed : Unchained (.typed name type :: tokens) ↔
    Untyped (tokens.flatMap TypedToken.text) ∧ Unchained tokens := by
  constructor
  · refine fun h => ⟨h [] name type tokens rfl, ?_⟩
    rintro before name' type' after rfl
    exact h (.typed name type :: before) name' type' after rfl
  · rintro ⟨hhead, htail⟩ before name' type' after htokens
    cases before with
    | nil =>
      obtain ⟨_, rfl⟩ := List.cons.inj htokens
      exact hhead
    | cons token before => exact htail before name' type' after (List.cons.inj htokens).2

/-- A chain begins with a declaration, and every declaration is found. -/
theorem unchained_typedTokens_iff : Unchained (typedTokens text) ↔ ¬ HasChain text := by
  constructor
  · rintro h ⟨before, name, type, c, after, rfl, hn, ht, hc⟩
    have htokens := typedTokens_append_typed before hn ht (stops_colon (c :: after))
    have huntyped := h _ name type _ htokens
    rw [flatMap_text_typedTokens] at huntyped
    have hstop : Stops isWord (c :: after) := huntyped _ rfl
    rw [Text.stops_cons, hc] at hstop
    cases hstop
  · intro h before name type after htokens rest hrest
    by_contra hstop
    obtain ⟨word, rest, rfl, hword, -⟩ := exists_word hstop
    obtain ⟨c, word, rfl⟩ := List.exists_cons_of_ne_nil hword.1
    have hdecl : (name, type) ∈ declarations text :=
      List.mem_filterMap.mpr ⟨.typed name type, by rw [htokens]; simp, rfl⟩
    obtain ⟨hn, ht⟩ := isWord_of_mem_declarations hdecl
    refine h ⟨before.flatMap TypedToken.text, name, type, c, word ++ rest, ?_, hn, ht,
      hword.2 c List.mem_cons_self⟩
    rw [← flatMap_text_typedTokens text, htokens, List.flatMap_append, List.flatMap_cons, hrest]
    simp [TypedToken.text]

end Unchained

section Again

/-- Cleaning changes a text exactly if it declares something. -/
theorem clean_eq_self_iff : clean text = text ↔ declarations text = [] := by
  induction text using declaration_induction with
  | nil => rw [clean_nil, declarations_nil]; exact iff_of_true rfl rfl
  | plain c rest hc ih => rw [clean_plain hc, declarations_plain hc, List.cons_inj_right, ih]
  | untyped name rest hn hs hu ih =>
    rw [clean_untyped hn hs hu, declarations_untyped hn hs hu, List.cons_inj_right,
      List.append_right_inj, ih]
  | typed name type rest hn ht hs _ =>
    rw [declarations_typed hn ht hs]
    refine iff_of_false ?_ (List.cons_ne_nil _ _)
    intro h
    have hlength := congrArg List.length h
    rw [clean_typed hn ht hs] at hlength
    simp only [List.length_cons, List.length_append] at hlength
    have hle := (clean_sublist rest).length_le
    omega

theorem Untyped.clean (h : Untyped rest) : Untyped (clean rest) := by
  intro after hafter
  have hhead := head?_clean rest
  rw [hafter, List.head?_cons, eq_comm, List.head?_eq_some_iff] at hhead
  obtain ⟨behind, rfl⟩ := hhead
  have hcolon : Sql.clean (':' :: behind) = ':' :: Sql.clean behind := clean_plain nofun
  rw [hcolon] at hafter
  obtain ⟨_, rfl⟩ := List.cons.inj hafter
  exact stops_clean.mpr (h behind rfl)

/-- A name that has lost its type has another one exactly if it stood in a chain. -/
theorem declarations_clean_eq_nil_iff :
    declarations (clean text) = [] ↔ Unchained (typedTokens text) := by
  induction text using declaration_induction with
  | nil =>
    rw [clean_nil, declarations_nil, typedTokens_nil]
    exact iff_of_true rfl unchained_nil
  | plain c rest hc ih =>
    rw [clean_plain hc, declarations_plain (fun hat => stops_clean.mpr (hc hat)),
      typedTokens_plain (fun hat => declaration?_of_stops (hc hat)), unchained_plain, ih]
  | untyped name rest hn hs hu ih =>
    rw [clean_untyped hn hs hu, declarations_untyped hn (stops_clean.mpr hs) hu.clean,
      typedTokens_untyped hn hs hu, unchained_plain, unchained_plain_append, ih]
  | typed name type rest hn ht hs ih =>
    rw [clean_typed hn ht hs, typedTokens_typed hn ht hs, unchained_typed,
      flatMap_text_typedTokens, ← ih]
    by_cases hu : Untyped rest
    · rw [declarations_untyped hn (stops_clean.mpr hs) hu.clean, and_iff_right hu]
    · -- The second type of the chain now stands behind the name.
      refine iff_of_false ?_ (fun h => hu h.1)
      obtain ⟨after, hafter⟩ := not_forall.mp hu
      obtain ⟨rfl, hword⟩ := Classical.not_imp.mp hafter
      obtain ⟨next, behind, rfl, hnext, hbehind⟩ := exists_word hword
      have hplain : '@' ∉ ':' :: next := by simpa using at_not_mem hnext
      have hcolon : clean (':' :: (next ++ behind)) = ':' :: (next ++ clean behind) :=
        clean_append_of_not_mem (a := ':' :: next) hplain
      rw [hcolon, declarations_typed hn hnext (stops_clean.mpr hbehind)]
      exact List.cons_ne_nil _ _

end Again

end TypedQuery.Sql

namespace TypedQuery.Query

open Sql (clean declarations)

theorem parameters_eq_nil_iff {text : String} :
    parameters text = [] ↔ declarations text.toList = [] := by
  rw [parameters]
  cases declarations text.toList <;> simp [distinctNames]

/-- Cleaning a text once is enough, for the text and for its parameters, exactly if no declaration
in it is followed by a colon and a word. -/
theorem cleanSql_final_tfae (text : String) : List.TFAE [
    cleanSql (cleanSql text) = cleanSql text,
    parameters (cleanSql text) = [],
    Sql.Unchained (Sql.typedTokens text.toList),
    ¬ Sql.HasChain text.toList] := by
  tfae_have 1 ↔ 2 := by
    rw [parameters_eq_nil_iff, toList_cleanSql, ← Sql.clean_eq_self_iff, ← String.toList_inj,
      toList_cleanSql, toList_cleanSql]
  tfae_have 2 ↔ 3 := by
    rw [parameters_eq_nil_iff, toList_cleanSql, Sql.declarations_clean_eq_nil_iff]
  tfae_have 3 ↔ 4 := Sql.unchained_typedTokens_iff
  tfae_finish

end TypedQuery.Query
