import TypedQuery.Proofs.Text.Span
import TypedQuery.Sql.Reference

/-! How a text falls apart into references, with types and without. -/
namespace TypedQuery.Sql

open Text (isWord Stops)

def IsWord (name : List Char) : Prop := name ≠ [] ∧ ∀ c ∈ name, isWord c

/-- An at sign stands before `name`, which is the longest word there. -/
def Refers (text name : List Char) : Prop :=
  ∃ before after, text = before ++ '@' :: (name ++ after) ∧ IsWord name ∧ Stops isWord after

/-- What follows a name does not give it a type. -/
def Untyped (after : List Char) : Prop := ∀ rest, after = ':' :: rest → Stops isWord rest

theorem at_not_mem {word : List Char} (h : IsWord word) : '@' ∉ word := fun hmem =>
  absurd (h.2 '@' hmem) (by decide)

theorem IsWord.not_stops {word rest : List Char} (h : IsWord word) :
    ¬ Stops isWord (word ++ rest) := by
  obtain ⟨hne, hall⟩ := h
  cases word with
  | nil => exact absurd rfl hne
  | cons c word => simp [hall c]

theorem stops_colon (rest : List Char) : Stops isWord (':' :: rest) := by
  rw [Text.stops_cons]
  decide

/-- A word at the front, the longest one, unless the text stops words. -/
theorem exists_word {text : List Char} (h : ¬ Stops isWord text) :
    ∃ word rest, text = word ++ rest ∧ IsWord word ∧ Stops isWord rest := by
  obtain ⟨word, rest, rfl, hword, hrest⟩ := Text.exists_span isWord text
  refine ⟨word, rest, rfl, ⟨?_, hword⟩, hrest⟩
  rintro rfl
  exact h hrest

section Declaration

variable {name type rest : List Char}

theorem declaration?_typed (hn : IsWord name) (ht : IsWord type) (hs : Stops isWord rest) :
    declaration? (name ++ ':' :: (type ++ rest)) = some (name, type, rest) := by
  have hcolon := stops_colon (type ++ rest)
  unfold declaration?
  rw [Text.dropWhile_append_of_stops hn.2 hcolon, Text.takeWhile_append_of_stops hn.2 hcolon]
  simp only [Text.takeWhile_append_of_stops ht.2 hs, Text.dropWhile_append_of_stops ht.2 hs]
  rw [if_neg (not_or.mpr ⟨hn.1, ht.1⟩)]

theorem declaration?_of_stops (h : Stops isWord rest) : declaration? rest = none := by
  have hnil := Text.takeWhile_eq_nil.mpr h
  unfold declaration?
  split
  · rw [if_pos (Or.inl hnil)]
  · rfl

theorem declaration?_untyped (hn : IsWord name) (hs : Stops isWord rest) (hu : Untyped rest) :
    declaration? (name ++ rest) = none := by
  unfold declaration?
  rw [Text.dropWhile_append_of_stops hn.2 hs]
  split
  · next after =>
    rw [if_pos (Or.inr (Text.takeWhile_eq_nil.mpr (hu after rfl)))]
  · rfl

end Declaration

/-- Induction along the references of a text, each with the type it may have. -/
theorem declaration_induction {motive : List Char → Prop} (nil : motive [])
    (plain : ∀ c rest, (c = '@' → Stops isWord rest) → motive rest → motive (c :: rest))
    (untyped : ∀ name rest, IsWord name → Stops isWord rest → Untyped rest → motive rest →
      motive ('@' :: (name ++ rest)))
    (typed : ∀ name type rest, IsWord name → IsWord type → Stops isWord rest → motive rest →
      motive ('@' :: (name ++ ':' :: (type ++ rest))))
    (text : List Char) : motive text := by
  induction hlen : text.length using Nat.strong_induction_on generalizing text with
  | _ n ih =>
    subst hlen
    cases text with
    | nil => exact nil
    | cons c text =>
      by_cases hc : c = '@' → Stops isWord text
      · exact plain c text hc (ih _ (by simp) _ rfl)
      obtain ⟨rfl, hword⟩ := Classical.not_imp.mp hc
      obtain ⟨name, rest, rfl, hn, hs⟩ := exists_word hword
      by_cases hu : Untyped rest
      · have hlt : rest.length < ('@' :: (name ++ rest)).length := by
          rw [List.length_cons, List.length_append]
          omega
        exact untyped name rest hn hs hu (ih _ hlt _ rfl)
      obtain ⟨after, hu⟩ := not_forall.mp hu
      obtain ⟨rfl, hafter⟩ := Classical.not_imp.mp hu
      obtain ⟨type, rest, rfl, ht, hs⟩ := exists_word hafter
      have hlt : rest.length < ('@' :: (name ++ ':' :: (type ++ rest))).length := by
        rw [List.length_cons, List.length_append, List.length_cons, List.length_append]
        omega
      exact typed name type rest hn ht hs (ih _ hlt _ rfl)

/-- Induction along the references of a text where types do not matter. -/
theorem reference_induction {motive : List Char → Prop} (nil : motive [])
    (plain : ∀ c rest, (c = '@' → Stops isWord rest) → motive rest → motive (c :: rest))
    (reference : ∀ name rest, IsWord name → Stops isWord rest → motive rest →
      motive ('@' :: (name ++ rest)))
    (text : List Char) : motive text := by
  induction text using declaration_induction with
  | nil => exact nil
  | plain c rest hc ih => exact plain c rest hc ih
  | untyped name rest hn hs _ ih => exact reference name rest hn hs ih
  | typed name type rest hn ht _ ih =>
    -- The colon and the type are plain characters here.
    have hplain : ∀ word, '@' ∉ word → motive (word ++ rest) := by
      intro word hword
      induction word with
      | nil => exact ih
      | cons c word ihw =>
        have hc : c ≠ '@' := (List.ne_of_not_mem_cons hword).symm
        exact plain c _ (fun hat => absurd hat hc)
          (ihw (List.not_mem_of_not_mem_cons hword))
    exact reference name _ hn (stops_colon _)
      (hplain (':' :: type) (by simpa using at_not_mem ht))

section Tokens

variable {c : Char} {name type a b rest : List Char}

@[simp] theorem tokens_nil : tokens [] = [] := by simp [tokens]

theorem tokens_plain (h : c = '@' → Stops isWord rest) :
    tokens (c :: rest) = .plain c :: tokens rest := by
  rw [tokens, if_neg]
  rintro ⟨hc, hne⟩
  exact hne (Text.takeWhile_eq_nil.mpr (h hc))

theorem tokens_reference (hn : IsWord name) (hs : Stops isWord rest) :
    tokens ('@' :: (name ++ rest)) = .reference name :: tokens rest := by
  rw [tokens, Text.takeWhile_append_of_stops hn.2 hs, Text.dropWhile_append_of_stops hn.2 hs,
    if_pos ⟨rfl, hn.1⟩]

theorem tokens_append_of_not_mem (h : '@' ∉ a) :
    tokens (a ++ b) = a.map .plain ++ tokens b := by
  induction a with
  | nil => rfl
  | cons c a ih =>
    have hc : c ≠ '@' := (List.ne_of_not_mem_cons h).symm
    rw [List.cons_append, tokens_plain (fun hat => absurd hat hc),
      ih (List.not_mem_of_not_mem_cons h)]
    rfl

/-- A text may be cut where no word goes on. -/
theorem tokens_append (hb : Stops isWord b) : tokens (a ++ b) = tokens a ++ tokens b := by
  induction a using reference_induction with
  | nil => rw [tokens_nil]; rfl
  | plain c rest hc ih =>
    have hcut : c = '@' → Stops isWord (rest ++ b) := fun hat =>
      Text.stops_append (hc hat) (fun _ => hb)
    rw [List.cons_append, tokens_plain hcut, tokens_plain hc, ih]
    rfl
  | reference name rest hn hs ih =>
    have hcut : Stops isWord (rest ++ b) := Text.stops_append hs (fun _ => hb)
    rw [List.cons_append, List.append_assoc, tokens_reference hn hcut, tokens_reference hn hs, ih]
    rfl

/-- No character is lost. -/
theorem flatMap_text_tokens (text : List Char) : (tokens text).flatMap Token.text = text := by
  induction text using reference_induction with
  | nil => rw [tokens_nil]; rfl
  | plain c rest hc ih =>
    rw [tokens_plain hc, List.flatMap_cons, ih]
    rfl
  | reference name rest hn hs ih =>
    rw [tokens_reference hn hs, List.flatMap_cons, ih]
    rfl

@[simp] theorem references_nil : references [] = [] := by simp [references]

theorem references_plain (h : c = '@' → Stops isWord rest) :
    references (c :: rest) = references rest := by
  rw [references, tokens_plain h]
  rfl

theorem references_append_of_not_mem (h : '@' ∉ a) : references (a ++ b) = references b := by
  have hplain : (a.map Token.plain).filterMap Token.name? = [] := by simp [Token.name?]
  rw [references, tokens_append_of_not_mem h, List.filterMap_append, hplain]
  rfl

theorem references_reference (hn : IsWord name) (hs : Stops isWord rest) :
    references ('@' :: (name ++ rest)) = name :: references rest := by
  rw [references, tokens_reference hn hs]
  rfl

theorem references_append (hb : Stops isWord b) :
    references (a ++ b) = references a ++ references b := by
  rw [references, tokens_append hb, List.filterMap_append]
  rfl

/-- The references that are read are those that stand in the text. -/
theorem mem_references_iff {text : List Char} : name ∈ references text ↔ Refers text name := by
  constructor
  · intro h
    induction text using reference_induction with
    | nil => simp at h
    | plain c rest hc ih =>
      rw [references_plain hc] at h
      obtain ⟨before, after, rfl, hrefers⟩ := ih h
      exact ⟨c :: before, after, rfl, hrefers⟩
    | reference first rest hn hs ih =>
      rw [references_reference hn hs] at h
      rcases List.mem_cons.mp h with rfl | h
      · exact ⟨[], rest, rfl, hn, hs⟩
      · obtain ⟨before, after, rfl, hrefers⟩ := ih h
        exact ⟨'@' :: (first ++ before), after, by simp, hrefers⟩
  · rintro ⟨before, after, rfl, hn, hs⟩
    have hat : Stops isWord ('@' :: (name ++ after)) := by
      rw [Text.stops_cons]
      decide
    rw [references_append hat, references_reference hn hs]
    simp

end Tokens

section TypedTokens

variable {c : Char} {name type a b rest : List Char}

@[simp] theorem typedTokens_nil : typedTokens [] = [] := by simp [typedTokens]

theorem typedTokens_plain (h : c = '@' → declaration? rest = none) :
    typedTokens (c :: rest) = .plain c :: typedTokens rest := by
  have hnone : (if c = '@' then declaration? rest else none) = none := by
    split
    · next hc => exact h hc
    · rfl
  rw [typedTokens]
  split
  · next hsome => simp [hnone] at hsome
  · rfl

theorem typedTokens_append_of_not_mem (h : '@' ∉ a) :
    typedTokens (a ++ b) = a.map .plain ++ typedTokens b := by
  induction a with
  | nil => rfl
  | cons c a ih =>
    have hc : c ≠ '@' := (List.ne_of_not_mem_cons h).symm
    rw [List.cons_append, typedTokens_plain (fun hat => absurd hat hc),
      ih (List.not_mem_of_not_mem_cons h)]
    rfl

theorem typedTokens_untyped (hn : IsWord name) (hs : Stops isWord rest) (hu : Untyped rest) :
    typedTokens ('@' :: (name ++ rest)) = .plain '@' :: (name.map .plain ++ typedTokens rest) := by
  rw [typedTokens_plain (fun _ => declaration?_untyped hn hs hu),
    typedTokens_append_of_not_mem (at_not_mem hn)]

theorem typedTokens_typed (hn : IsWord name) (ht : IsWord type) (hs : Stops isWord rest) :
    typedTokens ('@' :: (name ++ ':' :: (type ++ rest))) =
      .typed name type :: typedTokens rest := by
  have hdecl := declaration?_typed hn ht hs
  rw [typedTokens]
  split
  · next hsome =>
    rw [if_pos rfl, hdecl] at hsome
    cases hsome
    rfl
  · next hnone => simp [hdecl] at hnone

end TypedTokens

end TypedQuery.Sql
