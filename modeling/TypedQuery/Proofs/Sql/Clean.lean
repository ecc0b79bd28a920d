import TypedQuery.Proofs.Sql.Substitution

/-! Texts whose references have lost their types. -/
namespace TypedQuery.Sql

open Text (isWord Stops)

section Equations

variable {c : Char} {name type a b rest : List Char}

private theorem flatMap_cleaned_plain (text : List Char) :
    (text.map TypedToken.plain).flatMap TypedToken.cleaned = text := by
  induction text with
  | nil => rfl
  | cons c text ih => exact congrArg (c :: ·) ih

@[simp] theorem clean_nil : clean [] = [] := by simp [clean]

theorem clean_plain (h : c = '@' → Stops isWord rest) : clean (c :: rest) = c :: clean rest := by
  rw [clean, typedTokens_plain (fun hat => declaration?_of_stops (h hat))]
  rfl

theorem clean_untyped (hn : IsWord name) (hs : Stops isWord rest) (hu : Untyped rest) :
    clean ('@' :: (name ++ rest)) = '@' :: (name ++ clean rest) := by
  rw [clean, typedTokens_untyped hn hs hu, List.flatMap_cons, List.flatMap_append,
    flatMap_cleaned_plain]
  rfl

theorem clean_typed (hn : IsWord name) (ht : IsWord type) (hs : Stops isWord rest) :
    clean ('@' :: (name ++ ':' :: (type ++ rest))) = '@' :: (name ++ clean rest) := by
  rw [clean, typedTokens_typed hn ht hs]
  rfl

@[simp] theorem declarations_nil : declarations [] = [] := by simp [declarations]

theorem declarations_plain (h : c = '@' → Stops isWord rest) :
    declarations (c :: rest) = declarations rest := by
  rw [declarations, typedTokens_plain (fun hat => declaration?_of_stops (h hat))]
  rfl

theorem declarations_untyped (hn : IsWord name) (hs : Stops isWord rest) (hu : Untyped rest) :
    declarations ('@' :: (name ++ rest)) = declarations rest := by
  have hplain : (('@' :: name).map TypedToken.plain).filterMap TypedToken.declaration? = [] := by
    simp [TypedToken.declaration?]
  rw [declarations, typedTokens_untyped hn hs hu, ← List.cons_append, ← List.map_cons,
    List.filterMap_append, hplain]
  rfl

theorem declarations_typed (hn : IsWord name) (ht : IsWord type) (hs : Stops isWord rest) :
    declarations ('@' :: (name ++ ':' :: (type ++ rest))) = (name, type) :: declarations rest := by
  rw [declarations, typedTokens_typed hn ht hs]
  rfl

end Equations

theorem head?_clean (text : List Char) : (clean text).head? = text.head? := by
  induction text using declaration_induction with
  | nil => rw [clean_nil]
  | plain c rest hc _ => rw [clean_plain hc]; rfl
  | untyped name rest hn hs hu _ => rw [clean_untyped hn hs hu]; rfl
  | typed name type rest hn ht hs _ => rw [clean_typed hn ht hs]; rfl

theorem stops_clean {p : Char → Bool} {text : List Char} : Stops p (clean text) ↔ Stops p text :=
  Text.stops_congr (head?_clean text)

theorem clean_append_of_not_mem {a b : List Char} (h : '@' ∉ a) : clean (a ++ b) = a ++ clean b := by
  rw [clean, typedTokens_append_of_not_mem h, List.flatMap_append, flatMap_cleaned_plain]
  rfl

/-- Nothing is put in, and nothing changes places. -/
theorem clean_sublist (text : List Char) : (clean text).Sublist text := by
  induction text using declaration_induction with
  | nil => rewrite [clean_nil]; exact .slnil
  | plain c rest hc ih =>
    rw [clean_plain hc]
    exact ih.cons_cons c
  | untyped name rest hn hs hu ih =>
    rw [clean_untyped hn hs hu]
    exact ((List.Sublist.refl name).append ih).cons_cons '@'
  | typed name type rest hn ht hs ih =>
    rw [clean_typed hn ht hs]
    have htail : (clean rest).Sublist (':' :: (type ++ rest)) :=
      (ih.trans (List.sublist_append_right type rest)).cons ':'
    exact ((List.Sublist.refl name).append htail).cons_cons '@'

/-- A reference can go on here, in its name or its type. -/
def continues (c : Char) : Bool := isWord c || c = ':'

/-- A text may be cut where no reference goes on. -/
theorem typedTokens_append {a b : List Char} (hb : Stops continues b) :
    typedTokens (a ++ b) = typedTokens a ++ typedTokens b := by
  have hword : Stops isWord b := fun c hc => (Bool.or_eq_false_iff.mp (hb c hc)).1
  induction a using declaration_induction with
  | nil => rw [typedTokens_nil]; rfl
  | plain c rest hc ih =>
    have hcut : c = '@' → Stops isWord (rest ++ b) := fun hat =>
      Text.stops_append (hc hat) (fun _ => hword)
    rw [List.cons_append, typedTokens_plain (fun hat => declaration?_of_stops (hcut hat)),
      typedTokens_plain (fun hat => declaration?_of_stops (hc hat)), ih]
    rfl
  | untyped name rest hn hs hu ih =>
    have hcut : Stops isWord (rest ++ b) := Text.stops_append hs (fun _ => hword)
    have hcolon : Untyped (rest ++ b) := by
      intro after hafter
      cases rest with
      | nil =>
        have hc := hb ':' (by rw [show b = ':' :: after from hafter]; rfl)
        exact absurd hc (by decide)
      | cons c rest =>
        obtain ⟨rfl, rfl⟩ := List.cons.inj hafter
        exact Text.stops_append (hu rest rfl) (fun _ => hword)
    rw [List.cons_append, List.append_assoc, typedTokens_untyped hn hcut hcolon,
      typedTokens_untyped hn hs hu, ih]
    simp
  | typed name type rest hn ht hs ih =>
    have hcut : Stops isWord (rest ++ b) := Text.stops_append hs (fun _ => hword)
    have hassoc : '@' :: (name ++ ':' :: (type ++ rest)) ++ b =
        '@' :: (name ++ ':' :: (type ++ (rest ++ b))) := by simp
    rw [hassoc, typedTokens_typed hn ht hcut, typedTokens_typed hn ht hs, ih]
    rfl

theorem clean_append {a b : List Char} (hb : Stops continues b) :
    clean (a ++ b) = clean a ++ clean b := by
  rw [clean, typedTokens_append hb, List.flatMap_append]
  rfl

theorem declarations_append {a b : List Char} (hb : Stops continues b) :
    declarations (a ++ b) = declarations a ++ declarations b := by
  rw [declarations, typedTokens_append hb, List.filterMap_append]
  rfl

/-- The text refers to the same names, typed or not. -/
theorem references_clean (text : List Char) : references (clean text) = references text := by
  induction text using declaration_induction with
  | nil => rw [clean_nil]
  | plain c rest hc ih =>
    rw [clean_plain hc, references_plain (fun hat => stops_clean.mpr (hc hat)),
      references_plain hc, ih]
  | untyped name rest hn hs hu ih =>
    rw [clean_untyped hn hs hu, references_reference hn (stops_clean.mpr hs),
      references_reference hn hs, ih]
  | typed name type rest hn ht hs ih =>
    have hplain : '@' ∉ ':' :: type := by simpa using at_not_mem ht
    rw [clean_typed hn ht hs, references_reference hn (stops_clean.mpr hs),
      references_reference hn (stops_colon _), ← List.cons_append,
      references_append_of_not_mem hplain, ih]

theorem isWord_of_mem_declarations {text : List Char} {d : List Char × List Char}
    (h : d ∈ declarations text) : IsWord d.1 ∧ IsWord d.2 := by
  induction text using declaration_induction with
  | nil => simp at h
  | plain c rest hc ih => exact ih (by rwa [declarations_plain hc] at h)
  | untyped name rest hn hs hu ih => exact ih (by rwa [declarations_untyped hn hs hu] at h)
  | typed name type rest hn ht hs ih =>
    rw [declarations_typed hn ht hs] at h
    rcases List.mem_cons.mp h with rfl | h
    · exact ⟨hn, ht⟩
    · exact ih h

/-- A declaration stands in the text. -/
theorem infix_of_mem_declarations {text : List Char} {d : List Char × List Char}
    (h : d ∈ declarations text) : '@' :: (d.1 ++ ':' :: d.2) <:+: text := by
  induction text using declaration_induction with
  | nil => simp at h
  | plain c rest hc ih =>
    rw [declarations_plain hc] at h
    exact (ih h).trans (List.suffix_cons c rest).isInfix
  | untyped name rest hn hs hu ih =>
    rw [declarations_untyped hn hs hu] at h
    exact (ih h).trans ⟨'@' :: name, [], by simp⟩
  | typed name type rest hn ht hs ih =>
    rw [declarations_typed hn ht hs] at h
    rcases List.mem_cons.mp h with rfl | h
    · exact ⟨[], rest, by simp⟩
    · exact (ih h).trans ⟨'@' :: (name ++ ':' :: type), [], by simp⟩

section Restoring

/-- A colon and then `type`, the longest word there, stand at the front. -/
def HasType (type after : List Char) : Prop :=
  ∃ rest, after = ':' :: (type ++ rest) ∧ IsWord type ∧ Stops isWord rest

/-- Each reference to a name that has a type is followed by this type. -/
def TypedThroughout (typeOf : List Char → Option (List Char)) (text : List Char) : Prop :=
  ∀ before name after type, text = before ++ '@' :: (name ++ after) → IsWord name →
    Stops isWord after → typeOf name = some type → HasType type after

/-- A reference with the type of its name. -/
def annotated (typeOf : List Char → Option (List Char)) (name : List Char) :
    Option (List Char) :=
  (typeOf name).map fun type => '@' :: (name ++ ':' :: type)

variable {typeOf : List Char → Option (List Char)} {c : Char} {name type a b rest : List Char}

theorem hasType_iff (ht : IsWord type) (hs : Stops isWord rest) {type' : List Char} :
    HasType type' (':' :: (type ++ rest)) ↔ type' = type := by
  constructor
  · rintro ⟨after, hafter, ht', hs'⟩
    rw [← Text.takeWhile_append_of_stops ht'.2 hs', ← (List.cons.inj hafter).2,
      Text.takeWhile_append_of_stops ht.2 hs]
  · rintro rfl
    exact ⟨rest, rfl, ht, hs⟩

theorem Untyped.not_hasType (h : Untyped rest) : ¬ HasType type rest := by
  rintro ⟨after, rfl, ht, _⟩
  exact ht.not_stops (h _ rfl)

theorem typedThroughout_nil : TypedThroughout typeOf [] := by
  intro before name after type htext
  simp at htext

theorem typedThroughout_cons : TypedThroughout typeOf (c :: rest) ↔
    (c = '@' → ∀ name after type, rest = name ++ after → IsWord name → Stops isWord after →
      typeOf name = some type → HasType type after) ∧ TypedThroughout typeOf rest := by
  constructor
  · intro h
    constructor
    · rintro rfl name after type rfl
      exact h [] name after type rfl
    · rintro before name after type rfl
      exact h (c :: before) name after type rfl
  · rintro ⟨hhead, htail⟩ before name after type htext
    cases before with
    | nil =>
      obtain ⟨hc, hrest⟩ := List.cons.inj htext
      exact hhead hc name after type hrest
    | cons d before => exact htail before name after type (List.cons.inj htext).2

theorem typedThroughout_append_of_not_mem (h : '@' ∉ a) :
    TypedThroughout typeOf (a ++ b) ↔ TypedThroughout typeOf b := by
  induction a with
  | nil => exact Iff.rfl
  | cons c a ih =>
    have hc : c ≠ '@' := (List.ne_of_not_mem_cons h).symm
    rw [List.cons_append, typedThroughout_cons, ih (List.not_mem_of_not_mem_cons h)]
    exact and_iff_right (fun hat => absurd hat hc)

theorem typedThroughout_plain (h : c = '@' → Stops isWord rest) :
    TypedThroughout typeOf (c :: rest) ↔ TypedThroughout typeOf rest := by
  rw [typedThroughout_cons, and_iff_right]
  rintro hc name after type rfl hn
  exact absurd (h hc) hn.not_stops

theorem typedThroughout_reference (hn : IsWord name) (hs : Stops isWord rest) :
    TypedThroughout typeOf ('@' :: (name ++ rest)) ↔
      (∀ type, typeOf name = some type → HasType type rest) ∧ TypedThroughout typeOf rest := by
  rw [typedThroughout_cons, typedThroughout_append_of_not_mem (at_not_mem hn)]
  refine and_congr_left' ⟨fun h type => h rfl name rest type rfl hn hs, ?_⟩
  intro h _ name' after type htext hn' hs'
  have hname : name = name' := by
    rw [← Text.takeWhile_append_of_stops hn.2 hs, htext, Text.takeWhile_append_of_stops hn'.2 hs']
  subst hname
  rw [← List.append_cancel_left htext]
  exact h type

theorem head?_substitute_annotated (text : List Char) :
    (substitute (annotated typeOf) text).head? = text.head? := by
  induction text using reference_induction with
  | nil => rw [substitute_nil]
  | plain c rest hc _ => rw [substitute_plain hc]; rfl
  | reference name rest hn hs _ =>
    rw [substitute_reference hn hs]
    unfold annotated
    cases typeOf name <;> rfl

/-- Putting the types back gives the text exactly if they stood at each reference. -/
theorem substitute_clean_iff {text : List Char}
    (hword : ∀ name type, typeOf name = some type → IsWord type)
    (hdecl : ∀ d ∈ declarations text, typeOf d.1 ≠ none) :
    substitute (annotated typeOf) (clean text) = text ↔ TypedThroughout typeOf text := by
  induction text using declaration_induction with
  | nil => rw [clean_nil, substitute_nil]; exact iff_of_true rfl typedThroughout_nil
  | plain c rest hc ih =>
    rw [declarations_plain hc] at hdecl
    rw [clean_plain hc, substitute_plain (fun hat => stops_clean.mpr (hc hat)),
      typedThroughout_plain hc, ← ih hdecl, List.cons_inj_right]
  | untyped name rest hn hs hu ih =>
    rw [declarations_untyped hn hs hu] at hdecl
    rw [clean_untyped hn hs hu, substitute_reference hn (stops_clean.mpr hs),
      typedThroughout_reference hn hs, ← ih hdecl]
    cases htype : typeOf name with
    | none => simp [annotated, htype]
    | some type =>
      -- The type would be put in where none stood.
      refine iff_of_false ?_ (fun h => hu.not_hasType (h.1 type rfl))
      simp only [annotated, htype, Option.map_some, Option.getD_some, List.cons_append,
        List.append_assoc, List.cons_inj_right, List.append_cancel_left_eq]
      intro hrest
      exact (hword name type htype).not_stops (hu _ hrest.symm)
  | typed name type rest hn ht hs ih =>
    rw [declarations_typed hn ht hs] at hdecl
    obtain ⟨type', htype⟩ := Option.ne_none_iff_exists'.mp (hdecl (name, type) (by simp))
    have hplain : '@' ∉ ':' :: type := by simpa using at_not_mem ht
    have hhead : (∀ t, typeOf name = some t → HasType t (':' :: (type ++ rest))) ↔
        type' = type := by
      rw [← hasType_iff ht hs, htype]
      exact ⟨fun h => h type' rfl, fun h t hsome => Option.some.inj hsome ▸ h⟩
    have htail : TypedThroughout typeOf (':' :: (type ++ rest)) ↔ TypedThroughout typeOf rest :=
      typedThroughout_append_of_not_mem (a := ':' :: type) hplain
    rw [clean_typed hn ht hs, substitute_reference hn (stops_clean.mpr hs),
      typedThroughout_reference hn (stops_colon _), hhead, htail,
      ← ih (fun d hd => hdecl d (List.mem_cons_of_mem _ hd))]
    have hstop : Stops isWord (substitute (annotated typeOf) (clean rest)) :=
      (Text.stops_congr (head?_substitute_annotated _)).mpr (stops_clean.mpr hs)
    simp only [annotated, htype, Option.map_some, Option.getD_some, List.cons_append,
      List.append_assoc, List.cons_inj_right, List.append_cancel_left_eq]
    constructor
    · intro h
      have hsame : type' = type := by
        rw [← Text.takeWhile_append_of_stops (hword name type' htype).2 hstop,
          ← Text.takeWhile_append_of_stops ht.2 hs, ← h]
      subst hsame
      exact ⟨rfl, List.append_cancel_left h⟩
    · rintro ⟨rfl, h⟩
      exact congrArg (type' ++ ·) h

end Restoring

end TypedQuery.Sql
