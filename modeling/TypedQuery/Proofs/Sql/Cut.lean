import TypedQuery.Proofs.Sql.Clean

/-! Texts cut at their declarations. There is one way to cut a text that leaves no declaration in a
gap, and it is the one by which declarations are read. -/
namespace TypedQuery.Sql

open Text (isWord Stops)

/-- The declarations of a text, each with the gap in front of it, and the gap behind the last. -/
inductive Cut where
  | last (gap : List Char)
  | declaration (gap name type : List Char) (rest : Cut)
  deriving DecidableEq, Repr

namespace Cut

def text : Cut → List Char
  | last gap => gap
  | declaration gap name type rest => gap ++ '@' :: (name ++ ':' :: (type ++ rest.text))

/-- The text without the types. -/
def untyped : Cut → List Char
  | last gap => gap
  | declaration gap name _ rest => gap ++ '@' :: (name ++ rest.untyped)

/-- The names with their types. -/
def pairs : Cut → List (List Char × List Char)
  | last _ => []
  | declaration _ name type rest => (name, type) :: rest.pairs

/-- What stands before each declaration, from the beginning of the text. -/
def starts : Cut → List (List Char)
  | last _ => []
  | declaration gap name type rest =>
    gap :: rest.starts.map fun front => gap ++ '@' :: (name ++ ':' :: (type ++ front))

/-- Each name and each type is a word, and the longest one where it stands. -/
def Maximal : Cut → Prop
  | last _ => True
  | declaration _ name type rest =>
    IsWord name ∧ IsWord type ∧ Stops isWord rest.text ∧ rest.Maximal

/-- The same cut behind some more text. -/
def prepend (front : List Char) : Cut → Cut
  | last gap => last (front ++ gap)
  | declaration gap name type rest => declaration (front ++ gap) name type rest

def ofTokens : List TypedToken → Cut
  | [] => last []
  | .plain c :: tokens => (ofTokens tokens).prepend [c]
  | .typed name type :: tokens => declaration [] name type (ofTokens tokens)

variable {cut : Cut} {front gap name type : List Char} {rest : Cut}

section Prepend

@[simp] theorem text_prepend : (cut.prepend front).text = front ++ cut.text := by
  cases cut with
  | last gap => rfl
  | declaration gap name type rest => exact List.append_assoc front gap _

@[simp] theorem untyped_prepend : (cut.prepend front).untyped = front ++ cut.untyped := by
  cases cut with
  | last gap => rfl
  | declaration gap name type rest => exact List.append_assoc front gap _

@[simp] theorem pairs_prepend : (cut.prepend front).pairs = cut.pairs := by cases cut <;> rfl

@[simp] theorem maximal_prepend : (cut.prepend front).Maximal ↔ cut.Maximal := by
  cases cut <;> exact Iff.rfl

theorem mem_starts_prepend (h : gap ∈ cut.starts) : front ++ gap ∈ (cut.prepend front).starts := by
  cases cut with
  | last _ => cases h
  | declaration first name type rest =>
    rcases List.mem_cons.mp h with rfl | h
    · exact List.mem_cons_self
    · obtain ⟨before, hbefore, rfl⟩ := List.mem_map.mp h
      refine List.mem_cons_of_mem _ (List.mem_map.mpr ⟨before, hbefore, ?_⟩)
      exact List.append_assoc front first _

theorem prepend_prepend (a b : List Char) : (cut.prepend b).prepend a = cut.prepend (a ++ b) := by
  cases cut <;> simp [prepend]

theorem le_length_of_mem_starts (h : front ∈ (declaration gap name type rest).starts) :
    gap.length ≤ front.length := by
  rcases List.mem_cons.mp h with rfl | h
  · exact Nat.le_refl _
  · obtain ⟨before, _, rfl⟩ := List.mem_map.mp h
    rw [List.length_append]
    exact Nat.le_add_right _ _

end Prepend

section Tokens

variable {tokens : List TypedToken}

theorem text_ofTokens (tokens : List TypedToken) :
    (ofTokens tokens).text = tokens.flatMap TypedToken.text := by
  induction tokens with
  | nil => rfl
  | cons token tokens ih => cases token <;> simp [ofTokens, text, TypedToken.text, ih]

theorem untyped_ofTokens (tokens : List TypedToken) :
    (ofTokens tokens).untyped = tokens.flatMap TypedToken.cleaned := by
  induction tokens with
  | nil => rfl
  | cons token tokens ih => cases token <;> simp [ofTokens, untyped, TypedToken.cleaned, ih]

theorem pairs_ofTokens (tokens : List TypedToken) :
    (ofTokens tokens).pairs = tokens.filterMap TypedToken.declaration? := by
  induction tokens with
  | nil => rfl
  | cons token tokens ih =>
    cases token with
    | plain c => exact pairs_prepend.trans ih
    | typed name type => exact congrArg ((name, type) :: ·) ih

theorem ofTokens_plain_append (front : List Char) (tokens : List TypedToken) :
    ofTokens (front.map .plain ++ tokens) = (ofTokens tokens).prepend front := by
  induction front with
  | nil => cases h : ofTokens tokens <;> simp [prepend, h]
  | cons c front ih =>
    rw [List.map_cons, List.cons_append, ofTokens, ih, prepend_prepend]
    rfl

theorem mem_starts_ofTokens (before after : List TypedToken) :
    before.flatMap TypedToken.text ∈ (ofTokens (before ++ .typed name type :: after)).starts := by
  induction before with
  | nil => exact List.mem_cons_self
  | cons token before ih =>
    cases token with
    | plain c => exact mem_starts_prepend ih
    | typed first firstType =>
      refine List.mem_cons_of_mem _ (List.mem_map.mpr ⟨_, ih, ?_⟩)
      simp [TypedToken.text]

end Tokens

end Cut

/-- The cut gives the text, and wherever an at sign, a word, a colon and a word character follow each
other one of its declarations begins. -/
structure IsCut (text : List Char) (cut : Cut) : Prop where
  text_eq : cut.text = text
  maximal : cut.Maximal
  complete : ∀ before name c after, text = before ++ '@' :: (name ++ ':' :: c :: after) →
    IsWord name → isWord c → before ∈ cut.starts

section Typed

variable {before name type rest text : List Char}

/-- A declaration that stands in a text is read there. -/
theorem typedTokens_append_typed (before : List Char) (hn : IsWord name) (ht : IsWord type)
    (hs : Stops isWord rest) :
    typedTokens (before ++ '@' :: (name ++ ':' :: (type ++ rest))) =
      typedTokens before ++ .typed name type :: typedTokens rest := by
  have hat : Stops continues ('@' :: (name ++ ':' :: (type ++ rest))) :=
    Text.stops_cons.mpr (by decide)
  rw [typedTokens_append hat, typedTokens_typed hn ht hs]

/-- No character is lost. -/
theorem flatMap_text_typedTokens (text : List Char) :
    (typedTokens text).flatMap TypedToken.text = text := by
  have hplain (front : List Char) :
      (front.map TypedToken.plain).flatMap TypedToken.text = front := by
    induction front with
    | nil => rfl
    | cons c front ih => exact congrArg (c :: ·) ih
  induction text using declaration_induction with
  | nil => rw [typedTokens_nil]; rfl
  | plain c rest hc ih =>
    rw [typedTokens_plain (fun hat => declaration?_of_stops (hc hat)), List.flatMap_cons, ih]
    rfl
  | untyped name rest hn hs hu ih =>
    rw [typedTokens_untyped hn hs hu, List.flatMap_cons, List.flatMap_append, hplain, ih]
    rfl
  | typed name type rest hn ht hs ih =>
    rw [typedTokens_typed hn ht hs, List.flatMap_cons, ih]
    simp [TypedToken.text]

theorem typedTokens_of_declarations_eq_nil (h : declarations text = []) :
    typedTokens text = text.map .plain := by
  induction text using declaration_induction with
  | nil => exact typedTokens_nil
  | plain c rest hc ih =>
    rw [declarations_plain hc] at h
    rw [typedTokens_plain (fun hat => declaration?_of_stops (hc hat)), ih h]
    rfl
  | untyped name rest hn hs hu ih =>
    rw [declarations_untyped hn hs hu] at h
    rw [typedTokens_untyped hn hs hu, ih h, List.map_cons, List.map_append]
  | typed name type rest hn ht hs _ =>
    rw [declarations_typed hn ht hs] at h
    cases h

/-- A stretch of text in which nothing begins to look like a declaration holds none. -/
theorem declarations_eq_nil_of_le {gap behind : List Char}
    (h : ∀ before name c after, gap ++ behind = before ++ '@' :: (name ++ ':' :: c :: after) →
      IsWord name → isWord c → gap.length ≤ before.length) : declarations gap = [] := by
  rw [List.eq_nil_iff_forall_not_mem]
  rintro ⟨name, type⟩ hmem
  obtain ⟨hn, ht⟩ := isWord_of_mem_declarations hmem
  obtain ⟨before, after, hgap⟩ := infix_of_mem_declarations hmem
  obtain ⟨c, type, rfl⟩ := List.exists_cons_of_ne_nil ht.1
  have hle := h before name c (type ++ (after ++ behind)) (by simp [← hgap]) hn
    (ht.2 c List.mem_cons_self)
  rw [← hgap, List.length_append, List.length_append, List.length_cons] at hle
  omega

end Typed

section IsCut

variable {text : List Char} {cut : Cut}

theorem maximal_typedTokens (text : List Char) : (Cut.ofTokens (typedTokens text)).Maximal := by
  induction text using declaration_induction with
  | nil => rw [typedTokens_nil]; trivial
  | plain c rest hc ih =>
    rw [typedTokens_plain (fun hat => declaration?_of_stops (hc hat))]
    exact Cut.maximal_prepend.mpr ih
  | untyped name rest hn hs hu ih =>
    rw [typedTokens_untyped hn hs hu, ← List.cons_append, ← List.map_cons,
      Cut.ofTokens_plain_append]
    exact Cut.maximal_prepend.mpr ih
  | typed name type rest hn ht hs ih =>
    rw [typedTokens_typed hn ht hs]
    have htext : (Cut.ofTokens (typedTokens rest)).text = rest := by
      rw [Cut.text_ofTokens, flatMap_text_typedTokens]
    exact ⟨hn, ht, by rwa [htext], ih⟩

theorem isCut_typedTokens (text : List Char) : IsCut text (.ofTokens (typedTokens text)) := by
  refine ⟨?_, maximal_typedTokens text, ?_⟩
  · rw [Cut.text_ofTokens, flatMap_text_typedTokens]
  · rintro before name c after rfl hn hc
    obtain ⟨type, rest, htype, ht, hs⟩ : ∃ type rest, c :: after = type ++ rest ∧ IsWord type ∧
        Stops isWord rest := exists_word (by simp [hc])
    rw [htype, typedTokens_append_typed before hn ht hs]
    have hstart : (typedTokens before).flatMap TypedToken.text ∈
        (Cut.ofTokens (typedTokens before ++ .typed name type :: typedTokens rest)).starts :=
      Cut.mem_starts_ofTokens _ _
    rwa [flatMap_text_typedTokens] at hstart

/-- A gap of a cut that misses no declaration holds none, so the text is read as it is cut. -/
theorem IsCut.eq_ofTokens (h : IsCut text cut) : cut = .ofTokens (typedTokens text) := by
  obtain ⟨rfl, hmaximal, hcomplete⟩ := h
  induction cut with
  | last gap =>
    have hgap : declarations gap = [] := by
      refine @declarations_eq_nil_of_le gap [] fun before name c after htext hn hc => ?_
      rw [List.append_nil] at htext
      cases hcomplete before name c after htext hn hc
    rw [Cut.text, typedTokens_of_declarations_eq_nil hgap,
      ← List.append_nil (gap.map TypedToken.plain), Cut.ofTokens_plain_append]
    exact congrArg Cut.last (List.append_nil gap).symm
  | declaration gap name type rest ih =>
    obtain ⟨hn, ht, hs, hrest⟩ := hmaximal
    have hgap : declarations gap = [] := declarations_eq_nil_of_le
      fun before word c after htext hw hc =>
        Cut.le_length_of_mem_starts (hcomplete before word c after htext hw hc)
    have htail : rest = .ofTokens (typedTokens rest.text) := by
      refine ih hrest fun before word c after htext hw hc => ?_
      have hmem := hcomplete (gap ++ '@' :: (name ++ ':' :: (type ++ before))) word c after
        (by simp [Cut.text, htext]) hw hc
      rcases List.mem_cons.mp hmem with hfirst | hlater
      · exact absurd hfirst (by simp)
      · obtain ⟨front, hfront, heq⟩ := List.mem_map.mp hlater
        obtain rfl : front = before := by simpa using heq
        exact hfront
    rw [Cut.text, typedTokens_append_typed gap hn ht hs, typedTokens_of_declarations_eq_nil hgap,
      Cut.ofTokens_plain_append, Cut.ofTokens, ← htail, Cut.prepend, List.append_nil]

theorem isCut_iff : IsCut text cut ↔ cut = .ofTokens (typedTokens text) := by
  constructor
  · exact IsCut.eq_ofTokens
  · rintro rfl
    exact isCut_typedTokens text

end IsCut

-- A name without a type stays in the gap, and a second type behind the first belongs to no token.
example : Cut.ofTokens (typedTokens "@a@b:c:d".toList) =
    .declaration "@a".toList "b".toList "c".toList (.last ":d".toList) := by
  decide +kernel

end TypedQuery.Sql
