import TypedQuery.Proofs.Code.Constant
import TypedQuery.Proofs.Code.Identifier
import Mathlib.Data.List.Nodup

/-! The fields that an input type declares, and those that the calls of a query bind. -/
namespace TypedQuery.Code

open Sql (IsWord)
open Text (isWord)

/-- What an identifier names. The mark of a raw one is no part of it. -/
def bareName (ident : List Char) : List Char := (Query.after? ['r', '#'] ident).getD ident

/-- What the field of a parameter is named. -/
def fieldName (name : String) : String := .ofList (bareName (fieldIdent name).toList)

/-- The name of the field between `start`, at the head of the line, and the next `stop`. -/
def fieldBetween? (start : String) (stop : Char) (line : String) : Option String :=
  (Query.after? start.toList line.toList).map fun rest =>
    .ofList (bareName (rest.takeWhile (· ≠ stop)))

/-- The field that a line declares. -/
def declaredField? (line : String) : Option String := fieldBetween? "    pub " ':' line

/-- The field that a call binds. -/
def boundField? (call : String) : Option String :=
  (fieldBetween? ".bind(&input." ')' call).or (fieldBetween? ".bind(input." '.' call)

/-- The fields of an input type, by the lines that declare it. -/
def inputFields (queryName : String) (params : List Parameter) : List String :=
  (inputLines queryName params).filterMap declaredField?

/-- The line that declares the field of a parameter. -/
def fieldDeclaration (p : Parameter) : String :=
  s!"    pub {fieldIdent p.name}: {(SqlType.resolve p.sqlType).field},"

def declaresField (line : String) : Bool := (declaredField? line).isSome

/-- The lines of an input type that declare fields. -/
def fieldDeclarations (queryName : String) (params : List Parameter) : List String :=
  (inputLines queryName params).filter declaresField

/-- No field is declared twice, and each call binds the one field of its own parameter. -/
structure OneFieldEach (queryName : String) (params : List Parameter) : Prop where
  distinct : (inputFields queryName params).Nodup
  own : ∀ (i : Nat) (p : Parameter), params[i]? = some p →
    ∀ j : Nat, (inputFields queryName params)[j]? = boundField? (bindCall p) ↔ j = i

/-- The second name is what the first becomes. -/
def Clashes (a b : String) : Prop :=
  (a ∈ fixedKeywords ∧ b = a ++ "_") ∨ (startsWithDigit a.toList ∧ b = "_" ++ a)

section FieldName

variable {name a b : String}

theorem bareName_of_hash_not_mem {ident : List Char} (h : '#' ∉ ident) :
    bareName ident = ident := by
  have hnone : Query.after? ['r', '#'] ident = none := by
    rw [Option.eq_none_iff_forall_ne_some]
    intro rest hrest
    rw [Query.after?_eq_some_iff.mp hrest] at h
    exact h (by simp)
  rw [bareName, hnone, Option.getD_none]

theorem fieldName_of_fixed (h : name ∈ fixedKeywords) : fieldName name = name ++ "_" := by
  have hall : ∀ word ∈ fixedKeywords, fieldName word = word ++ "_" := by decide +kernel
  exact hall name h

theorem fieldName_of_digit (hword : IsWord name.toList) (h : startsWithDigit name.toList) :
    fieldName name = "_" ++ name := by
  have hreserved : ∀ word ∈ fixedKeywords ++ keywords, ¬ startsWithDigit word.toList := by
    decide +kernel
  have hfixed : name ∉ fixedKeywords := fun hmem => hreserved _ (List.mem_append_left _ hmem) h
  have hkeyword : name ∉ keywords := fun hmem => hreserved _ (List.mem_append_right _ hmem) h
  have hhash : '#' ∉ ("_" ++ name).toList := by
    rw [String.toList_append, List.mem_append]
    exact not_or.mpr ⟨by decide, hash_not_mem_of_isWord hword⟩
  rw [fieldName, fieldIdent, if_neg hfixed, if_neg hkeyword, if_pos h,
    bareName_of_hash_not_mem hhash, String.ofList_toList]

theorem fieldName_of_plain (hword : IsWord name.toList) (hfixed : name ∉ fixedKeywords)
    (hdigit : ¬ startsWithDigit name.toList) : fieldName name = name := by
  rw [fieldName, fieldIdent, if_neg hfixed, if_neg hdigit]
  split
  · have hraw : ("r#" ++ name).toList = ['r', '#'] ++ name.toList := by simp
    rw [hraw, bareName, Query.after?_append, Option.getD_some, String.ofList_toList]
  · rw [bareName_of_hash_not_mem (hash_not_mem_of_isWord hword), String.ofList_toList]

theorem fieldName_cases (h : IsWord name.toList) :
    (name ∈ fixedKeywords ∧ fieldName name = name ++ "_") ∨
      (startsWithDigit name.toList ∧ fieldName name = "_" ++ name) ∨ fieldName name = name := by
  by_cases hfixed : name ∈ fixedKeywords
  · exact .inl ⟨hfixed, fieldName_of_fixed hfixed⟩
  by_cases hdigit : startsWithDigit name.toList
  · exact .inr (.inl ⟨hdigit, fieldName_of_digit h hdigit⟩)
  · exact .inr (.inr (fieldName_of_plain h hfixed hdigit))

/-- No word of the language becomes a digit behind an underscore. -/
theorem append_underscore_ne {word name : String} (hfixed : word ∈ fixedKeywords)
    (hdigit : startsWithDigit name.toList) : word ++ "_" ≠ "_" ++ name := by
  have hall : ∀ word ∈ fixedKeywords, ¬ startsWithDigit (word ++ "_").toList.tail := by
    decide +kernel
  intro heq
  apply hall word hfixed
  rw [heq, String.toList_append]
  exact hdigit

theorem Clashes.fieldName_eq (h : Clashes a b) (ha : IsWord a.toList) (hb : IsWord b.toList) :
    fieldName a = fieldName b := by
  rcases h with ⟨hfixed, rfl⟩ | ⟨hdigit, rfl⟩
  · have hall : ∀ word ∈ fixedKeywords, fieldName word = fieldName (word ++ "_") := by
      decide +kernel
    exact hall a hfixed
  · have hfixed : "_" ++ a ∉ fixedKeywords := by
      have hall : ∀ word ∈ fixedKeywords, word ∈ "_" :: reservedWords := by decide +kernel
      exact fun hmem => underscore_append_not_mem ha.1 (hall _ hmem)
    have hplain : ¬ startsWithDigit ("_" ++ a).toList := by
      rw [String.toList_append]
      exact Bool.false_ne_true
    rw [fieldName_of_digit ha hdigit, fieldName_of_plain hb hfixed hplain]

/-- Two names have one field exactly if one is what the other becomes. -/
theorem fieldName_eq_iff (ha : IsWord a.toList) (hb : IsWord b.toList) :
    fieldName a = fieldName b ↔ a = b ∨ Clashes a b ∨ Clashes b a := by
  constructor
  · intro heq
    rcases fieldName_cases ha with ⟨hfixed, hname⟩ | ⟨hdigit, hname⟩ | hname
    · rw [hname] at heq
      rcases fieldName_cases hb with ⟨_, hname'⟩ | ⟨hdigit', hname'⟩ | hname'
      · exact .inl ((String.append_left_inj "_").mp (heq.trans hname'))
      · exact absurd (heq.trans hname') (append_underscore_ne hfixed hdigit')
      · exact .inr (.inl (.inl ⟨hfixed, (heq.trans hname').symm⟩))
    · rw [hname] at heq
      rcases fieldName_cases hb with ⟨hfixed', hname'⟩ | ⟨_, hname'⟩ | hname'
      · exact absurd (heq.trans hname').symm (append_underscore_ne hfixed' hdigit)
      · exact .inl ((String.append_right_inj "_").mp (heq.trans hname'))
      · exact .inr (.inl (.inr ⟨hdigit, (heq.trans hname').symm⟩))
    · rw [hname] at heq
      rcases fieldName_cases hb with ⟨hfixed', hname'⟩ | ⟨hdigit', hname'⟩ | hname'
      · exact .inr (.inr (.inl ⟨hfixed', heq.trans hname'⟩))
      · exact .inr (.inr (.inr ⟨hdigit', heq.trans hname'⟩))
      · exact .inl (heq.trans hname')
  · rintro (rfl | h | h)
    · rfl
    · exact h.fieldName_eq ha hb
    · exact (h.fieldName_eq hb ha).symm

theorem not_clashes_self (a : String) : ¬ Clashes a a := by
  rintro (⟨_, h⟩ | ⟨_, h⟩) <;>
  · have hlength := congrArg String.length h
    rw [String.length_append] at hlength
    have hone : "_".length = 1 := by decide
    omega

end FieldName

section Between

variable {name start line : String} {stop : Char} {rest : List Char}

theorem isWord_or_hash_of_mem_fieldIdent (h : IsWord name.toList) {c : Char}
    (hc : c ∈ (fieldIdent name).toList) : isWord c ∨ c = '#' := by
  have hmarks : ∀ c ∈ "_".toList ++ "r#".toList, isWord c ∨ c = '#' := by
    have hall : ("_".toList ++ "r#".toList).all fun c => isWord c || c = '#' := by decide
    simpa using hall
  have hescapes := escapes_fieldIdent name
  generalize fieldIdent name = field at hc hescapes
  cases hescapes with
  | fixed _ =>
    rw [String.toList_append, List.mem_append] at hc
    exact hc.elim (fun hc => .inl (h.2 c hc)) fun hc => hmarks c (List.mem_append_left _ hc)
  | keyword _ =>
    rw [String.toList_append, List.mem_append] at hc
    exact hc.elim (fun hc => hmarks c (List.mem_append_right _ hc)) fun hc => .inl (h.2 c hc)
  | digit _ =>
    rw [String.toList_append, List.mem_append] at hc
    exact hc.elim (fun hc => hmarks c (List.mem_append_left _ hc)) fun hc => .inl (h.2 c hc)
  | plain _ _ _ => exact .inl (h.2 c hc)

theorem fieldBetween?_fieldIdent (rest : List Char) (h : IsWord name.toList)
    (hstop : ¬ isWord stop) (hhash : stop ≠ '#')
    (hline : line.toList = start.toList ++ ((fieldIdent name).toList ++ stop :: rest)) :
    fieldBetween? start stop line = some (fieldName name) := by
  have hfield : ∀ c ∈ (fieldIdent name).toList, decide (c ≠ stop) := by
    intro c hc
    rcases isWord_or_hash_of_mem_fieldIdent h hc with hword | rfl
    · exact decide_eq_true fun heq => hstop (heq ▸ hword)
    · exact decide_eq_true hhash.symm
  have hend : Text.Stops (decide <| · ≠ stop) (stop :: rest) := Text.stops_cons.mpr (by simp)
  rw [fieldBetween?, hline, Query.after?_append, Option.map_some,
    Text.takeWhile_append_of_stops hfield hend]
  rfl

/-- Nothing is found on a line that begins in another way. -/
theorem fieldBetween?_append_eq_none (front rest : String)
    (hfront : ¬ front.toList <+: start.toList) (hstart : ¬ start.toList <+: front.toList) :
    fieldBetween? start stop (front ++ rest) = none := by
  rw [fieldBetween?, String.toList_append, Option.map_eq_none_iff,
    Option.eq_none_iff_forall_ne_some]
  intro found hfound
  have hprefix : start.toList <+: front.toList ++ rest.toList :=
    ⟨found, (Query.after?_eq_some_iff.mp hfound).symm⟩
  exact (List.prefix_or_prefix_of_prefix hprefix (List.prefix_append _ _)).elim hstart hfront

theorem boundField?_bindCall {p : Parameter} (h : IsWord p.name.toList) :
    boundField? (bindCall p) = some (fieldName p.name) := by
  rw [boundField?, bindCall]
  split
  · have hfield : fieldBetween? ".bind(&input." ')' s!".bind(&input.{fieldIdent p.name})" =
        some (fieldName p.name) := by
      refine fieldBetween?_fieldIdent [] h (by decide) (by decide) ?_
      simp [toString]
    rw [hfield, Option.some_or]
  · have hnone : fieldBetween? ".bind(&input." ')'
        s!".bind(input.{fieldIdent p.name}.to_string())" = none := by
      rw [String.append_assoc]
      exact fieldBetween?_append_eq_none _ _ (by decide) (by decide)
    have hfield : fieldBetween? ".bind(input." '.'
        s!".bind(input.{fieldIdent p.name}.to_string())" = some (fieldName p.name) := by
      refine fieldBetween?_fieldIdent "to_string())".toList h (by decide) (by decide) ?_
      simp [toString]
    rw [hnone, Option.none_or, hfield]

end Between

section Declared

variable {queryName : String} {params : List Parameter}

theorem declaresField_append {front : String} (rest : String)
    (hfront : ¬ front.toList <+: "    pub ".toList)
    (hstart : ¬ "    pub ".toList <+: front.toList) : ¬ declaresField (front ++ rest) := by
  rw [declaresField, declaredField?, fieldBetween?_append_eq_none front rest hfront hstart]
  exact Bool.false_ne_true

theorem declaresField_fieldDeclaration (p : Parameter) : declaresField (fieldDeclaration p) := by
  have hline : (fieldDeclaration p).toList = "    pub ".toList ++
      (s!"{fieldIdent p.name}: {(SqlType.resolve p.sqlType).field},").toList := by
    simp [fieldDeclaration, toString]
  rw [declaresField, declaredField?, fieldBetween?, hline, Query.after?_append]
  rfl

theorem filter_fieldLines (p : Parameter) :
    (fieldLines p).filter declaresField = [fieldDeclaration p] := by
  have hdoc : ¬ declaresField s!"    /// The `{p.name}` parameter (`{p.sqlType}`)." := by
    simp only [String.append_assoc]
    exact declaresField_append _ (by decide) (by decide)
  rw [fieldLines, List.filter_cons_of_neg hdoc]
  exact List.filter_cons_of_pos (declaresField_fieldDeclaration p)

/-- An input type declares a field for each parameter, in their order. -/
theorem fieldDeclarations_eq (queryName : String) (params : List Parameter) :
    fieldDeclarations queryName params = params.map fieldDeclaration := by
  have hdoc : ¬ declaresField s!"/// Input parameters for [`{typeName queryName}`]." := by
    rw [String.append_assoc]
    exact declaresField_append _ (by decide) (by decide)
  have hstruct (after : String) :
      ¬ declaresField ("pub struct " ++ inputName queryName ++ after) := by
    rw [String.append_assoc]
    exact declaresField_append _ (by decide) (by decide)
  have hfields : (params.flatMap fieldLines).filter declaresField =
      params.map fieldDeclaration := by
    simp only [List.filter_flatMap, filter_fieldLines, List.map_eq_flatMap]
  have hattributes : ["#[allow(dead_code, non_camel_case_types, non_snake_case)]",
      "#[derive(Debug, Clone, Default, PartialEq)]"].filter declaresField = [] := by
    decide
  have hend : ["\x7d"].filter declaresField = [] := by decide
  unfold fieldDeclarations inputLines
  dsimp only
  rw [List.filter_append, List.filter_cons_of_neg hdoc, hattributes, List.nil_append]
  split
  · next hnil =>
    subst hnil
    exact List.filter_cons_of_neg (hstruct " \x7b\x7d")
  · have hopen : ¬ declaresField s!"pub struct {inputName queryName} \x7b" := hstruct " \x7b"
    rw [List.filter_append, List.filter_append, List.filter_cons_of_neg hopen, hfields, hend,
      List.append_nil]
    rfl

theorem declaredField?_fieldDeclaration {p : Parameter} (h : IsWord p.name.toList) :
    declaredField? (fieldDeclaration p) = some (fieldName p.name) := by
  refine fieldBetween?_fieldIdent (s!" {(SqlType.resolve p.sqlType).field},").toList h (by decide)
    (by decide) ?_
  simp [fieldDeclaration, toString]

theorem inputFields_eq (queryName : String) (h : ∀ p ∈ params, IsWord p.name.toList) :
    inputFields queryName params = params.map (fieldName ·.name) := by
  have hdeclared : inputFields queryName params =
      (fieldDeclarations queryName params).filterMap declaredField? := by
    rw [fieldDeclarations, List.filterMap_filter]
    refine List.filterMap_congr fun line _ => ?_
    rw [declaresField]
    cases declaredField? line <;> rfl
  rw [hdeclared, fieldDeclarations_eq, List.filterMap_map, ← List.filterMap_eq_map]
  exact List.filterMap_congr fun p hp => declaredField?_fieldDeclaration (h p hp)

end Declared

/-- Each parameter of a text has a field of its own exactly if no name is what another becomes. -/
theorem oneFieldEach_iff (queryName text : String) :
    inputFields queryName (Query.parameters text) =
        (Query.parameters text).map (fieldName ·.name) ∧
      (OneFieldEach queryName (Query.parameters text) ↔
        ∀ p ∈ Query.parameters text, ∀ q ∈ Query.parameters text, ¬ Clashes p.name q.name) := by
  set params := Query.parameters text
  have hword : ∀ p ∈ params, IsWord p.name.toList := fun p hp =>
    (Query.isWord_of_mem_parameters hp).1
  have hfields := inputFields_eq queryName hword
  have hnames : (params.map (·.name)).Nodup :=
    List.pairwise_map.mpr (Query.parameters_pairwise text)
  have hparams : params.Nodup := hnames.of_map
  refine ⟨hfields, ?_, ?_⟩
  · rintro ⟨hdistinct, _⟩ p hp q hq hclash
    rw [hfields] at hdistinct
    have hfield := hclash.fieldName_eq (hword p hp) (hword q hq)
    obtain rfl := List.inj_on_of_nodup_map hdistinct hp hq hfield
    exact not_clashes_self p.name hclash
  · intro hclash
    have hdistinct : (inputFields queryName params).Nodup := by
      rw [hfields]
      refine hparams.map_on fun p hp q hq hfield => ?_
      rcases (fieldName_eq_iff (hword p hp) (hword q hq)).mp hfield with hname | h | h
      · exact List.inj_on_of_nodup_map hnames hp hq hname
      · exact absurd h (hclash p hp q hq)
      · exact absurd h (hclash q hq p hp)
    refine ⟨hdistinct, fun i p hi j => ?_⟩
    have hown : (inputFields queryName params)[i]? = boundField? (bindCall p) := by
      rw [boundField?_bindCall (hword p (List.mem_of_getElem? hi)), hfields, List.getElem?_map, hi]
      rfl
    have hlength : i < (inputFields queryName params).length := by
      rw [hfields, List.length_map]
      exact (List.getElem?_eq_some_iff.mp hi).1
    rw [← hown, eq_comm, List.getElem?_inj hlength hdistinct, eq_comm]

/-- A name that begins with a digit becomes one that may stand beside it. -/
theorem not_oneFieldEach_digit :
    ¬ OneFieldEach "q" (Query.parameters "select @1a:int4, @_1a:int4") := fun h =>
  absurd h.distinct (by decide +kernel)

end TypedQuery.Code
