import TypedQuery.Proofs.Code.UnitName
import TypedQuery.Proofs.Query.Name
import TypedQuery.Proofs.Text.Xid

/-! Which names of the emitted code are identifiers. -/
namespace TypedQuery.Code

open Text (isAlphanumeric isWord isXidContinue isXidStart)

/-- The words that the emitted language keeps for itself in one of its editions: those in use, and
those that it may come to use. -/
def reservedWords : List String :=
  ["as", "async", "await", "break", "const", "continue", "crate", "dyn", "else", "enum", "extern",
   "false", "fn", "for", "if", "impl", "in", "let", "loop", "match", "mod", "move", "mut", "pub",
   "ref", "return", "self", "Self", "static", "struct", "super", "trait", "true", "type", "unsafe",
   "use", "where", "while",
   "abstract", "become", "box", "do", "final", "gen", "macro", "override", "priv", "try", "typeof",
   "unsized", "virtual", "yield"]

/-- The reserved words that name a place in the code and that no raw identifier may spell. -/
def pathWords : List String := ["crate", "self", "Self", "super"]

/-- The characters are those of an identifier. -/
def spells : List Char → Bool
  | [] => false
  | first :: rest => (first = '_' || isXidStart first) && rest.all isXidContinue

/-- An identifier that is no word of the language, or a raw one that spells such a word. -/
def IsIdentifier (name : String) : Prop :=
  (spells name.toList ∧ name ≠ "_" ∧ name ∉ reservedWords) ∨
    ∃ word ∈ reservedWords, word ∉ pathWords ∧ name = "r#" ++ word

instance (name : String) : Decidable (IsIdentifier name) :=
  inferInstanceAs (Decidable (_ ∨ _))

/-- The kept characters of a name are those of an identifier, but for a digit that comes first. -/
def Suits (kept : Char → Bool) : List Char → Prop
  | [] => True
  | first :: rest => (kept first → first = '_' ∨ first.isDigit ∨ isXidStart first) ∧
      ∀ c ∈ rest, kept c → isXidContinue c

instance (kept : Char → Bool) : (name : List Char) → Decidable (Suits kept name)
  | [] => .isTrue trivial
  | _ :: rest =>
    letI : Decidable (∀ c ∈ rest, kept c → isXidContinue c) := List.decidableBAll _ rest
    inferInstanceAs (Decidable (_ ∧ _))

section Spelling

theorem spells_cons {first : Char} {rest : List Char} : spells (first :: rest) ↔
    (first = '_' ∨ isXidStart first) ∧ ∀ c ∈ rest, isXidContinue c := by
  simp [spells]

variable {name : String} {suffix : List Char}

theorem mem_reservedWords_iff (h : name ≠ "_") :
    name ∈ reservedWords ↔ name ∈ fixedKeywords ∨ name ∈ keywords := by
  have hfixed : ∀ word ∈ fixedKeywords, word = "_" ∨ word ∈ reservedWords := by decide +kernel
  have hraw : ∀ word ∈ keywords, word ∈ reservedWords := by decide +kernel
  have hall : ∀ word ∈ reservedWords, word ∈ fixedKeywords ∨ word ∈ keywords := by decide +kernel
  refine ⟨hall name, ?_⟩
  rintro (hword | hword)
  · exact (hfixed name hword).resolve_left h
  · exact hraw name hword

/-- No word of the language begins with an underscore and goes on. -/
theorem underscore_append_not_mem (h : name.toList ≠ []) : "_" ++ name ∉ "_" :: reservedWords := by
  have hall : ∀ word ∈ "_" :: reservedWords, word.toList.head? = some '_' →
      word.toList = ['_'] := by decide +kernel
  intro hmem
  have hlist := hall _ hmem (by rw [String.toList_append]; rfl)
  rw [String.toList_append] at hlist
  exact h (List.cons.inj hlist).2

/-- A name without a hash that is no word of the language is an identifier by its characters. -/
theorem isIdentifier_iff_spells (hhash : '#' ∉ name.toList)
    (hword : name ∉ "_" :: reservedWords) : IsIdentifier name ↔ spells name.toList := by
  obtain ⟨hblank, hreserved⟩ := not_or.mp (mt List.mem_cons.mpr hword)
  constructor
  · rintro (⟨hspells, _⟩ | ⟨word, _, _, rfl⟩)
    · exact hspells
    · exact absurd (by simp) hhash
  · intro hspells
    exact .inl ⟨hspells, hblank, hreserved⟩

end Spelling

section TypeName

/-- The character that stands for another one in the name of a type. -/
def stemChar (c : Char) : Char := if isNameChar c then c else '_'

theorem stemChar_of_isAlphanumeric {c : Char} (h : isAlphanumeric c) : stemChar c = c := by
  rw [stemChar, isNameChar, h, Bool.true_or, if_pos rfl]

theorem stemChar_of_not_isAlphanumeric {c : Char} (h : ¬ isAlphanumeric c) : stemChar c = '_' := by
  rw [stemChar, isNameChar, Bool.eq_false_iff.mpr h, Bool.false_or]
  split
  · next hc => exact of_decide_eq_true hc
  · rfl

theorem isAlphanumeric_of_isDigit {c : Char} (h : c.isDigit) : isAlphanumeric c :=
  Text.covers_of_isDigit _ h

theorem isDigit_stemChar (c : Char) : (stemChar c).isDigit = c.isDigit := by
  by_cases hc : isAlphanumeric c
  · rw [stemChar_of_isAlphanumeric hc]
  · have hdigit : c.isDigit = false :=
      Bool.eq_false_iff.mpr fun h => hc (isAlphanumeric_of_isDigit h)
    rw [stemChar_of_not_isAlphanumeric hc, hdigit]
    decide

theorem isXidContinue_stemChar_iff {c : Char} :
    isXidContinue (stemChar c) ↔ (isAlphanumeric c → isXidContinue c) := by
  by_cases hc : isAlphanumeric c
  · rw [stemChar_of_isAlphanumeric hc]
    exact ⟨fun h _ => h, fun h => h hc⟩
  · rw [stemChar_of_not_isAlphanumeric hc]
    exact iff_of_true (by decide) fun h => absurd h hc

theorem typeStem_cons (first : Char) (rest : List Char) : typeStem (first :: rest) =
    if first.isDigit then '_' :: stemChar first :: rest.map stemChar
    else stemChar first :: rest.map stemChar := by
  have hdigit : startsWithDigit ((first :: rest).map stemChar) = first.isDigit :=
    isDigit_stemChar first
  change (if (first :: rest).map stemChar = [] || startsWithDigit ((first :: rest).map stemChar)
    then _ else _) = _
  rw [hdigit]
  rfl

/-- Of a query's name only the characters that the type's name keeps can do harm. -/
theorem spells_typeStem_append (name : List Char) {suffix : List Char}
    (hsuffix : ∀ c ∈ suffix, isXidContinue c) :
    spells (typeStem name ++ suffix) ↔ Suits isAlphanumeric name := by
  cases name with
  | nil => exact iff_of_true (spells_cons.mpr ⟨.inl rfl, hsuffix⟩) trivial
  | cons first rest =>
    have hrest : (∀ c ∈ rest.map stemChar ++ suffix, isXidContinue c) ↔
        ∀ c ∈ rest, isAlphanumeric c → isXidContinue c := by
      rw [List.forall_mem_append, List.forall_mem_map, and_iff_left hsuffix]
      simp only [isXidContinue_stemChar_iff]
    rw [typeStem_cons, Suits, ← hrest]
    by_cases h : first.isDigit
    · have hfirst : isXidContinue (stemChar first) :=
        isXidContinue_stemChar_iff.mpr fun _ => Text.isXidContinue_of_isDigit h
      rw [if_pos h, List.cons_append, spells_cons, List.cons_append, List.forall_mem_cons]
      simp [hfirst, h]
    · rw [if_neg h, List.cons_append, spells_cons]
      refine and_congr_left fun _ => ?_
      by_cases hkept : isAlphanumeric first
      · simp [stemChar_of_isAlphanumeric hkept, hkept, h]
      · simp [stemChar_of_not_isAlphanumeric hkept, hkept]

theorem capitalQ_not_mem_reservedWords : ∀ word ∈ "_" :: reservedWords, 'Q' ∉ word.toList := by
  decide +kernel

theorem isIdentifier_typeIdent_append (name : String) {suffix : String}
    (hmark : 'Q' ∈ suffix.toList)
    (hsuffix : suffix.toList.all fun c => isXidContinue c && decide (c ≠ '#')) :
    IsIdentifier (typeIdent name ++ suffix) ↔ Suits isAlphanumeric name.toList := by
  have hchars : (typeIdent name ++ suffix).toList = typeStem name.toList ++ suffix.toList := by
    rw [String.toList_append, typeIdent, String.toList_ofList]
  have hsuffix : ∀ c ∈ suffix.toList, isXidContinue c ∧ c ≠ '#' := by simpa using hsuffix
  have hword : typeIdent name ++ suffix ∉ "_" :: reservedWords := by
    intro hmem
    apply capitalQ_not_mem_reservedWords _ hmem
    rw [hchars]
    exact List.mem_append_right _ hmark
  have hhash : '#' ∉ (typeIdent name ++ suffix).toList := by
    rw [hchars, List.mem_append]
    rintro (h | h)
    · exact absurd (isNameChar_of_mem_typeStem h) (by decide)
    · exact (hsuffix _ h).2 rfl
  rw [isIdentifier_iff_spells hhash hword, hchars]
  exact spells_typeStem_append _ fun c hc => (hsuffix c hc).1

theorem isIdentifier_typeName_iff (queryName : String) :
    IsIdentifier (typeName queryName) ↔ Suits isAlphanumeric queryName.toList :=
  isIdentifier_typeIdent_append queryName (by decide) (by decide)

theorem isIdentifier_inputName_iff (queryName : String) :
    IsIdentifier (inputName queryName) ↔ Suits isAlphanumeric queryName.toList := by
  rw [inputName, typeName, String.append_assoc]
  exact isIdentifier_typeIdent_append queryName (by decide) (by decide)

end TypeName

section FieldName

/-- How a name becomes that of a field. -/
inductive Escapes (name : String) : String → Prop where
  | fixed (h : name ∈ fixedKeywords) : Escapes name (name ++ "_")
  | keyword (h : name ∈ keywords) : Escapes name ("r#" ++ name)
  | digit (h : startsWithDigit name.toList) : Escapes name ("_" ++ name)
  | plain (hfixed : name ∉ fixedKeywords) (hkeyword : name ∉ keywords)
      (hdigit : ¬ startsWithDigit name.toList) : Escapes name name

theorem escapes_fieldIdent (name : String) : Escapes name (fieldIdent name) := by
  rw [fieldIdent]
  split
  · next h => exact .fixed h
  split
  · next h => exact .keyword h
  split
  · next h => exact .digit h
  · next hfixed hkeyword hdigit => exact .plain hfixed hkeyword hdigit

variable {name : String}

theorem hash_not_mem_of_isWord (h : Sql.IsWord name.toList) : '#' ∉ name.toList := fun hmem =>
  absurd (h.2 '#' hmem) (by decide)

theorem suits_isWord_iff {first : Char} {rest : List Char} (h : ∀ c ∈ first :: rest, isWord c) :
    Suits isWord (first :: rest) ↔
      (first = '_' ∨ first.isDigit ∨ isXidStart first) ∧ ∀ c ∈ rest, isXidContinue c := by
  obtain ⟨hfirst, hrest⟩ := List.forall_mem_cons.mp h
  rw [Suits]
  refine and_congr ⟨fun hs => hs hfirst, fun hs _ => hs⟩ ?_
  exact forall₂_congr fun c hc => ⟨fun hs => hs (hrest c hc), fun hs _ => hs⟩

theorem isIdentifier_fieldIdent_iff (h : Sql.IsWord name.toList) :
    IsIdentifier (fieldIdent name) ↔ Suits isWord name.toList := by
  have hescapes := escapes_fieldIdent name
  generalize fieldIdent name = field at hescapes
  cases hescapes with
  | fixed hfixed =>
    have hall : ∀ word ∈ fixedKeywords, IsIdentifier (word ++ "_") ∧ Suits isWord word.toList := by
      decide +kernel
    obtain ⟨hfield, hname⟩ := hall name hfixed
    exact iff_of_true hfield hname
  | keyword hkeyword =>
    have hall : ∀ word ∈ keywords, word ∈ reservedWords ∧ word ∉ pathWords ∧
        Suits isWord word.toList := by decide +kernel
    obtain ⟨hreserved, hpath, hname⟩ := hall name hkeyword
    exact iff_of_true (.inr ⟨name, hreserved, hpath, rfl⟩) hname
  | digit hdigit =>
    have hword := underscore_append_not_mem h.1
    obtain ⟨first, rest, hname⟩ := List.exists_cons_of_ne_nil h.1
    have hfield : ("_" ++ name).toList = '_' :: first :: rest := by simp [hname]
    have hhash : '#' ∉ ("_" ++ name).toList := by
      rw [String.toList_append, List.mem_append]
      exact not_or.mpr ⟨by decide, hash_not_mem_of_isWord h⟩
    rw [hname] at h hdigit ⊢
    have hdigit : first.isDigit := hdigit
    have hfirst : isXidContinue first := Text.isXidContinue_of_isDigit hdigit
    rw [isIdentifier_iff_spells hhash hword, hfield, spells_cons, List.forall_mem_cons,
      suits_isWord_iff h.2]
    simp [hfirst, hdigit]
  | plain hfixed hkeyword hdigit =>
    have hblank : name ≠ "_" := by
      rintro rfl
      exact hfixed (by decide)
    have hword : name ∉ "_" :: reservedWords := by
      rw [List.mem_cons, mem_reservedWords_iff hblank]
      exact not_or.mpr ⟨hblank, not_or.mpr ⟨hfixed, hkeyword⟩⟩
    rw [isIdentifier_iff_spells (hash_not_mem_of_isWord h) hword]
    obtain ⟨first, rest, hname⟩ := List.exists_cons_of_ne_nil h.1
    rw [hname] at h hdigit ⊢
    have hdigit : ¬ first.isDigit := hdigit
    rw [spells_cons, suits_isWord_iff h.2]
    simp [hdigit]

end FieldName

/-- The ASCII characters of names are those of identifiers. -/
theorem suits_of_ascii {kept : Char → Bool} (hkept : ∀ c, kept c → isWord c ∨ isAlphanumeric c)
    {name : List Char} (h : ∀ c ∈ name, c.toNat < 0x80) : Suits kept name := by
  have hall : ∀ n < 0x80, isWord (.ofNat n) ∨ isAlphanumeric (.ofNat n) →
      (Char.ofNat n = '_' ∨ (Char.ofNat n).isDigit ∨ isXidStart (.ofNat n)) ∧
        isXidContinue (.ofNat n) := by decide +kernel
  have hascii : ∀ c ∈ name, kept c →
      (c = '_' ∨ c.isDigit ∨ isXidStart c) ∧ isXidContinue c := by
    intro c hc hk
    have hchar := hall c.toNat (h c hc)
    rw [Char.ofNat_toNat] at hchar
    exact hchar (hkept c hk)
  cases name with
  | nil => trivial
  | cons first rest =>
    exact ⟨fun hk => (hascii first List.mem_cons_self hk).1,
      fun c hc hk => (hascii c (List.mem_cons_of_mem first hc) hk).2⟩

/-- The names of a query's type, of its input type and of its fields are identifiers exactly if
no character that they keep is out of place there. None is in names and texts of ASCII
characters. -/
theorem isIdentifier_emitted_iff (baseName text : String) :
    (∀ queryName, (IsIdentifier (typeName queryName) ↔ Suits isAlphanumeric queryName.toList) ∧
      (IsIdentifier (inputName queryName) ↔ Suits isAlphanumeric queryName.toList)) ∧
    (∀ p ∈ Query.parameters text, IsIdentifier (fieldIdent p.name) ↔ Suits isWord p.name.toList) ∧
    ((∀ c ∈ baseName.toList ++ text.toList, c.toNat < 0x80) →
      IsIdentifier (typeName (QueryMetadata.ofText baseName text).queryName) ∧
      IsIdentifier (inputName (QueryMetadata.ofText baseName text).queryName) ∧
      ∀ p ∈ Query.parameters text, IsIdentifier (fieldIdent p.name)) := by
  have hfields : ∀ p ∈ Query.parameters text,
      IsIdentifier (fieldIdent p.name) ↔ Suits isWord p.name.toList := fun p hp =>
    isIdentifier_fieldIdent_iff (Query.isWord_of_mem_parameters hp).1
  refine ⟨fun queryName => ?_, hfields, fun hascii => ?_⟩
  · exact ⟨isIdentifier_typeName_iff queryName, isIdentifier_inputName_iff queryName⟩
  obtain ⟨hbase, htext⟩ := List.forall_mem_append.mp hascii
  have hquery : Suits isAlphanumeric (QueryMetadata.ofText baseName text).queryName.toList := by
    refine suits_of_ascii (fun _ => .inr) fun c hc => ?_
    rcases QueryMetadata.mem_of_mem_queryName hc with ⟨hc, _⟩ | hc
    · exact htext c hc
    · exact hbase c hc
  refine ⟨(isIdentifier_typeName_iff _).mpr hquery, (isIdentifier_inputName_iff _).mpr hquery,
    fun p hp => (hfields p hp).mpr ?_⟩
  exact suits_of_ascii (fun _ => .inl) fun c hc => htext c (Query.mem_of_mem_parameterName hp hc)

/-- A superscript digit is kept in the name of a type, and a digit of another script may come first
in that of a field. -/
theorem not_isIdentifier_digits :
    ¬ IsIdentifier (typeName (QueryMetadata.ofText "m\u00b2" "SELECT @\u0663d:int4").queryName) ∧
    ∃ p ∈ Query.parameters "SELECT @\u0663d:int4", ¬ IsIdentifier (fieldIdent p.name) := by
  decide +kernel

end TypedQuery.Code
