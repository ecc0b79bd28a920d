import TypedQuery.Proofs.Query.Composition
import TypedQuery.Proofs.Query.Recleaning

/-! Directives of cleaned text. No type stands in front of the value of a directive, so cleaned text
has the same directives in the same order, with their values cleaned. -/
namespace TypedQuery.Sql

open Text (Stops dropReturn isBlank isWord lines trim)

variable {c : Char} {front line rest text : List Char} {p : Char → Bool}

section Span

/-- What cleaning leaves of a text begins as the text does, as far as there is no reference. -/
theorem clean_eq_append_iff (h : '@' ∉ front) :
    clean text = front ++ rest ↔ ∃ after, text = front ++ after ∧ clean after = rest := by
  constructor
  · intro hclean
    induction front generalizing text with
    | nil => exact ⟨text, rfl, hclean⟩
    | cons c front ih =>
      have hhead := head?_clean text
      rw [hclean, List.cons_append, List.head?_cons, eq_comm, List.head?_eq_some_iff] at hhead
      obtain ⟨text, rfl⟩ := hhead
      have hc : c ≠ '@' := (List.ne_of_not_mem_cons h).symm
      rw [clean_plain (fun hat => absurd hat hc)] at hclean
      obtain ⟨after, rfl, hafter⟩ :=
        ih (List.not_mem_of_not_mem_cons h) (List.cons.inj hclean).2
      exact ⟨after, rfl, hafter⟩
  · rintro ⟨after, rfl, rfl⟩
    exact clean_append_of_not_mem h

theorem dropWhile_clean (hp : p '@' = false) (text : List Char) :
    (clean text).dropWhile p = clean (text.dropWhile p) := by
  obtain ⟨front, rest, rfl, hfront, hrest⟩ := Text.exists_span p text
  have hat : '@' ∉ front := fun hmem => by
    rw [hfront '@' hmem] at hp
    cases hp
  rw [clean_append_of_not_mem hat, Text.dropWhile_append_of_stops hfront hrest,
    Text.dropWhile_append_of_stops hfront (stops_clean.mpr hrest)]

theorem clean_eq_nil_iff : clean text = [] ↔ text = [] := by
  rw [← List.head?_eq_none_iff, head?_clean, List.head?_eq_none_iff]

/-- The last character comes from what is left of the rest unless there is no rest. -/
theorem getLast?_append_clean (front : List Char) (h : (front ++ clean rest).getLast? = some c) :
    (clean rest).getLast? = some c ∨ rest = [] ∧ front.getLast? = some c := by
  rwa [List.getLast?_append, Option.or_eq_some_iff, List.getLast?_eq_none_iff,
    clean_eq_nil_iff] at h

/-- Cleaned text ends as the text does, or with a name. -/
theorem isWord_or_of_getLast?_clean (h : (clean text).getLast? = some c) :
    isWord c ∨ text.getLast? = some c := by
  have hname : ∀ {name : List Char}, IsWord name → ('@' :: name).getLast? = some c → isWord c := by
    rintro name ⟨hne, hall⟩ hlast
    rw [List.getLast?_cons_of_ne_nil hne] at hlast
    exact hall c (List.mem_of_getLast? hlast)
  have hrest : ∀ (front : List Char) {rest : List Char}, isWord c ∨ rest.getLast? = some c →
      isWord c ∨ (front ++ rest).getLast? = some c := by
    rintro front _ (hword | hlast)
    · exact .inl hword
    · exact .inr (by rw [List.getLast?_append, hlast, Option.some_or])
  induction text using declaration_induction with
  | nil => simp at h
  | plain d rest hc ih =>
    rw [clean_plain hc] at h
    rcases getLast?_append_clean [d] h with hlast | ⟨rfl, hlast⟩
    · exact hrest [d] (ih hlast)
    · exact .inr hlast
  | untyped name rest hn hs hu ih =>
    rw [clean_untyped hn hs hu] at h
    rcases getLast?_append_clean ('@' :: name) h with hlast | ⟨rfl, hlast⟩
    · exact hrest ('@' :: name) (ih hlast)
    · exact .inl (hname hn hlast)
  | typed name type rest hn ht hs ih =>
    rw [clean_typed hn ht hs] at h
    rcases getLast?_append_clean ('@' :: name) h with hlast | ⟨rfl, hlast⟩
    · have htext := hrest ('@' :: (name ++ ':' :: type)) (ih hlast)
      rwa [List.cons_append, List.append_assoc] at htext
    · exact .inl (hname hn hlast)

end Span

section Lines

theorem clean_of_not_mem (h : '@' ∉ text) : clean text = text := by
  rw [← List.append_nil text, clean_append_of_not_mem h, clean_nil]

/-- A text may be cut at a character that is part of no reference. -/
theorem clean_append_cons (hat : c ≠ '@') (hc : continues c = false) :
    clean (front ++ c :: rest) = clean front ++ c :: clean rest := by
  rw [clean_append (Text.stops_cons.mpr hc), clean_plain fun h => absurd h hat]

theorem continues_of_isBlank (h : isBlank c) : continues c = false := by
  rw [continues, Text.isWord_of_isBlank h, Bool.false_or, decide_eq_false_iff_not]
  rintro rfl
  exact absurd h (by decide)

/-- No reference begins or goes on with a blank. -/
theorem trim_clean (text : List Char) : trim (clean text) = clean (trim text) := by
  have hback (text : List Char) : ((clean text).reverse.dropWhile isBlank).reverse =
      clean (text.reverse.dropWhile isBlank).reverse := by
    obtain ⟨back, front, htext, hblank, hfront⟩ := Text.exists_span isBlank text.reverse
    obtain rfl : text = front.reverse ++ back.reverse := by
      rw [← List.reverse_append, ← htext, List.reverse_reverse]
    have hat : '@' ∉ back.reverse := fun hmem =>
      absurd (hblank '@' (List.mem_reverse.mp hmem)) (by decide)
    have hstop : Stops continues back.reverse := fun c hc =>
      continues_of_isBlank (hblank c (List.mem_reverse.mp (List.mem_of_head? hc)))
    have hlast : Stops isBlank (clean front.reverse).reverse := by
      intro c hc
      rw [Option.mem_def, List.head?_reverse] at hc
      rcases isWord_or_of_getLast?_clean hc with hword | hlast
      · rw [Bool.eq_false_iff]
        intro hblank
        rw [Text.isWord_of_isBlank hblank] at hword
        cases hword
      · rw [List.getLast?_reverse] at hlast
        exact hfront c hlast
    rw [clean_append hstop, clean_of_not_mem hat, List.reverse_append, List.reverse_reverse,
      List.reverse_append, List.reverse_reverse, List.reverse_reverse,
      Text.dropWhile_append_of_stops hblank hlast, Text.dropWhile_append_of_stops hblank hfront,
      List.reverse_reverse]
  rw [trim, trim, dropWhile_clean (by decide), hback]

theorem dropReturn_clean (line : List Char) : dropReturn (clean line) = clean (dropReturn line) := by
  unfold dropReturn
  by_cases hlast : line.getLast? = some '\r'
  · obtain ⟨front, rfl⟩ := List.getLast?_eq_some_iff.mp hlast
    have hclean : clean (front ++ ['\r']) = clean front ++ ['\r'] := by
      rw [clean_append_cons (by decide) (by decide), clean_nil]
    rw [if_pos hlast, hclean, List.getLast?_concat, if_pos rfl, List.dropLast_concat,
      List.dropLast_concat]
  · rw [if_neg hlast, if_neg]
    intro hclean
    exact hlast ((isWord_or_of_getLast?_clean hclean).resolve_left (by decide))

theorem lines_clean (text : List Char) : lines (clean text) = (lines text).map clean := by
  have hline : ∀ {line}, '\n' ∉ line → '\n' ∉ clean line := fun h hmem =>
    h ((clean_sublist _).subset hmem)
  induction text using Text.line_induction with
  | last line h =>
    rw [Text.lines_of_not_mem h, Text.lines_of_not_mem (hline h)]
    by_cases hnil : line = []
    · rw [if_pos hnil, if_pos (clean_eq_nil_iff.mpr hnil)]
      rfl
    · rw [if_neg hnil, if_neg (mt clean_eq_nil_iff.mp hnil)]
      rfl
  | line line rest h ih =>
    rw [clean_append_cons (by decide) (by decide), Text.lines_append_newline (hline h),
      Text.lines_append_newline h, ih, dropReturn_clean, List.map_cons]

end Lines

end TypedQuery.Sql

namespace TypedQuery.Query

open Sql (clean clean_plain declaration_induction)
open Text (isIndent lines trim)

variable {key line text : List Char}

/-- The values of a key in the order in which a look-up goes through them, empty ones as well. -/
def directiveValues (key text : List Char) : List (List Char) :=
  (lines text).flatMap fun line => (line :: comments line).filterMap (directive? key)

section Lookup

theorem findSome?_filter_eq_find? {α β : Type} (f : α → Option β) (p : β → Bool) (l : List α) :
    l.findSome? (fun a => (f a).filter p) = (l.filterMap f).find? p := by
  induction l with
  | nil => rfl
  | cons a l ih =>
    rw [List.findSome?_cons, ih, List.filterMap_cons]
    cases f a with
    | none => rfl
    | some b => cases hb : p b <;> simp [Option.filter, hb]

theorem lineValue?_eq_find? (key line : List Char) : lineValue? key line =
    (((line :: comments line).filterMap (directive? key)).map trim).find? (· ≠ []) := by
  rw [List.map_filterMap, ← findSome?_filter_eq_find?]
  rfl

/-- A look-up gives the first value that is not blank. -/
theorem textValue?_eq_find? (key text : List Char) :
    textValue? key text = ((directiveValues key text).map trim).find? (· ≠ []) := by
  rw [directiveValues, List.map_flatMap, List.find?_flatMap, textValue?]
  exact congrArg (List.findSome? · (lines text)) (funext (lineValue?_eq_find? key))

end Lookup

section Clean

theorem comments_cons_of_ne {c : Char} (h : c ≠ '-') : comments (c :: text) = comments text := by
  rw [comments]
  exact fun _ hc _ => h hc

theorem comments_dash (h : text.head? ≠ some '-') : comments ('-' :: text) = comments text := by
  rw [comments]
  rintro rest - rfl
  exact h rfl

theorem comments_append_of_not_mem {front : List Char} (h : '-' ∉ front) :
    comments (front ++ text) = comments text := by
  induction front with
  | nil => rfl
  | cons c front ih =>
    have hc : c ≠ '-' := (List.ne_of_not_mem_cons h).symm
    rw [List.cons_append, comments_cons_of_ne hc, ih (List.not_mem_of_not_mem_cons h)]

theorem dash_not_mem {word : List Char} (h : Sql.IsWord word) : '-' ∉ word := fun hmem =>
  absurd (h.2 '-' hmem) (by decide)

/-- Cleaning leaves the dashes of a line in pairs, also behind one more dash. -/
theorem comments_clean_and (line : List Char) :
    comments (clean line) = (comments line).map clean ∧
      comments ('-' :: clean line) = (comments ('-' :: line)).map clean := by
  have hboth : ∀ {line : List Char}, line.head? ≠ some '-' →
      comments (clean line) = (comments line).map clean →
        comments (clean line) = (comments line).map clean ∧
          comments ('-' :: clean line) = (comments ('-' :: line)).map clean := by
    intro line hhead hline
    rw [comments_dash hhead, comments_dash (by rwa [Sql.head?_clean])]
    exact ⟨hline, hline⟩
  induction line using declaration_induction with
  | nil => exact hboth (by simp) (by rw [Sql.clean_nil]; rfl)
  | plain c rest hc ih =>
    obtain ⟨hrest, hdash⟩ := ih
    by_cases hdashes : c = '-'
    · subst hdashes
      rw [clean_plain hc]
      refine ⟨hdash, ?_⟩
      have hpair : clean ('-' :: '-' :: rest) = '-' :: '-' :: clean rest :=
        Sql.clean_append_of_not_mem (a := ['-', '-']) (by decide)
      rw [comments, comments, List.map_cons, hpair, hrest]
    · refine hboth (by simpa using hdashes) ?_
      rw [clean_plain hc, comments_cons_of_ne hdashes, comments_cons_of_ne hdashes, hrest]
  | untyped name rest hn hs hu ih =>
    have hfront : '-' ∉ '@' :: name := by simpa using dash_not_mem hn
    refine hboth (by simp) ?_
    rw [Sql.clean_untyped hn hs hu, ← List.cons_append, comments_append_of_not_mem hfront, ih.1,
      ← List.cons_append, comments_append_of_not_mem hfront]
  | typed name type rest hn ht hs ih =>
    have hfront : '-' ∉ '@' :: name := by simpa using dash_not_mem hn
    have htype : '-' ∉ '@' :: (name ++ ':' :: type) := by
      simpa using not_or.mpr ⟨dash_not_mem hn, dash_not_mem ht⟩
    refine hboth (by simp) ?_
    have hassoc : '@' :: (name ++ ':' :: (type ++ rest)) = '@' :: (name ++ ':' :: type) ++ rest := by
      simp
    rw [Sql.clean_typed hn ht hs, ← List.cons_append, comments_append_of_not_mem hfront, ih.1,
      hassoc, comments_append_of_not_mem htype]

theorem skipDashes_of_not_exists (h : ¬ ∃ rest, text = '-' :: '-' :: rest) :
    skipDashes text = text := by
  unfold skipDashes
  split
  · next rest => exact absurd ⟨rest, rfl⟩ h
  · rfl

theorem skipDashes_clean (text : List Char) : skipDashes (clean text) = clean (skipDashes text) := by
  have hdashes : '@' ∉ ['-', '-'] := by decide
  by_cases h : ∃ rest, text = '-' :: '-' :: rest
  · obtain ⟨rest, rfl⟩ := h
    have hpair : clean ('-' :: '-' :: rest) = '-' :: '-' :: clean rest :=
      Sql.clean_append_of_not_mem hdashes
    rw [hpair]
    rfl
  · have hclean : ¬ ∃ rest, clean text = '-' :: '-' :: rest := by
      rintro ⟨rest, hrest⟩
      obtain ⟨after, hafter, -⟩ :=
        (Sql.clean_eq_append_iff hdashes).mp hrest
      exact h ⟨after, hafter⟩
    rw [skipDashes_of_not_exists h, skipDashes_of_not_exists hclean]

theorem directiveBody_clean (text : List Char) :
    directiveBody (clean text) = clean (directiveBody text) := by
  rw [directiveBody, Sql.dropWhile_clean (by decide), skipDashes_clean,
    Sql.dropWhile_clean (by decide)]
  rfl

theorem directive?_clean (h : '@' ∉ key) (text : List Char) :
    directive? key (clean text) = (directive? key text).map clean := by
  have hfront : '@' ∉ key ++ [':'] := by simpa using h
  apply Option.ext
  intro value
  rw [Option.map_eq_some_iff, directive?_eq_some_iff, directiveBody_clean]
  simp only [directive?_eq_some_iff]
  constructor
  · rintro ⟨rest, hbody, rfl⟩
    rw [List.append_cons] at hbody
    obtain ⟨after, hafter, rfl⟩ := (Sql.clean_eq_append_iff hfront).mp hbody
    refine ⟨_, ⟨after, by rw [hafter, ← List.append_cons], rfl⟩, ?_⟩
    exact (Sql.dropWhile_clean (by decide) after).symm
  · rintro ⟨_, ⟨rest, hbody, rfl⟩, rfl⟩
    refine ⟨clean rest, ?_, Sql.dropWhile_clean (by decide) rest⟩
    rw [hbody, List.append_cons, Sql.clean_append_of_not_mem hfront, ← List.append_cons]

theorem directiveValues_clean (h : '@' ∉ key) (text : List Char) :
    directiveValues key (clean text) = (directiveValues key text).map clean := by
  have hline (line : List Char) :
      (clean line :: comments (clean line)).filterMap (directive? key) =
        ((line :: comments line).filterMap (directive? key)).map clean := by
    rw [(comments_clean_and line).1, ← List.map_cons, List.filterMap_map, List.map_filterMap]
    exact congrArg (List.filterMap · _) (funext (directive?_clean h))
  rw [directiveValues, Sql.lines_clean, List.flatMap_map, directiveValues, List.map_flatMap]
  exact congrArg (List.flatMap · (lines text)) (funext hline)

theorem textValue?_clean (h : '@' ∉ key) (text : List Char) :
    textValue? key (clean text) = (textValue? key text).map clean := by
  have htrim : trim ∘ clean = clean ∘ trim := funext Sql.trim_clean
  have hblank : (fun value => decide (value ≠ [])) ∘ clean = fun value => decide (value ≠ []) :=
    funext fun value => decide_eq_decide.mpr (not_congr Sql.clean_eq_nil_iff)
  rw [textValue?_eq_find?, directiveValues_clean h, List.map_map, htrim, ← List.map_map,
    List.find?_map, hblank, textValue?_eq_find?]

end Clean

theorem metadataValue_clean {key : String} (h : '@' ∉ key.toList) (text : String) :
    metadataValue (cleanSql text) key = (metadataValue text key).map cleanSql := by
  rw [metadataValue, toList_cleanSql, textValue?_clean h, metadataValue, Option.map_map,
    Option.map_map]
  congr 1
  funext value
  simp [cleanSql]

theorem cleanSql_eq_self_iff {text : String} : cleanSql text = text ↔ parameters text = [] := by
  rw [parameters_eq_nil_iff, ← Sql.clean_eq_self_iff, ← toList_cleanSql, String.toList_inj]

/-- Cleaned text has the same directives as the text, in the same order and with their values
cleaned, and so has every look-up of one. What is read from it again is the same name and the same
type of rows exactly if these declare no parameter. -/
theorem metadataValue_cleanSql (text baseName : String) :
    (∀ key : String, '@' ∉ key.toList →
      metadataValue (cleanSql text) key = (metadataValue text key).map cleanSql ∧
      directiveValues key.toList (cleanSql text).toList =
        (directiveValues key.toList text.toList).map clean) ∧
    ((QueryMetadata.ofText baseName (QueryMetadata.ofText baseName text).cleanedSql).queryName =
        (QueryMetadata.ofText baseName text).queryName ↔
      ∀ name ∈ metadataValue text "name", parameters name = []) ∧
    ((QueryMetadata.ofText baseName (QueryMetadata.ofText baseName text).cleanedSql).resultType =
        (QueryMetadata.ofText baseName text).resultType ↔
      ∀ type ∈ metadataValue text "result", parameters type = []) := by
  refine ⟨fun key hkey => ⟨metadataValue_clean hkey text, ?_⟩, ?_, ?_⟩
  · rw [toList_cleanSql, directiveValues_clean hkey]
  · unfold QueryMetadata.ofText
    dsimp only
    rw [metadataValue_clean (by decide)]
    cases metadataValue text "name" <;> simp [cleanSql_eq_self_iff]
  · unfold QueryMetadata.ofText
    dsimp only
    rw [metadataValue_clean (by decide)]
    cases metadataValue text "result" <;> simp [cleanSql_eq_self_iff]

/-- A name that declares a parameter is read as another one from the cleaned text. -/
theorem metadataValue_cleanSql_chain : '@' ∉ "name".toList ∧
    metadataValue (cleanSql "--name: P@a:b:c") "name" = some "P@a:c" :=
  ⟨by decide, ((metadataValue_cleanSql "--name: P@a:b:c" "q").1 "name" (by decide)).1.trans
    (by decide +kernel)⟩

end TypedQuery.Query
