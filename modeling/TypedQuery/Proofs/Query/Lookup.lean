import TypedQuery.Proofs.Query.Directive
import Mathlib.Algebra.Group.Nat.Even
import Mathlib.Tactic.IntervalCases

/-! The grammar of directives, and which of them a look-up finds first. -/
namespace TypedQuery.Query

open Text (Stops isIndent lines trim)

/-- The line has a directive of that key behind `front`, and `rest` follows its colon. Only the
beginning of a line can do without the two dashes. -/
inductive HasDirective (key : List Char) : List Char → List Char → List Char → Prop where
  | start {indent dashes gap : List Char} (rest : List Char) (hindent : ∀ c ∈ indent, isIndent c)
      (hdashes : dashes = [] ∨ dashes = ['-', '-']) (hgap : ∀ c ∈ gap, isIndent c) :
      HasDirective key (indent ++ (dashes ++ (gap ++ (key ++ ':' :: rest)))) [] rest
  | comment (front : List Char) {gap : List Char} (rest : List Char)
      (hgap : ∀ c ∈ gap, isIndent c) :
      HasDirective key (front ++ '-' :: '-' :: (gap ++ (key ++ ':' :: rest))) front rest

/-- The number of dashes at the end of a text. -/
def trailingDashes (front : List Char) : Nat := (front.reverse.takeWhile (· = '-')).length

/-- The dashes at the end of a text are pairs. -/
def DashesPaired (front : List Char) : Prop := Even (trailingDashes front)

/-- A directive behind `front` gives a value. `Admits` says which texts may stand before one. -/
def HasValue (Admits : List Char → Prop) (key line front value : List Char) : Prop :=
  Admits front ∧ ∃ rest, HasDirective key line front rest ∧ trim rest = value ∧ value ≠ []

/-- The leftmost value on a line. -/
def IsFirstOnLine (Admits : List Char → Prop) (key line value : List Char) : Prop :=
  ∃ front, HasValue Admits key line front value ∧
    ∀ shorter other, shorter.length < front.length → ¬ HasValue Admits key line shorter other

/-- The leftmost value on the first line that has one. -/
def IsFirstValue (Admits : List Char → Prop) (key text value : List Char) : Prop :=
  ∃ before line after, lines text = before ++ line :: after ∧
    (∀ earlier ∈ before, ∀ front other, ¬ HasValue Admits key earlier front other) ∧
    IsFirstOnLine Admits key line value

section Grammar

variable {key line text front rest : List Char}

theorem HasDirective.isPrefix (h : HasDirective key line front rest) : front <+: line := by
  cases h with
  | start => exact List.nil_prefix
  | comment => exact List.prefix_append _ _

theorem directiveBody_append_of_isIndent {indent : List Char} (h : ∀ c ∈ indent, isIndent c) :
    directiveBody (indent ++ text) = directiveBody text := by
  rw [directiveBody, directiveBody, List.dropWhile_append_of_pos h]

theorem directiveBody_dashes (text : List Char) :
    directiveBody ('-' :: '-' :: text) = text.dropWhile isIndent := rfl

theorem directiveBody_of_stops (h : Stops (fun c => isIndent c || c = '-') text) :
    directiveBody text = text := by
  cases text with
  | nil => rfl
  | cons c text =>
    obtain ⟨hindent, hdash⟩ : isIndent c = false ∧ c ≠ '-' := by simpa using h
    have hskip : skipDashes (c :: text) = c :: text := by
      unfold skipDashes
      split
      · next heq => exact absurd (List.cons.inj heq).1 hdash
      · rfl
    have hdrop : (c :: text).dropWhile isIndent = c :: text :=
      List.dropWhile_cons_of_neg ((Bool.not_eq_true _).mpr hindent)
    rw [directiveBody, hdrop, hskip, hdrop]

theorem exists_directiveBody (text : List Char) :
    ∃ indent dashes gap, (∀ c ∈ indent, isIndent c) ∧ (dashes = [] ∨ dashes = ['-', '-']) ∧
      (∀ c ∈ gap, isIndent c) ∧ text = indent ++ (dashes ++ (gap ++ directiveBody text)) := by
  obtain ⟨indent, after, rfl, hindent, hafter⟩ := Text.exists_span isIndent text
  obtain ⟨gap, body, hgap, hgapIndent, hbody⟩ := Text.exists_span isIndent (skipDashes after)
  have hdirective : directiveBody (indent ++ after) = body := by
    rw [directiveBody, Text.dropWhile_append_of_stops hindent hafter, hgap,
      Text.dropWhile_append_of_stops hgapIndent hbody]
  rw [hdirective]
  unfold skipDashes at hgap
  split at hgap
  · exact ⟨indent, ['-', '-'], gap, hindent, .inr rfl, hgapIndent, by rw [hgap]; rfl⟩
  · exact ⟨indent, [], gap, hindent, .inl rfl, hgapIndent, by rw [hgap]; rfl⟩

/-- A key that begins with a letter is told from what may stand in front of it. -/
theorem hasDirective_iff (hkey : Stops (fun c => isIndent c || c = '-') key) :
    HasDirective key line front rest ↔
      ∃ text, line = front ++ text ∧ (front = [] ∨ ∃ after, text = '-' :: '-' :: after) ∧
        directiveBody text = key ++ ':' :: rest := by
  have hstop : Stops (fun c => isIndent c || c = '-') (key ++ ':' :: rest) :=
    Text.stops_append hkey fun _ => Text.stops_cons.mpr (by decide)
  have hbody : directiveBody (key ++ ':' :: rest) = key ++ ':' :: rest :=
    directiveBody_of_stops hstop
  have hcomment : ∀ {gap : List Char}, (∀ c ∈ gap, isIndent c) →
      directiveBody ('-' :: '-' :: (gap ++ (key ++ ':' :: rest))) = key ++ ':' :: rest := by
    intro gap hgap
    rw [directiveBody_dashes]
    exact Text.dropWhile_append_of_stops hgap fun c hc =>
      (Bool.or_eq_false_iff.mp (hstop c hc)).1
  constructor
  · rintro (⟨_, hindent, rfl | rfl, hgap⟩ | ⟨_, _, hgap⟩)
    · refine ⟨_, (List.nil_append _).symm, .inl rfl, ?_⟩
      rw [directiveBody_append_of_isIndent hindent, List.nil_append,
        directiveBody_append_of_isIndent hgap, hbody]
    · refine ⟨_, (List.nil_append _).symm, .inl rfl, ?_⟩
      rw [directiveBody_append_of_isIndent hindent]
      exact hcomment hgap
    · exact ⟨_, rfl, .inr ⟨_, rfl⟩, hcomment hgap⟩
  · rintro ⟨text, rfl, rfl | ⟨after, rfl⟩, htext⟩
    · obtain ⟨indent, dashes, gap, hindent, hdashes, hgap, heq⟩ := exists_directiveBody text
      rw [List.nil_append, heq, htext]
      exact .start rest hindent hdashes hgap
    · obtain ⟨gap, body, rfl, hgap, hbody⟩ := Text.exists_span isIndent after
      rw [directiveBody_dashes, Text.dropWhile_append_of_stops hgap hbody] at htext
      rw [htext]
      exact .comment front rest hgap

end Grammar

section Comments

variable {line text front : List Char}

theorem trailingDashes_concat_dash : trailingDashes (front ++ ['-']) = trailingDashes front + 1 := by
  rw [trailingDashes, List.reverse_concat, List.takeWhile_cons_of_pos (by decide)]
  rfl

theorem trailingDashes_concat_of_ne {c : Char} (h : c ≠ '-') :
    trailingDashes (front ++ [c]) = 0 := by
  rw [trailingDashes, List.reverse_concat, List.takeWhile_cons_of_neg (by simpa using h)]
  rfl

/-- Two dashes are a pair if an even number of dashes stands before them: the pairs of a stretch of
dashes are told from its beginning. What is read already is in `front`. -/
theorem mem_comments_iff_of_front (front : List Char) (h : DashesPaired front ∨ line.head? ≠ some '-') :
    text ∈ comments line ↔ ∃ between, line = between ++ text ∧
      (∃ after, text = '-' :: '-' :: after) ∧ DashesPaired (front ++ between) := by
  fun_induction comments line generalizing front with
  | case1 rest ih =>
    have heven : DashesPaired front := h.resolve_right (by simp)
    have hodd : ¬ DashesPaired (front ++ ['-']) := by
      rw [DashesPaired, trailingDashes_concat_dash, Nat.even_add_one, not_not]
      exact heven
    have hpair : DashesPaired (front ++ ['-'] ++ ['-']) := by
      rw [DashesPaired, trailingDashes_concat_dash, Nat.even_add_one]
      exact hodd
    rw [List.mem_cons, ih _ (.inl hpair)]
    constructor
    · rintro (rfl | ⟨between, rfl, hafter, hbetween⟩)
      · exact ⟨[], rfl, ⟨rest, rfl⟩, by rwa [List.append_nil]⟩
      · exact ⟨'-' :: '-' :: between, rfl, hafter, by simpa using hbetween⟩
    · rintro ⟨between, hline, hafter, hbetween⟩
      rcases between with _ | ⟨c, _ | ⟨d, between⟩⟩
      · exact .inl hline.symm
      · obtain ⟨rfl, _⟩ := List.cons.inj hline
        exact absurd hbetween hodd
      · obtain ⟨rfl, htail⟩ := List.cons.inj hline
        obtain ⟨rfl, hrest⟩ := List.cons.inj htail
        exact .inr ⟨between, hrest, hafter, by simpa using hbetween⟩
  | case2 c rest hdashes ih =>
    have hnext : DashesPaired (front ++ [c]) ∨ rest.head? ≠ some '-' := by
      by_cases hc : c = '-'
      · right
        intro hhead
        obtain ⟨after, rfl⟩ := List.head?_eq_some_iff.mp hhead
        exact hdashes after hc rfl
      · left
        rw [DashesPaired, trailingDashes_concat_of_ne hc]
        exact Even.zero
    rw [ih _ hnext]
    constructor
    · rintro ⟨between, rfl, hafter, hbetween⟩
      exact ⟨c :: between, rfl, hafter, by simpa using hbetween⟩
    · rintro ⟨between, hline, ⟨after, rfl⟩, hbetween⟩
      cases between with
      | nil =>
        obtain ⟨hc, hrest⟩ := List.cons.inj hline
        exact absurd hrest (hdashes after hc)
      | cons d between =>
        obtain ⟨rfl, hrest⟩ := List.cons.inj hline
        exact ⟨between, hrest, ⟨after, rfl⟩, by simpa using hbetween⟩
  | case3 =>
    refine iff_of_false List.not_mem_nil ?_
    rintro ⟨between, hline, ⟨after, rfl⟩, _⟩
    simp at hline

theorem mem_comments_iff : text ∈ comments line ↔ ∃ front, line = front ++ text ∧
    (∃ after, text = '-' :: '-' :: after) ∧ DashesPaired front :=
  mem_comments_iff_of_front [] (.inl Even.zero)

theorem comments_pairwise (line : List Char) :
    (comments line).Pairwise fun a b => b <:+ a := by
  fun_induction comments line with
  | case1 rest ih =>
    refine .cons ?_ ih
    intro comment hmem
    exact (suffix_of_mem_comments hmem).trans ⟨['-', '-'], rfl⟩
  | case2 c rest _ ih => exact ih
  | case3 => exact .nil

end Comments

/-- Of texts that end each other the longest one with a result comes first. -/
theorem findSome?_eq_some_iff_of_suffix {α : Type} {f : List Char → Option α}
    {texts : List (List Char)} {a : α} (h : texts.Pairwise fun a b => b <:+ a) :
    texts.findSome? f = some a ↔ ∃ text ∈ texts, f text = some a ∧
      ∀ longer ∈ texts, text.length < longer.length → f longer = none := by
  induction texts with
  | nil => simp
  | cons first texts ih =>
    obtain ⟨hfirst, htexts⟩ := List.pairwise_cons.mp h
    rw [List.findSome?_cons]
    cases hf : f first with
    | some b =>
      constructor
      · intro hb
        refine ⟨first, List.mem_cons_self, hf.trans hb, ?_⟩
        intro longer hlonger hlt
        rcases List.mem_cons.mp hlonger with rfl | hlonger
        · exact absurd hlt (Nat.lt_irrefl _)
        · exact absurd hlt (Nat.not_lt.mpr (hfirst longer hlonger).length_le)
      · rintro ⟨text, htext, hvalue, hlonger⟩
        rcases List.mem_cons.mp htext with rfl | htext
        · exact hf.symm.trans hvalue
        have hle : first.length ≤ text.length := by
          rw [← Nat.not_lt]
          intro hlt
          rw [hlonger first List.mem_cons_self hlt] at hf
          cases hf
        rw [(hfirst text htext).eq_of_length_le hle, hf] at hvalue
        exact hvalue
    | none =>
      rw [ih htexts]
      constructor
      · rintro ⟨text, htext, hvalue, hlonger⟩
        refine ⟨text, List.mem_cons_of_mem first htext, hvalue, ?_⟩
        exact List.forall_mem_cons.mpr ⟨fun _ => hf, hlonger⟩
      · rintro ⟨text, htext, hvalue, hlonger⟩
        have hne : text ≠ first := by
          rintro rfl
          rw [hf] at hvalue
          cases hvalue
        exact ⟨text, (List.mem_cons.mp htext).resolve_left hne, hvalue,
          (List.forall_mem_cons.mp hlonger).2⟩

section Value

variable {key line text front value : List Char}

theorem value?_eq_some_iff : value? key text = some value ↔
    ∃ rest, directiveBody text = key ++ ':' :: rest ∧ trim rest = value ∧ value ≠ [] := by
  rw [value?, Option.filter_eq_some_iff, Option.map_eq_some_iff, decide_eq_true_eq]
  constructor
  · rintro ⟨⟨_, hdirective, hvalue⟩, hne⟩
    obtain ⟨rest, hbody, rfl⟩ := directive?_eq_some_iff.mp hdirective
    exact ⟨rest, hbody, by rwa [Text.trim_dropWhile_isIndent] at hvalue, hne⟩
  · rintro ⟨rest, hbody, hvalue, hne⟩
    refine ⟨⟨rest.dropWhile isIndent, directive?_eq_some_iff.mpr ⟨rest, hbody, rfl⟩, ?_⟩, hne⟩
    rwa [Text.trim_dropWhile_isIndent]

/-- The candidates of a look-up: the line, and the line from each pair of dashes on. -/
theorem hasValue_dashesPaired_iff (hkey : Stops (fun c => isIndent c || c = '-') key) :
    HasValue DashesPaired key line front value ↔
      ∃ text ∈ line :: comments line, line = front ++ text ∧ value? key text = some value := by
  simp only [HasValue, hasDirective_iff hkey, value?_eq_some_iff, List.mem_cons, mem_comments_iff]
  constructor
  · rintro ⟨hpaired, rest, ⟨text, rfl, hplace, hbody⟩, hvalue⟩
    refine ⟨text, ?_, rfl, rest, hbody, hvalue⟩
    rcases hplace with rfl | hafter
    · exact .inl rfl
    · exact .inr ⟨front, rfl, hafter, hpaired⟩
  · rintro ⟨text, hplace, hline, rest, hbody, hvalue⟩
    rcases hplace with rfl | ⟨other, hother, hafter, hpaired⟩
    · obtain rfl : front = [] := by simpa using hline
      exact ⟨Even.zero, rest, ⟨text, rfl, .inl rfl, hbody⟩, hvalue⟩
    · obtain rfl : other = front := List.append_cancel_right (hother.symm.trans hline)
      exact ⟨hpaired, rest, ⟨text, hline, .inr hafter, hbody⟩, hvalue⟩

theorem lineValue?_eq_some_iff (hkey : Stops (fun c => isIndent c || c = '-') key) :
    lineValue? key line = some value ↔ IsFirstOnLine DashesPaired key line value := by
  have hcandidates : (line :: comments line).Pairwise fun a b => b <:+ a :=
    .cons (fun _ => suffix_of_mem_comments) (comments_pairwise line)
  rw [lineValue?, findSome?_eq_some_iff_of_suffix hcandidates]
  constructor
  · rintro ⟨text, htext, hvalue, hlonger⟩
    obtain ⟨front, hline⟩ := suffix_of_mem_candidates htext
    refine ⟨front, (hasValue_dashesPaired_iff hkey).mpr ⟨text, htext, hline.symm, hvalue⟩, ?_⟩
    intro shorter other hlt hother
    obtain ⟨longer, hmem, hline', hvalue'⟩ := (hasValue_dashesPaired_iff hkey).mp hother
    have hlength := congrArg List.length (hline.trans hline')
    rw [List.length_append, List.length_append] at hlength
    rw [hlonger longer hmem (by omega)] at hvalue'
    cases hvalue'
  · rintro ⟨front, hfirst, hshorter⟩
    obtain ⟨text, htext, hline, hvalue⟩ := (hasValue_dashesPaired_iff hkey).mp hfirst
    refine ⟨text, htext, hvalue, ?_⟩
    intro longer hmem hlt
    obtain ⟨shorter, hline'⟩ := suffix_of_mem_candidates hmem
    have hlength := congrArg List.length (hline'.trans hline)
    rw [List.length_append, List.length_append] at hlength
    rw [Option.eq_none_iff_forall_ne_some]
    intro other hother
    exact hshorter shorter other (by omega)
      ((hasValue_dashesPaired_iff hkey).mpr ⟨longer, hmem, hline'.symm, hother⟩)

theorem lineValue?_eq_none_iff (hkey : Stops (fun c => isIndent c || c = '-') key) :
    lineValue? key line = none ↔ ∀ front value, ¬ HasValue DashesPaired key line front value := by
  rw [lineValue?, List.findSome?_eq_none_iff]
  constructor
  · intro hnone front value hvalue
    obtain ⟨text, htext, _, hsome⟩ := (hasValue_dashesPaired_iff hkey).mp hvalue
    rw [hnone text htext] at hsome
    cases hsome
  · intro hnone text htext
    obtain ⟨front, hline⟩ := suffix_of_mem_candidates htext
    rw [Option.eq_none_iff_forall_ne_some]
    intro value hvalue
    exact hnone front value
      ((hasValue_dashesPaired_iff hkey).mpr ⟨text, htext, hline.symm, hvalue⟩)

end Value

theorem metadataValue_eq_some_iff {text key value : String} :
    metadataValue text key = some value ↔
      textValue? key.toList text.toList = some value.toList := by
  rw [metadataValue, Option.map_eq_some_iff]
  constructor
  · rintro ⟨found, hfound, rfl⟩
    rw [hfound, String.toList_ofList]
  · intro h
    exact ⟨value.toList, h, String.ofList_toList⟩

/-- A look-up gives the first value of a key, and nothing exactly if there is none, where the dashes
of a line are read in pairs: two dashes with an odd number of dashes right in front of them begin no
directive. The key begins with a letter, or at least with no space, tab or dash. -/
theorem metadataValue_eq_iff (text key : String)
    (hkey : Stops (fun c => isIndent c || c = '-') key.toList) :
    (∀ value, metadataValue text key = some value ↔
      IsFirstValue DashesPaired key.toList text.toList value.toList) ∧
    (metadataValue text key = none ↔
      ∀ line ∈ lines text.toList, ∀ front value,
        ¬ HasValue DashesPaired key.toList line front value) := by
  constructor
  · intro value
    rw [metadataValue_eq_some_iff, textValue?, List.findSome?_eq_some_iff]
    simp only [lineValue?_eq_none_iff hkey, lineValue?_eq_some_iff hkey]
    constructor
    · rintro ⟨before, line, after, hlines, hline, hbefore⟩
      exact ⟨before, line, after, hlines, hbefore, hline⟩
    · rintro ⟨before, line, after, hlines, hbefore, hline⟩
      exact ⟨before, line, after, hlines, hline, hbefore⟩
  · rw [metadataValue, Option.map_eq_none_iff, textValue?, List.findSome?_eq_none_iff]
    simp only [lineValue?_eq_none_iff hkey]

/-- An empty value, a third dash in front of two, and two pairs of dashes. -/
theorem metadataValue_fourDashes :
    Stops (fun c => isIndent c || c = '-') "name".toList ∧
      IsFirstValue DashesPaired "name".toList
        "--name: \nx --- name: A\ny---- name:\tB -- name: C".toList
        "B -- name: C".toList :=
  have hkey : Stops (fun c => isIndent c || c = '-') "name".toList :=
    Text.stops_cons.mpr (by decide)
  ⟨hkey, ((metadataValue_eq_iff "--name: \nx --- name: A\ny---- name:\tB -- name: C" "name"
    hkey).1 "B -- name: C").mp (by decide +kernel)⟩

/-- The grammar has a directive at the last two of three dashes, which no look-up finds. -/
theorem not_isFirstValue_threeDashes :
    ¬ ∀ value, metadataValue "a --- name: X" "name" = some value ↔
      IsFirstValue (fun _ => True) "name".toList "a --- name: X".toList value.toList := by
  intro h
  have hkey : Stops (fun c => isIndent c || c = '-') "name".toList :=
    Text.stops_cons.mpr (by decide)
  have hnone : lineValue? "name".toList "a --- name: X".toList = none := by decide +kernel
  have hpaired : ∀ shorter, shorter <+: "a --- name: X".toList → shorter.length < 3 →
      DashesPaired shorter := by
    intro shorter hfront hlt
    rw [List.prefix_iff_eq_take.mp hfront]
    generalize shorter.length = n at hlt
    interval_cases n <;> exact Even.zero
  have hfirst : IsFirstOnLine (fun _ => True) "name".toList "a --- name: X".toList ['X'] := by
    have hdirective : HasDirective "name".toList "a --- name: X".toList "a -".toList " X".toList :=
      .comment "a -".toList " X".toList (List.forall_mem_singleton.mpr (by decide : isIndent ' '))
    refine ⟨_, ⟨trivial, _, hdirective, by decide +kernel, List.cons_ne_nil _ _⟩, ?_⟩
    rintro shorter other hlt ⟨-, rest, hdirective, hvalue⟩
    exact (lineValue?_eq_none_iff hkey).mp hnone shorter other
      ⟨hpaired shorter hdirective.isPrefix hlt, rest, hdirective, hvalue⟩
  have hlines : lines "a --- name: X".toList = ["a --- name: X".toList] := by decide +kernel
  have hfound := (h "X").mpr ⟨[], _, [], hlines, by simp, hfirst⟩
  exact absurd hfound (by decide +kernel)

end TypedQuery.Query
