import TypedQuery.Proofs.Query.Parameter
import TypedQuery.Proofs.Sql.Placeholder
import TypedQuery.Proofs.Sql.Shape

/-! Placeholders mean what the references meant: with the values of the bind order, bound text reads
as the text with values in place of names. -/
namespace TypedQuery

open Text (isWord Stops)

theorem Text.isWord_of_isDigit {c : Char} (h : c.isDigit) : isWord c := Text.covers_of_isDigit _ h

theorem Dialect.isWord_mark (dialect : Dialect) : isWord dialect.mark = false := by
  cases dialect <;> decide

namespace Query

open Sql (Inert IsWord SameShape Run Token fillRuns reference_induction references runs substitute
  substituteCode tokens)

section Code

variable {params : List Parameter} {slots : List Nat} {dialect : Dialect} {code : List Char}

/-- Code with its placeholders. -/
def boundCode (params : List Parameter) (slots : List Nat) (dialect : Dialect)
    (code : List Char) : List Char :=
  (tokens code).flatMap (bindToken params slots dialect)

@[simp] theorem boundCode_nil : boundCode params slots dialect [] = [] := by simp [boundCode]

theorem boundCode_plain {c : Char} {rest : List Char} (h : c = '@' → Stops isWord rest) :
    boundCode params slots dialect (c :: rest) = c :: boundCode params slots dialect rest := by
  rw [boundCode, Sql.tokens_plain h]
  rfl

theorem boundCode_reference {name rest : List Char} (hn : IsWord name) (hs : Stops isWord rest) :
    boundCode params slots dialect ('@' :: (name ++ rest)) =
      bindToken params slots dialect (.reference name) ++ boundCode params slots dialect rest := by
  rw [boundCode, Sql.tokens_reference hn hs]
  rfl

theorem bindToken_of_undeclared {name : List Char} (hdecl : declared params name = none) :
    bindToken params slots dialect (.reference name) = '@' :: name := by
  simp [bindToken, Token.name?, hdecl, Token.text]

theorem bindToken_of_declared (dialect : Dialect) {name : List Char} {index : Nat}
    (hdecl : declared params name = some index) (hslot : index ∈ slots) :
    ∃ slot, slots[slot]? = some index ∧
      bindToken params slots dialect (.reference name) = dialect.placeholder slot := by
  obtain ⟨slot, hidx⟩ := Option.isSome_iff_exists.mp (List.isSome_idxOf?.mpr hslot)
  obtain ⟨hlt, hget, _⟩ := List.idxOf?_eq_some_iff.mp hidx
  refine ⟨slot, by rw [List.getElem?_eq_getElem hlt, hget], ?_⟩
  simp [bindToken, Token.name?, hdecl, hidx]

theorem bindToken_reference (params : List Parameter) (slots : List Nat) (dialect : Dialect)
    (name : List Char) :
    bindToken params slots dialect (.reference name) = '@' :: name ∨
      ∃ slot, bindToken params slots dialect (.reference name) = dialect.placeholder slot := by
  unfold bindToken
  split
  · exact .inr ⟨_, rfl⟩
  · exact .inl rfl

/-- No word goes on behind a placeholder, whether a placeholder is next or text that stayed. -/
theorem stops_boundCode (h : Stops isWord code) :
    Stops isWord (boundCode params slots dialect code) := by
  induction code using reference_induction with
  | nil => rw [boundCode_nil]; exact Text.stops_nil
  | plain c rest hc _ =>
    rw [boundCode_plain hc, Text.stops_cons]
    exact Text.stops_cons.mp h
  | reference name rest hn hs _ =>
    rw [boundCode_reference hn hs]
    intro c hc
    rcases bindToken_reference params slots dialect name with htoken | ⟨slot, htoken⟩
    · rw [htoken] at hc
      cases hc
      decide
    · rw [htoken, List.head?_append, Dialect.head?_placeholder] at hc
      cases hc
      exact dialect.isWord_mark

theorem inert_placeholder (slot : Nat) : Inert (dialect.placeholder slot) := by
  have hdigits : Inert (Nat.toDigits 10 (slot + 1)) := Sql.inert_of_isWord fun c hc =>
    Text.isWord_of_isDigit (Nat.isDigit_of_mem_toDigits (by decide) (by decide) hc)
  cases dialect with
  | mysql => exact Sql.inert_cons (by decide) Sql.inert_nil
  | postgres | sqlite => exact Sql.inert_cons (by decide) hdigits

theorem at_not_mem_placeholder (dialect : Dialect) (slot : Nat) : '@' ∉ dialect.placeholder slot := by
  have hdigits : '@' ∉ Nat.toDigits 10 (slot + 1) := fun hmem =>
    absurd (Nat.isDigit_of_mem_toDigits (by decide) (by decide) hmem) (by decide)
  cases dialect with
  | mysql => exact List.not_mem_cons_of_ne_of_not_mem (by decide) List.not_mem_nil
  | postgres | sqlite => exact List.not_mem_cons_of_ne_of_not_mem (by decide) hdigits

/-- Placeholders leave comments and quoted text where they are. -/
theorem sameShape_boundCode (code : List Char) :
    SameShape code (boundCode params slots dialect code) := by
  induction code using reference_induction with
  | nil => rw [boundCode_nil]; exact .nil
  | plain c rest hc ih => rw [boundCode_plain hc]; exact .cons c ih
  | reference name rest hn hs ih =>
    rw [boundCode_reference hn hs]
    rcases bindToken_reference params slots dialect name with htoken | ⟨slot, htoken⟩
    · rw [htoken]
      exact .cons '@' ((SameShape.refl name).append ih)
    · have hat : Inert ('@' :: name) := Sql.inert_cons (by decide) (Sql.inert_of_isWord hn.2)
      have hne : dialect.placeholder slot ≠ [] := by
        intro hnil
        have hhead := dialect.head?_placeholder slot
        rw [hnil] at hhead
        cases hhead
      rw [htoken]
      exact SameShape.inert (List.cons_ne_nil '@' name) hne hat (inert_placeholder slot) ih

/-- What the placeholders for these names and later ones take: a value each, or the values of all
slots. -/
def takes (params : List Parameter) (slots : List Nat) (dialect : Dialect)
    (names : List (List Char)) (later : List Nat) : List Nat :=
  if dialect.bindsPerOccurrence then names.filterMap (declared params) ++ later else slots

theorem takes_of_undeclared {name : List Char} {names : List (List Char)} {later : List Nat}
    (hdecl : declared params name = none) :
    takes params slots dialect (name :: names) later = takes params slots dialect names later := by
  rw [takes, List.filterMap_cons_none hdecl]
  rfl

theorem takes_of_declared {name : List Char} {names : List (List Char)} {later : List Nat}
    {index : Nat} (hdecl : declared params name = some index) :
    takes params slots dialect (name :: names) later =
      if dialect.bindsPerOccurrence then index :: takes params slots dialect names later
      else takes params slots dialect names later := by
  unfold takes
  rw [List.filterMap_cons_some hdecl]
  split <;> rfl

/-- Bound code reads as code with values, and leaves to later code what it does not take. -/
theorem fill_boundCode (v : Nat → List Char) (later : List Nat) (hfree : dialect.mark ∉ code)
    (hslots : ∀ name ∈ references code, ∀ index ∈ declared params name, index ∈ slots) :
    dialect.fill ((takes params slots dialect (references code) later).map v)
        (boundCode params slots dialect code) =
      some (substitute (fun name => (declared params name).map v) code,
        (takes params slots dialect [] later).map v) := by
  induction code using reference_induction with
  | nil =>
    rw [boundCode_nil, Sql.substitute_nil, Sql.references_nil]
    exact Dialect.fill_nil
  | plain c rest hc ih =>
    rw [Sql.references_plain hc] at hslots ⊢
    have hmark : dialect.mark ∉ [c] := by
      rw [List.mem_singleton]
      exact List.ne_of_not_mem_cons hfree
    have hrest := ih (List.not_mem_of_not_mem_cons hfree) hslots
    rw [boundCode_plain hc, Sql.substitute_plain hc, ← List.singleton_append,
      Dialect.fill_append_of_not_mem hmark, hrest]
    rfl
  | reference name rest hn hs ih =>
    rw [Sql.references_reference hn hs] at hslots ⊢
    rw [← List.cons_append, List.mem_append, not_or] at hfree
    obtain ⟨hname, hfree⟩ := hfree
    have hrest := ih hfree (fun n hn => hslots n (List.mem_cons_of_mem name hn))
    rw [boundCode_reference hn hs, Sql.substitute_reference hn hs]
    cases hdecl : declared params name with
    | none =>
      rw [bindToken_of_undeclared hdecl, takes_of_undeclared hdecl,
        Dialect.fill_append_of_not_mem hname, hrest]
      rfl
    | some index =>
      obtain ⟨slot, hslot, htoken⟩ := bindToken_of_declared dialect hdecl
        (hslots name List.mem_cons_self index hdecl)
      have hvalues : (takes params slots dialect (name :: references rest) later).map v =
          if dialect.bindsPerOccurrence then
            v index :: (takes params slots dialect (references rest) later).map v
          else (takes params slots dialect (references rest) later).map v := by
        rw [takes_of_declared hdecl]
        split <;> rfl
      have hown : dialect.bindsPerOccurrence = false →
          ((takes params slots dialect (references rest) later).map v)[slot]? = some (v index) := by
        intro hnumbered
        rw [takes, hnumbered, List.getElem?_map]
        exact congrArg (Option.map v) hslot
      have hdigits : Stops Char.isDigit (boundCode params slots dialect rest) :=
        (stops_boundCode hs).mono fun _ => Text.isWord_of_isDigit
      rw [htoken, Dialect.fill_placeholder hvalues hown hdigits, hrest]
      rfl

end Code

section Runs

variable {params : List Parameter} {slots : List Nat} {dialect : Dialect} {run : Run}
  {segments : List Run}

/-- What the placeholders of these runs take. -/
def demand (params : List Parameter) (slots : List Nat) (dialect : Dialect)
    (segments : List Run) : List Nat :=
  if dialect.bindsPerOccurrence then
    (segments.filter (·.code)).flatMap fun run => (references run.text).filterMap (declared params)
  else slots

theorem demand_cons_code (hcode : run.code = true) :
    demand params slots dialect (run :: segments) =
      takes params slots dialect (references run.text) (demand params slots dialect segments) := by
  unfold demand takes
  rw [List.filter_cons_of_pos hcode, List.flatMap_cons]
  split <;> rfl

theorem demand_cons_kept (hcode : run.code = false) :
    demand params slots dialect (run :: segments) = demand params slots dialect segments := by
  have hnot : ¬ run.code = true := (Bool.not_eq_true _).mpr hcode
  rw [demand, List.filter_cons_of_neg hnot]
  rfl

theorem takes_nil_demand :
    takes params slots dialect [] (demand params slots dialect segments) =
      demand params slots dialect segments := by
  unfold demand takes
  split <;> rfl

/-- A run with its placeholders. -/
def boundRun (params : List Parameter) (slots : List Nat) (dialect : Dialect) (run : Run) : Run :=
  { run with text := bindRun params slots dialect run }

theorem boundRun_code (hcode : run.code = true) :
    boundRun params slots dialect run = ⟨boundCode params slots dialect run.text, true⟩ := by
  rw [boundRun, bindRun, if_pos hcode, hcode]
  rfl

theorem boundRun_kept (hcode : run.code = false) : boundRun params slots dialect run = run := by
  have hnot : ¬ run.code = true := (Bool.not_eq_true _).mpr hcode
  rw [boundRun, bindRun, if_neg hnot]

theorem fillRuns_boundRun (v : Nat → List Char)
    (hfree : ∀ run ∈ segments, run.code → dialect.mark ∉ run.text)
    (hslots : ∀ run ∈ segments, run.code → ∀ name ∈ references run.text,
      ∀ index ∈ declared params name, index ∈ slots) :
    fillRuns dialect.fill ((demand params slots dialect segments).map v)
        (segments.map (boundRun params slots dialect)) =
      some (substituteCode (fun name => (declared params name).map v) segments) := by
  induction segments with
  | nil => rfl
  | cons run segments ih =>
    have hrest := ih (fun r hr => hfree r (List.mem_cons_of_mem run hr))
      (fun r hr => hslots r (List.mem_cons_of_mem run hr))
    rw [List.map_cons, substituteCode, List.flatMap_cons]
    cases hcode : run.code with
    | true =>
      have hrun := fill_boundCode v (demand params slots dialect segments)
        (hfree run List.mem_cons_self hcode) (hslots run List.mem_cons_self hcode)
      rw [boundRun_code hcode, fillRuns, if_pos rfl, demand_cons_code hcode, hrun,
        takes_nil_demand, if_pos rfl]
      simp only [Option.bind_eq_bind, Option.bind_some, hrest]
      rfl
    | false =>
      have hnot : ¬ run.code = true := (Bool.not_eq_true _).mpr hcode
      rw [boundRun_kept hcode, fillRuns, if_neg hnot, demand_cons_kept hcode, hrest,
        if_neg Bool.false_ne_true]
      rfl

end Runs

theorem runs_boundText (sql : List Char) (params : List Parameter) (dialect : Dialect) :
    runs (boundText sql params dialect) =
      (runs sql).map (boundRun params (used params sql) dialect) := by
  apply Sql.runs_flatMap
  intro run _
  unfold bindRun
  split
  · exact sameShape_boundCode run.text
  · exact SameShape.refl run.text

/-- Positional binding means the same as named binding. Text without a placeholder of its own reads,
once it is bound and the bind order has values, as if each name had been given its value. Every
placeholder finds one, and comments and quoted text are not touched. -/
theorem fillRuns_bindPlaceholders (sql : String) (params : List Parameter) (dialect : Dialect)
    (hfree : ∀ run ∈ runs sql.toList, run.code → dialect.mark ∉ run.text)
    (v : Nat → List Char) :
    fillRuns dialect.fill ((bindPlaceholders sql params dialect).2.map v)
        (runs (bindPlaceholders sql params dialect).1.toList) =
      some (substituteCode (fun name => (declared params name).map v) (runs sql.toList)) ∧
    (runs (bindPlaceholders sql params dialect).1.toList).filter (!·.code) =
      (runs sql.toList).filter (!·.code) := by
  have hruns : runs (bindPlaceholders sql params dialect).1.toList =
      (runs sql.toList).map (boundRun params (used params sql.toList) dialect) := by
    rw [← runs_boundText]
    exact congrArg runs String.toList_ofList
  constructor
  · have hslots : ∀ run ∈ runs sql.toList, run.code → ∀ name ∈ references run.text,
        ∀ index ∈ declared params name, index ∈ used params sql.toList :=
      fun _ hrun hcode _ hname _ => mem_used_of_mem_references hrun hcode hname
    have horder : (bindPlaceholders sql params dialect).2 =
        demand params (used params sql.toList) dialect (runs sql.toList) := rfl
    rw [hruns, horder]
    exact fillRuns_boundRun v hfree hslots
  · rw [hruns, List.filter_map]
    change ((runs sql.toList).filter (!·.code)).map _ = _
    have hsame : ∀ run ∈ (runs sql.toList).filter (!·.code),
        boundRun params (used params sql.toList) dialect run = run := by
      intro run hrun
      obtain ⟨_, hcode⟩ := List.mem_filter.mp hrun
      exact boundRun_kept (by simpa using hcode)
    rw [List.map_congr_left hsame, List.map_id']

/-- Adjacent references, a name that begins another one, a name declared twice, an undeclared
reference right before a declared one, and references outside code. -/
theorem fillRuns_bindPlaceholders_adjacent :
    (∀ run ∈ runs "@A@B,@AB'$1@A'--@A\n@x@A@7".toList,
      run.code → Dialect.postgres.mark ∉ run.text) ∧
    fillRuns Dialect.postgres.fill
        ((bindPlaceholders "@A@B,@AB'$1@A'--@A\n@x@A@7"
          [⟨"AC", "text"⟩, ⟨"7", "int4"⟩, ⟨"B", "text"⟩, ⟨"A", "uuid"⟩, ⟨"A", "int8"⟩]
          .postgres).2.map (Nat.toDigits 10))
        (runs (bindPlaceholders "@A@B,@AB'$1@A'--@A\n@x@A@7"
          [⟨"AC", "text"⟩, ⟨"7", "int4"⟩, ⟨"B", "text"⟩, ⟨"A", "uuid"⟩, ⟨"A", "int8"⟩]
          .postgres).1.toList) =
      some "32,@AB'$1@A'--@A\n@x31".toList :=
  ⟨by decide +kernel,
    (fillRuns_bindPlaceholders "@A@B,@AB'$1@A'--@A\n@x@A@7" _ .postgres (by decide +kernel)
      (Nat.toDigits 10)).1.trans (by decide +kernel)⟩

end Query
end TypedQuery
