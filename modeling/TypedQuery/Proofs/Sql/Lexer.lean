import TypedQuery.Proofs.Sql.Automaton
import TypedQuery.Proofs.Sql.Scan

/-! The runs of a text are what the automaton and the cursor find in it. -/
namespace TypedQuery.Sql

open Text (bytes slice? IsBoundary)

/-- The cursor has found the runs of `front`, and it has passed `code`, in which nothing opens. It
may still be inside the last character of `code`. -/
structure Position (text : List Char) (cursor : Cursor) (front code rest : List Char) : Prop where
  text_eq : text = front ++ (code ++ rest)
  start_eq : cursor.start = (bytes front).length
  runs_eq : cursor.found ++ runs (code ++ rest) = runs text
  bare : Bare code rest
  offset_le : cursor.offset ≤ (bytes (front ++ code)).length
  inside : ∀ byte ∈ (bytes (front ++ code)).drop cursor.offset, 128 ≤ byte

/-- A step over a comment or quoted text looks and cuts at offsets between characters only. -/
def CutsBetween (text : List Char) (cursor next : Cursor) : Prop :=
  ∀ opening, opening? (bytes text) cursor.offset = some opening →
    IsBoundary text cursor.offset ∧ IsBoundary text (cursor.offset + opening.skipped) ∧
      IsBoundary text next.offset

variable {text front code rest run after : List Char} {c : Char} {cursor next : Cursor}
  {offset : Nat}

theorem bare_concat (h : Bare code (c :: rest)) (hnone : nonCode? (c :: rest) = none) :
    Bare (code ++ [c]) rest := by
  induction code with
  | nil => exact ⟨hnone, trivial⟩
  | cons d code ih =>
    obtain ⟨hd, hbare⟩ := h
    rw [List.append_cons] at hd
    exact ⟨hd, ih hbare⟩

/-- Code that was passed is one run, or none if it is empty. -/
theorem exists_codeBetween (front : List Char) (hbare : Bare code rest)
    (hlast : ∀ run ∈ (runs rest).head?, run.code = false) :
    ∃ between, codeBetween? (front ++ (code ++ rest)) (bytes front).length
        (bytes (front ++ code)).length = some between ∧
      runs (code ++ rest) = between ++ runs rest := by
  by_cases hne : code = []
  · refine ⟨[], ?_, ?_⟩
    · rw [hne, codeBetween?, List.append_nil, if_neg (Nat.lt_irrefl _)]
    · rw [hne]
      rfl
  · refine ⟨[⟨code, true⟩], ?_, runs_append_of_bare hne hbare rfl hlast⟩
    have hpos : 0 < (bytes code).length :=
      List.length_pos_iff.mpr (mt Text.bytes_eq_nil_iff.mp hne)
    have hslice : slice? (front ++ (code ++ rest)) (bytes front).length
        (bytes (front ++ code)).length = some code :=
      Text.slice?_eq_some_iff.mpr ⟨front, rest, rfl, rfl, rfl⟩
    rw [codeBetween?, if_pos, hslice, Option.map_some]
    rw [Text.bytes_append, List.length_append]
    omega

/-- A byte of a longer character opens nothing. -/
theorem opening?_inside (h : ∃ byte, (bytes text)[offset]? = some byte ∧ 128 ≤ byte) :
    opening? (bytes text) offset = none := by
  obtain ⟨byte, hbyte, hle⟩ := h
  have hne : ∀ b : UInt8, b < 128 → byte ≠ b := by
    rintro b hlt rfl
    exact absurd hlt (UInt8.not_lt.mpr hle)
  rw [opening?, hbyte, Option.bind_some, if_neg (fun h => hne _ (by decide) h.1),
    if_neg (fun h => hne _ (by decide) h.1), if_neg]
  rintro (h | h | h)
  · exact hne _ (by decide) h
  · exact hne _ (by decide) h
  · exact hne _ (by decide) h

namespace Position

theorem start (text : List Char) : Position text ⟨0, 0, []⟩ [] [] text where
  text_eq := rfl
  start_eq := rfl
  runs_eq := rfl
  bare := trivial
  offset_le := Nat.le_refl _
  inside := by simp

theorem of_inside (h : Position text cursor front code rest)
    (hlt : cursor.offset < (bytes (front ++ code)).length) :
    opening? (bytes text) cursor.offset = none ∧
      Position text { cursor with offset := cursor.offset + 1 } front code rest := by
  constructor
  · have hdrop := List.drop_eq_getElem_cons hlt
    refine opening?_inside ⟨_, ?_, h.inside _ (hdrop ▸ List.mem_cons_self)⟩
    rw [h.text_eq, ← List.append_assoc, Text.bytes_append, List.getElem?_append_left hlt,
      List.getElem?_eq_getElem hlt]
  · refine { h with offset_le := hlt, inside := fun byte hbyte => h.inside byte ?_ }
    exact List.drop_subset_drop_left _ (Nat.le_succ _) hbyte

theorem of_code (h : Position text cursor front code (c :: rest))
    (hoffset : cursor.offset = (bytes (front ++ code)).length)
    (hnone : nonCode? (c :: rest) = none) :
    opening? (bytes text) cursor.offset = none ∧
      Position text { cursor with offset := cursor.offset + 1 } front (code ++ [c]) rest := by
  have hbytes : bytes (front ++ (code ++ [c])) =
      bytes (front ++ code) ++ String.utf8EncodeChar c := by
    rw [← List.append_assoc, Text.bytes_append, Text.bytes_cons, Text.bytes_nil, List.append_nil]
  constructor
  · rw [h.text_eq, ← List.append_assoc, Text.bytes_append, hoffset, opening?_append]
    exact opening?_eq_none (nonCode?_eq_none_iff.mp hnone)
  · constructor
    case text_eq => rw [← List.append_cons, h.text_eq]
    case start_eq => exact h.start_eq
    case runs_eq => rw [← List.append_cons]; exact h.runs_eq
    case bare => exact bare_concat h.bare hnone
    case offset_le =>
      have hpos := c.utf8Size_pos
      rw [hbytes, List.length_append, String.length_utf8EncodeChar, hoffset]
      exact Nat.add_le_add_left hpos _
    case inside =>
      intro byte hbyte
      rw [hbytes, hoffset, List.drop_length_add_append, List.drop_one] at hbyte
      exact Text.le_of_mem_tail_utf8EncodeChar hbyte

/-- The step over a comment or quoted text. -/
theorem of_nonCode (h : Position text cursor front code (run ++ after))
    (hoffset : cursor.offset = (bytes (front ++ code)).length)
    (hsome : nonCode? (run ++ after) = some (run, after)) :
    ∃ next, step? text cursor = some next ∧ CutsBetween text cursor next ∧
      Position text next (front ++ code ++ run) [] after := by
  obtain ⟨opening, lead, body, hbody, hopening, hskipped, hreach⟩ := exists_opening hsome
  have htext : text = front ++ code ++ (lead ++ body) := by
    rw [← hbody, List.append_assoc, h.text_eq]
  have hopens : opening? (bytes text) cursor.offset = some opening := by
    rw [htext, Text.bytes_append, hoffset, opening?_append, ← hbody, hopening]
  have hstop : stop? text cursor.offset opening =
      some (bytes (front ++ code ++ run)).length := by
    rw [htext, hoffset, stop?_append hskipped, Text.bytes_append _ lead, List.length_append,
      Nat.add_assoc, hreach, Text.bytes_append _ run, List.length_append]
  have hruns : runs (run ++ after) = ⟨run, false⟩ :: runs after := runs_of_nonCode? hsome
  obtain ⟨between, hbetween, hcode⟩ :=
    exists_codeBetween front h.bare (by rw [hruns]; simp)
  have hrun : slice? text cursor.offset (bytes (front ++ code ++ run)).length = some run :=
    Text.slice?_eq_some_iff.mpr
      ⟨front ++ code, after, by rw [List.append_assoc, h.text_eq], hoffset, rfl⟩
  refine ⟨⟨(bytes (front ++ code ++ run)).length, (bytes (front ++ code ++ run)).length,
    cursor.found ++ between ++ [⟨run, false⟩]⟩, ?_, ?_, ?_⟩
  · rw [← h.text_eq, ← h.start_eq, ← hoffset] at hbetween
    rw [step?, hopens]
    simp only [hstop, hbetween, hrun, Option.bind_eq_bind, Option.bind_some]
    rfl
  · intro found hfound
    obtain rfl : opening = found := Option.some.inj (hopens.symm.trans hfound)
    refine ⟨⟨front ++ code, _, htext, hoffset⟩,
      ⟨front ++ code ++ lead, body, by rw [htext, List.append_assoc _ lead], ?_⟩,
      ⟨front ++ code ++ run, after, by rw [h.text_eq]; simp only [List.append_assoc], rfl⟩⟩
    rw [hoffset, hskipped, Text.bytes_append _ lead, List.length_append]
  · constructor
    case text_eq => rw [h.text_eq, List.nil_append]; simp only [List.append_assoc]
    case start_eq => rfl
    case runs_eq =>
      rw [← h.runs_eq, hcode, hruns]
      simp only [List.append_assoc, List.nil_append, List.singleton_append]
    case bare => trivial
    case offset_le => rw [List.append_nil]
    case inside => simp

end Position

/-- Nothing that was found is wrong, and nothing was missed. -/
def OnCourse (text : List Char) (cursor : Cursor) : Prop :=
  ∃ front code rest, Position text cursor front code rest

theorem OnCourse.isBoundary_start (h : OnCourse text cursor) : IsBoundary text cursor.start := by
  obtain ⟨front, code, rest, h⟩ := h
  exact ⟨front, code ++ rest, h.text_eq, h.start_eq⟩

theorem OnCourse.step (h : OnCourse text cursor) (hlt : cursor.offset < (bytes text).length) :
    ∃ next, step? text cursor = some next ∧ CutsBetween text cursor next ∧ OnCourse text next := by
  obtain ⟨front, code, rest, h⟩ := h
  have hpass : opening? (bytes text) cursor.offset = none →
      OnCourse text { cursor with offset := cursor.offset + 1 } →
      ∃ next, step? text cursor = some next ∧ CutsBetween text cursor next ∧
        OnCourse text next := by
    intro hnone hnext
    refine ⟨_, by rw [step?, hnone], fun opening hopening => ?_, hnext⟩
    rw [hnone] at hopening
    cases hopening
  rcases Nat.lt_or_eq_of_le h.offset_le with hinside | hoffset
  · obtain ⟨hnone, hnext⟩ := h.of_inside hinside
    exact hpass hnone ⟨_, _, _, hnext⟩
  cases hsome : nonCode? rest with
  | none =>
    cases rest with
    | nil =>
      rw [h.text_eq, List.append_nil, ← hoffset] at hlt
      exact absurd hlt (Nat.lt_irrefl _)
    | cons c rest =>
      obtain ⟨hnone, hnext⟩ := h.of_code hoffset hsome
      exact hpass hnone ⟨_, _, _, hnext⟩
  | some split =>
    obtain ⟨run, after⟩ := split
    obtain rfl := nonCode?_append hsome
    obtain ⟨next, hstep, hcuts, hnext⟩ := h.of_nonCode hoffset hsome
    exact ⟨next, hstep, hcuts, _, _, _, hnext⟩

/-- Behind the last byte only code is left over. -/
theorem OnCourse.finish (h : OnCourse text cursor)
    (hend : ¬ cursor.offset < (bytes text).length) :
    (codeBetween? text cursor.start (bytes text).length).map (cursor.found ++ ·) =
      some (runs text) := by
  obtain ⟨front, code, rest, h⟩ := h
  obtain rfl : rest = [] := by
    have hle := h.offset_le
    rw [h.text_eq, ← List.append_assoc, Text.bytes_append, List.length_append] at hend
    rw [← Text.bytes_eq_nil_iff, ← List.length_eq_zero_iff]
    omega
  obtain ⟨between, hbetween, hruns⟩ := exists_codeBetween front h.bare (by simp)
  rw [← h.text_eq, ← h.start_eq, ← List.append_nil code, ← h.text_eq] at hbetween
  rw [hbetween, Option.map_some, ← h.runs_eq, hruns, runs_nil, List.append_nil]

theorem scanFrom_eq (h : OnCourse text cursor) : scanFrom text cursor = some (runs text) := by
  fun_induction scanFrom text cursor with
  | case1 cursor hlt next hnext ih =>
    obtain ⟨_, hstep, _, hcourse⟩ := h.step hlt
    obtain rfl := Option.some.inj (hstep.symm.trans hnext)
    exact ih hcourse
  | case2 cursor hlt hnone =>
    obtain ⟨_, hstep, _⟩ := h.step hlt
    rw [hnone] at hstep
    cases hstep
  | case3 cursor hend => exact h.finish hend

theorem Reaches.onCourse (h : Reaches text cursor) : OnCourse text cursor := by
  induction h with
  | start => exact ⟨_, _, _, Position.start text⟩
  | step _ hlt hstep ih =>
    obtain ⟨_, hnext, _, hcourse⟩ := ih.step hlt
    rw [hstep] at hnext
    exact Option.some.inj hnext ▸ hcourse

/-- The runs of a text are what the automaton says character by character, and what the cursor
finds byte by byte. The cursor moves on with each step and never cuts a character. -/
theorem runs_lexed_and_scanned (sql : String) :
    (∀ run ∈ runs sql.toList, run.text ≠ []) ∧
      (runs sql.toList).flatMap Run.text = sql.toList ∧
      (runs sql.toList).IsChain (fun a b => a.code = false ∨ b.code = false) ∧
      ((runs sql.toList).flatMap fun run => List.replicate run.text.length run.code) =
        flags .code sql.toList ∧
      scan sql.toList = some (runs sql.toList) ∧
      ∀ cursor, Reaches sql.toList cursor →
        String.Pos.Raw.IsValid sql ⟨cursor.start⟩ ∧
          (cursor.offset < sql.utf8ByteSize → ∃ next, step? sql.toList cursor = some next ∧
            cursor.offset < next.offset ∧
            ∀ opening, opening? (bytes sql.toList) cursor.offset = some opening →
              String.Pos.Raw.IsValid sql ⟨cursor.offset⟩ ∧
                String.Pos.Raw.IsValid sql ⟨cursor.offset + opening.skipped⟩ ∧
                String.Pos.Raw.IsValid sql ⟨next.offset⟩) := by
  have hsegmented := segmented_runs sql.toList
  refine ⟨hsegmented.text_ne_nil, hsegmented.flatMap_text, hsegmented.isChain,
    hsegmented.flags_eq.symm, scanFrom_eq ⟨_, _, _, Position.start _⟩, ?_⟩
  intro cursor hreaches
  have hcourse := hreaches.onCourse
  refine ⟨hcourse.isBoundary_start.isValid, fun hlt => ?_⟩
  rw [← Text.length_bytes_toList] at hlt
  obtain ⟨next, hstep, hcuts, _⟩ := hcourse.step hlt
  refine ⟨next, hstep, offset_lt_of_step? hstep, fun opening hopening => ?_⟩
  obtain ⟨hat, hskipped, hnext⟩ := hcuts opening hopening
  exact ⟨hat.isValid, hskipped.isValid, hnext.isValid⟩

end TypedQuery.Sql
