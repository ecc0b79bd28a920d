import TypedQuery.Proofs.Sql.Automaton
import TypedQuery.Proofs.Text.Offset

/-! The runs of a text found by a cursor that moves along its bytes. -/
namespace TypedQuery.Sql

open Text (bytes search? slice?)

/-- How a comment or quoted text ends: at the first `closing` behind the bytes that are skipped.
Of the closing as many bytes belong to it as `closed` says. -/
structure Opening where
  skipped : Nat
  closing : List Char
  closed : Nat
  deriving DecidableEq, Repr

/-- What opens at an offset, told from the byte there and the next one. -/
def opening? (bytes : List UInt8) (offset : Nat) : Option Opening :=
  bytes[offset]?.bind fun byte =>
    if byte = 0x2d ∧ bytes[offset + 1]? = some 0x2d then some ⟨0, ['\n'], 0⟩
    else if byte = 0x2f ∧ bytes[offset + 1]? = some 0x2a then some ⟨2, ['*', '/'], 2⟩
    else if byte = 0x27 ∨ byte = 0x22 ∨ byte = 0x60 then some ⟨1, [.ofNat byte.toNat], 1⟩
    else none

/-- Where the comment or quoted text that opens at an offset ends. -/
def stop? (text : List Char) (offset : Nat) (opening : Opening) : Option Nat :=
  (slice? text (offset + opening.skipped) (bytes text).length).map fun rest =>
    match search? opening.closing rest with
    | some found => offset + opening.skipped + found + opening.closed
    | none => (bytes text).length

/-- Code starts at `start` or further on, and everything before is in `found`. -/
structure Cursor where
  start : Nat
  offset : Nat
  found : List Run
  deriving DecidableEq, Repr

/-- The run of code between two offsets, if there is anything between them. -/
def codeBetween? (text : List Char) (start stop : Nat) : Option (List Run) :=
  if start < stop then (slice? text start stop).map ([⟨·, true⟩]) else some []

/-- Moves on by a byte, or behind the comment or quoted text that opens. There is no next cursor if
it would cut a character. -/
def step? (text : List Char) (cursor : Cursor) : Option Cursor :=
  match opening? (bytes text) cursor.offset with
  | none => some { cursor with offset := cursor.offset + 1 }
  | some opening => do
    let stop ← stop? text cursor.offset opening
    let code ← codeBetween? text cursor.start cursor.offset
    let run ← slice? text cursor.offset stop
    return ⟨stop, stop, cursor.found ++ code ++ [⟨run, false⟩]⟩

section Progress

variable {text : List Char} {offset stop : Nat} {opening : Opening} {cursor next : Cursor}

theorem opening?_append (a b : List UInt8) : opening? (a ++ b) a.length = opening? b 0 := by
  have hnext : (a ++ b)[a.length + 1]? = b[0 + 1]? := by
    rw [List.getElem?_append_right (Nat.le_add_right _ _), Nat.add_sub_cancel_left]
  rw [opening?, opening?, List.getElem?_append_right (Nat.le_refl _), Nat.sub_self, hnext]

/-- Only for a line comment the search begins where the comment does. -/
theorem skipped_or_line {bytes : List UInt8} (h : opening? bytes offset = some opening) :
    offset < bytes.length ∧
      (0 < opening.skipped ∨ bytes[offset]? = some 0x2d ∧ opening = ⟨0, ['\n'], 0⟩) := by
  obtain ⟨byte, hbyte, h⟩ := Option.bind_eq_some_iff.mp h
  refine ⟨(List.getElem?_eq_some_iff.mp hbyte).1, ?_⟩
  split_ifs at h with hline hblock hquote
  · exact .inr ⟨by rw [hbyte, hline.1], (Option.some.inj h).symm⟩
  · obtain rfl := Option.some.inj h
    exact .inl (Nat.succ_pos _)
  · obtain rfl := Option.some.inj h
    exact .inl (Nat.succ_pos _)

theorem search?_pos {pattern : List Char} {found : Nat} (h : search? pattern text = some found)
    (hfront : ¬ pattern <+: text) : 0 < found := by
  cases text with
  | nil => cases h
  | cons c text =>
    rw [search?, if_neg hfront] at h
    obtain ⟨before, _, rfl⟩ := Option.map_eq_some_iff.mp h
    have := c.utf8Size_pos
    omega

theorem lt_of_stop? (hopening : opening? (bytes text) offset = some opening)
    (hstop : stop? text offset opening = some stop) : offset < stop := by
  obtain ⟨hlt, hkind⟩ := skipped_or_line hopening
  obtain ⟨rest, hslice, hstop⟩ := Option.map_eq_some_iff.mp hstop
  split at hstop
  · next found hfound =>
    rcases hkind with hskipped | ⟨hdash, rfl⟩
    · omega
    have hfront : ¬ ['\n'] <+: rest := by
      rintro ⟨after, rfl⟩
      obtain ⟨front, tail, rfl, rfl, _⟩ := Text.slice?_eq_some_iff.mp hslice
      rw [Text.bytes_append, List.getElem?_append_right (Nat.le_refl _), Nat.sub_self,
        List.append_assoc] at hdash
      cases Option.some.inj hdash
    have := search?_pos hfound hfront
    omega
  · omega

theorem offset_lt_of_step? (h : step? text cursor = some next) : cursor.offset < next.offset := by
  unfold step? at h
  split at h
  · obtain rfl := Option.some.inj h
    exact Nat.lt_succ_self _
  · next opening hopening =>
    obtain ⟨stop, hstop, h⟩ := Option.bind_eq_some_iff.mp h
    obtain ⟨code, _, h⟩ := Option.bind_eq_some_iff.mp h
    obtain ⟨run, _, h⟩ := Option.bind_eq_some_iff.mp h
    obtain rfl := Option.some.inj h
    exact lt_of_stop? hopening hstop

end Progress

/-- The runs from a cursor on; none if a step cuts a character. -/
def scanFrom (text : List Char) (cursor : Cursor) : Option (List Run) :=
  if cursor.offset < (bytes text).length then
    match _h : step? text cursor with
    | some next => scanFrom text next
    | none => none
  else (codeBetween? text cursor.start (bytes text).length).map (cursor.found ++ ·)
termination_by (bytes text).length - cursor.offset
decreasing_by
  have := offset_lt_of_step? _h
  omega

/-- The runs that a cursor finds from the start of a text. -/
def scan (text : List Char) : Option (List Run) := scanFrom text ⟨0, 0, []⟩

/-- The cursors that a scan comes by. -/
inductive Reaches (text : List Char) : Cursor → Prop where
  | start : Reaches text ⟨0, 0, []⟩
  | step {cursor next : Cursor} (h : Reaches text cursor)
      (hlt : cursor.offset < (bytes text).length) (hstep : step? text cursor = some next) :
      Reaches text next

section Openings

variable {text front lead run rest body : List Char} {c mark : Char} {closing : List Char}
  {closed : Nat} {opening : Opening}

/-- How far it is from the start of a text to behind its first `closing`. -/
def reach (closing : List Char) (closed : Nat) (text : List Char) : Nat :=
  (search? closing text).elim (bytes text).length (· + closed)

theorem reach_cons (h : ¬ closing <+: c :: text) :
    reach closing closed (c :: text) = c.utf8Size + reach closing closed text := by
  rw [reach, reach, search?, if_neg h, Text.length_bytes_cons]
  cases search? closing text with
  | none => rfl
  | some found => simp only [Option.map_some, Option.elim_some]; omega

theorem reach_line (hbody : '\n' ∉ body) (hrest : Text.Stops (· ≠ '\n') rest) :
    reach ['\n'] 0 (body ++ rest) = (bytes body).length := by
  induction body with
  | nil =>
    cases rest with
    | nil => rfl
    | cons c rest =>
      obtain rfl : c = '\n' := by simpa using hrest
      rfl
  | cons c body ih =>
    have hc : '\n' ≠ c := List.ne_of_not_mem_cons hbody
    rw [List.cons_append, reach_cons (fun h => hc (List.cons_prefix_cons.mp h).1),
      ih (List.not_mem_of_not_mem_cons hbody), Text.length_bytes_cons]

theorem reach_closed (hne : closing ≠ []) (h : ClosedBy closing body rest) :
    reach closing (bytes closing).length (body ++ rest) = (bytes body).length := by
  induction h with
  | unclosed => rfl
  | closed rest =>
    obtain ⟨c, closing, rfl⟩ := List.exists_cons_of_ne_nil hne
    rw [reach, List.cons_append, search?, if_pos ⟨rest, rfl⟩]
    exact Nat.zero_add _
  | cons hopen _ ih => rw [List.cons_append, reach_cons hopen, ih, Text.length_bytes_cons]

theorem stop?_append (hskipped : opening.skipped = (bytes lead).length) :
    stop? (front ++ (lead ++ body)) (bytes front).length opening =
      some ((bytes (front ++ lead)).length + reach opening.closing opening.closed body) := by
  have hslice : slice? (front ++ (lead ++ body)) ((bytes front).length + opening.skipped)
      (bytes (front ++ (lead ++ body))).length = some body := by
    rw [Text.slice?_eq_some_iff]
    refine ⟨front ++ lead, [], by simp, ?_, by simp⟩
    rw [hskipped, Text.bytes_append, List.length_append]
  rw [stop?, hslice, Option.map_some, reach, hskipped]
  cases search? opening.closing body with
  | none => simp [Nat.add_assoc]
  | some found => simp [Nat.add_assoc]

theorem opening?_eq_none (h : opens c rest.head? = false) :
    opening? (bytes (c :: rest)) 0 = none := by
  have hchar : ∀ d : Char, d.toNat < 128 →
      (bytes (c :: rest))[0]? = some d.val.toUInt8 → c = d := by
    intro d hd hbyte
    exact Option.some.inj (Text.head?_of_bytes hd hbyte)
  simp only [opens, isQuote, Bool.or_eq_false_iff, Bool.and_eq_false_iff,
    decide_eq_false_iff_not] at h
  obtain ⟨⟨⟨⟨hsingle, hdouble⟩, hback⟩, hdashes⟩, hslash⟩ := h
  rw [opening?, Option.bind_eq_none_iff]
  intro byte hbyte
  rw [if_neg, if_neg, if_neg]
  · rintro (rfl | rfl | rfl)
    · exact hsingle (hchar '\x27' (by decide) hbyte)
    · exact hdouble (hchar '\x22' (by decide) hbyte)
    · exact hback (hchar '\x60' (by decide) hbyte)
  · rintro ⟨rfl, hnext⟩
    obtain rfl : c = '/' := hchar '/' (by decide) hbyte
    exact hslash.resolve_left (by simp) (Text.head?_of_bytes (c := '*') (by decide) hnext)
  · rintro ⟨rfl, hnext⟩
    obtain rfl : c = '-' := hchar '-' (by decide) hbyte
    exact hdashes.resolve_left (by simp) (Text.head?_of_bytes (c := '-') (by decide) hnext)

theorem opening?_quote (rest : List Char) (h : isQuote mark) :
    mark.utf8Size = 1 ∧ opening? (bytes (mark :: rest)) 0 = some ⟨1, [mark], 1⟩ := by
  simp only [isQuote, Bool.or_eq_true, decide_eq_true_eq] at h
  rcases h with (rfl | rfl) | rfl <;> exact ⟨rfl, rfl⟩

/-- The first bytes of a comment or quoted text tell what opens, and the search behind them goes as
far as the text does. -/
theorem exists_opening (h : nonCode? (run ++ rest) = some (run, rest)) :
    ∃ opening lead body, run ++ rest = lead ++ body ∧
      opening? (bytes (run ++ rest)) 0 = some opening ∧
      opening.skipped = (bytes lead).length ∧
      (bytes lead).length + reach opening.closing opening.closed body = (bytes run).length := by
  rcases nonCode?_eq_some h with ⟨body, rfl, hbody, hrest⟩ | ⟨body, rfl, hbody⟩ |
    ⟨mark, body, rfl, hmark, hbody⟩
  · refine ⟨⟨0, ['\n'], 0⟩, [], '-' :: '-' :: (body ++ rest), rfl, rfl, rfl, ?_⟩
    have hdashes : '\n' ∉ '-' :: '-' :: body := by simpa using hbody
    rw [← List.cons_append, ← List.cons_append, reach_line hdashes hrest]
    exact Nat.zero_add _
  · refine ⟨⟨2, ['*', '/'], 2⟩, ['/', '*'], body ++ rest, rfl, rfl, rfl, ?_⟩
    have hreach : reach ['*', '/'] 2 (body ++ rest) = (bytes body).length :=
      reach_closed (List.cons_ne_nil _ _) hbody
    rw [hreach, ← List.length_append, ← Text.bytes_append]
    rfl
  · obtain ⟨hsize, hopening⟩ := opening?_quote (body ++ rest) hmark
    have hlead : (bytes [mark]).length = 1 := by rw [Text.length_bytes_cons, hsize]; rfl
    refine ⟨⟨1, [mark], 1⟩, [mark], body ++ rest, rfl, hopening, hlead.symm, ?_⟩
    have hreach : reach [mark] 1 (body ++ rest) = (bytes body).length :=
      hlead ▸ reach_closed (List.cons_ne_nil _ _) hbody
    rw [hreach, ← List.length_append, ← Text.bytes_append]
    rfl

end Openings

end TypedQuery.Sql
