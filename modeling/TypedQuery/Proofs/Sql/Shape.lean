import TypedQuery.Proofs.Sql.Run
import TypedQuery.Text.Word

/-! Texts that differ only between their delimiters have the same runs. -/
namespace TypedQuery.Sql

open Text (isWord Stops)

/-- No delimiter is in the text. -/
def Inert (text : List Char) : Prop := ∀ c ∈ text, isDelimiter c = false

theorem Inert.not_mem {text : List Char} {d : Char} (h : Inert text) (hd : isDelimiter d) :
    d ∉ text := by
  intro hmem
  have hfalse := h d hmem
  rw [hd] at hfalse
  cases hfalse

theorem inert_nil : Inert [] := by
  intro c hc
  cases hc

theorem inert_cons {c : Char} {text : List Char} (hc : isDelimiter c = false) (h : Inert text) :
    Inert (c :: text) := List.forall_mem_cons.mpr ⟨hc, h⟩

theorem Inert.append {a b : List Char} (ha : Inert a) (hb : Inert b) : Inert (a ++ b) :=
  List.forall_mem_append.mpr ⟨ha, hb⟩

theorem inert_of_isWord {text : List Char} (h : ∀ c ∈ text, isWord c) : Inert text := by
  intro c hc
  rw [Bool.eq_false_iff]
  intro hdelim
  have hword := eq_false_of_isDelimiter (p := isWord) (by decide) hdelim
  rw [h c hc] at hword
  cases hword

/-- The same delimiters in the same order, and nothing between two of them in the one text exactly
where nothing is between them in the other. -/
inductive SameShape : List Char → List Char → Prop where
  | nil : SameShape [] []
  | cons {a b} (c : Char) (tail : SameShape a b) : SameShape (c :: a) (c :: b)
  | inert {s t a b} (hs : s ≠ []) (ht : t ≠ []) (hsi : Inert s) (hti : Inert t)
      (tail : SameShape a b) : SameShape (s ++ a) (t ++ b)

namespace SameShape

variable {a b a' b' s t rest rest' : List Char} {c d mark : Char}

theorem refl : ∀ a, SameShape a a
  | [] => .nil
  | c :: a => .cons c (refl a)

theorem append (h : SameShape a b) (h' : SameShape a' b') : SameShape (a ++ a') (b ++ b') := by
  induction h with
  | nil => exact h'
  | cons c _ ih => exact .cons c ih
  | inert hs ht hsi hti _ ih =>
    rw [List.append_assoc, List.append_assoc]
    exact .inert hs ht hsi hti ih

theorem eq_nil_iff (h : SameShape a b) : a = [] ↔ b = [] := by
  cases h with
  | nil => exact Iff.rfl
  | cons => simp
  | inert hs ht => simp [hs, ht]

theorem delimiter_cons (hd : isDelimiter d) (h : SameShape (d :: a) b) :
    ∃ b', b = d :: b' ∧ SameShape a b' := by
  generalize htext : d :: a = text at h
  cases h with
  | nil => cases htext
  | cons c tail =>
    obtain ⟨rfl, rfl⟩ := List.cons.inj htext
    exact ⟨_, rfl, tail⟩
  | @inert s _ _ _ hs _ hsi =>
    cases s with
    | nil => exact absurd rfl hs
    | cons c s =>
      obtain ⟨rfl, _⟩ := List.cons.inj htext
      exact absurd List.mem_cons_self (hsi.not_mem hd)

theorem head?_eq_some (hd : isDelimiter d) (h : SameShape a b) :
    a.head? = some d ↔ b.head? = some d := by
  have hinert : ∀ {s x : List Char}, s ≠ [] → Inert s → (s ++ x).head? ≠ some d := by
    intro s x hs hsi
    cases s with
    | nil => exact absurd rfl hs
    | cons c s =>
      intro hc
      rw [List.cons_append, List.head?_cons, Option.some.injEq] at hc
      subst hc
      exact hsi.not_mem hd List.mem_cons_self
  cases h with
  | nil => exact Iff.rfl
  | cons => exact Iff.rfl
  | inert hs ht hsi hti => exact iff_of_false (hinert hs hsi) (hinert ht hti)

theorem opens_head? (h : SameShape a b) : opens c a.head? = opens c b.head? := by
  have hdash := h.head?_eq_some (d := '-') (by decide)
  have hstar := h.head?_eq_some (d := '*') (by decide)
  unfold opens
  rw [decide_eq_decide.mpr hdash, decide_eq_decide.mpr hstar]

theorem mem_iff (hd : isDelimiter d) (h : SameShape a b) : d ∈ a ↔ d ∈ b := by
  induction h with
  | nil => exact Iff.rfl
  | cons c _ ih =>
    rw [List.mem_cons, List.mem_cons]
    exact or_congr_right ih
  | inert _ _ hsi hti _ ih =>
    rw [List.mem_append, List.mem_append, or_iff_right (hsi.not_mem hd),
      or_iff_right (hti.not_mem hd)]
    exact ih

theorem symm (h : SameShape a b) : SameShape b a := by
  induction h with
  | nil => exact .nil
  | cons c _ ih => exact .cons c ih
  | inert hs ht hsi hti _ ih => exact .inert ht hs hti hsi ih

theorem eq_of_delimiters (ha : ∀ d ∈ a, isDelimiter d) (h : SameShape a b) : b = a := by
  induction a generalizing b with
  | nil => exact h.eq_nil_iff.mp rfl
  | cons d a ih =>
    obtain ⟨hd, ha⟩ := List.forall_mem_cons.mp ha
    obtain ⟨b, rfl, htail⟩ := h.delimiter_cons hd
    rw [ih ha htail]

theorem delimiters_isPrefix {front : List Char} (hfront : ∀ d ∈ front, isDelimiter d)
    (h : SameShape a b) (ha : front <+: a) : front <+: b := by
  induction front generalizing a b with
  | nil => exact List.nil_prefix
  | cons d front ih =>
    obtain ⟨hd, hfront⟩ := List.forall_mem_cons.mp hfront
    obtain ⟨after, rfl⟩ := ha
    obtain ⟨b, rfl, htail⟩ := h.delimiter_cons hd
    exact List.cons_prefix_cons.mpr ⟨rfl, ih hfront htail (List.prefix_append _ _)⟩

/-- Block comments and quoted text end at the same place. -/
theorem closedBy {closing : List Char} (hne : closing ≠ [])
    (hclosing : ∀ d ∈ closing, isDelimiter d) (h : SameShape a b) (hrest : SameShape rest rest')
    (ha : ClosedBy closing a rest) : ClosedBy closing b rest' := by
  have hinert : ∀ {s : List Char}, Inert s → ∀ c ∈ s, c ∉ closing :=
    fun hsi c hc hmem => hsi.not_mem (hclosing c hmem) hc
  induction h with
  | nil =>
    cases ha with
    | unclosed => rw [hrest.eq_nil_iff.mp rfl]; exact .unclosed
    | closed => exact absurd rfl hne
  | @cons a b c tail ih =>
    cases ha with
    | closed =>
      rw [eq_of_delimiters (List.forall_mem_cons.mp hclosing).2 tail]
      exact .closed rest'
    | cons hopen htail =>
      have hsame : SameShape (c :: (a ++ rest)) (c :: (b ++ rest')) := .cons c (tail.append hrest)
      exact .cons (fun hend => hopen (hsame.symm.delimiters_isPrefix hclosing hend)) (ih htail)
  | inert _ _ hsi hti _ ih =>
    rw [ClosedBy.append_iff hne (hinert hsi)] at ha
    rw [ClosedBy.append_iff hne (hinert hti)]
    exact ih ha

/-- What is no code stays no code, and ends at the same place. -/
theorem nonCode?_eq (h : SameShape a b) (hrest : SameShape rest rest')
    (ha : nonCode? (a ++ rest) = some (a, rest)) : nonCode? (b ++ rest') = some (b, rest') := by
  rcases nonCode?_eq_some ha with ⟨body, rfl, hbody, hstop⟩ | ⟨body, rfl, hbody⟩ |
    ⟨mark, body, rfl, hmark, hbody⟩
  · obtain ⟨_, rfl, htail⟩ := h.delimiter_cons (by decide)
    obtain ⟨b, rfl, hb⟩ := htail.delimiter_cons (by decide)
    refine nonCode?_line (fun hmem => hbody ((hb.mem_iff (by decide)).mpr hmem)) ?_
    cases rest with
    | nil => rw [hrest.eq_nil_iff.mp rfl]; exact Text.stops_nil
    | cons c rest =>
      obtain rfl : c = '\n' := by simpa using hstop
      obtain ⟨after, rfl, _⟩ := hrest.delimiter_cons (by decide)
      simp
  · obtain ⟨_, rfl, htail⟩ := h.delimiter_cons (by decide)
    obtain ⟨b, rfl, hb⟩ := htail.delimiter_cons (by decide)
    have hclosing : ∀ d ∈ ['*', '/'], isDelimiter d :=
      List.forall_mem_cons.mpr ⟨by decide, List.forall_mem_singleton.mpr (by decide)⟩
    exact nonCode?_block (hb.closedBy (by simp) hclosing hrest hbody)
  · have hdelim := isDelimiter_of_isQuote hmark
    obtain ⟨b, rfl, hb⟩ := h.delimiter_cons hdelim
    exact nonCode?_quoted hmark (hb.closedBy (by simp) (by simpa using hdelim) hrest hbody)

theorem nonCode?_eq_none (h : SameShape a b) :
    nonCode? (c :: a) = none ↔ nonCode? (c :: b) = none := by
  rw [nonCode?_eq_none_iff, nonCode?_eq_none_iff, h.opens_head?]

end SameShape

theorem bare_append_of_inert {s a rest : List Char} (hs : Inert s) (h : Bare a rest) :
    Bare (s ++ a) rest := by
  induction s with
  | nil => exact h
  | cons c s ih =>
    refine ⟨?_, ih (fun d hd => hs d (List.mem_cons_of_mem c hd))⟩
    rw [nonCode?_eq_none_iff, Bool.eq_false_iff]
    intro hopens
    exact hs.not_mem (isDelimiter_of_opens hopens) List.mem_cons_self

theorem Bare.of_inert_append {s a rest : List Char} (h : Bare (s ++ a) rest) : Bare a rest := by
  induction s with
  | nil => exact h
  | cons c s ih => exact ih h.2

/-- Code stays code. -/
theorem Bare.sameShape {a b rest rest' : List Char} (ha : Bare a rest) (h : SameShape a b)
    (hrest : SameShape rest rest') : Bare b rest' := by
  induction h with
  | nil => trivial
  | cons c tail ih =>
    exact ⟨((tail.append hrest).nonCode?_eq_none).mp ha.1, ih ha.2⟩
  | inert _ _ _ hti _ ih => exact bare_append_of_inert hti (ih ha.of_inert_append)

namespace Segmented

variable {text : List Char} {segments : List Run} {f : Run → List Char}

theorem sameShape_flatMap (h : Segmented text segments)
    (hf : ∀ run ∈ segments, SameShape run.text (f run)) :
    SameShape text (segments.flatMap f) := by
  induction h with
  | nil => exact .nil
  | nonCode _ _ ih | code _ _ _ _ ih =>
    rw [List.flatMap_cons]
    exact (hf _ List.mem_cons_self).append (ih (fun run hrun =>
      hf run (List.mem_cons_of_mem _ hrun)))

theorem sameShape (h : Segmented text segments)
    (hf : ∀ run ∈ segments, SameShape run.text (f run)) :
    Segmented (segments.flatMap f) (segments.map fun run => { run with text := f run }) := by
  induction h with
  | nil => exact .nil
  | @nonCode text rest segments hsome tail ih =>
    have hfTail : ∀ run ∈ segments, SameShape run.text (f run) := fun run hrun =>
      hf run (List.mem_cons_of_mem _ hrun)
    have hrest := tail.sameShape_flatMap hfTail
    exact .nonCode ((hf _ (by simp)).nonCode?_eq hrest hsome) (ih hfTail)
  | @code text rest segments hne hbare hlast tail ih =>
    have hfTail : ∀ run ∈ segments, SameShape run.text (f run) := fun run hrun =>
      hf run (List.mem_cons_of_mem _ hrun)
    have hrest := tail.sameShape_flatMap hfTail
    have htext : SameShape text (f ⟨text, true⟩) := hf ⟨text, true⟩ (by simp)
    refine .code (fun hnil => hne (htext.eq_nil_iff.mpr hnil)) (hbare.sameShape htext hrest) ?_
      (ih hfTail)
    cases segments with
    | nil => simp
    | cons run segments => simpa using hlast

end Segmented

/-- Changes that keep the shape of each run keep the runs. -/
theorem runs_flatMap {text : List Char} {f : Run → List Char}
    (hf : ∀ run ∈ runs text, SameShape run.text (f run)) :
    runs ((runs text).flatMap f) = (runs text).map fun run => { run with text := f run } :=
  ((segmented_runs text).sameShape hf).runs_eq

end TypedQuery.Sql
