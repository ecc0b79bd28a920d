/-! SQL text as runs of code and runs of comments and quoted text. -/
namespace TypedQuery.Sql

structure Run where
  text : List Char
  code : Bool
  deriving DecidableEq, Repr

/-- Splits after the first end of a block comment; everything if there is none. -/
def throughCommentEnd : List Char → List Char × List Char
  | '*' :: '/' :: rest => (['*', '/'], rest)
  | c :: rest => (c :: (throughCommentEnd rest).1, (throughCommentEnd rest).2)
  | [] => ([], [])

/-- Splits after the first `mark`; everything if there is none. -/
def through (mark : Char) : List Char → List Char × List Char
  | [] => ([], [])
  | c :: rest =>
    if c = mark then ([c], rest) else (c :: (through mark rest).1, (through mark rest).2)

/-- The single quote, the double quote and the backquote. -/
def isQuote (c : Char) : Bool := c = '\x27' || c = '\x22' || c = '\x60'

/-- The comment or quoted text at the start, and what follows it. A line comment leaves its line
feed to the code. -/
def nonCode? : List Char → Option (List Char × List Char)
  | '-' :: '-' :: rest => some ('-' :: '-' :: rest.takeWhile (· ≠ '\n'), rest.dropWhile (· ≠ '\n'))
  | '/' :: '*' :: rest =>
    some ('/' :: '*' :: (throughCommentEnd rest).1, (throughCommentEnd rest).2)
  | c :: rest => if isQuote c then some (c :: (through c rest).1, (through c rest).2) else none
  | [] => none

/-- Puts a character in front, into the code run there or into a new one. -/
def consCode (c : Char) : List Run → List Run
  | ⟨text, true⟩ :: runs => ⟨c :: text, true⟩ :: runs
  | runs => ⟨[c], true⟩ :: runs

theorem throughCommentEnd_append (text : List Char) :
    (throughCommentEnd text).1 ++ (throughCommentEnd text).2 = text := by
  fun_induction throughCommentEnd text with simp_all

theorem through_append (mark : Char) (text : List Char) :
    (through mark text).1 ++ (through mark text).2 = text := by
  fun_induction through mark text with simp_all

theorem nonCode?_append {text run rest : List Char} (h : nonCode? text = some (run, rest)) :
    run ++ rest = text := by
  unfold nonCode? at h
  split at h
  · obtain ⟨rfl, rfl⟩ := Prod.mk.inj (Option.some.inj h)
    simp
  · obtain ⟨rfl, rfl⟩ := Prod.mk.inj (Option.some.inj h)
    simp [throughCommentEnd_append]
  · split at h
    · obtain ⟨rfl, rfl⟩ := Prod.mk.inj (Option.some.inj h)
      simp [through_append]
    · simp at h
  · simp at h

theorem nonCode?_ne_nil {text run rest : List Char} (h : nonCode? text = some (run, rest)) :
    run ≠ [] := by
  unfold nonCode? at h
  split at h
  · obtain ⟨rfl, rfl⟩ := Prod.mk.inj (Option.some.inj h)
    exact List.cons_ne_nil _ _
  · obtain ⟨rfl, rfl⟩ := Prod.mk.inj (Option.some.inj h)
    exact List.cons_ne_nil _ _
  · split at h
    · obtain ⟨rfl, rfl⟩ := Prod.mk.inj (Option.some.inj h)
      exact List.cons_ne_nil _ _
    · simp at h
  · simp at h

theorem nonCode?_length_lt {text run rest : List Char} (h : nonCode? text = some (run, rest)) :
    rest.length < text.length := by
  have hlen := congrArg List.length (nonCode?_append h)
  have hpos := List.length_pos_iff.mpr (nonCode?_ne_nil h)
  rw [List.length_append] at hlen
  omega

/-- The runs of a text. Comments and quoted text are found from left to right, and all between
them is code. -/
def runs (text : List Char) : List Run :=
  match _h : nonCode? text with
  | some (run, rest) => ⟨run, false⟩ :: runs rest
  | none =>
    match text with
    | [] => []
    | c :: rest => consCode c (runs rest)
termination_by text.length
decreasing_by
  · exact nonCode?_length_lt _h
  · simp

end TypedQuery.Sql
