/-! Reading a text from left to right. -/
namespace TypedQuery.Toml

/-- What is left of a text, and how many characters were read. -/
structure Cursor where
  rest : List Char
  position : Nat

/-- A step of reading, which may fail. -/
abbrev Scan (α : Type) := StateT Cursor Option α

namespace Scan

def position : Scan Nat := do return (← get).position

def rest : Scan (List Char) := do return (← get).rest

def fail {α : Type} : Scan α := fun _ => none

def one (p : Char → Bool) : Scan Char := fun cursor =>
  match cursor.rest with
  | c :: rest => if p c then some (c, ⟨rest, cursor.position + 1⟩) else none
  | [] => none

def char (c : Char) : Scan Unit := do
  let _ ← one (· = c)

def chars (text : List Char) : Scan Unit := text.forM char

def many (p : Char → Bool) : Scan (List Char) := fun cursor =>
  let taken := cursor.rest.takeWhile p
  some (taken, ⟨cursor.rest.dropWhile p, cursor.position + taken.length⟩)

def many1 (p : Char → Bool) : Scan (List Char) := do
  let first ← one p
  return first :: (← many p)

def exactly (n : Nat) (p : Char → Bool) : Scan (List Char) := (List.range n).mapM fun _ => one p

/-- Takes a step that may fail; if it does, nothing is read. -/
def attempt {α : Type} (step : Scan α) : Scan (Option α) := fun cursor =>
  match step cursor with
  | some (value, after) => some (some value, after)
  | none => some (none, cursor)

def first {α : Type} : List (Scan α) → Scan α
  | [] => fail
  | step :: steps => fun cursor =>
    match step cursor with
    | some result => some result
    | none => first steps cursor

def sees (text : List Char) : Scan Bool := do return text.isPrefixOf (← rest)

def atEnd : Scan Bool := do return (← rest).isEmpty

end Scan
end TypedQuery.Toml
