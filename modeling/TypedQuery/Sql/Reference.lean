import TypedQuery.Text.Word

/-! References to parameters: `@name`, and `@name:type` where it declares its type. -/
namespace TypedQuery.Sql

open Text (isWord)

/-- A text read from left to right as references and the characters between them. -/
inductive Token where
  | plain (c : Char)
  | reference (name : List Char)
  deriving DecidableEq, Repr

namespace Token

def text : Token → List Char
  | plain c => [c]
  | reference name => '@' :: name

def name? : Token → Option (List Char)
  | plain _ => none
  | reference name => some name

end Token

/-- The same for references that declare a type. -/
inductive TypedToken where
  | plain (c : Char)
  | typed (name type : List Char)
  deriving DecidableEq, Repr

namespace TypedToken

def text : TypedToken → List Char
  | plain c => [c]
  | typed name type => '@' :: name ++ ':' :: type

def cleaned : TypedToken → List Char
  | plain c => [c]
  | typed name _ => '@' :: name

def declaration? : TypedToken → Option (List Char × List Char)
  | plain _ => none
  | typed name type => some (name, type)

end TypedToken

theorem length_dropWhile_le {α : Type} (p : α → Bool) (l : List α) :
    (l.dropWhile p).length ≤ l.length :=
  (List.dropWhile_sublist p).length_le

/-- A name and a type, each the longest word there is, with a colon between them; and what
follows. -/
def declaration? (text : List Char) : Option (List Char × List Char × List Char) :=
  match text.dropWhile isWord with
  | ':' :: rest =>
    if text.takeWhile isWord = [] ∨ rest.takeWhile isWord = [] then none
    else some (text.takeWhile isWord, rest.takeWhile isWord, rest.dropWhile isWord)
  | _ => none

theorem declaration?_length_lt {text name type rest : List Char}
    (h : declaration? text = some (name, type, rest)) : rest.length < text.length := by
  unfold declaration? at h
  split at h
  · next after heq =>
    split at h
    · simp at h
    · have hrest : after.dropWhile isWord = rest := by simp_all
      have h1 := length_dropWhile_le isWord text
      have h2 := length_dropWhile_le isWord after
      rw [heq] at h1
      rw [← hrest]
      simp only [List.length_cons] at h1
      omega
  · simp at h

/-- The tokens of a text: an at sign refers where a word follows it. -/
def tokens : List Char → List Token
  | [] => []
  | c :: rest =>
    if c = '@' ∧ rest.takeWhile isWord ≠ [] then
      .reference (rest.takeWhile isWord) :: tokens (rest.dropWhile isWord)
    else .plain c :: tokens rest
termination_by text => text.length
decreasing_by
  · have := length_dropWhile_le isWord rest
    simp only [List.length_cons]
    omega
  · simp

/-- The typed tokens of a text: an at sign declares where a name, a colon and a type follow it. -/
def typedTokens : List Char → List TypedToken
  | [] => []
  | c :: rest =>
    match _h : (if c = '@' then declaration? rest else none) with
    | some (name, type, after) => .typed name type :: typedTokens after
    | none => .plain c :: typedTokens rest
termination_by text => text.length
decreasing_by
  · split at _h
    · have := declaration?_length_lt _h
      simp only [List.length_cons]
      omega
    · simp at _h
  · simp

/-- The names a text refers to, in order, each as often as it stands there. -/
def references (text : List Char) : List (List Char) := (tokens text).filterMap Token.name?

/-- The names a text declares, each with its type, in order. -/
def declarations (text : List Char) : List (List Char × List Char) :=
  (typedTokens text).filterMap TypedToken.declaration?

/-- The text with the type of every declaration removed. -/
def clean (text : List Char) : List Char := (typedTokens text).flatMap TypedToken.cleaned

end TypedQuery.Sql
