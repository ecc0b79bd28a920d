import TypedQuery.Text.Blank
import TypedQuery.Text.Lines

/-! Directives: comments of the form `-- key: value`. -/
namespace TypedQuery.Query

open Text (isIndent lines trim)

/-- What follows `start` at the head of the text. -/
def after? : List Char → List Char → Option (List Char)
  | [], text => some text
  | _ :: _, [] => none
  | a :: start, c :: text => if a = c then after? start text else none

/-- The text after the two dashes that may come first. -/
def skipDashes : List Char → List Char
  | '-' :: '-' :: rest => rest
  | text => text

/-- The value of a directive at the head of the text: spaces and tabs, two dashes or none, spaces
and tabs, the key, a colon. -/
def directive? (key text : List Char) : Option (List Char) :=
  match after? key ((skipDashes (text.dropWhile isIndent)).dropWhile isIndent) with
  | some (':' :: value) => some (value.dropWhile isIndent)
  | _ => none

/-- The ends of a line that begin with two dashes. A dash belongs to one pair only. -/
def comments : List Char → List (List Char)
  | '-' :: '-' :: rest => ('-' :: '-' :: rest) :: comments rest
  | _ :: rest => comments rest
  | [] => []

/-- The value without the blanks around it, unless nothing is left. -/
def value? (key text : List Char) : Option (List Char) :=
  ((directive? key text).map trim).filter (· ≠ [])

/-- The first value on a line, which stands at its start or after two dashes. -/
def lineValue? (key line : List Char) : Option (List Char) :=
  (line :: comments line).findSome? (value? key)

/-- The first value of a key in a text. -/
def textValue? (key text : List Char) : Option (List Char) :=
  (lines text).findSome? (lineValue? key)

/-- The first value of a key. -/
def metadataValue (text key : String) : Option String :=
  (textValue? key.toList text.toList).map .ofList

end TypedQuery.Query
