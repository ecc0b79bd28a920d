/-! TOML documents as trees. -/
namespace TypedQuery.Toml

/-- A stretch of a text, by the positions of its first character and of the one after it. -/
structure Span where
  start : Nat
  stop : Nat
  deriving DecidableEq, Repr

/-- A key with the place where it is written. -/
structure Key where
  name : String
  span : Span
  deriving DecidableEq, Repr

/-- A value without parts. Of a date or a time only that it is one is kept. -/
inductive Scalar where
  | string (value : String)
  | int (value : Int)
  | float (value : Float)
  | bool (value : Bool)
  | moment

inductive Origin where
  /-- It has a header of its own. -/
  | header
  /-- A longer header mentions it. -/
  | path
  /-- A dotted key mentions it. -/
  | dotted
  deriving DecidableEq, Repr

/-- A value, a table, or an array of tables. A table that is only mentioned has no place. -/
inductive Item where
  | scalar (span : Span) (value : Scalar)
  | array (span : Span) (items : List Item)
  | inline (span : Option Span) (dotted : Bool) (members : List (Key × Item))
  | table (span : Option Span) (origin : Origin) (members : List (Key × Item))
  | tables (tables : List Item)

abbrev Members := List (Key × Item)

namespace Item

/-- The place of anything but an array of tables. -/
def ownSpan? : Item → Option Span
  | scalar span _ | array span _ => some span
  | inline span _ _ | table span _ _ => span
  | tables _ => none

/-- The place of an item. That of an array of tables goes from the first to the end of the last. -/
def span? : Item → Option Span
  | tables items => do
    let first ← items.head?.bind ownSpan?
    let last ← items.getLast?.bind ownSpan?
    return ⟨first.start, last.stop⟩
  | item => item.ownSpan?

end Item

/-- Changes the item of a key, or adds one at the end. The key that stands there is kept. -/
def Members.update (key : Key) (change : Option Item → Option Item) : Members → Option Members
  | [] => do return [(key, ← change none)]
  | (other, item) :: rest =>
    if other.name = key.name then do return (other, ← change (some item)) :: rest
    else do return (other, item) :: (← Members.update key change rest)

def Members.find? (members : Members) (name : String) : Option Item :=
  (List.find? (fun member => member.1.name = name) members).map (·.2)

end TypedQuery.Toml
