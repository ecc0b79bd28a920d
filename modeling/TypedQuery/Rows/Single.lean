import TypedQuery.Rows.Error

/-! Queries for exactly one row. -/
namespace TypedQuery.Rows

def exactlyOne {α : Type} : List α → Except RowError α
  | [] => .error .rowNotFound
  | [row] => .ok row
  | rows => .error (.tooManyRows rows.length)

end TypedQuery.Rows
