import TypedQuery.Rows.ColumnMap
import TypedQuery.Rows.Error

/-! Reading fields of rows. -/
namespace TypedQuery.Rows

/-- A stored value. Truth values are stored as integers. -/
inductive Value where
  | null
  | int (value : Int)
  | real (value : Float)
  | text (value : String)

/-- The SQL type that a value is stored as. -/
def Value.sqlName : Value → String
  | null => "NULL"
  | int _ => "INTEGER"
  | real _ => "REAL"
  | text _ => "TEXT"

inductive Field where
  | absent
  | int (value : Int)
  | real (value : Float)
  | text (value : String)
  | bool (value : Bool)

/-- Reads a stored value as a type, as the database library does for SQLite. Without a value a type
that is not optional gives its zero; otherwise the type has to fit, but an integer can be read as a
truth value. -/
def Value.read? : FieldType → Value → Option Field
  | .optional _, null => some .absent
  | .optional type, value => read? type value
  | .int, null => some (.int 0)
  | .int, int value => some (.int value)
  | .real, null => some (.real 0.0)
  | .real, real value => some (.real value)
  | .text, null => some (.text "")
  | .text, text value => some (.text value)
  | .bool, null => some (.bool false)
  | .bool, int value => some (.bool (value ≠ 0))
  | _, _ => none

abbrev Row := List (String × Value)

/-- The value of a column. Of two columns of one name the last one counts. -/
def Row.get? (row : Row) (column : String) : Option Value := row.reverse.lookup column

/-- Reads the value of a column as a type, as the database library does. -/
def Row.read (row : Row) (wanted : FieldType) (column : String) : Except RowError Field :=
  match Row.get? row column with
  | none => .error (.columnNotFound column)
  | some value =>
    match value.read? wanted with
    | some result => .ok result
    | none => .error (.mismatch column wanted value.sqlName)

/-- Reads a field of a type, with `read` for columns, from the column that is registered for it, or
else from the column of its own name. -/
def readField {α : Type} (registry : Registry) (type field : String) (read : String → α) : α :=
  read ((registry.columnFor? type field).getD field)

def getMapped (registry : Registry) (type field : String) (wanted : FieldType) (row : Row) :
    Except RowError Field :=
  readField registry type field (row.read wanted)

end TypedQuery.Rows
