import TypedQuery.Rows.Duration
import TypedQuery.Text.Quoted

/-! Errors of queries at run time. -/
namespace TypedQuery.Rows

inductive FieldType where
  | int
  | text
  | real
  | bool
  | optional (type : FieldType)
  deriving DecidableEq, Repr

namespace FieldType

/-- The name of the type in code. -/
def codeName : FieldType → String
  | int => "i64"
  | text => "alloc::string::String"
  | real => "f64"
  | bool => "bool"
  | optional type => s!"core::option::Option<{type.codeName}>"

/-- The name of the type in SQL. -/
def sqlName : FieldType → String
  | int => "INTEGER"
  | text => "TEXT"
  | real => "REAL"
  | bool => "BOOLEAN"
  | optional type => type.sqlName

end FieldType

inductive RowError where
  | rowNotFound
  | tooManyRows (count : Nat)
  | columnNotFound (name : String)
  /-- The column holds a value of the SQL type `stored`. -/
  | mismatch (column : String) (wanted : FieldType) (stored : String)
  | poolTimedOut
  | protocol (text : String)
  | timedOut (limit : Duration)
  /-- A blocking call outside any scheduler. -/
  | noScheduler
  /-- A blocking call on the only thread of a scheduler. -/
  | singleThread
  deriving DecidableEq, Repr

/-- What is said about a count of rows other than one. -/
def tooManyRowsText (count : Nat) : String := s!"Expected exactly one row, got {count}"

def RowError.message : RowError → String
  | rowNotFound => "no rows returned by a query that expected to return at least one row"
  | tooManyRows count => s!"error occurred while decoding: {tooManyRowsText count}"
  | columnNotFound name => s!"no column found for name: {name}"
  | mismatch column wanted stored =>
    s!"error occurred while decoding column {String.ofList (Text.quoted column.toList)}: " ++
    s!"mismatched types; Rust type `{wanted.codeName}` (as SQL type `{wanted.sqlName}`) " ++
    s!"is not compatible with SQL type `{stored}`"
  | poolTimedOut => "pool timed out while waiting for an open connection"
  | protocol text => s!"encountered unexpected or invalid data: {text}"
  | timedOut limit =>
    s!"error communicating with database: query exceeded command timeout of {limit.text}"
  | noScheduler =>
    "error communicating with database: " ++
    "synchronous query helpers need a running Tokio runtime"
  | singleThread =>
    "error communicating with database: " ++
    "synchronous query helpers need a multi-threaded Tokio runtime"

end TypedQuery.Rows
