/-! SQL types and the types of the fields that carry them. -/
namespace TypedQuery.Code

/-- How a field's value is handed to the query. -/
inductive BindKind where
  | ref
  /-- As its text, for a type that the database cannot encode. -/
  | display
  deriving DecidableEq, Repr

/-- A row of the type table: the SQL token in lower case and the field type with its bind. -/
structure SqlType where
  token : String
  field : String
  bind : BindKind := .ref
  deriving DecidableEq, Repr

namespace SqlType

def text : SqlType := { token := "text", field := "String" }

def table : List SqlType :=
  [text,
   { token := "uuid", field := "sqlx::types::Uuid" },
   { token := "int4", field := "i32" },
   { token := "int8", field := "i64" },
   { token := "numeric", field := "sqlx::types::Decimal" },
   { token := "bool", field := "bool" },
   { token := "timestamp", field := "sqlx::types::chrono::NaiveDateTime" },
   { token := "timestamptz", field := "sqlx::types::chrono::DateTime<sqlx::types::chrono::Utc>" },
   { token := "json", field := "String" },
   { token := "jsonb", field := "String" },
   { token := "date", field := "sqlx::types::chrono::NaiveDate" },
   { token := "time", field := "sqlx::types::chrono::NaiveTime" },
   { token := "float4", field := "f32" },
   { token := "float8", field := "f64" },
   { token := "bytea", field := "Vec<u8>" },
   { token := "char", field := "char", bind := .display },
   { token := "varchar", field := "String" }]

/-- The row of a token in any ASCII case; a token outside the table is text. -/
def resolve (token : String) : SqlType :=
  (table.find? fun row => row.token.toList = token.toList.map Char.toLower).getD text

end SqlType
end TypedQuery.Code
