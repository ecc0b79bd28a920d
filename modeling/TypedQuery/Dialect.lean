import TypedQuery.Text.Blank

/-! Target databases. -/
namespace TypedQuery

inductive Dialect where
  | postgres
  | mysql
  | sqlite
  deriving DecidableEq, Repr

namespace Dialect

instance : Inhabited Dialect := ⟨.postgres⟩

def all : List Dialect := [postgres, mysql, sqlite]

def name : Dialect → String
  | postgres => "postgres"
  | mysql => "mysql"
  | sqlite => "sqlite"

def database : Dialect → String
  | postgres => "sqlx::Postgres"
  | mysql => "sqlx::MySql"
  | sqlite => "sqlx::Sqlite"

def connection : Dialect → String
  | postgres => "sqlx::PgConnection"
  | mysql => "sqlx::MySqlConnection"
  | sqlite => "sqlx::SqliteConnection"

/-- The row type of a query without a result type. -/
def row : Dialect → String
  | postgres => "sqlx::postgres::PgRow"
  | mysql => "sqlx::mysql::MySqlRow"
  | sqlite => "sqlx::sqlite::SqliteRow"

/-- The placeholder of the parameter in a slot, counted from zero. -/
def placeholder (dialect : Dialect) (slot : Nat) : List Char :=
  match dialect with
  | postgres => '$' :: Nat.toDigits 10 (slot + 1)
  | mysql => ['?']
  | sqlite => '?' :: Nat.toDigits 10 (slot + 1)

/-- Whether a placeholder carries no number, so that each one takes a value of its own. -/
def bindsPerOccurrence : Dialect → Bool
  | mysql => true
  | _ => false

/-- The dialect of that very name. -/
def ofName? (text : String) : Option Dialect := all.find? (·.name = text)

/-- A name as people write it, without the blanks around it and in lower case. -/
def normalize (text : String) : String :=
  .ofList ((Text.trim text.toList).map Char.toLower)

/-- Reads a name or one of its aliases; the error is the name as it was understood. -/
def parse (text : String) : Except String Dialect :=
  match normalize text with
  | "postgres" | "postgresql" | "pg" => .ok postgres
  | "mysql" | "mariadb" => .ok mysql
  | "sqlite" => .ok sqlite
  | other => .error other

end Dialect
end TypedQuery
