import TypedQuery.Settings.Toml
import TypedQuery.Store.OsError
import TypedQuery.Path.Basic

/-! What can go wrong. -/
namespace TypedQuery

/-- Why settings cannot be loaded or code cannot be generated. -/
inductive Failure where
  | io (path : Path) (cause : OsError)
  /-- A name is no dialect's. -/
  | unknownDialect (name : String)
  /-- The settings file does not give settings. -/
  | settings (error : Settings.FileError)
  /-- Two queries give a type of the same name. -/
  | duplicateQuery (typeName first second : String)
  | missingVariable (name : String)
  | cancelled
  deriving DecidableEq, Repr

namespace Failure

def message : Failure → String
  | io path cause => s!"IO error on '{path.display}': {cause.message}"
  | unknownDialect name =>
    s!"Configuration error: unknown dialect '{name}'. Expected: postgres, mysql, or sqlite"
  | settings error => s!"Invalid config file: {error.message}"
  | duplicateQuery typeName first second =>
    s!"Duplicate query type '{typeName}' (declared in '{first}' and '{second}')"
  | missingVariable name => s!"Missing environment variable: {name}"
  | cancelled => "Generation cancelled"

/-- The message of what lies behind a failure, if something does. -/
def cause? : Failure → Option String
  | io _ cause => some cause.message
  | settings error => some error.message
  | _ => none

end Failure
end TypedQuery
