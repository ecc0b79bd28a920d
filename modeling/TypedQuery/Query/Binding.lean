import TypedQuery.Dialect
import TypedQuery.Query.Metadata
import TypedQuery.Sql.Run

/-! Placeholders in place of parameter references. -/
namespace TypedQuery.Query

open Sql (Run Token runs tokens references)

/-- The first parameter of that name. -/
def declared (params : List Parameter) (name : List Char) : Option Nat :=
  params.findIdx? (·.name.toList = name)

/-- The parameters that the code refers to, in order, each as often as it does. -/
def occurrences (params : List Parameter) (sql : List Char) : List Nat :=
  ((runs sql).filter (·.code)).flatMap fun run =>
    (references run.text).filterMap (declared params)

/-- The parameters that the code refers to, each once, in order of declaration. -/
def used (params : List Parameter) (sql : List Char) : List Nat :=
  (List.range params.length).filter (· ∈ occurrences params sql)

/-- A token with its placeholder, which has the parameter's place among those in use. -/
def bindToken (params : List Parameter) (slots : List Nat) (dialect : Dialect) (token : Token) :
    List Char :=
  match token.name?.bind (declared params) |>.bind slots.idxOf? with
  | some slot => dialect.placeholder slot
  | none => token.text

/-- Comments and quoted text stay as they are. -/
def bindRun (params : List Parameter) (slots : List Nat) (dialect : Dialect) (run : Run) :
    List Char :=
  if run.code then (tokens run.text).flatMap (bindToken params slots dialect) else run.text

/-- The text with a placeholder for each reference to a declared parameter. -/
def boundText (sql : List Char) (params : List Parameter) (dialect : Dialect) : List Char :=
  (runs sql).flatMap (bindRun params (used params sql) dialect)

/-- The parameters to bind, in the order the placeholders take them. -/
def bindOrder (sql : List Char) (params : List Parameter) (dialect : Dialect) : List Nat :=
  if dialect.bindsPerOccurrence then occurrences params sql else used params sql

/-- The SQL with placeholders and the parameters to bind to them. -/
def bindPlaceholders (sql : String) (params : List Parameter) (dialect : Dialect) :
    String × List Nat :=
  (.ofList (boundText sql.toList params dialect), bindOrder sql.toList params dialect)

end TypedQuery.Query
