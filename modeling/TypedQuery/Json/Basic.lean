/-! JSON values. -/
namespace TypedQuery

/-- A JSON value. A number without a fraction or an exponent is an integer as far as 64 bits
reach. -/
inductive Json where
  | null
  | bool (value : Bool)
  | int (value : Int)
  | float (value : Float)
  | string (value : String)
  | array (items : List Json)
  | object (members : List (String × Json))
  deriving Inhabited

namespace Json

/-- Puts a member among those sorted by name, in place of one of the same name. -/
def insertMember (name : String) (value : Json) :
    List (String × Json) → List (String × Json)
  | [] => [(name, value)]
  | (other, v) :: rest =>
    if name = other then (name, value) :: rest
    else if name < other then (name, value) :: (other, v) :: rest
    else (other, v) :: insertMember name value rest

/-- The object with the given members, sorted by name. The last one of each name counts. -/
def ofMembers (members : List (String × Json)) : Json :=
  .object (members.foldl (fun sorted (name, value) => insertMember name value sorted) [])

def get? (json : Json) (name : String) : Option Json :=
  match json with
  | .object members => members.lookup name
  | _ => none

end Json
end TypedQuery
