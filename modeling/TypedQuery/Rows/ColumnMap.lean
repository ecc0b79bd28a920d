/-! Column maps and their registry. -/
namespace TypedQuery.Rows

/-- The columns that the fields of a row type are stored in. -/
structure ColumnMap where
  type : String
  columns : List (String × String)
  deriving DecidableEq, Repr

namespace ColumnMap

/-- The map of a type, where `columnsOf` says which columns each type declares. -/
def of (columnsOf : String → List (String × String)) (type : String) : ColumnMap :=
  ⟨type, columnsOf type⟩

def column? (map : ColumnMap) (field : String) : Option String :=
  (map.columns.find? (·.1 = field)).map (·.2)

def field? (map : ColumnMap) (column : String) : Option String :=
  (map.columns.find? (·.2 = column)).map (·.1)

end ColumnMap

/-- The maps that are registered, one for each type. -/
structure Registry where
  maps : List ColumnMap
  deriving DecidableEq, Repr

namespace Registry

def empty : Registry := ⟨[]⟩

def get? (registry : Registry) (type : String) : Option ColumnMap :=
  registry.maps.find? (·.type = type)

/-- Registers a map in place of an earlier one of the same type. -/
def insert (registry : Registry) (map : ColumnMap) : Registry :=
  ⟨map :: registry.maps.filter (·.type ≠ map.type)⟩

/-- Registers maps one after the other and answers how many they are. A type that is listed twice
counts twice. -/
def install (registry : Registry) (maps : List ColumnMap) : Nat × Registry :=
  (maps.length, maps.foldl insert registry)

/-- The registry in which maps are registered. -/
def register (registry : Registry) (maps : List ColumnMap) : Registry := (registry.install maps).2

def columnFor? (registry : Registry) (type field : String) : Option String :=
  (registry.get? type).bind (·.column? field)

def fieldFor? (registry : Registry) (type column : String) : Option String :=
  (registry.get? type).bind (·.field? column)

theorem get?_insert_same (registry : Registry) (map : ColumnMap) :
    (registry.insert map).get? map.type = some map := by
  simp [get?, insert]

theorem get?_insert_other (registry : Registry) (map : ColumnMap) {type : String}
    (h : type ≠ map.type) : (registry.insert map).get? type = registry.get? type := by
  simp only [get?, insert, List.find?_cons, show decide (map.type = type) = false by
    simpa using Ne.symm h, List.find?_filter]
  congr 1
  funext other
  by_cases ho : other.type = type
  · simp [ho, h]
  · simp [ho]

end Registry
end TypedQuery.Rows
