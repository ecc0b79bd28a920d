import TypedQuery.Decimal.Layout
import TypedQuery.Json.Basic
import TypedQuery.Text.Quoted
import TypedQuery.Text.Variant

/-! Reading records from JSON values. -/
namespace TypedQuery.Json

inductive ReadError where
  /-- A value of another kind than `expected`. -/
  | invalidType (found : Json) (expected : String)
  | invalidLength (length : Nat) (expected : String)
  | missingField (name : String)
  | unknownVariant (name : String) (variants : List String)
  /-- An object for a variant that has not exactly one member. -/
  | notSingleMember

def describe : Json → String
  | .null => "null"
  | .bool value => s!"boolean `{value}`"
  | .int value => s!"integer `{value}`"
  | .float value => s!"floating point `{Decimal.compactText value}`"
  | .string value => "string " ++ .ofList (Text.quoted value.toList)
  | .array _ => "sequence"
  | .object _ => "map"

def ReadError.message : ReadError → String
  | .invalidType found expected => s!"invalid type: {found.describe}, expected {expected}"
  | .invalidLength length expected => s!"invalid length {length}, expected {expected}"
  | .missingField name => s!"missing field `{name}`"
  | .unknownVariant name variants => Text.unknownVariant name variants
  | .notSingleMember => "invalid value: map, expected map with a single key"

abbrev Reader (α : Type) := Json → Except ReadError α

namespace Reader

def string : Reader String
  | .string value => .ok value
  | other => .error (.invalidType other "a string")

/-- A path given as text. -/
def path : Reader String
  | .string value => .ok value
  | other => .error (.invalidType other "path string")

/-- A value that null stands in for. -/
def nullable {α : Type} (reader : Reader α) : Reader (Option α)
  | .null => .ok none
  | other => (reader other).map some

def list {α : Type} (reader : Reader α) : Reader (List α)
  | .array items => items.mapM reader
  | other => .error (.invalidType other "a sequence")

/-- A variant, by its name or as an object with that name and null. -/
def variant {α : Type} (names : List String) (ofName? : String → Option α) : Reader α
  | .string name => named name
  | .object [(name, content)] => do
    let value ← named name
    match content with
    | .null => .ok value
    | other => .error (.invalidType other "unit")
  | .object _ => .error .notSingleMember
  | other => .error (.invalidType other "string or map")
where
  named (name : String) : Except ReadError α :=
    match ofName? name with
    | some value => .ok value
    | none => .error (.unknownVariant name names)

def check {α : Type} (reader : Reader α) : Reader Unit := fun json => (reader json).map fun _ => ()

end Reader

/-- The form of a record: its name and its fields in order. -/
structure RecordForm where
  name : String
  fields : List (String × Reader Unit)

/-- The parts of a record that is being read. -/
inductive Parts where
  /-- Parts of an object, found by name. -/
  | named (members : List (String × Json))
  /-- Parts of an array, found by place. -/
  | placed (items : List Json)

namespace RecordForm

def expected (form : RecordForm) : String :=
  s!"struct {form.name} with {form.fields.length} elements"

/-- The parts of a record. In an object the fields are checked in the order of its members, and
members of other names are left out of account. -/
def parts (form : RecordForm) : Reader Parts
  | .object members => do
    for (name, value) in members do
      if let some reader := form.fields.lookup name then reader value
    return .named members
  | .array items => .ok (.placed items)
  | other => .error (.invalidType other s!"struct {form.name}")

/-- The part that belongs to the field at `place`, if there is one. -/
def part? (form : RecordForm) (parts : Parts) (place : Nat) : Option Json :=
  match parts with
  | .named members => form.fields[place]?.bind fun (name, _) => members.lookup name
  | .placed items => items[place]?

/-- The error about the absence of a field. -/
def absent (form : RecordForm) (parts : Parts) (place : Nat) : ReadError :=
  match parts with
  | .named _ => .missingField ((form.fields[place]?.map (·.1)).getD "")
  | .placed _ => .invalidLength place form.expected

def required {α : Type} (form : RecordForm) (parts : Parts) (place : Nat) (reader : Reader α) :
    Except ReadError α :=
  match form.part? parts place with
  | some json => reader json
  | none => .error (form.absent parts place)

/-- A field that an object may leave out. -/
def optional {α : Type} (form : RecordForm) (parts : Parts) (place : Nat) (reader : Reader α) :
    Except ReadError (Option α) :=
  match form.part? parts place, parts with
  | some json, _ => reader.nullable json
  | none, .named _ => .ok none
  | none, .placed _ => .error (form.absent parts place)

def defaulted {α : Type} (form : RecordForm) (parts : Parts) (place : Nat) (reader : Reader α)
    (default : α) : Except ReadError α :=
  match form.part? parts place with
  | some json => reader json
  | none => .ok default

/-- Refuses an array with more elements than the record has fields. -/
def close (form : RecordForm) : Parts → Except ReadError Unit
  | .named _ => .ok ()
  | .placed items =>
    if items.length ≤ form.fields.length then .ok ()
    else .error (.invalidLength items.length "fewer elements in array")

end RecordForm
end TypedQuery.Json
