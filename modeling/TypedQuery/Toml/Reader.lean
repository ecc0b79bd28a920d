import TypedQuery.Text.Quoted
import TypedQuery.Toml.Misfit

/-! Reading records from TOML items. -/
namespace TypedQuery.Toml

/-- How a scalar is named in a report. A date or a time counts as a map. -/
def Scalar.describe : Scalar → String
  | .string value => "string " ++ .ofList (Text.quoted value.toList)
  | .int value => s!"integer `{value}`"
  | .float value => s!"floating point `{Decimal.positionalText value}`"
  | .bool value => s!"boolean `{value}`"
  | .moment => "map"

def Scalar.kind : Scalar → String
  | .string _ => "string"
  | .int _ => "integer"
  | .float _ => "float"
  | .bool _ => "boolean"
  | .moment => "datetime"

def Item.describe : Item → String
  | .scalar _ value => value.describe
  | .array _ _ | .tables _ => "sequence"
  | .inline _ _ _ | .table _ _ _ => "map"

abbrev Reader (α : Type) := Item → Except Misfit α

namespace Reader

def mismatch {α : Type} (expected : String) (item : Item) : Except Misfit α :=
  .error ⟨item.span?, .invalidType item.describe expected⟩

/-- A string; `expected` is the word for it in a report. -/
def string (expected : String) : Reader String
  | .scalar _ (.string value) => .ok value
  | item => mismatch expected item

def empty : Reader Unit
  | .array _ [] | .tables [] | .inline _ _ [] | .table _ _ [] => .ok ()
  | item@(.array _ _) | item@(.tables _) => .error ⟨item.span?, .content "empty array"⟩
  | item@(.inline _ _ _) | item@(.table _ _ _) => .error ⟨item.span?, .content "empty table"⟩
  | .scalar span value => .error ⟨some span, .content s!"table, found {value.kind}"⟩

/-- A variant, by its name or as a table with that name and an empty content. -/
def variant {α : Type} (names : List String) (ofName? : String → Option α) : Reader α := fun item =>
  match item with
  | .scalar span (.string name) => named span name
  | .inline span _ members | .table span _ members =>
    match members with
    | [] => .error ⟨span, .noElement⟩
    | [(key, content)] => do
      let value ← named key.span key.name
      empty content
      return value
    | _ => .error ⟨span, .manyElements⟩
  | item => .error ⟨item.span?, .noVariant⟩
where
  named (span : Span) (name : String) : Except Misfit α :=
    match ofName? name with
    | some value => .ok value
    | none => .error ⟨some span, .unknownVariant name names⟩

end Reader

/-- The form of a record: its name and how each of its fields, in order, is put into it. -/
structure RecordForm (α : Type) where
  name : String
  fields : List (String × (Item → α → Except Misfit α))

namespace RecordForm

/-- Puts members into a record one after the other; those of other names are left out. -/
def putMembers {α : Type} (form : RecordForm α) (members : Members) (record : α) :
    Except Misfit α :=
  members.foldlM (fun record (key, item) =>
    match form.fields.lookup key.name with
    | some put => (put item record).mapError (·.orAt (item.span?.or key.span))
    | none => .ok record) record

/-- Puts items into a record by their places; those beyond the fields are left out. -/
def putItems {α : Type} (form : RecordForm α) (items : List Item) (record : α) :
    Except Misfit α :=
  (form.fields.zip items).foldlM (fun record ((_, put), item) => put item record) record

/-- Reads a record as a change to its defaults. -/
def reader {α : Type} (form : RecordForm α) (defaults : α) : Reader α := fun item =>
  match item with
  | .inline _ _ members | .table _ _ members => form.putMembers members defaults
  | .array _ items | .tables items => form.putItems items defaults
  | .scalar _ .moment => .ok defaults
  | item => Reader.mismatch s!"struct {form.name}" item

end RecordForm
end TypedQuery.Toml
