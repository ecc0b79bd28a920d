import TypedQuery.Json.Reader
import TypedQuery.Settings.Basic

/-! The JSON form of each record. -/
namespace TypedQuery

open Json (Reader RecordForm)

namespace Dialect

def reader : Reader Dialect := Reader.variant (all.map name) ofName?

def toJson (dialect : Dialect) : Json := .string dialect.name

end Dialect

namespace SourceUnit

def form : RecordForm :=
  ⟨"SourceUnit",
    [("name", Reader.string.check), ("file_name", Reader.string.check),
     ("text", Reader.string.check)]⟩

def reader : Reader SourceUnit := fun json => do
  let parts ← form.parts json
  let name ← form.required parts 0 Reader.string
  let fileName ← form.required parts 1 Reader.string
  let text ← form.required parts 2 Reader.string
  form.close parts
  return { name, fileName, text }

def toJson (unit : SourceUnit) : Json :=
  .object [("name", .string unit.name), ("file_name", .string unit.fileName),
    ("text", .string unit.text)]

end SourceUnit

namespace Parameter

def form : RecordForm :=
  ⟨"Parameter", [("name", Reader.string.check), ("sql_type", Reader.string.check)]⟩

def reader : Reader Parameter := fun json => do
  let parts ← form.parts json
  let name ← form.required parts 0 Reader.string
  let sqlType ← form.required parts 1 Reader.string
  form.close parts
  return { name, sqlType }

def toJson (param : Parameter) : Json :=
  .object [("name", .string param.name), ("sql_type", .string param.sqlType)]

end Parameter

namespace QueryMetadata

def form : RecordForm :=
  ⟨"QueryMetadata",
    [("query_name", Reader.string.check), ("result_type", Reader.string.nullable.check),
     ("parameters", Parameter.reader.list.check), ("cleaned_sql", Reader.string.check),
     ("source_file", Reader.string.check)]⟩

def reader : Reader QueryMetadata := fun json => do
  let parts ← form.parts json
  let queryName ← form.required parts 0 Reader.string
  let resultType ← form.optional parts 1 Reader.string
  let parameters ← form.required parts 2 Parameter.reader.list
  let cleanedSql ← form.required parts 3 Reader.string
  let sourceFile ← form.required parts 4 Reader.string
  form.close parts
  return { queryName, resultType, parameters, cleanedSql, sourceFile }

def toJson (metadata : QueryMetadata) : Json :=
  .object [("query_name", .string metadata.queryName),
    ("result_type", (metadata.resultType.map Json.string).getD .null),
    ("parameters", .array (metadata.parameters.map Parameter.toJson)),
    ("cleaned_sql", .string metadata.cleanedSql),
    ("source_file", .string metadata.sourceFile)]

end QueryMetadata

namespace GeneratedUnit

def form : RecordForm :=
  ⟨"GeneratedUnit",
    [("type_name", Reader.string.check), ("file_name", Reader.string.check),
     ("source_file", Reader.string.check), ("source", Reader.string.check)]⟩

def reader : Reader GeneratedUnit := fun json => do
  let parts ← form.parts json
  let typeName ← form.required parts 0 Reader.string
  let fileName ← form.required parts 1 Reader.string
  let sourceFile ← form.required parts 2 Reader.string
  let source ← form.required parts 3 Reader.string
  form.close parts
  return { typeName, fileName, sourceFile, source }

def toJson (unit : GeneratedUnit) : Json :=
  .object [("type_name", .string unit.typeName), ("file_name", .string unit.fileName),
    ("source_file", .string unit.sourceFile), ("source", .string unit.source)]

end GeneratedUnit

namespace CodegenSettings

def form : RecordForm :=
  ⟨"CodegenConfig",
    [("dialect", Dialect.reader.check), ("runtime_crate", Reader.string.check)]⟩

def reader : Reader CodegenSettings := fun json => do
  let parts ← form.parts json
  let defaults : CodegenSettings := {}
  let dialect ← form.defaulted parts 0 Dialect.reader defaults.dialect
  let runtimeCrate ← form.defaulted parts 1 Reader.string defaults.runtimeCrate
  form.close parts
  return { dialect, runtimeCrate }

def toJson (settings : CodegenSettings) : Json :=
  .object [("dialect", settings.dialect.toJson), ("runtime_crate", .string settings.runtimeCrate)]

end CodegenSettings

namespace BuildSettings

def form : RecordForm :=
  ⟨"BuildConfig", [("queries_dir", Reader.path.check), ("index_file", Reader.string.check)]⟩

def reader : Reader BuildSettings := fun json => do
  let parts ← form.parts json
  let defaults : BuildSettings := {}
  let queriesDir ← form.defaulted parts 0 Reader.path defaults.queriesDir
  let indexFile ← form.defaulted parts 1 Reader.string defaults.indexFile
  form.close parts
  return { queriesDir, indexFile }

def toJson (settings : BuildSettings) : Json :=
  .object [("queries_dir", .string settings.queriesDir), ("index_file", .string settings.indexFile)]

end BuildSettings

namespace Settings

def form : RecordForm :=
  ⟨"Config", [("codegen", CodegenSettings.reader.check), ("build", BuildSettings.reader.check)]⟩

def reader : Reader Settings := fun json => do
  let parts ← form.parts json
  let codegen ← form.defaulted parts 0 CodegenSettings.reader {}
  let build ← form.defaulted parts 1 BuildSettings.reader {}
  form.close parts
  return { codegen, build }

def toJson (settings : Settings) : Json :=
  .object [("codegen", settings.codegen.toJson), ("build", settings.build.toJson)]

end Settings
end TypedQuery
