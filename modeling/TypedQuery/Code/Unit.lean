import TypedQuery.Code.Identifier
import TypedQuery.Code.Literal
import TypedQuery.Code.TypeTable
import TypedQuery.Query.Binding

/-! The code emitted for one query: a marker type with the SQL, an input type and four helpers. -/
namespace TypedQuery

/-- What shapes the emitted code: the database, and the path to the crate its helpers call. -/
structure CodegenSettings where
  dialect : Dialect := .postgres
  runtimeCrate : String := "dipper"
  deriving DecidableEq, Repr

/-- The code of one query, with the names of its type and its file. -/
structure GeneratedUnit where
  typeName : String
  fileName : String
  sourceFile : String
  source : String
  deriving DecidableEq, Repr

namespace Code

/-- Lines, each ended by a line feed. -/
def ofLines (lines : List String) : String := String.join (lines.map (· ++ "\n"))

def typeName (queryName : String) : String := typeIdent queryName ++ "Query"

def inputName (queryName : String) : String := typeName queryName ++ "Input"

def fieldLines (param : Parameter) : List String :=
  let field := fieldIdent param.name
  let type := (SqlType.resolve param.sqlType).field
  [s!"    /// The `{param.name}` parameter (`{param.sqlType}`).",
   s!"    pub {field}: {type},"]

/-- The declaration of the input type, a field for each parameter. -/
def inputLines (queryName : String) (params : List Parameter) : List String :=
  let input := inputName queryName
  [s!"/// Input parameters for [`{typeName queryName}`].",
   "#[allow(dead_code, non_camel_case_types, non_snake_case)]",
   "#[derive(Debug, Clone, Default, PartialEq)]"] ++
  if params = [] then [s!"pub struct {input} \x7b\x7d"]
  else [s!"pub struct {input} \x7b"] ++ params.flatMap fieldLines ++ ["\x7d"]

def bindCall (param : Parameter) : String :=
  let field := fieldIdent param.name
  match (SqlType.resolve param.sqlType).bind with
  | .ref => s!".bind(&input.{field})"
  | .display => s!".bind(input.{field}.to_string())"

/-- The calls that bind parameters in the given order. -/
def bindCalls (params : List Parameter) (order : List Nat) : List String :=
  (order.filterMap (params[·]?)).map bindCall

/-- Ends the last line with a semicolon. -/
def endStatement : List String → List String
  | [] => []
  | [line] => [line ++ ";"]
  | line :: rest => line :: endStatement rest

structure Helpers where
  input : String
  settings : CodegenSettings
  result : Option String
  binds : List String

namespace Helpers

def rowType (h : Helpers) : String := h.result.getD h.settings.dialect.row

/-- The type of the rows, or of the only row. -/
def returnType (h : Helpers) (many : Bool) : String :=
  if many then s!"Result<Vec<{h.rowType}>, sqlx::Error>" else s!"Result<{h.rowType}, sqlx::Error>"

def builder (h : Helpers) : String :=
  let database := h.settings.dialect.database
  match h.result with
  | some result => s!"sqlx::query_as::<{database}, {result}>(Self::BOUND_SQL)"
  | none => s!"sqlx::query::<{database}>(Self::BOUND_SQL)"

/-- The statement that makes the query and binds its parameters. -/
def queryLines (h : Helpers) : List String :=
  if h.binds = [] then ["        let _ = input;", s!"        let query = {h.builder};"]
  else s!"        let query = {h.builder}" :: endStatement (h.binds.map ("            " ++ ·))

def signatureLines (h : Helpers) (keyword name : String) (many : Bool) : List String :=
  [s!"    pub {keyword} {name}(",
   s!"        conn: &mut {h.settings.dialect.connection},",
   s!"        input: &{h.input},",
   s!"        transaction: Option<&mut sqlx::Transaction<'_, {h.settings.dialect.database}>>,",
   "        timeout: Option<std::time::Duration>,",
   s!"    ) -> {h.returnType many} \x7b"]

/-- A helper that blocks on its asynchronous counterpart `target`. -/
def blockingLines (h : Helpers) (name target doc : String) (many : Bool) : List String :=
  let runtime := h.settings.runtimeCrate
  ["",
   s!"    /// {doc}",
   "    ///",
   "    /// Blocks the calling thread; needs a multi-threaded Tokio runtime."] ++
  h.signatureLines "fn" name many ++
  [s!"        {runtime}::runtime::block_on(Self::{target}(conn, input, transaction, timeout))",
   "    \x7d"]

def allRowsLines (h : Helpers) : List String :=
  ["", "    /// Executes the query asynchronously and returns all rows."] ++
  h.signatureLines "async fn" "query_async" true ++ h.queryLines ++
  [s!"        {h.settings.runtimeCrate}::runtime::with_timeout(timeout, async move \x7b",
   "            match transaction \x7b",
   "                Some(tx) => query.fetch_all(&mut **tx).await,",
   "                None => query.fetch_all(conn).await,",
   "            \x7d",
   "        \x7d)",
   "        .await",
   "    \x7d"]

def singleRowLines (h : Helpers) : List String :=
  ["",
   "    /// Executes the query asynchronously and returns exactly one row.",
   "    ///",
   "    /// Fails with `RowNotFound` for no rows and a `TooManyRows` decode error for more than one."
  ] ++
  h.signatureLines "async fn" "query_single_async" false ++ h.queryLines ++
  [s!"        {h.settings.runtimeCrate}::runtime::with_timeout(timeout, async move \x7b",
   "            let rows = match transaction \x7b",
   "                Some(tx) => query.fetch_all(&mut **tx).await?,",
   "                None => query.fetch_all(conn).await?,",
   "            \x7d;",
   s!"            {h.settings.runtimeCrate}::runtime::exactly_one(rows)",
   "        \x7d)",
   "        .await",
   "    \x7d"]

def lines (h : Helpers) : List String :=
  h.blockingLines "query" "query_async" "Executes the query and returns all rows." true ++
  h.blockingLines "query_single" "query_single_async"
    "Executes the query and returns exactly one row." false ++
  h.allRowsLines ++ h.singleRowLines

end Helpers

def helpers (metadata : QueryMetadata) (settings : CodegenSettings) : Helpers :=
  let order := (Query.bindPlaceholders metadata.cleanedSql metadata.parameters settings.dialect).2
  { input := inputName metadata.queryName
    settings
    result := metadata.resultType.map resultPath
    binds := bindCalls metadata.parameters order }

def bannerLine (sourceFile : String) : String :=
  s!"// @generated by dipper from `{sourceFile}`. Do not edit."

def docLine (queryName sourceFile : String) : String :=
  s!"/// Query `{queryName}` from `{sourceFile}`."

def headLines (metadata : QueryMetadata) : List String :=
  let type := typeName metadata.queryName
  [bannerLine metadata.sourceFile,
   "",
   docLine metadata.queryName metadata.sourceFile,
   "#[allow(dead_code, non_camel_case_types)]",
   "#[derive(Debug, Clone, Copy, Default)]",
   s!"pub struct {type};",
   ""] ++
  inputLines metadata.queryName metadata.parameters ++
  ["",
   "#[allow(dead_code)]",
   s!"impl {type} \x7b",
   "    /// The SQL query text."]

def constantHead (name : String) : String := s!"    pub const {name}: &'static str = "

def constantLine (name value : String) : String := constantHead name ++ stringLiteral value ++ ";"

def boundDocLine (dialect : Dialect) : String :=
  s!"    /// [`Self::SQL`] with parameters rewritten to {dialect.name} placeholders."

def unitLines (metadata : QueryMetadata) (settings : CodegenSettings) : List String :=
  let bound := (Query.bindPlaceholders metadata.cleanedSql metadata.parameters settings.dialect).1
  headLines metadata ++
  [constantLine "SQL" metadata.cleanedSql,
   "",
   boundDocLine settings.dialect,
   constantLine "BOUND_SQL" bound] ++
  (helpers metadata settings).lines ++
  ["\x7d"]

end Code

namespace GeneratedUnit

def ofMetadata (metadata : QueryMetadata) (settings : CodegenSettings) : GeneratedUnit :=
  let type := Code.typeName metadata.queryName
  { typeName := type
    fileName := type ++ ".g.rs"
    sourceFile := metadata.sourceFile
    source := Code.ofLines (Code.unitLines metadata settings) }

def ofSource (unit : SourceUnit) (settings : CodegenSettings) : GeneratedUnit :=
  ofMetadata (.ofSource unit) settings

end GeneratedUnit
end TypedQuery
