import TypedQuery.Build.Script
import TypedQuery.CommandLine.Arguments
import TypedQuery.CommandLine.Paint
import TypedQuery.Json.Printer
import TypedQuery.Json.Records

/-! Running commands. -/
namespace TypedQuery.CommandLine

structure Exit where
  code : Nat
  stdout : String
  stderr : String
  store : Store

/-- A failure, and whether it came up while settings were loaded. -/
structure Trouble where
  loading : Bool
  failure : Failure
  deriving DecidableEq, Repr

/-- The failure with what it came up in before it and what lies behind it after it. -/
def Trouble.text (trouble : Trouble) : String :=
  ": ".intercalate <|
    (if trouble.loading then ["failed to load config"] else []) ++
    [trouble.failure.message] ++ trouble.failure.cause?.toList

/-- Colours are on where a variable forces them. -/
def colours (host : Host) : Bool := (host.lookup? "CLICOLOR_FORCE").any (· ≠ "0")

def versionText : String := "dipper 0.1.0\n"

def usageText : String :=
  Code.ofLines
    ["Typed sqlx query wrappers from annotated .sql files",
     "",
     "Usage: dipper [OPTIONS] <COMMAND>",
     "",
     "Commands:",
     "  generate  Generate .g.rs units for a directory of .sql files",
     "  explain   Show the metadata extracted from a file and the generated code",
     "  types     Show the SQL type to Rust type table"]

def typesText (colours : Bool) : String :=
  let paint := paint colours
  Code.ofLines <|
    [paint [.bold, .cyan] "SQL Type Reference",
     "",
     paint [.bold, .white] (padTo 14 "SQL") ++ " " ++ paint [.bold, .white] "Rust",
     paint [.dimmed] (.ofList (List.replicate 48 '─'))] ++
    Code.SqlType.table.map (fun row =>
      paint [.cyan] (padTo 14 row.token) ++ " " ++ paint [.yellow] row.field) ++
    ["", paint [.dimmed] "Unknown tokens map to String."]

/-- What a file declares, and the code it becomes. -/
def explainText (colours : Bool) (unit : SourceUnit) (settings : CodegenSettings) : String :=
  let paint := paint colours
  let metadata := QueryMetadata.ofSource unit
  let generated := GeneratedUnit.ofMetadata metadata settings
  let result :=
    match metadata.resultType with
    | some result => paint [.white] result
    | none => paint [.dimmed] "(untyped rows)"
  let parameter (param : Parameter) : String :=
    let type := (Code.SqlType.resolve param.sqlType).field
    s!"    • {paint [.white] param.name} {paint [.yellow] param.sqlType} → {paint [.cyan] type}"
  let parameters :=
    if metadata.parameters = [] then []
    else ("  " ++ paint [.dimmed] "Parameters:") :: metadata.parameters.map parameter
  Code.ofLines <|
    [paint [.bold, .cyan] "Query Explanation",
     "",
     "  " ++ paint [.dimmed] "File:" ++ " " ++ paint [.yellow] unit.fileName,
     "  " ++ paint [.dimmed] "Name:" ++ " " ++ paint [.white] metadata.queryName,
     "  " ++ paint [.dimmed] "Result:" ++ " " ++ result] ++
    parameters ++
    ["",
     paint [.bold, .green] "Generated:" ++ " " ++ paint [.white] generated.fileName,
     generated.source]

def summaryText (colours : Bool) (summary : Build.WriteSummary) : String :=
  let paint := paint colours
  let written := paint [.cyan] (toString summary.written)
  let unchanged := paint [.dimmed] (toString summary.unchanged)
  Code.ofLines
    [paint [.green] "✓" ++ s!" {written} written, {unchanged} unchanged",
     "  " ++ paint [.dimmed] "Index:" ++ " " ++ summary.index.display]

/-- The settings with a dialect that was asked for. -/
def withDialect (settings : Settings) (dialect : Option Dialect) : Settings :=
  { settings with
    codegen := { settings.codegen with dialect := dialect.getD settings.codegen.dialect } }

/-- What a command prints, and the files after it. -/
def perform (host : Host) (settings : Settings) : Command → Except Failure String × Store
  | .types => (.ok (typesText (colours host)), host.store)
  | .explain file json dialect =>
    let shown :=
      (Build.readSource host (.ofString file)).map fun unit =>
        if json then (QueryMetadata.ofSource unit).toJson.pretty ++ "\n"
        else explainText (colours host) unit (withDialect settings dialect).codegen
    (shown, host.store)
  | .generate dir out dialect =>
    let settings := withDialect settings dialect
    let queries := dir.getD settings.build.queriesDir
    let (result, store) :=
      Build.generateInto settings host (.ofString queries) (.ofString out) fun _ => false
    (result.map (summaryText (colours host)), store)

def execute (host : Host) (invocation : Invocation) : Except Trouble String × Store :=
  match Settings.load host (invocation.settingsFile.map .ofString) with
  | .error failure => (.error ⟨true, failure⟩, host.store)
  | .ok settings =>
    let (result, store) := perform host settings invocation.command
    (result.mapError (⟨false, ·⟩), store)

def run (host : Host) (args : List String) : Exit :=
  match parse (host.lookup? "DIPPER_CONFIG") args with
  | .error .version => ⟨0, versionText, "", host.store⟩
  | .error .help => ⟨0, usageText, "", host.store⟩
  | .error .refused => ⟨2, "", usageText, host.store⟩
  | .ok invocation =>
    match execute host invocation with
    | (.ok text, store) => ⟨0, text, "", store⟩
    | (.error trouble, store) =>
      ⟨1, "", paint (colours host) [.bold, .red] "Error:" ++ " " ++ trouble.text ++ "\n", store⟩

end TypedQuery.CommandLine
