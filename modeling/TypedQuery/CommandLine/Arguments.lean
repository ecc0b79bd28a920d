import TypedQuery.Dialect

/-! Reading a command line. -/
namespace TypedQuery.CommandLine

inductive Command where
  /-- Generate units for a directory, by default the one in the settings. -/
  | generate (dir : Option String) (out : String) (dialect : Option Dialect)
  /-- Show what a file declares, as JSON or with the code it becomes. -/
  | explain (file : String) (json : Bool) (dialect : Option Dialect)
  | types
  deriving DecidableEq, Repr

structure Invocation where
  settingsFile : Option String
  verbose : Bool
  command : Command
  deriving DecidableEq, Repr

inductive Stop where
  | refused
  | version
  | help
  deriving DecidableEq, Repr

/-- An option: how it is written, and which values it takes, if it takes one. -/
structure Flag where
  word : String
  letter : Option Char := none
  accepts : Option (String → Bool) := none
  stop : Option Stop := none

/-- What is read on one level of a command line: options by their words, and other arguments. -/
structure Found where
  options : List (String × String) := []
  operands : List String := []

/-- One level of a command line: its options, how many operands it takes, and its commands. -/
structure Level where
  flags : List Flag
  operandLimit : Nat := 0
  commands : List String := []

def isPath (text : String) : Bool := text ≠ ""

def isDialect (text : String) : Bool := (Dialect.parse text).toBool

namespace Found

/-- Adds an option, which may stand only once. -/
def addOption (found : Found) (flag : Flag) (value : String) : Except Stop Found :=
  match flag.stop with
  | some stop => .error stop
  | none =>
    if (found.options.lookup flag.word).isSome then .error .refused
    else if flag.accepts.all (· value) then
      .ok { found with options := found.options ++ [(flag.word, value)] }
    else .error .refused

/-- Adds an operand, which is a path. -/
def addOperand (found : Found) (limit : Nat) (value : String) : Except Stop Found :=
  if found.operands.length < limit ∧ isPath value then
    .ok { found with operands := found.operands ++ [value] }
  else .error .refused

end Found

/-- Whether an argument can be the value of the option before it. -/
def isDetachedValue (text : String) : Bool := text = "-" || text.toList.head? ≠ some '-'

namespace Level

def word? (level : Level) (word : String) : Option Flag := level.flags.find? (·.word = word)

def letter? (level : Level) (letter : Char) : Option Flag :=
  level.flags.find? (·.letter = some letter)

/-- Reads options written as letters. The last one may have its value attached, with or without
an equals sign; one without a value waits for the next argument. -/
def readLetters (level : Level) (found : Found) : List Char → Except Stop (Found × Option Flag)
  | [] => .ok (found, none)
  | c :: rest =>
    match level.letter? c with
    | none => .error .refused
    | some flag =>
      if flag.accepts.isNone then do
        level.readLetters (← found.addOption flag "") rest
      else
        match rest with
        | [] => .ok (found, some flag)
        | '=' :: value => do return (← found.addOption flag (.ofList value), none)
        | value => do return (← found.addOption flag (.ofList value), none)

/-- Reads an option written as a word, with its value after an equals sign or to come. -/
def readWord (level : Level) (found : Found) (text : List Char) :
    Except Stop (Found × Option Flag) :=
  match level.word? (.ofList (text.takeWhile (· ≠ '='))), text.dropWhile (· ≠ '=') with
  | none, _ => .error .refused
  | some flag, [] =>
    if flag.accepts.isNone then do return (← found.addOption flag "", none)
    else .ok (found, some flag)
  | some flag, _ :: value =>
    if flag.accepts.isNone then .error .refused
    else do return (← found.addOption flag (.ofList value), none)

/-- Reads arguments up to a command, which is left with the arguments after it. `pending` is the
option that waits for its value. After two dashes all arguments are operands. -/
def read (level : Level) (found : Found) (pending : Option Flag) :
    List String → Except Stop (Found × Option (String × List String))
  | [] => if pending.isSome then .error .refused else .ok (found, none)
  | arg :: rest =>
    match pending with
    | some flag =>
      if isDetachedValue arg then do level.read (← found.addOption flag arg) none rest
      else .error .refused
    | none =>
      match arg.toList with
      | ['-', '-'] => do
        return (← rest.foldlM (fun found arg => found.addOperand level.operandLimit arg) found, none)
      | '-' :: '-' :: text => do
        let (found, pending) ← level.readWord found text
        level.read found pending rest
      | '-' :: c :: text => do
        let (found, pending) ← level.readLetters found (c :: text)
        level.read found pending rest
      | _ =>
        if level.commands = [] then do
          level.read (← found.addOperand level.operandLimit arg) none rest
        else if arg ∈ level.commands then .ok (found, some (arg, rest))
        else .error .refused

end Level

def commonFlags : List Flag :=
  [{ word := "config", letter := some 'c', accepts := some isPath },
   { word := "verbose", letter := some 'v' },
   { word := "help", letter := some 'h', stop := some .help }]

def dialectFlag : Flag := { word := "dialect", accepts := some isDialect }

def topLevel : Level :=
  { flags := commonFlags ++ [{ word := "version", letter := some 'V', stop := some .version }]
    commands := ["generate", "explain", "types", "help"] }

def generateLevel : Level :=
  { flags := commonFlags ++
      [{ word := "out", letter := some 'o', accepts := some isPath }, dialectFlag]
    operandLimit := 1 }

def explainLevel : Level :=
  { flags := commonFlags ++ [{ word := "json" }, dialectFlag], operandLimit := 1 }

def typesLevel : Level := { flags := commonFlags }

namespace Found

def option? (found : Found) (word : String) : Option String := found.options.lookup word

def dialect? (found : Found) : Option Dialect :=
  (found.option? "dialect").bind fun text => (Dialect.parse text).toOption

end Found

def command (name : String) (found : Found) : Except Stop Command :=
  match name with
  | "generate" =>
    .ok (.generate found.operands.head? ((found.option? "out").getD "generated") found.dialect?)
  | "explain" =>
    match found.operands.head? with
    | some file => .ok (.explain file (found.option? "json").isSome found.dialect?)
    | none => .error .refused
  | _ => .ok .types

def levelOf (name : String) : Level :=
  match name with
  | "generate" => generateLevel
  | "explain" => explainLevel
  | _ => typesLevel

/-- Reads a command line. An option after the command goes before one in front of it, and `default`
goes last. It has to be a path unless there is an option on each level. -/
def parse (default : Option String) (args : List String) : Except Stop Invocation := do
  match ← topLevel.read {} none args with
  | (_, none) => .error .refused
  | (_, some ("help", rest)) =>
    if rest.all (topLevel.commands.contains ·) ∧ rest.length ≤ 1 then .error .help
    else .error .refused
  | (outer, some (name, rest)) =>
    let (inner, _) ← (levelOf name).read {} none rest
    let command ← command name inner
    let given := [inner, outer].filterMap (·.option? "config")
    if given.length < 2 ∧ default.any (!isPath ·) then .error .refused
    else
      return {
        settingsFile := given.head?.or default
        verbose := [outer, inner].any fun found => (found.option? "verbose").isSome
        command }

end TypedQuery.CommandLine
