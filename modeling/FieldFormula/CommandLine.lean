import FieldFormula.CommandLine.Batch
import FieldFormula.CommandLine.Command
import FieldFormula.CommandLine.FieldFile
import FieldFormula.CommandLine.Workspace
import FieldFormula.Expr.FieldNames
import FieldFormula.Registry.Builtin
import FieldFormula.Registry.Listing

/-!
# The command line

`CommandLine.run` is what the program does with its arguments: the bytes that it prints,
its messages, its exit code and the file that it writes.  A command that fails keeps what
it printed before.
-/

namespace FieldFormula.CommandLine

open Csv

/-- The result of running the program. -/
structure Outcome where
  code : Nat
  output : List UInt8
  messages : String
  /-- The path and the content of the file that is written, if any. -/
  written : Option (String × List UInt8)

/-- An error: what failed, and the cause if there is one. -/
structure Failure where
  what : String
  cause : Option String

namespace Outcome

/-- Success with some lines printed and messages on the side. -/
def lines (ls : List String) (messages : String) : Outcome :=
  ⟨0, Text.encode (ls.flatMap fun l => l.toList ++ ['\n']), messages, none⟩

/-- A text with four blanks in front of each of its lines. -/
def inset (s : String) : String :=
  String.ofList ("    ".toList ++ s.toList.flatMap fun c =>
    if c = '\n' then '\n' :: "    ".toList else [c])

/-- The message of a failure. -/
def failureMessage (f : Failure) : String :=
  "Error: " ++ f.what ++
    (match f.cause with
      | some cause => "\n\nCaused by:\n" ++ inset cause
      | none => "") ++ "\n"

/-- A failure. -/
def failed (f : Failure) : Outcome :=
  ⟨1, [], failureMessage f, none⟩

/-- The outcome of a computation that may fail. -/
def ofExcept : Except Failure Outcome → Outcome
  | .ok o => o
  | .error f => failed f

end Outcome

/-! ### Formulas -/

/-- The source of a formula. -/
def readSource (w : Workspace) : Source → Except Failure String
  | .given text => .ok text
  | .file path =>
    match w.readText path with
    | .ok s => .ok (String.ofList s)
    | .error cause => .error ⟨"Failed to read '" ++ path ++ "'", some cause⟩
  | .missing => .error ⟨"No formula given: pass FORMULA or --file", none⟩

/-- The formula that a source spells. -/
def readFormula (w : Workspace) (s : Source) : Except Failure Expr := do
  match Expr.ofSource (← readSource w s) with
  | .ok e => return e
  | .error e => throw ⟨"Failed to parse formula", some e.message⟩

/-- The field values in a JSON file. -/
def readFields (w : Workspace) (path : String) : Except Failure (List (String × String)) :=
  match w.readText path with
  | .error cause => .error ⟨"Failed to read '" ++ path ++ "'", some cause⟩
  | .ok s =>
    match fieldsOfJson s with
    | .ok fields => .ok fields
    | .error cause => .error ⟨"'" ++ path ++ "' is not a JSON object", some cause⟩

/-- The text of a formula's value, where `draw` is the fraction for random results. -/
def valueText (draw : Float) (e : Expr) (fields : FieldMap) : List Char :=
  (e.evaluate ⟨.builtin, some fields, draw⟩).chars

/-! ### Commands -/

/-- The message for a field without a value. -/
def unresolvedMessage (name : String) : String :=
  "Warning: field '" ++ name ++ "' has no value\n"

/-- Prints the value of a formula. -/
def eval (draw : Float) (w : Workspace) (source : Source) (fields : List (String × String))
    (fieldFile : Option String) (warn : Bool) : Except Failure Outcome := do
  let e ← readFormula w source
  let fromFile ← match fieldFile with
    | some path => readFields w path
    | none => pure []
  let m := FieldMap.ofPairs (fromFile ++ fields)
  let messages := if warn then (e.unresolved m).map unresolvedMessage else []
  return .lines [String.ofList (valueText draw e m)] (String.join messages)

/-- Prints the names of the fields of a formula. -/
def listFields (w : Workspace) (source : Source) : Except Failure Outcome := do
  let s ← readSource w source
  return .lines (Token.fieldNames (Token.ofSource s)) ""

/-- Prints the structure of a formula. -/
def inspect (w : Workspace) (source : Source) : Except Failure Outcome := do
  let e ← readFormula w source
  return .lines (e.outline.map String.ofList ++ ["Depth: " ++ toString e.depth]) ""

/-- Prints the functions, or those of one availability. -/
def listFunctions (availability : Option Availability) (asJson : Bool) : Outcome :=
  let ds := Registry.builtin.definitions.filter fun d => availability.all (d.availability = ·)
  if asJson then
    .lines [String.ofList ((Json.array (ds.map (·.json))).indented 0)] ""
  else
    .lines (ds.map (·.row)) (Registry.builtin.summary.line ++ "\n")

/-- Prints the description of a function. -/
def describe (name : String) : Except Failure Outcome :=
  match Registry.builtin.get? name with
  | some d => .ok (.lines d.page "")
  | none => .error ⟨"Unknown function '" ++ name ++ "'", none⟩

/-- The records of a file. -/
def readRecords (w : Workspace) (input : String) : Except Failure (List Record) :=
  match w.read input with
  | .ok bytes => .ok (records bytes)
  | .error .isDirectory =>
    .error ⟨"Failed to read headers from '" ++ input ++ "'", some FileError.isDirectory.message⟩
  | .error e => .error ⟨"Failed to open '" ++ input ++ "'", some e.message⟩

/-- The titles of the first record, as fields and as texts, and the records behind it. -/
def splitHeader (input : String) :
    List Record → Except Failure (List Field × List String × List Record)
  | [] => .ok ([], [], [])
  | r :: rs =>
    match texts r.fields with
    | .ok headers => .ok (r.fields, headers, rs)
    | .error e =>
      .error ⟨"Failed to read headers from '" ++ input ++ "'", some (e.message r.position)⟩

/-- Evaluates a formula for every record of a file.  The records written go to a file or
are printed. -/
def batch (draw : Float) (w : Workspace) (input : String) (source : Source)
    (output : Option String) (column : String) : Except Failure Outcome := do
  let e ← readFormula w source
  let (titles, headers, rs) ← splitHeader input (← readRecords w input)
  match output.bind fun path => (w.create path).map fun e => (path, e) with
  | some (path, e) => throw ⟨"Failed to create '" ++ path ++ "'", some e.message⟩
  | none =>
    let (rows, fault) := batchRows (valueText draw e) headers 1 rs
    let content := render ((titles ++ [Text.encode column.toList]) :: rows)
    let (code, messages) := match fault, output with
      | some (number, p, e), _ =>
        (1, Outcome.failureMessage
          ⟨"Failed to read record " ++ toString number, some (e.message p)⟩)
      | none, some path =>
        (0, "Wrote " ++ toString rows.length ++ " rows to '" ++ path ++ "'\n")
      | none, none => (0, "")
    match output with
    | some path => return ⟨code, [], messages, some (path, content)⟩
    | none => return ⟨code, content, messages, none⟩

/-- The outcome of a command. -/
def runCommand (draw : Float) (w : Workspace) : Command → Outcome
  | .eval source fields fieldFile warn => .ofExcept (eval draw w source fields fieldFile warn)
  | .fields source => .ofExcept (listFields w source)
  | .inspect source => .ofExcept (inspect w source)
  | .functions availability asJson => listFunctions availability asJson
  | .describe name => .ofExcept (describe name)
  | .batch input source output column => .ofExcept (batch draw w input source output column)

/-! ### The program -/

/-- The line that names the program and its version. -/
def versionLine : String := "ppf 0.1.0"

/-- The lines that say how the program is used. -/
def usageLines : List String :=
  ["ProcessPlan formula compiler",
    "",
    "Usage: ppf <COMMAND>",
    "",
    "Commands:",
    "  eval       Evaluate a formula and print the result",
    "  fields     List the fields a formula references",
    "  inspect    Print the parsed syntax tree and its call nesting depth",
    "  functions  List built-in functions",
    "  describe   Show the syntax and description of a function",
    "  batch      Evaluate a formula for every record of a CSV file",
    "  help       Print this message or the help of the given subcommand(s)",
    "",
    "Options:",
    "  -h, --help     Print help",
    "  -V, --version  Print version"]

/-- The outcome of arguments that lead to no command. -/
def stopped : Stop → Outcome
  | .version => .lines [versionLine] ""
  | .help => .lines usageLines ""
  | .usage => ⟨2, [], String.join (usageLines.map (· ++ "\n")), none⟩

/-- The outcome of the program for its arguments, where `draw` is the fraction for random
results. -/
def run (draw : Float) (w : Workspace) (arguments : List String) : Outcome :=
  match Command.ofArguments arguments with
  | .ok c => runCommand draw w c
  | .error s => stopped s

end FieldFormula.CommandLine
