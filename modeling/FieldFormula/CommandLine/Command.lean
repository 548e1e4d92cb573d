import FieldFormula.CommandLine.Arguments
import FieldFormula.Registry
import FieldFormula.Text.Blank

/-!
# Commands

The commands of the program with their options.  `Command.ofArguments` reads a command
from the arguments of the program.
-/

namespace FieldFormula.CommandLine

/-- Where the source of a formula comes from. -/
inductive Source where
  | given (text : String)
  | file (path : String)
  | missing
  deriving DecidableEq, Repr

/-- The commands. -/
inductive Command where
  /-- Evaluates a formula with field values. -/
  | eval (source : Source) (fields : List (String × String)) (fieldFile : Option String)
      (warn : Bool)
  /-- Lists the fields of a formula. -/
  | fields (source : Source)
  /-- Shows the structure of a formula. -/
  | inspect (source : Source)
  /-- Lists the functions, or those of one availability. -/
  | functions (availability : Option Availability) (asJson : Bool)
  /-- Describes a function. -/
  | describe (name : String)
  /-- Evaluates a formula for every record of a file. -/
  | batch (input : String) (source : Source) (output : Option String) (column : String)
  deriving DecidableEq, Repr

/-! ### Options -/

/-- An option with a value that is given at most once. -/
def valueOption (long : String) (short : Option Char) : OptionRule :=
  ⟨long, short, true, false⟩

/-- An option without a value. -/
def switch (long : String) : OptionRule :=
  ⟨long, none, false, false⟩

/-- The option for a file with the source of a formula. -/
def fileOption : OptionRule := valueOption "file" none

/-- The arguments of the command `eval`. -/
def evalGrammar : Grammar :=
  ⟨[fileOption, ⟨"field", some 'f', true, true⟩, valueOption "fields-json" none,
    switch "warn-unresolved"], 1⟩

/-- The arguments of a command that takes a formula only. -/
def formulaGrammar : Grammar := ⟨[fileOption], 1⟩

/-- The arguments of the command `functions`. -/
def functionsGrammar : Grammar := ⟨[valueOption "status" none, switch "json"], 0⟩

/-- The arguments of the command `describe`. -/
def describeGrammar : Grammar := ⟨[], 1⟩

/-- The arguments of the command `batch`. -/
def batchGrammar : Grammar :=
  ⟨[valueOption "input" (some 'i'), fileOption, valueOption "output" (some 'o'),
    valueOption "column" none], 1⟩

/-! ### Values -/

/-- The path that an option gives.  No path is empty. -/
def pathOf? (a : Arguments) (long : String) : Except Stop (Option String) :=
  if a.value? long = some "" then .error .usage else .ok (a.value? long)

/-- The source of a formula: a file or the positional argument, but not both. -/
def sourceOf (a : Arguments) : Except Stop Source := do
  match ← pathOf? a "file", a.positionals.head? with
  | some _, some _ => throw .usage
  | some path, none => return .file path
  | none, some text => return .given text
  | none, none => return .missing

/-- The name and the value of a field, given as `NAME=VALUE`. -/
def fieldOf (s : String) : Except Stop (String × String) :=
  match s.toList.span (· != '=') with
  | (name, '=' :: value) => .ok (String.ofList (Text.trim name), String.ofList value)
  | _ => .error .usage

/-- The availability that a word names. -/
def availabilityOf (word : String) : Except Stop Availability :=
  match Availability.ofWord word with
  | .ok a => .ok a
  | .error _ => .error .usage

/-- The title of the column that a batch adds. -/
def defaultColumn : String := "result"

namespace Command

/-- Reads a command by its name from its arguments. -/
def ofName (name : String) (arguments : List String) : Except Stop Command :=
  match name with
  | "eval" => do
    let a ← evalGrammar.read arguments
    let fields ← (a.values "field").mapM fieldOf
    return .eval (← sourceOf a) fields (← pathOf? a "fields-json") (a.has "warn-unresolved")
  | "fields" => do
    return .fields (← sourceOf (← formulaGrammar.read arguments))
  | "inspect" => do
    return .inspect (← sourceOf (← formulaGrammar.read arguments))
  | "functions" => do
    let a ← functionsGrammar.read arguments
    let availability ← (a.value? "status").mapM availabilityOf
    return .functions availability (a.has "json")
  | "describe" => do
    let a ← describeGrammar.read arguments
    match a.positionals with
    | [name] => return .describe name
    | _ => throw .usage
  | "batch" => do
    let a ← batchGrammar.read arguments
    match ← pathOf? a "input" with
    | some input =>
      return .batch input (← sourceOf a) (← pathOf? a "output")
        ((a.value? "column").getD defaultColumn)
    | none => throw .usage
  | "help" => throw .help
  | _ => throw .usage

/-- Reads a command from the arguments of the program. -/
def ofArguments : List String → Except Stop Command
  | [] => .error .usage
  | argument :: rest =>
    match formOf argument with
    | .plain => ofName argument rest
    | .long "version" none => .error .version
    | .long "help" none => .error .help
    | .short 'V' _ => .error .version
    | .short 'h' _ => .error .help
    | _ => .error .usage

/-- The files that a command reads. -/
def inputs : Command → List String
  | eval source _ fieldFile _ => ofSource source ++ fieldFile.toList
  | fields source => ofSource source
  | inspect source => ofSource source
  | functions _ _ => []
  | describe _ => []
  | batch input source _ _ => input :: ofSource source
where
  /-- The file of a source. -/
  ofSource : Source → List String
    | .file path => [path]
    | _ => []

end Command

end FieldFormula.CommandLine
