/-!
# Arguments

The arguments of a command are options and positional arguments.  An option has a long
name behind two hyphens and may have a letter behind one; its value follows an equals sign
or is the next argument, and behind a letter it may also follow at once.  Two hyphens
alone make all later arguments positional.
-/

namespace FieldFormula.CommandLine

/-- Why arguments lead to no command. -/
inductive Stop where
  /-- The arguments do not fit. -/
  | usage
  /-- They ask how they are used. -/
  | help
  /-- They ask for the version. -/
  | version
  deriving DecidableEq, Repr

/-- An option of a command. -/
structure OptionRule where
  long : String
  short : Option Char
  takesValue : Bool
  repeatable : Bool

/-- The options of a command, and the number of positional arguments that it may have. -/
structure Grammar where
  options : List OptionRule
  positionals : Nat

/-- What arguments say: the options by their long names with their values, and the
positional arguments, both in order. -/
structure Arguments where
  options : List (String × String)
  positionals : List String
  deriving DecidableEq, Repr

/-- The forms of an argument. -/
inductive Form where
  | separator
  | long (name : String) (value : Option String)
  | short (letter : Char) (attached : String)
  | plain
  deriving DecidableEq, Repr

/-- The form of an argument. -/
def formOf (argument : String) : Form :=
  match argument.toList with
  | ['-', '-'] => .separator
  | '-' :: '-' :: r =>
    match r.span (· != '=') with
    | (name, '=' :: value) => .long (String.ofList name) (some (String.ofList value))
    | (name, _) => .long (String.ofList name) none
  | ['-'] => .plain
  | '-' :: letter :: attached => .short letter (String.ofList attached)
  | _ => .plain

namespace Arguments

/-- The arguments with one more option.  An option is given once unless it may be
repeated. -/
def addOption (a : Arguments) (o : OptionRule) (value : String) : Except Stop Arguments :=
  if !o.repeatable && a.options.any (·.1 == o.long) then .error .usage
  else .ok { a with options := a.options ++ [(o.long, value)] }

/-- The arguments with more positional ones. -/
def addPositionals (a : Arguments) (g : Grammar) (ps : List String) :
    Except Stop Arguments :=
  if g.positionals < a.positionals.length + ps.length then .error .usage
  else .ok { a with positionals := a.positionals ++ ps }

/-- Whether an option is given. -/
def has (a : Arguments) (long : String) : Bool :=
  a.options.any (·.1 == long)

/-- The values of an option, in order. -/
def values (a : Arguments) (long : String) : List String :=
  (a.options.filter (·.1 == long)).map (·.2)

/-- The value of an option. -/
def value? (a : Arguments) (long : String) : Option String :=
  (a.values long).head?

end Arguments

namespace Grammar

/-- The value that follows a letter at once, where an equals sign may come first. -/
def attachedValue? (attached : String) : Option String :=
  match attached.toList with
  | [] => none
  | '=' :: r => some (String.ofList r)
  | r => some (String.ofList r)

/-- Reads arguments behind those read so far; `pending` is an option that waits for its
value. -/
def readBehind (g : Grammar) (a : Arguments) (pending : Option OptionRule) :
    List String → Except Stop Arguments
  | [] => if pending.isSome then .error .usage else .ok a
  | argument :: rest =>
    match pending, formOf argument with
    | some o, .plain => do
      g.readBehind (← a.addOption o argument) none rest
    | none, .plain => do
      g.readBehind (← a.addPositionals g [argument]) none rest
    | none, .separator => a.addPositionals g rest
    | none, .long name value =>
      match g.options.find? (·.long == name) with
      | some o =>
        match value, o.takesValue with
        | some v, true => do
          g.readBehind (← a.addOption o v) none rest
        | none, true => g.readBehind a (some o) rest
        | none, false => do
          g.readBehind (← a.addOption o "") none rest
        | some _, false => .error .usage
      | none => .error (if name = "help" ∧ value = none then .help else .usage)
    | none, .short letter attached =>
      match g.options.find? (·.short == some letter) with
      | some o =>
        match attachedValue? attached with
        | some v => do
          g.readBehind (← a.addOption o v) none rest
        | none => g.readBehind a (some o) rest
      | none => .error (if letter = 'h' then .help else .usage)
    | some _, _ => .error .usage

/-- Reads the arguments of a command. -/
def read (g : Grammar) (arguments : List String) : Except Stop Arguments :=
  g.readBehind ⟨[], []⟩ none arguments

end Grammar

end FieldFormula.CommandLine
