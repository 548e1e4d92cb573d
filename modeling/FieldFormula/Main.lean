import FieldFormula.CommandLine

/-!
# The program

`main` reads the files that the command asks for, runs the command on them, and writes
what it leads to.
-/

namespace FieldFormula.CommandLine

/-- The error of a file that a failed operation stands for. -/
def fileErrorOf : IO.Error → FileError
  | .noFileOrDirectory .. => .notFound
  | .noSuchThing .. => .notFound
  | .inappropriateType .. => .isDirectory
  | .permissionDenied .. => .other "Permission denied (os error 13)"
  | e => .other (toString e)

/-- The content of a file. -/
def contentOf (path : String) : IO (Except FileError (List UInt8)) := do
  try
    return .ok (← IO.FS.readBinFile path).toList
  catch e =>
    return .error (fileErrorOf e)

/-- The workspace of some files, in which creating a file meets an error, if any. -/
def workspaceOf (files : List (String × Except FileError (List UInt8)))
    (createError : Option FileError) : Workspace where
  read path := (files.lookup path).getD (.error .notFound)
  create _ := createError

/-- Prints the outcome of the program. -/
def report (o : Outcome) : IO UInt32 := do
  let out ← IO.getStdout
  out.write ⟨o.output.toArray⟩
  out.flush
  IO.eprint o.messages
  return o.code.toUInt32

/-- A random fraction between zero and one. -/
def randomFraction : IO Float := do
  let n ← IO.rand 0 (Nat.pow 2 53 - 1)
  return Float.ofNat n / Float.ofNat (Nat.pow 2 53)

/-- Runs the program on the files of the machine. -/
def runOnFiles (arguments : List String) : IO UInt32 := do
  let inputs := match Command.ofArguments arguments with
    | .ok c => c.inputs
    | .error _ => []
  let files ← inputs.mapM fun path => return (path, ← contentOf path)
  let draw ← randomFraction
  let o := run draw (workspaceOf files none) arguments
  match o.written with
  | none => report o
  | some (path, content) =>
    let failed? ← try
        IO.FS.writeBinFile path ⟨content.toArray⟩
        pure none
      catch e =>
        pure (some (fileErrorOf e))
    match failed? with
    | none => report o
    | some e => report (run draw (workspaceOf files (some e)) arguments)

end FieldFormula.CommandLine

def main (arguments : List String) : IO UInt32 :=
  FieldFormula.CommandLine.runOnFiles arguments
