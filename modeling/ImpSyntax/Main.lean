import ImpSyntax.Cli.Commands

/-!
# The checker's executable

Reads the files that the command line names, runs the checker on them, and writes its
two streams. An error that no command handles ends the program with status 1.
-/

open ImpSyntax.Cli

/-- The open error of a failed read, by the system's error number. -/
def openErrorOf : IO.Error → OpenError
  | .noFileOrDirectory .. => .notFound
  | .inappropriateType _ 21 _ => .isDirectory
  | .inappropriateType _ 20 _ => .notDirectory
  | .permissionDenied .. => .permissionDenied
  | .invalidArgument _ 36 _ => .nameTooLong
  | .otherError 36 _ => .nameTooLong
  | e => .other 5 (toString e)

/-- Reading the bytes of a path. -/
def readPath (path : String) : IO (Except OpenError (List UInt8)) := do
  if path.toList.contains '\x00' then return .error .nullByte
  try
    let bs ← IO.FS.readBinFile path
    return .ok bs.toList
  catch e =>
    return .error (openErrorOf e)

def main (args : List String) : IO UInt32 := do
  let mut table : List (String × Except OpenError (List UInt8)) := []
  for p in paths args do
    table := (p, ← readPath p) :: table
  let report := run (fun p => (table.lookup p).getD (.error .notFound)) args
  IO.print report.stdout
  IO.eprint report.stderr
  match report.ending with
  | .status n => return n.toUInt32
  | .exit n => return n.toUInt32
  | .raised kind message =>
    IO.eprintln (kind ++ ": " ++ message)
    return 1
