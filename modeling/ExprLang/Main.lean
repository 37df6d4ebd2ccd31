import ExprLang.CommandLine.Effects

/-!
The program. It reads the file that its arguments name, if they name one, and carries out the
effects.
-/
set_option autoImplicit false

open ExprLang.CommandLine

/-- The reason for a failure to read a file: opening fails at the name, reading a folder fails
later. -/
def readErrorOf : IO.Error → ReadError
  | .noFileOrDirectory _ _ _ => .notFound
  | .inappropriateType none _ _ => .isDirectory
  | .inappropriateType (some _) _ _ => .notDirectory
  | error => .other (toString error)

/-- The bytes of the file that some arguments name. -/
def readNamed (arguments : List String) : IO (Except ReadError ByteArray) :=
  match Request.ofArguments arguments with
  | .ok (.job job) =>
    try
      return .ok (← IO.FS.readBinFile job.file)
    catch error => return .error (readErrorOf error)
  | _ => return .error .notFound

def main (arguments : List String) : IO UInt32 := do
  let content ← readNamed arguments
  let effects := run (fun _ => content) arguments
  IO.print effects.stdout
  IO.eprint effects.stderr
  return effects.exitCode.toUInt32
