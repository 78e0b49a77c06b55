import ClosureLint.CommandLine.Run

/-!
# The program

Reads the files that the command line names, and prints what `Options.run` gives.
-/

open ClosureLint

/-- The reason that the system gives by a number, which may be negated, or else by a text. -/
def readError (code : UInt32) (details : String) : ReadError :=
  match if code < 0x80000000 then code else 0 - code with
  | 2 => .notFound
  | 20 => .notDirectory
  | 21 => .isDirectory
  | 36 => .nameTooLong
  | 13 => .other "Permission denied"
  | _ => .other details

/-- The reason why the system did not let a file be read. -/
def systemReason : IO.Error → ReadError
  | .noFileOrDirectory _ code details | .inappropriateType _ code details
  | .permissionDenied _ code details | .invalidArgument _ code details
  | .resourceExhausted _ code details | .noSuchThing _ code details | .otherError code details
  | .resourceBusy code details | .hardwareFault code details => readError code details
  | e => .other (toString e)

/-- What reading the file at a path gives. -/
def content (p : FilePath) : IO (Except ReadError (List UInt8)) := do
  try return .ok (← IO.FS.readBinFile p.text).toList
  catch e => return .error (systemReason e)

/-- Lints the files named on the command line. -/
def main (args : List String) : IO UInt32 := do
  match Options.ofList args with
  | .error .help =>
    IO.println usage
    return 0
  | .error (.misuse e) =>
    IO.eprintln usage
    IO.eprintln e.report
    return 2
  | .ok options =>
    let contents ← options.sources.mapM fun p => return (p, ← content p)
    match options.run fun p => (contents.lookup p).getD (.error .notFound) with
    | .error fault =>
      IO.eprintln fault.message
      return 1
    | .ok outcome =>
      IO.print outcome.output
      IO.eprint outcome.errors
      return outcome.exitCode.toUInt32
