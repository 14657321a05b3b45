import LS8.Command.Report

/-!
# The command line

Reads the program file, hands it to the command and writes what comes of it. A run without a limit
is made and shown piece by piece, since it may have no end.
-/

set_option autoImplicit false

namespace LS8.Command

/-- The number of steps between two looks at what a run without a limit has printed. -/
def pieceLength : Nat := 4096

/-- The failure behind an error of the system. -/
def failureOf : IO.Error → IoError
  | .noFileOrDirectory .. => .notFound
  | .inappropriateType _ 20 _ => .notDirectory
  | .inappropriateType _ 21 _ => .isDirectory
  | .invalidArgument _ 36 _ => .nameTooLong
  | e => .other (toString e)

/-- The contents of a file. -/
def readFile (path : String) : IO (Except IoError ByteArray) := do
  try
    return .ok (← IO.FS.readBinFile path)
  catch e =>
    return .error (failureOf e)

/-- Writes out a report and gives its exit status. -/
def deliver (r : Report) : IO UInt32 := do
  IO.print r.output
  (← IO.getStdout).flush
  for line in r.errors do
    IO.eprintln line
  return r.status

/-- Goes on with a run until it is over. -/
partial def continueRun (o : Options) (run : Run TextSink (Array Note)) : IO UInt32 := do
  let status ← deliver ((conclude run).report o)
  match run.result with
  | some _ => return status
  | none =>
    continueRun o
      (run.computer.runFor observe pieceLength #[] { run.sink with text := "" })

/-- Does what the arguments ask for. -/
def runArguments (arguments : List String) : IO UInt32 := do
  match Request.ofArguments arguments with
  | .ok (.run o) =>
    let content ← readFile o.input
    match prepare o.toTask content {}, o.maxSteps with
    | .ok launch, none =>
      continueRun o (launch.computer.runFor observe pieceLength launch.notes {})
    | _, _ => deliver ((perform o.toTask content {} pieceLength).report o)
  | _ => deliver (report arguments (fun _ => .error .notFound) {} pieceLength)

end LS8.Command

def main (arguments : List String) : IO UInt32 := LS8.Command.runArguments arguments
