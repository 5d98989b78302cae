import Backplane.Monitor.Launch

/-!
# The monitor program

Reads files and the standard input, and writes what the monitor shows. The input
is carried out line by line, so that each answer shows before the next line is
read.
-/

namespace Backplane

/-- The reason that a failure of the system stands for. -/
def fileErrorOf : IO.Error → FileError
  | .noFileOrDirectory _ _ _ => .notFound
  | .permissionDenied _ _ _ => .denied
  | .inappropriateType _ _ _ => .isDirectory
  | e => .other (toString e)

/-- Reads a file as text. -/
def readText (path : String) : IO (Except FileError String) := do
  try
    match String.fromUTF8? (← IO.FS.readBinFile path) with
    | some source => return .ok source
    | none => return .error .notText
  catch e => return .error (fileErrorOf e)

/-- The next line of a stream, given what was read of it, the last byte first;
nothing at the end of the stream. -/
partial def nextLine (stream : IO.FS.Stream) (line : List UInt8) : IO (Option (List UInt8)) := do
  match (← stream.read 1).toList with
  | [] => return if line.isEmpty then none else some line.reverse
  | byte :: _ => if byte = 0x0A then return some line.reverse else nextLine stream (byte :: line)

/-- Writes what a part of a run shows. -/
def showTranscript (t : Transcript) : IO Unit := do
  IO.print t.output
  (← IO.getStdout).flush
  IO.eprint t.diagnostics

/-- Carries out the lines of a stream, and tells whether one failed. -/
partial def interact (stream : IO.FS.Stream) (s : Session) (failed : Bool) : IO Bool := do
  match ← nextLine stream [] with
  | none => return failed
  | some line =>
    let (s, outcome) := s.runLine line
    let shown := outcome.transcript
    showTranscript shown
    if outcome.goesOn then interact stream s (failed || shown.failed)
    else return failed || shown.failed

/-- Does what options ask for, and tells the exit code. -/
def runOptions (o : Options) : IO UInt32 := do
  let file ← match o.profile with
    | some path => readText path
    | none => pure (.error .notFound)
  let opened := do
    let profile ← o.load fun _ => file
    if o.printProfile then return none else return some (← o.openSession profile)
  match opened, o.commands with
  | .ok (some s), [] => return if ← interact (← IO.getStdin) s false then 1 else 0
  | _, _ =>
    let t := match o.run (fun _ => file) [] with
      | .ok t => t
      | .error cause => .failure cause.message
    showTranscript t
    return t.exitCode.toUInt32

/-- How the program is to be called. -/
def usage : String :=
  "usage: [--profile PATH] [--trace-capacity RECORDS] [-c COMMAND]... [--print-profile]\n"

end Backplane

/-- The monitor program. -/
def main (args : List String) : IO UInt32 := do
  match Backplane.Options.parse? args with
  | some o => Backplane.runOptions o
  | none =>
    IO.eprint Backplane.usage
    return 2
