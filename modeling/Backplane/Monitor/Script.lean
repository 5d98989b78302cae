import Backplane.Monitor.Session

/-!
# Scripts

A script is a series of lines that a session carries out. Commands given with
the program end at the first that fails. Lines of the input go on past a
failure; there blank lines and comments are skipped, a word ends the script, and
so does a line that is no text.
-/

namespace Backplane

/-- What a run of the monitor shows, and whether it failed. -/
structure Transcript where
  /-- What it shows. -/
  output : String := ""
  /-- What it complains about. -/
  diagnostics : String := ""
  /-- Whether anything failed. -/
  failed : Bool := false
  deriving DecidableEq, Repr

namespace Transcript

/-- The exit code of a run. -/
def exitCode (t : Transcript) : UInt8 := if t.failed then 1 else 0

/-- The transcript of a run in two parts. -/
def append (t u : Transcript) : Transcript :=
  ⟨t.output ++ u.output, t.diagnostics ++ u.diagnostics, t.failed || u.failed⟩

/-- The transcript of a failure. -/
def failure (message : String) : Transcript where
  diagnostics := "error: " ++ message ++ "\n"
  failed := true

end Transcript

/-- What comes of a line of the input. -/
inductive LineOutcome where
  /-- Nothing is to be done. -/
  | skipped
  /-- The script ends. -/
  | quit
  /-- The command was carried out, with this output. -/
  | shown (output : String)
  /-- The command failed. -/
  | failed (cause : MonitorError)
  /-- The line is no text, and the script ends. -/
  | unreadable
  deriving DecidableEq, Repr

namespace LineOutcome

/-- What is said of a line that is no text. -/
def unreadableText : String := "failed to read stdin: stream did not contain valid UTF-8"

/-- What a line shows. -/
def transcript : LineOutcome → Transcript
  | skipped | quit => {}
  | shown output => { output := output }
  | failed cause => .failure cause.message
  | unreadable => .failure unreadableText

/-- Whether the script goes on after the line. -/
def goesOn : LineOutcome → Bool
  | skipped | shown _ | failed _ => true
  | quit | unreadable => false

end LineOutcome

namespace Script

/-- Whether a trimmed line ends the script. -/
def isQuit (line : String) : Bool := line = "quit" || line = "exit" || line = "q"

/-- Whether a trimmed line is blank or a comment. -/
def isSkipped (line : String) : Bool := line.toList.head?.all (· = '#')

/-- The text of a line, if its bytes are one. -/
def decode? (line : List UInt8) : Option String := String.fromUTF8? ⟨line.toArray⟩

/-- Pieces of `bytes` between line feeds, given the line that is being read, the
last byte first. No line begins after the last line feed. -/
def linesFrom : List UInt8 → List UInt8 → List (List UInt8)
  | [], [] => []
  | line, [] => [line.reverse]
  | line, byte :: bytes =>
    if byte = 0x0A then line.reverse :: linesFrom [] bytes else linesFrom (byte :: line) bytes

/-- The lines of an input. -/
def lines (input : List UInt8) : List (List UInt8) := linesFrom [] input

end Script

namespace Session

/-- Carries out a line of the input. -/
def runLine (s : Session) (line : List UInt8) : Session × LineOutcome :=
  match Script.decode? line with
  | none => (s, .unreadable)
  | some text =>
    let text := Blank.trimmed text
    if Script.isSkipped text then (s, .skipped)
    else if Script.isQuit text then (s, .quit)
    else match s.executeLine text with
      | (s, .ok output) => (s, .shown output)
      | (s, .error cause) => (s, .failed cause)

/-- Carries out lines of the input. -/
def runLines : Session → List (List UInt8) → Session × Transcript
  | s, [] => (s, {})
  | s, line :: lines =>
    let (s, outcome) := s.runLine line
    if outcome.goesOn then
      let (s, rest) := s.runLines lines
      (s, outcome.transcript.append rest)
    else (s, outcome.transcript)

/-- Carries out an input line by line. -/
def runInput (s : Session) (input : List UInt8) : Session × Transcript :=
  s.runLines (Script.lines input)

/-- Carries out commands, up to the first that fails. -/
def runCommands : Session → List String → Session × Transcript
  | s, [] => (s, {})
  | s, line :: lines =>
    match s.executeLine line with
    | (s, .ok output) =>
      let (s, rest) := s.runCommands lines
      (s, Transcript.append { output := output } rest)
    | (s, .error cause) => (s, .failure (line ++ ": " ++ cause.message))

end Session
end Backplane
