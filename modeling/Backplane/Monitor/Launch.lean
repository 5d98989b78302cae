import Backplane.Monitor.Options
import Backplane.Monitor.Script
import Backplane.Profile.Demo
import Backplane.Profile.Printer
import Backplane.Profile.Reader

/-!
# Launching the monitor

From options to a session: the profile comes from a file or is that of the
demonstration machine, and is printed or built. What reading the file came to
is handed in, so that nothing here touches files.
-/

namespace Backplane

/-- Why a file could not be read. -/
inductive FileError where
  /-- There is no such file. -/
  | notFound
  /-- A file is where a directory was expected. -/
  | notDirectory
  /-- A directory is where a file was expected. -/
  | isDirectory
  /-- The file must not be read. -/
  | denied
  /-- The file is no text. -/
  | notText
  /-- Any other reason. -/
  | other (reason : String)
  deriving DecidableEq, Repr

/-- The text of the reason. -/
def FileError.message : FileError → String
  | notFound => "No such file or directory (os error 2)"
  | notDirectory => "Not a directory (os error 20)"
  | isDirectory => "Is a directory (os error 21)"
  | denied => "Permission denied (os error 13)"
  | notText => "stream did not contain valid UTF-8"
  | other reason => reason

/-- Why the monitor could not be launched. -/
inductive LaunchError where
  /-- The profile could not be read. -/
  | unreadable (path : String) (cause : FileError)
  /-- The profile is malformed. -/
  | malformed (path : String)
  /-- The session could not be built. -/
  | session (cause : MonitorError)
  deriving DecidableEq, Repr

/-- The text of the error. -/
def LaunchError.message : LaunchError → String
  | unreadable path cause => "cannot read `" ++ path ++ "`: " ++ cause.message
  | malformed path => "malformed profile `" ++ path ++ "`"
  | session cause => cause.message

namespace Options

variable (o : Options)

/-- The profile that options ask for, where `read` reads files. -/
def load (read : String → Except FileError String) : Except LaunchError MonitorProfile :=
  match o.profile with
  | none => .ok Profile.demo
  | some path =>
    match read path with
    | .error cause => .error (.unreadable path cause)
    | .ok source =>
      match MonitorProfile.parse? source with
      | some profile => .ok profile
      | none => .error (.malformed path)

/-- The session for a profile. -/
def openSession (profile : MonitorProfile) : Except LaunchError Session :=
  match Session.build profile o.trace? with
  | .ok s => .ok s
  | .error cause => .error (.session cause)

/-- Carries out the commands, or else the lines of the input. -/
def perform (s : Session) (input : List UInt8) : Session × Transcript :=
  if o.commands.isEmpty then s.runInput input else s.runCommands o.commands

/-- Does what options ask for, where `read` reads files. -/
def run (read : String → Except FileError String) (input : List UInt8) :
    Except LaunchError Transcript := do
  let profile ← o.load read
  if o.printProfile then
    return { output := profile.text ++ "\n" }
  else
    return (o.perform (← o.openSession profile) input).2

end Options
end Backplane
