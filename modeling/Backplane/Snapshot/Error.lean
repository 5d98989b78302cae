import Backplane.Monitor.Session
import Backplane.Run.Machine

/-!
# Tags of errors

A short tag for each kind of error. Unlike messages, tags can be told apart by a
program. The tag of an error that has another error as its cause begins with a
tag of its own, followed by a slash.
-/

namespace Backplane

/-- The tag of a configuration error. -/
def BusError.tag : BusError → String
  | invalidWidth _ => "InvalidWidth"
  | invalidGeometry _ _ => "InvalidGeometry"
  | unaligned _ _ => "UnalignedRange"
  | outOfBounds _ _ => "RangeOutOfBounds"
  | unknownTarget _ => "UnknownTarget"
  | duplicateTarget _ => "DuplicateTarget"
  | unknownLayer _ => "UnknownLayer"
  | duplicateLayer _ => "DuplicateLayer"
  | baseNotSaved _ _ => "BaseMappingNotSaved"
  | layerActive _ _ => "LayerActiveOverRange"
  | traceCapacity _ => "InvalidTraceCapacity"
  | invalidSubRegion _ => "InvalidSubRegion"

/-- The tag of a refusal. -/
def Reject.tag : Reject → String
  | readOnly => "ReadOnly"
  | unbacked => "Unbacked"
  | noSideEffectFreePath => "NoSideEffectFreePath"
  | rejected => "Rejected"
  | nestingTooDeep => "NestingTooDeep"

/-- The tag of an error of the device registry. -/
def RegistryError.tag : RegistryError → String
  | reservedId => "ReservedId"
  | duplicateId _ => "DuplicateId"
  | duplicatePageId _ => "DuplicatePageId"
  | invalidClass => "InvalidDeviceClass"
  | invalidPageId _ => "InvalidPageId"
  | idsExhausted => "IdsExhausted"

/-- The tag of an error of a machine. -/
def MachineError.tag : MachineError → String
  | alreadyRunning => "AlreadyRunning"
  | halted => "Halted"
  | busPoisoned => "BusPoisoned"
  | workerPanicked => "WorkerPanicked"

/-- The tag of an error in a command. -/
def CommandError.tag : CommandError → String
  | empty => "Empty"
  | unknownCommand _ => "UnknownCommand"
  | missingArgument _ _ => "MissingArgument"
  | invalidNumber _ => "InvalidNumber"
  | tooManyArguments _ => "TooManyArguments"
  | invalidToggle _ => "InvalidToggle"

/-- The tag of an error in a profile. -/
def ProfileError.tag : ProfileError → String
  | bus cause => "Bus/" ++ cause.tag
  | region _ cause => "Region/" ++ cause.tag
  | overlap _ _ => "Overlap"
  | imageTooLarge _ _ _ => "ImageTooLarge"

/-- The tag of an error of a session. -/
def MonitorError.tag : MonitorError → String
  | profile cause => "Profile/" ++ cause.tag
  | bus cause => "Bus/" ++ cause.tag
  | registry cause => "Registry/" ++ cause.tag
  | command cause => "Command/" ++ cause.tag
  | dumpOutOfRange _ _ _ => "DumpOutOfRange"

end Backplane
