import Backplane.Json.Value
import Backplane.Monitor.Command

/-!
# Snapshots of commands

Monitor commands as JSON: an object with the verb and the arguments.
-/

namespace Backplane.Command

/-- The members that write the arguments of a command. -/
def arguments : Command → List (String × Json)
  | dump start length => [("start", .ofUInt32 start), ("len", .ofUInt32 length)]
  | peek address => [("address", .ofUInt32 address)]
  | poke address bytes => [("address", .ofUInt32 address), ("bytes", .ofList Json.ofUInt8 bytes)]
  | read address bits => [("address", .ofUInt32 address), ("bits", .ofUInt8 bits)]
  | write address value bits =>
    [("address", .ofUInt32 address), ("value", .ofUInt32 value), ("bits", .ofUInt8 bits)]
  | layer name on => [("name", .ofString name), ("on", .bool on)]
  | trace count => [("count", .ofNat count)]
  | regions | layers | events | devices | help => []

/-- The verb of a command. -/
def verb : Command → String
  | dump _ _ => "dump"
  | peek _ => "peek"
  | poke _ _ => "poke"
  | read _ _ => "read"
  | write _ _ _ => "write"
  | regions => "regions"
  | layers => "layers"
  | layer _ _ => "layer"
  | trace _ => "trace"
  | events => "events"
  | devices => "devices"
  | help => "help"

/-- A command as JSON. -/
def toJson (c : Command) : Json := .record (("cmd", .ofString c.verb) :: c.arguments)

end Backplane.Command
