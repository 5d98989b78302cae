import Backplane.Access.Trace
import Backplane.Json.Value

/-!
# Snapshots of accesses

Accesses, faults and trace records as JSON, for logs and tools. Sets of flags
are written as their text, choices as a tag.
-/

namespace Backplane

/-- The tag of a kind of fault. -/
def FaultKind.tag : FaultKind → String
  | unmapped => "Unmapped"
  | permission => "Permission"
  | noExecute => "Nx"
  | misaligned => "Misaligned"
  | deviceFault => "DeviceFault"

/-- A kind of fault as JSON. -/
def FaultKind.toJson (k : FaultKind) : Json := .ofString k.tag

/-- A region as JSON. -/
def Region.toJson (r : Region) : Json := .ofString r.name

/-- A set of permissions as JSON. -/
def Perms.toJson (p : Perms) : Json := .ofString p.text

/-- A set of flags as JSON. -/
def AccessFlags.toJson (flags : AccessFlags) : Json := .ofString flags.text

/-- A source as JSON. -/
def SourceId.toJson (s : SourceId) : Json := .ofUInt16 s.number

/-- An intent as JSON. -/
def Intent.toJson (i : Intent) : Json := .ofString i.name

/-- A width as JSON. -/
def Width.toJson (w : Width) : Json :=
  .ofString (match w with
    | byte => "Byte"
    | half => "Half"
    | word => "Word")

/-- A mode as JSON. -/
def Mode.toJson (m : Mode) : Json :=
  .ofString (match m with
    | atomic => "Atomic"
    | decomposed => "Decomposed")

/-- A fault as JSON. -/
def Fault.toJson (f : Fault) : Json :=
  .record
    [("kind", f.kind.toJson), ("region", f.region.toJson), ("address", .ofUInt32 f.address)]

/-- An access as JSON. -/
def Access.toJson (a : Access) : Json :=
  .record
    [("address", .ofUInt32 a.address), ("value", .ofUInt32 a.value), ("width", a.width.toJson),
     ("mode", a.mode.toJson), ("emulated", .bool a.emulated), ("intent", a.intent.toJson),
     ("source", a.source.toJson), ("cycle", .ofUInt64 a.cycle), ("flags", a.flags.toJson)]

/-- A trace record as JSON. -/
def TraceRecord.toJson (r : TraceRecord) : Json :=
  .record
    [("cycle", .ofUInt64 r.cycle), ("address", .ofUInt32 r.address),
     ("value", .ofUInt32 r.value), ("width_bits", .ofUInt8 r.widthBits),
     ("intent", r.intent.toJson), ("flags", r.flags.toJson), ("source", r.source.toJson),
     ("device_id", .ofUInt32 r.deviceId), ("region", r.region.toJson),
     ("fault", .ofOption FaultKind.toJson r.fault)]

/-- A trace as JSON: its newest records, or all that it keeps, with how many
there are and were. -/
def TraceRing.toJson (ring : TraceRing) (count : Option Nat) : Json :=
  .record
    [("capacity", .ofNat ring.capacity), ("len", .ofNat ring.size),
     ("empty", .bool ring.isEmpty), ("total", .ofUInt64 ring.written),
     ("records", .ofList TraceRecord.toJson (match count with
       | some n => ring.recent n
       | none => ring.toList))]

end Backplane
