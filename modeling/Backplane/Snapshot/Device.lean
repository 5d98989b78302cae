import Backplane.Device.Registry
import Backplane.Device.Switch
import Backplane.Json.Value

/-!
# Snapshots of devices

Notices, switches and registered devices as JSON, for logs and tools. Choices
are written as a tag, or as an object whose one member is the tag.
-/

namespace Backplane

/-- The tag of a class of devices. -/
def DeviceClass.tag : DeviceClass → String
  | invalid => "Invalid"
  | compatIo => "CompatIo"
  | slotRom => "SlotRom"
  | slotIo => "SlotIo"
  | storage => "Storage"
  | timer => "Timer"
  | video => "Video"
  | audio => "Audio"
  | input => "Input"
  | serial => "Serial"
  | network => "Network"
  | memory => "Memory"
  | clock => "Clock"
  | coprocessor => "Coprocessor"
  | debug => "Debug"
  | vendor => "Vendor"

/-- A class of devices as JSON. -/
def DeviceClass.toJson (c : DeviceClass) : Json := .ofString c.tag

/-- A page that a device owns as JSON. -/
def DevicePageId.toJson (p : DevicePageId) : Json := .ofUInt32 p.raw

/-- A registered device as JSON. -/
def DeviceInfo.toJson (info : DeviceInfo) : Json :=
  .record
    [("id", .ofUInt32 info.id), ("page_id", .ofOption DevicePageId.toJson info.pageId),
     ("kind", .ofString info.kind), ("name", .ofString info.name),
     ("wiring_path", .ofString info.wiringPath)]

/-- What a notice tells as JSON. -/
def NoticeKind.toJson : NoticeKind → Json
  | dataChanged offset => .record [("DataChanged", .record [("offset", .ofUInt32 offset)])]
  | modeChanged mode => .record [("ModeChanged", .record [("mode", .ofUInt8 mode)])]

/-- A notice as JSON. -/
def Notice.toJson (n : Notice) : Json :=
  .record
    [("device_id", .ofUInt32 n.deviceId), ("cycle", .ofUInt64 n.cycle), ("kind", n.kind.toJson)]

/-- A layer id as JSON. -/
def LayerId.toJson (id : LayerId) : Json := .ofUInt16 id.number

/-- A layer command as JSON: what is to be done, and the layer. -/
def LayerCommand.toJson : LayerCommand → Json
  | activate layer => .array [.ofString "activate", layer.toJson]
  | deactivate layer => .array [.ofString "deactivate", layer.toJson]

/-- What touching a switch does as JSON. -/
def SwitchAction.toJson : SwitchAction → Json
  | none => .ofString "None"
  | activate layer => .record [("Activate", layer.toJson)]
  | deactivate layer => .record [("Deactivate", layer.toJson)]
  | select on off => .record [("Select", .record [("on", on.toJson), ("off", off.toJson)])]
  | latch mode => .record [("Latch", .ofUInt8 mode)]

/-- What reads and writes of an offset do as JSON. -/
def SwitchEntry.toJson (e : SwitchEntry) : Json :=
  .record [("read", e.read.toJson), ("write", e.write.toJson)]

end Backplane
