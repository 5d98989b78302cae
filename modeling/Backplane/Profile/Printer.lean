import Backplane.Json.Printer
import Backplane.Profile.Spec

/-!
# Writing profiles

A profile as a JSON object. All members are written, in a fixed order; only what
touching a switch does is left out where it does nothing.
-/

namespace Backplane

/-- A member of an object. -/
def Json.member (name : String) (value : Json) : Option String × Json := (some name, value)

open Json (member)

/-- The members that write a backing. -/
def Backing.toMembers : Backing → List (Option String × Json)
  | .ram fill => [member "type" (.ofString "ram"), member "fill" (.ofUInt8 fill)]
  | .rom image fill =>
    [member "type" (.ofString "rom"), member "image" (.array (image.map Json.ofUInt8)),
     member "fill" (.ofUInt8 fill)]

/-- The object that writes a part of a region. -/
def SubRegionSpec.toJson (s : SubRegionSpec) : Json :=
  .object
    [member "offset" (.ofUInt32 s.offset), member "size" (.ofUInt32 s.size),
     member "label" (.ofString s.label), member "region" (.ofString s.region.name),
     member "backing" (.object s.backing.toMembers)]

/-- The object that writes what a region consists of. -/
def RegionKind.toJson : RegionKind → Json
  | .memory backing => .object backing.toMembers
  | .composite subs =>
    .object
      [member "type" (.ofString "composite"),
       member "sub_regions" (.array (subs.map SubRegionSpec.toJson))]
  | .unmapped => .object [member "type" (.ofString "unmapped")]

/-- The object that writes a region. -/
def RegionSpec.toJson (r : RegionSpec) : Json :=
  .object
    [member "name" (.ofString r.name), member "start" (.ofUInt32 r.start),
     member "size" (.ofUInt32 r.size), member "kind" r.kind.toJson,
     member "perms" (.ofString r.perms.text),
     member "caps" (match r.caps with
       | none => .null
       | some caps => .ofString caps.text),
     member "region" (.ofString r.region.name), member "device_id" (.ofUInt32 r.deviceId)]

/-- The object that writes a layer. -/
def LayerSpec.toJson (l : LayerSpec) : Json :=
  .object
    [member "name" (.ofString l.name), member "priority" (.ofInt l.priority.toInt),
     member "start" (.ofUInt32 l.start), member "size" (.ofUInt32 l.size),
     member "fill" (.ofUInt8 l.fill), member "perms" (.ofString l.perms.text),
     member "region" (.ofString l.region.name), member "active" (.bool l.active)]

/-- The object that writes what touching a switch does. -/
def SwitchOp.toJson : SwitchOp → Json
  | .activate layer =>
    .object [member "op" (.ofString "activate"), member "layer" (.ofString layer)]
  | .deactivate layer =>
    .object [member "op" (.ofString "deactivate"), member "layer" (.ofString layer)]
  | .select on off =>
    .object
      [member "op" (.ofString "select"), member "on" (.ofString on), member "off" (.ofString off)]
  | .latch mode => .object [member "op" (.ofString "latch"), member "mode" (.ofUInt8 mode)]

/-- The member that writes what touching a switch does, if it does anything. -/
def SwitchOp.toMember (name : String) : Option SwitchOp → List (Option String × Json)
  | none => []
  | some op => [member name op.toJson]

/-- The object that writes what touching an offset does. -/
def SwitchBinding.toJson (s : SwitchBinding) : Json :=
  .object
    (member "offset" (.ofUInt32 s.offset) ::
      (SwitchOp.toMember "on_read" s.onRead ++ SwitchOp.toMember "on_write" s.onWrite))

/-- The object that writes a block of switches. -/
def SwitchBlock.toJson (s : SwitchBlock) : Json :=
  .object
    [member "name" (.ofString s.name), member "start" (.ofUInt32 s.start),
     member "size" (.ofUInt32 s.size),
     member "switches" (.array (s.switches.map SwitchBinding.toJson))]

namespace MonitorProfile

/-- The object that writes a profile. -/
def toJson (p : MonitorProfile) : Json :=
  .object
    [member "name" (.ofString p.machine.name),
     member "address_bits" (.ofUInt8 p.machine.addressBits),
     member "page_shift" (.ofUInt8 p.machine.pageShift),
     member "regions" (.array (p.machine.regions.map RegionSpec.toJson)),
     member "layers" (.array (p.layers.map LayerSpec.toJson)),
     member "soft_switches" (.array (p.blocks.map SwitchBlock.toJson))]

/-- The text of a profile. -/
def text (p : MonitorProfile) : String := p.toJson.pretty

end MonitorProfile
end Backplane
