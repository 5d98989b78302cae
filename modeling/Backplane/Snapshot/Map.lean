import Backplane.Listing.Regions
import Backplane.Snapshot.Access

/-!
# Snapshots of address maps

Pages, windows, layers and listings as JSON, for logs and tools.
-/

namespace Backplane

/-- A target id as JSON. -/
def TargetId.toJson (id : TargetId) : Json := .ofUInt32 id.number

/-- A set of capabilities as JSON. -/
def Caps.toJson (c : Caps) : Json := .ofString c.text

/-- A geometry as JSON. -/
def Geometry.toJson (g : Geometry) : Json :=
  .record [("address_bits", .ofNat g.addressBits), ("page_shift", .ofNat g.pageShift)]

/-- A page entry as JSON. -/
def PageEntry.toJson (e : PageEntry) : Json :=
  .record
    [("target", .ofOption TargetId.toJson e.target), ("perms", e.perms.toJson),
     ("caps", e.caps.toJson), ("region", e.region.toJson),
     ("physical_base", .ofUInt32 e.physicalBase), ("device_id", .ofUInt32 e.deviceId)]

/-- A part of a window as JSON. -/
def SubRegion.toJson (s : SubRegion) : Json :=
  .record
    [("offset", .ofUInt32 s.offset), ("size", .ofUInt32 s.size), ("label", .ofString s.label),
     ("region", s.region.toJson), ("target", s.target.toJson),
     ("target_offset", .ofUInt32 s.targetOffset)]

/-- A sub-region at its address as JSON. -/
def SubRegionView.toJson (s : SubRegionView) : Json :=
  .record
    [("start", .ofUInt32 s.start), ("size", .ofUInt32 s.size), ("label", .ofString s.label),
     ("region", s.region.toJson), ("target", s.target.toJson),
     ("target_name", .ofString s.targetName)]

/-- A mapping of a layer as JSON. -/
def LayerMapping.toJson (m : LayerMapping) : Json :=
  .record
    [("base_address", .ofUInt32 m.base), ("target", m.target.toJson), ("perms", m.perms.toJson),
     ("region", m.region.toJson), ("target_offset", .ofUInt32 m.targetOffset),
     ("length", .ofOption Json.ofUInt32 m.length), ("device_id", .ofUInt32 m.deviceId)]

/-- A layer as JSON, with its first page and the first page past it. -/
def Layer.toJson (l : Layer) : Json :=
  let (first, count) := match l.placement with
    | some p => (p.firstPage, p.pageCount)
    | none => (0, 0)
  .record
    [("name", .ofString l.name), ("priority", .ofInt l.priority.toInt), ("active", .bool l.active),
     ("mapping", .ofOption (fun p => p.mapping.toJson) l.placement),
     ("pages", .array [.ofNat first, .ofNat (first + count)])]

/-- A row of a listing as JSON. -/
def RegionRow.toJson (row : RegionRow) : Json :=
  .record
    [("start", .ofUInt32 row.start), ("end", .ofUInt32 row.last),
     ("target", .ofOption TargetId.toJson row.target), ("name", .ofString row.targetName),
     ("kind", .ofString row.kind), ("perms", row.perms.toJson), ("region", row.region.toJson),
     ("device", .ofUInt32 row.deviceId), ("subs", .ofList SubRegionView.toJson row.subs)]

end Backplane
