import Backplane.Access.Trace
import Backplane.Overlay.AddressMap
import Backplane.Target.Fabric

/-!
# The bus

A bus joins an address map, a fabric of targets and an optional access trace.
This module holds its configuration: targets, base mappings, layers and tracing.
Each operation answers with the bus after it, whether it succeeds or fails.
-/

namespace Backplane

/-- A base mapping of a range of pages. -/
structure RangeMapping where
  /-- The target that answers. -/
  target : TargetId
  /-- What accesses to the range may do. -/
  perms : Perms
  /-- What occupies the range. -/
  region : Region
  /-- The offset in the target that answers the first address. -/
  targetOffset : UInt32 := 0
  /-- The device that owns the range; zero stands for plain memory. -/
  deviceId : UInt32 := 0
  /-- Capabilities that stand in for those of the target. -/
  caps : Option Caps := none
  deriving DecidableEq, Repr

/-- A paged address space with its targets. -/
structure Bus (σ : Type) where
  /-- What answers each page. -/
  map : AddressMap
  /-- The targets and what their devices leave behind. -/
  fabric : Fabric σ
  /-- The trace, while accesses are traced. -/
  trace : Option TraceRing

namespace Bus

variable {σ : Type}

/-- The bus on which no page is mapped. -/
def empty (geometry : Geometry) : Bus σ :=
  ⟨.empty geometry, .empty NoticeQueue.standardCapacity, none⟩

variable (b : Bus σ)

/-- The space that is divided into pages. -/
def geometry : Geometry := b.map.geometry

/-- The targets. -/
def arena : Arena σ := b.fabric.arena

/-! ## Targets -/

/-- Adds a target under a new name, and tells its id. -/
def addTarget (name : String) (target : Target σ) : Bus σ × Except BusError TargetId :=
  match b.arena.insert name target with
  | .error e => (b, .error e)
  | .ok (arena, id) => ({ b with fabric := { b.fabric with arena := arena } }, .ok id)

/-! ## Base mappings -/

/-- The first page and the number of pages of a range. It must begin and end
between pages, hold a page and lie in the address space. -/
def pageRange (start length : UInt32) : Except BusError (Nat × Nat) :=
  if length = 0 || !b.geometry.isAligned start || !b.geometry.isAligned length then
    .error (.unaligned start length)
  else if b.geometry.spaceSize < start.toNat + length.toNat then
    .error (.outOfBounds start length)
  else
    .ok (b.geometry.pageOf start, b.geometry.pageOf length)

/-- The entry of the page at distance `step` from the start of a mapping. -/
def entryAt (mapping : RangeMapping) (caps : Caps) (step : Nat) : PageEntry where
  target := some mapping.target
  perms := mapping.perms
  caps := caps
  region := mapping.region
  physicalBase := mapping.targetOffset + step.toUInt32 * b.geometry.pageSize
  deviceId := mapping.deviceId

/-- The address map after the base entries of `count` pages from `first` were
changed to `entry 0`, `entry 1` and so on. -/
def setBases (map : AddressMap) (first count : Nat) (entry : Nat → PageEntry) : AddressMap :=
  (List.range count).foldl (fun m step => m.setBase (first + step) (entry step)) map

/-- Maps the pages of a range to a target, which must reach as far. -/
def mapRange [DeviceModel σ] (start length : UInt32) (mapping : RangeMapping) :
    Bus σ × Except BusError Unit :=
  match b.pageRange start length with
  | .error e => (b, .error e)
  | .ok (first, count) =>
    match b.arena.sizeOf mapping.target with
    | .error e => (b, .error e)
    | .ok size =>
      if size.toNat < mapping.targetOffset.toNat + length.toNat then
        (b, .error (.outOfBounds mapping.targetOffset length))
      else
        let caps := mapping.caps.getD (b.arena.capsOf mapping.target)
        ({ b with map := setBases b.map first count (b.entryAt mapping caps) }, .ok ())

/-- Takes the pages of a range from whatever they were mapped to. -/
def unmapRange (start length : UInt32) : Bus σ × Except BusError Unit :=
  match b.pageRange start length with
  | .error e => (b, .error e)
  | .ok (first, count) =>
    ({ b with map := setBases b.map first count fun _ => .unmapped }, .ok ())

/-! ## Layers -/

/-- The bus after an operation on its address map. -/
def onMap {α : Type} (r : AddressMap × Except BusError α) : Bus σ × Except BusError α :=
  ({ b with map := r.1 }, r.2)

/-- Creates an inactive layer under a new name, and tells its id. -/
def createLayer (name : String) (priority : Int32) : Bus σ × Except BusError LayerId :=
  b.onMap (b.map.createLayer name priority)

/-- Saves the base entries of `count` pages from `first`. -/
def saveBase (first count : Nat) : Bus σ × Except BusError Unit :=
  b.onMap (b.map.saveBase first count)

/-- Shows the layer with this id. -/
def activate (id : LayerId) : Bus σ × Except BusError Unit := b.onMap (b.map.activate id)

/-- Hides the layer with this id. -/
def deactivate (id : LayerId) : Bus σ × Except BusError Unit := b.onMap (b.map.deactivate id)

/-- Shows the layer with this name. -/
def activateNamed (name : String) : Bus σ × Except BusError Unit :=
  match b.map.named name with
  | .error e => (b, .error e)
  | .ok id => b.activate id

/-- Hides the layer with this name. -/
def deactivateNamed (name : String) : Bus σ × Except BusError Unit :=
  match b.map.named name with
  | .error e => (b, .error e)
  | .ok id => b.deactivate id

/-- Gives the layer with this name another mapping. -/
def setLayerMapping [DeviceModel σ] (name : String) (mapping : LayerMapping) :
    Bus σ × Except BusError Unit :=
  match b.map.named name with
  | .error e => (b, .error e)
  | .ok id => b.onMap (b.map.setMapping b.arena id mapping)

/-! ## Tracing and notices -/

/-- Starts a trace of this capacity, without the records of an earlier one. -/
def enableTrace (capacity : Nat) : Bus σ × Except BusError Unit :=
  match TraceRing.ofCapacity capacity with
  | .error e => (b, .error e)
  | .ok ring => ({ b with trace := some ring }, .ok ())

/-- Stops the trace, and hands it out. -/
def disableTrace : Bus σ × Option TraceRing := ({ b with trace := none }, b.trace)

/-- Takes out all notices that wait. -/
def drainNotices : Bus σ × List Notice :=
  ({ b with fabric := { b.fabric with notices := b.fabric.notices.drained } },
    b.fabric.notices.pending)

end Bus
end Backplane
