import Backplane.Device.Model
import Backplane.Target.Memory
import Backplane.Target.Window

/-!
# Targets and their arena

What pages can point at: memory, windows, splits and devices. Targets live in an
arena, each under a name and with an id; windows and splits refer to other
targets of the arena by id.

The size of a split is the smaller of the sizes of its two sides, and the
capabilities of a window or split are those of a whole made of its parts. Chains
of splits and windows are followed to a fixed depth only.
-/

namespace Backplane

/-- What a page can point at; `σ` are the states of devices. -/
inductive Target (σ : Type) where
  /-- Memory that reads and writes. -/
  | ram (memory : Memory)
  /-- Memory that only reads; a tool may patch it. -/
  | rom (memory : Memory)
  /-- A range divided among other targets. -/
  | window (window : Window)
  /-- Reads from one target and writes to another. -/
  | split (read write : TargetId)
  /-- A device. -/
  | device (state : σ)

/-- A target with its name. -/
structure Slot (σ : Type) where
  /-- The name of the target. -/
  name : String
  /-- The target. -/
  target : Target σ

/-- All targets of a machine, in the order of registration. -/
structure Arena (σ : Type) where
  /-- The targets with their names. -/
  slots : Array (Slot σ)

/-- How many windows and splits may be followed one after the other. -/
def maxNesting : Nat := 8

namespace Target

variable {σ : Type}

/-- The name of the kind of a target. -/
def kindName : Target σ → String
  | ram _ => "ram"
  | rom _ => "rom"
  | window _ => "composite"
  | split _ _ => "split"
  | device _ => "device"

/-- The bytes of a target that is memory. -/
def memory? : Target σ → Option Memory
  | ram memory | rom memory => some memory
  | window _ | split _ _ | device _ => none

/-- Memory with the byte at `offset` replaced; any other target as it is. -/
def store (offset : UInt32) (value : UInt8) : Target σ → Target σ
  | ram memory => ram (memory.set offset.toNat value)
  | rom memory => rom (memory.set offset.toNat value)
  | other => other

/-- A device with another state; any other target as it is. -/
def setState (state : σ) : Target σ → Target σ
  | device _ => device state
  | other => other

end Target

namespace Arena

variable {σ : Type} (a : Arena σ)

/-- The arena without targets. -/
def empty : Arena σ := ⟨#[]⟩

instance : Inhabited (Arena σ) := ⟨empty⟩

/-- The number of targets. -/
def size : Nat := a.slots.size

/-- The target with this id. -/
def get? (id : TargetId) : Option (Target σ) := a.slots[id.index]?.map Slot.target

/-- The name of the target with this id. -/
def name? (id : TargetId) : Option String := a.slots[id.index]?.map Slot.name

/-- The id of the target with this name. -/
def find? (name : String) : Option TargetId :=
  (a.slots.findIdx? fun slot => slot.name = name).map TargetId.ofIndex

/-- Adds a target under a new name, and tells its id. -/
def insert (name : String) (target : Target σ) : Except BusError (Arena σ × TargetId) :=
  match a.find? name with
  | some _ => .error (.duplicateTarget name)
  | none => .ok (⟨a.slots.push ⟨name, target⟩⟩, TargetId.ofIndex a.slots.size)

/-- The arena with one target changed in place. -/
def modify (id : TargetId) (f : Target σ → Target σ) : Arena σ :=
  ⟨a.slots.modify id.index fun slot => { slot with target := f slot.target }⟩

/-- The sub-regions of a target that is a window. -/
def subRegions? (id : TargetId) : Option (List SubRegion) :=
  match a.get? id with
  | some (.window w) => some w.subs
  | _ => none

variable [DeviceModel σ]

/-- The size of a target, where at most `depth` splits are followed; a split
below them counts as empty. -/
def sizeWithin : Nat → TargetId → Except BusError UInt32
  | depth, id =>
    match a.get? id with
    | none => .error (.unknownTarget id)
    | some (.ram memory) | some (.rom memory) => .ok memory.size.toUInt32
    | some (.window w) => .ok w.size
    | some (.device state) => .ok (DeviceModel.size state)
    | some (.split read write) =>
      match depth with
      | 0 => .ok 0
      | depth + 1 => do
        let r ← sizeWithin depth read
        let w ← sizeWithin depth write
        return min r w

/-- The number of bytes that a target answers. -/
def sizeOf (id : TargetId) : Except BusError UInt32 := a.sizeWithin maxNesting id

/-- The capabilities of a target, where the parts of windows and splits count
as incapable below `depth` of them. -/
def capsWithin : Nat → TargetId → Caps
  | 0, _ => .none
  | depth + 1, id =>
    match a.get? id with
    | none => .none
    | some (.ram _) | some (.rom _) => .memory
    | some (.device state) => DeviceModel.caps state
    | some (.split read write) => .ofParts [capsWithin depth read, capsWithin depth write]
    | some (.window w) => .ofParts (w.subs.map fun s => capsWithin depth s.target)

/-- The capabilities of a target; an unknown one has none. -/
def capsOf (id : TargetId) : Caps := a.capsWithin (maxNesting + 1) id

end Arena
end Backplane
