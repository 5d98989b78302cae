import Backplane.Device.Model

/-!
# Probes

A probe is a bank of cells for trying out a bus: it tells of every access by a
notice, and can be set to refuse reads or writes of chosen offsets. A full probe
also peeks, pokes, and takes a write of several bytes as a whole.
-/

namespace Backplane

/-- A bank of cells that tells of accesses. -/
structure Probe where
  /-- What the probe promises. -/
  caps : Caps
  /-- Whether it peeks, pokes and takes wide writes as a whole. -/
  full : Bool
  /-- The cells. -/
  cells : Array UInt8
  /-- The offsets whose reads it refuses. -/
  noRead : List UInt32
  /-- The offsets whose writes it refuses. -/
  noWrite : List UInt32
  deriving DecidableEq

namespace Probe

variable (p : Probe)

/-- The cell at an offset. -/
def cell (offset : UInt32) : UInt8 := p.cells.getD offset.toNat 0

/-- The probe with one cell changed. -/
def store (offset : UInt32) (value : UInt8) : Probe :=
  { p with cells := p.cells.setIfInBounds offset.toNat value }

/-- The mark that a whole write leaves in its second notice: who wrote, through
which device, and when. -/
def mark (context : DeviceContext) : UInt32 :=
  ((context.source.number.toUInt32 <<< 16) ||| (context.deviceId &&& 0xFFFF)) ^^^
    context.cycle.toUInt32

/-- Reads a cell and tells of it. -/
def read (offset : UInt32) : DeviceReply Probe UInt8 :=
  if offset ∈ p.noRead then .refuse p .rejected
  else { state := p, result := .ok (p.cell offset), notices := [.dataChanged offset] }

/-- Writes a cell and tells of it. -/
def write (offset : UInt32) (value : UInt8) : DeviceReply Probe Unit :=
  if offset ∈ p.noWrite then .refuse p .rejected
  else { state := p.store offset value, result := .ok (), notices := [.dataChanged offset] }

/-- Writes several cells, or none of them, and tells of it. -/
def writeWhole (offset value : UInt32) (bytes : Nat) (context : DeviceContext) :
    DeviceReply Probe Unit :=
  let lanes := writeLanes offset value bytes
  if lanes.any fun lane => lane.1 ∈ p.noWrite then .refuse p .rejected
  else
    { state := lanes.foldl (fun p lane => p.store lane.1 lane.2) p
      result := .ok ()
      notices := [.dataChanged offset, .dataChanged (mark context)] }

instance : DeviceModel Probe where
  kind p := if p.full then "full-probe" else "plain-probe"
  size p := p.cells.size.toUInt32
  caps p := p.caps
  read p offset _ := p.read offset
  write p offset value _ := p.write offset value
  writeWide p offset value bytes context :=
    if p.full then p.writeWhole offset value bytes context
    else writeInTurn Probe.write p (writeLanes offset value bytes)
  peek p offset :=
    if !p.full then .error .noSideEffectFreePath
    else if offset ∈ p.noRead then .error .rejected
    else .ok (p.cell offset)
  poke p offset value :=
    if !p.full then (p, .error .noSideEffectFreePath)
    else if offset ∈ p.noWrite then (p, .error .rejected)
    else (p.store offset value, .ok ())

end Probe
end Backplane
