import Backplane.Access.Request

/-!
# The access trace

A ring of fixed capacity that keeps the newest records of accesses. The view
`TraceRing.toList` lists what it keeps, oldest first; writing overwrites the
oldest record once the ring is full.
-/

namespace Backplane

/-- The record of one transaction. -/
structure TraceRecord where
  /-- When it was made. -/
  cycle : UInt64 := 0
  /-- Its first byte. -/
  address : UInt32 := 0
  /-- The value read or written. -/
  value : UInt32 := 0
  /-- Its width in bits. -/
  widthBits : UInt8 := 0
  /-- What it was for. -/
  intent : Intent := .dataRead
  /-- Its flags. -/
  flags : AccessFlags := .none
  /-- Who made it. -/
  source : SourceId := .processor
  /-- The device that owns the page. -/
  deviceId : UInt32 := 0
  /-- What occupies the page. -/
  region : Region := .invalid
  /-- Why it failed, if it did. -/
  fault : Option FaultKind := none
  deriving DecidableEq, Repr, Inhabited

/-- The newest records of accesses. -/
structure TraceRing where
  /-- The slots that records are written to in turn. -/
  slots : Array TraceRecord
  /-- How many records were written since the ring was last cleared. -/
  written : UInt64
  capacity_eq : slots.size = 1 <<< slots.size.log2

namespace TraceRing

/-- An empty ring of this capacity, which must be a power of two. -/
def ofCapacity (capacity : Nat) : Except BusError TraceRing :=
  if h : capacity = 1 <<< capacity.log2 then
    .ok ⟨Array.replicate capacity {}, 0, by simpa using h⟩
  else
    .error (.traceCapacity capacity)

variable (r : TraceRing)

/-- The number of records that the ring can keep. -/
def capacity : Nat := r.slots.size

/-- The slot of the record with this number. As the capacity is a power of two, the number
before it masks the bits that tell the slots apart. -/
def slot (number : UInt64) : Nat := (number &&& (r.slots.size.toUInt64 - 1)).toNat

/-- Writes a record over the oldest slot. -/
def emit (record : TraceRecord) : TraceRing where
  slots := r.slots.setIfInBounds (r.slot r.written) record
  written := r.written + 1
  capacity_eq := by simpa using r.capacity_eq

/-- The number of records that the ring keeps. -/
def size : Nat := min r.written.toNat r.slots.size

/-- Whether nothing was written. -/
def isEmpty : Bool := r.written = 0

/-- The record that comes `step` after the oldest one that the ring keeps. -/
def kept (step : Nat) : TraceRecord :=
  r.slots.getD (r.slot (r.written - r.size.toUInt64 + step.toUInt64)) {}

/-- The records that the ring keeps, oldest first. -/
def toList : List TraceRecord := (List.range r.size).map r.kept

/-- The records that the ring keeps, newest first: they are counted down from the last. -/
def newestFirst : List TraceRecord := (List.range r.size).map fun i => r.kept (r.size - 1 - i)

/-- The newest `count` records, oldest first. -/
def recent (count : Nat) : List TraceRecord := r.toList.drop (r.size - count)

/-- The ring as if nothing had been written. -/
def clear : TraceRing := { r with written := 0 }

end TraceRing
end Backplane
