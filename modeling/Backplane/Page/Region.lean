/-!
# Regions

The coarse class of what occupies a page, for listings and fault reports.
-/

namespace Backplane

/-- What occupies a page. -/
inductive Region where
  /-- Nothing is mapped. -/
  | invalid
  /-- Memory that reads and writes. -/
  | ram
  /-- Memory that only reads. -/
  | rom
  /-- Memory-mapped input and output, switches included. -/
  | io
  /-- The read-only memory of one slot. -/
  | slotRom
  /-- The input and output window of one slot. -/
  | slotIo
  /-- The expansion memory that slots share. -/
  | expansionRom
  /-- A window divided among several backings. -/
  | composite
  /-- Any other device. -/
  | device
  deriving DecidableEq, Repr, Inhabited

namespace Region

/-- All regions. -/
def all : List Region :=
  [invalid, ram, rom, io, slotRom, slotIo, expansionRom, composite, device]

/-- The name of a region in listings and profiles. -/
def name : Region → String
  | invalid => "invalid"
  | ram => "ram"
  | rom => "rom"
  | io => "io"
  | slotRom => "slot-rom"
  | slotIo => "slot-io"
  | expansionRom => "expansion-rom"
  | composite => "composite"
  | device => "device"

/-- The name of a region in the description of a target, in one word. -/
def word : Region → String
  | invalid => "Invalid"
  | ram => "Ram"
  | rom => "Rom"
  | io => "Io"
  | slotRom => "SlotRom"
  | slotIo => "SlotIo"
  | expansionRom => "ExpansionRom"
  | composite => "Composite"
  | device => "Device"

/-- The region of this name. -/
def ofName? (text : String) : Option Region :=
  all.find? fun region => region.name = text

@[simp] theorem ofName?_name (r : Region) : ofName? r.name = some r := by
  cases r <;> decide

end Region
end Backplane
