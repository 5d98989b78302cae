import Backplane.Page.Perms
import Backplane.Page.Region
import Backplane.Target.Caps

/-!
# Profiles

A machine profile describes an address space by regions: where each lies, what
backs it and what accesses to it may do. A monitor profile adds overlay layers
and blocks of switches on top; they name layers, as ids do not exist yet.
-/

namespace Backplane

/-- Memory that backs a region or a part of one. -/
inductive Backing where
  /-- Memory that reads and writes, filled with a byte. -/
  | ram (fill : UInt8)
  /-- Memory that only reads: an image, and a byte that fills the rest. -/
  | rom (image : List UInt8) (fill : UInt8)
  deriving DecidableEq, Repr

/-- A part of a composite region. -/
structure SubRegionSpec where
  /-- The first offset in the region. -/
  offset : UInt32
  /-- The number of bytes. -/
  size : UInt32
  /-- The label of the part. -/
  label : String
  /-- What occupies the part. -/
  region : Region
  /-- What backs the part. -/
  backing : Backing
  deriving DecidableEq, Repr

/-- What a region consists of. -/
inductive RegionKind where
  /-- One block of memory. -/
  | memory (backing : Backing)
  /-- Parts, with gaps between them where nothing answers. -/
  | composite (subs : List SubRegionSpec)
  /-- Nothing. -/
  | unmapped
  deriving DecidableEq, Repr

/-- A range of addresses. -/
structure RegionSpec where
  /-- The name of the region and of its target. -/
  name : String
  /-- The first address; it begins a page. -/
  start : UInt32
  /-- The number of bytes; whole pages. -/
  size : UInt32
  /-- What the region consists of. -/
  kind : RegionKind
  /-- What accesses to the region may do. -/
  perms : Perms := .all
  /-- Capabilities that stand in for those of what backs the region. -/
  caps : Option Caps := none
  /-- What occupies the region. -/
  region : Region
  /-- The device that owns the region; zero stands for plain memory. -/
  deviceId : UInt32 := 0
  deriving DecidableEq, Repr

/-- The address space of a machine. -/
structure MachineProfile where
  /-- The name of the machine. -/
  name : String
  /-- The number of address bits. -/
  addressBits : UInt8 := 16
  /-- The number of address bits within a page. -/
  pageShift : UInt8 := 8
  /-- The regions, in any order. -/
  regions : List RegionSpec
  deriving DecidableEq, Repr

/-- An overlay layer on memory of its own. -/
structure LayerSpec where
  /-- The name of the layer. -/
  name : String
  /-- Of two layers over a page, the one of higher priority wins. -/
  priority : Int32 := 0
  /-- The first address covered; it begins a page. -/
  start : UInt32
  /-- The number of bytes covered; whole pages. -/
  size : UInt32
  /-- What fills the memory of the layer. -/
  fill : UInt8 := 0
  /-- What accesses through the layer may do. -/
  perms : Perms := .all
  /-- What occupies the pages under the layer. -/
  region : Region := .ram
  /-- Whether the layer is active from the beginning. -/
  active : Bool := false
  deriving DecidableEq

/-- What touching a switch does, in terms of the names of layers. -/
inductive SwitchOp where
  /-- Show a layer. -/
  | activate (layer : String)
  /-- Hide a layer. -/
  | deactivate (layer : String)
  /-- Hide the layer `off`, then show the layer `on`. -/
  | select (on off : String)
  /-- Store a mode. -/
  | latch (mode : UInt8)
  deriving DecidableEq, Repr

/-- What touching one offset does. -/
structure SwitchBinding where
  /-- The offset in the block. -/
  offset : UInt32
  /-- What a read does. -/
  onRead : Option SwitchOp := none
  /-- What a write does. -/
  onWrite : Option SwitchOp := none
  deriving DecidableEq, Repr

/-- A block of switches. -/
structure SwitchBlock where
  /-- The name of the block, of its device and of its target. -/
  name : String
  /-- The first address; it begins a page. -/
  start : UInt32
  /-- The number of bytes; whole pages. -/
  size : UInt32
  /-- What touching its offsets does; other offsets do nothing. -/
  switches : List SwitchBinding := []
  deriving DecidableEq, Repr

/-- A machine with overlay layers and switches. -/
structure MonitorProfile where
  /-- The address space beneath. -/
  machine : MachineProfile
  /-- The layers, in the order of creation. -/
  layers : List LayerSpec := []
  /-- The blocks of switches. -/
  blocks : List SwitchBlock := []
  deriving DecidableEq

end Backplane
