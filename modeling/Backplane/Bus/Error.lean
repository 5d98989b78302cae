import Backplane.Text.Numeral
import Backplane.Target.Id

/-!
# Configuration errors

Mistakes in setting up a bus: geometries, mappings, names and layers. What a
program on the bus does wrong is a `Fault` instead.
-/

namespace Backplane

/-- Why the configuration of a bus was refused. -/
inductive BusError where
  /-- The width of an access is not 8, 16 or 32 bits. -/
  | invalidWidth (bits : UInt8)
  /-- No address space has this width and page size. -/
  | invalidGeometry (addressBits pageShift : UInt8)
  /-- A range does not begin and end between pages, or is empty. -/
  | unaligned (start length : UInt32)
  /-- A range leaves the address space or its target. -/
  | outOfBounds (start length : UInt32)
  /-- No target has this id. -/
  | unknownTarget (id : TargetId)
  /-- A target of this name exists. -/
  | duplicateTarget (name : String)
  /-- No layer has this name or id. -/
  | unknownLayer (name : String)
  /-- A layer of this name exists. -/
  | duplicateLayer (name : String)
  /-- A layer covers a page whose base entry is not saved. -/
  | baseNotSaved (layer : String) (page : Nat)
  /-- The base entry of a page was to be saved under an active layer. -/
  | layerActive (layer : String) (page : Nat)
  /-- The capacity of a trace is not a power of two. -/
  | traceCapacity (capacity : Nat)
  /-- A part of a window is empty, leaves it or overlaps another part. -/
  | invalidSubRegion (label : String)
  deriving DecidableEq, Repr

namespace BusError

/-- A range as error texts name it. -/
def rangeText (start length : UInt32) : String :=
  "range $" ++ Numeral.hex start.toNat ++ "+$" ++ Numeral.hex length.toNat

/-- The text of an error. -/
def message : BusError → String
  | invalidWidth bits => "invalid access width: " ++ Numeral.decimal bits.toNat ++ " bits"
  | invalidGeometry addressBits pageShift =>
    "invalid geometry: " ++ Numeral.decimal addressBits.toNat ++
      "-bit space with page shift " ++ Numeral.decimal pageShift.toNat
  | unaligned start length => rangeText start length ++ " is not page aligned"
  | outOfBounds start length => rangeText start length ++ " is out of bounds"
  | unknownTarget id => "unknown target id #" ++ Numeral.decimal id.index
  | duplicateTarget name => "duplicate target name `" ++ name ++ "`"
  | unknownLayer name => "unknown layer `" ++ name ++ "`"
  | duplicateLayer name => "duplicate layer name `" ++ name ++ "`"
  | baseNotSaved layer page =>
    "base mapping for page $" ++ Numeral.hex page ++ " was not saved before layer `" ++
      layer ++ "` covered it"
  | layerActive layer page =>
    "cannot save base mapping for page $" ++ Numeral.hex page ++ ": layer `" ++ layer ++
      "` is active over it"
  | traceCapacity capacity =>
    "trace capacity " ++ Numeral.decimal capacity ++ " is not a non-zero power of two"
  | invalidSubRegion label =>
    "sub-region `" ++ label ++ "` overlaps another sub-region or exceeds the composite window"

end BusError
end Backplane
