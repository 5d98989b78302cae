import Backplane.Overlay.Id
import Backplane.Page.Table
import Backplane.Target.Arena

/-!
# Overlay layers

A layer takes over a range of pages for as long as it is active. Its mapping
says where the pages lead; `Placement.ofMapping` checks it against the address
space and the target, and works out the pages.
-/

namespace Backplane

/-- Where a layer leads its pages. -/
structure LayerMapping where
  /-- The first address covered; it begins a page. -/
  base : UInt32
  /-- The target that answers. -/
  target : TargetId
  /-- What accesses through the layer may do. -/
  perms : Perms
  /-- What occupies the pages. -/
  region : Region := .ram
  /-- The offset in the target that answers the first address. -/
  targetOffset : UInt32 := 0
  /-- The number of bytes covered; without it, the rest of the target. -/
  length : Option UInt32 := none
  /-- The device that owns the pages; zero stands for plain memory. -/
  deviceId : UInt32 := 0
  deriving DecidableEq, Repr

/-- A mapping with the pages that it covers. -/
structure Placement where
  /-- The mapping. -/
  mapping : LayerMapping
  /-- The first page covered. -/
  firstPage : Nat
  /-- The number of pages covered. -/
  pageCount : Nat
  /-- The entry of the first page. -/
  first : PageEntry
  /-- The number of bytes of a page. -/
  pageSize : UInt32
  deriving DecidableEq, Repr

namespace Placement

/-- Whether the placement covers `page`. -/
def covers (p : Placement) (page : Nat) : Bool :=
  p.firstPage ≤ page && page < p.firstPage + p.pageCount

/-- The pages covered. -/
def pages (p : Placement) : List Nat := List.range' p.firstPage p.pageCount

/-- The entry of a page that is covered. -/
def entryFor (p : Placement) (page : Nat) : PageEntry :=
  { p.first with
    physicalBase := p.first.physicalBase + (page - p.firstPage).toUInt32 * p.pageSize }

/-- The placement of a mapping. It must cover whole pages, at least one, and stay
within the address space and its target. -/
def ofMapping {σ : Type} [DeviceModel σ] (geometry : Geometry) (arena : Arena σ)
    (mapping : LayerMapping) : Except BusError Placement := do
  let targetSize ← arena.sizeOf mapping.target
  let length := mapping.length.getD
    (if targetSize < mapping.targetOffset then 0 else targetSize - mapping.targetOffset)
  if !geometry.isAligned mapping.base || !geometry.isAligned length || length = 0 then
    throw (.unaligned mapping.base length)
  if geometry.spaceSize < mapping.base.toNat + length.toNat ∨
      targetSize.toNat < mapping.targetOffset.toNat + length.toNat then
    throw (.outOfBounds mapping.base length)
  return {
    mapping := mapping
    firstPage := geometry.pageOf mapping.base
    pageCount := geometry.pageOf length
    first :=
      { target := some mapping.target
        perms := mapping.perms
        caps := arena.capsOf mapping.target
        region := mapping.region
        physicalBase := mapping.targetOffset
        deviceId := mapping.deviceId }
    pageSize := geometry.pageSize }

end Placement

/-- A layer over the base mapping. -/
structure Layer where
  /-- The name of the layer. -/
  name : String
  /-- Of two layers over a page, the one of higher priority wins. -/
  priority : Int32
  /-- Whether the layer takes over its pages. -/
  active : Bool
  /-- Where it leads them, once that is set. -/
  placement : Option Placement
  deriving DecidableEq

namespace Layer

/-- The pages that the layer covers. -/
def pages (l : Layer) : List Nat :=
  match l.placement with
  | some p => p.pages
  | none => []

/-- Whether the layer covers `page`. -/
def covers (l : Layer) (page : Nat) : Bool := l.placement.any fun p => p.covers page

end Layer
end Backplane
