import Backplane.Bus.Basic
import Backplane.Text.Column

/-!
# Region listings

The live page table in rows: adjacent pages that the same target answers in one
piece, with the same permissions, region and device, make one row. A row of a
window names its sub-regions at their absolute addresses.
-/

namespace Backplane

/-- A sub-region of a window at its absolute address. -/
structure SubRegionView where
  /-- The first address. -/
  start : UInt32
  /-- The number of bytes. -/
  size : UInt32
  /-- The label of the sub-region. -/
  label : String
  /-- What occupies it. -/
  region : Region
  /-- The target behind it. -/
  target : TargetId
  /-- The name of that target. -/
  targetName : String
  deriving DecidableEq, Repr

/-- Adjacent pages that are answered alike. -/
structure RegionRow where
  /-- The first address. -/
  start : UInt32
  /-- The last address. -/
  last : UInt32
  /-- The target that answers, if the pages are mapped. -/
  target : Option TargetId
  /-- The name of the target; empty if the pages are not mapped. -/
  targetName : String
  /-- The name of the kind of the target. -/
  kind : String
  /-- What accesses to the pages may do. -/
  perms : Perms
  /-- What occupies the pages. -/
  region : Region
  /-- The device that owns the pages. -/
  deviceId : UInt32
  /-- The sub-regions, if the target is a window. -/
  subs : List SubRegionView
  deriving DecidableEq, Repr

namespace Bus

variable {σ : Type} (b : Bus σ)

/-- The sub-regions of the window that answers page `index`, at the addresses
where this page puts them. -/
def subRegionViews (index : Nat) : List SubRegionView :=
  match b.map.table.get? index with
  | none => []
  | some entry =>
    match entry.target.bind b.arena.subRegions? with
    | none => []
    | some subs =>
      let origin := b.geometry.pageBase index - entry.physicalBase
      subs.map fun s =>
        { start := origin + s.offset
          size := s.size
          label := s.label
          region := s.region
          target := s.target
          targetName := (b.arena.name? s.target).getD "" }

end Bus

namespace RegionRow

/-- Whether `entry`, on the page after one with physical base `before`, goes on
with the row. -/
def continues (geometry : Geometry) (row : RegionRow) (before : UInt32) (entry : PageEntry) :
    Bool :=
  (entry.target.isNone || entry.physicalBase = before + geometry.pageSize) &&
    row.target = entry.target && row.perms = entry.perms && row.region = entry.region &&
    row.deviceId = entry.deviceId

variable {σ : Type}

/-- The row that page `index` begins. -/
def begin (b : Bus σ) (index : Nat) (entry : PageEntry) : RegionRow where
  start := b.geometry.pageBase index
  last := b.geometry.pageBase index + b.geometry.pageMask
  target := entry.target
  targetName := match entry.target with
    | some id => (b.arena.name? id).getD ""
    | none => ""
  kind := match entry.target with
    | some id =>
      match b.arena.get? id with
      | some target => target.kindName
      | none => "unknown"
    | none => "unmapped"
  perms := entry.perms
  region := entry.region
  deviceId := entry.deviceId
  subs := b.subRegionViews index

/-- The rows from page `index` on, given those before, the last first, and the
physical base of the page before. -/
def collect (b : Bus σ) : List RegionRow → UInt32 → Nat → List PageEntry → List RegionRow
  | rows, _, _, [] => rows.reverse
  | [], _, index, entry :: entries =>
    collect b [begin b index entry] entry.physicalBase (index + 1) entries
  | row :: rows, before, index, entry :: entries =>
    if row.continues b.geometry before entry then
      collect b ({ row with last := b.geometry.pageBase index + b.geometry.pageMask } :: rows)
        entry.physicalBase (index + 1) entries
    else
      collect b (begin b index entry :: row :: rows) entry.physicalBase (index + 1) entries

/-- The rows of the live page table. -/
def listing (b : Bus σ) : List RegionRow := collect b [] 0 0 b.map.table.entries.toList

/-- A range of addresses in a listing. -/
def rangeText (first last : UInt32) : String :=
  "$" ++ Numeral.hexPadded 4 first.toNat ++ "-$" ++ Numeral.hexPadded 4 last.toNat

/-- The text of a sub-region below its row. -/
def subText (s : SubRegionView) : String :=
  "    " ++ rangeText s.start (s.start + (if s.size = 0 then 0 else s.size - 1)) ++ "  " ++
    Column.left 13 s.region.name ++ " " ++ s.label ++ " -> " ++ s.targetName ++ "\n"

/-- The text of a row. -/
def text (row : RegionRow) : String :=
  rangeText row.start row.last ++ "  " ++ row.perms.triplet ++ "  " ++
    Column.left 13 row.region.name ++ " " ++ Column.left 9 row.kind ++
    (if row.target.isSome then " " ++ row.targetName else "") ++
    (if row.deviceId = 0 then ""
      else " (device " ++ Numeral.decimal row.deviceId.toNat ++ ")") ++ "\n" ++
    String.join (row.subs.map subText)

/-- The text of rows. -/
def listingText (rows : List RegionRow) : String := String.join (rows.map text)

end RegionRow
end Backplane
