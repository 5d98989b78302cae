import Backplane.Bus.Error
import Backplane.Page.Region

/-!
# Windows

A window divides its range among several backing targets. Its parts are kept in
ascending order of offset; they never overlap and never leave the window. Where
no part lies, the window has a gap.
-/

namespace Backplane

/-- A part of a window, backed by a target. -/
structure SubRegion where
  /-- The first offset in the window. -/
  offset : UInt32
  /-- The number of bytes. -/
  size : UInt32
  /-- A name for listings. -/
  label : String
  /-- What occupies the part. -/
  region : Region
  /-- The target behind the part. -/
  target : TargetId
  /-- The offset in the target of the first byte of the part. -/
  targetOffset : UInt32
  deriving DecidableEq, Repr

namespace SubRegion

/-- The first offset past the part. -/
def stop (s : SubRegion) : Nat := s.offset.toNat + s.size.toNat

/-- Whether the part covers `offset`. -/
def contains (s : SubRegion) (offset : UInt32) : Bool :=
  s.offset ≤ offset && offset.toNat < s.stop

/-- Whether two parts that hold a byte have an offset in common. -/
def overlaps (s t : SubRegion) : Bool :=
  s.offset.toNat < t.stop && t.offset.toNat < s.stop

end SubRegion

/-- A range divided among several backing targets. -/
structure Window where
  /-- The number of bytes. -/
  size : UInt32
  /-- The parts, in ascending order of offset. -/
  subs : List SubRegion
  deriving DecidableEq, Repr

namespace Window

/-- The window of `size` bytes that is one gap. -/
def empty (size : UInt32) : Window := ⟨size, []⟩

/-- Puts a part in its place among the others. -/
def insertSorted (s : SubRegion) (subs : List SubRegion) : List SubRegion :=
  subs.takeWhile (·.offset < s.offset) ++ s :: subs.dropWhile (·.offset < s.offset)

/-- Adds a part. It must hold a byte, lie in the window and overlap no other
part. -/
def add (w : Window) (s : SubRegion) : Except BusError Window :=
  if s.size = 0 ∨ w.size.toNat < s.stop ∨ w.subs.any s.overlaps then
    .error (.invalidSubRegion s.label)
  else
    .ok { w with subs := insertSorted s w.subs }

/-- Adds parts in order, up to the first that does not fit. -/
def addAll (w : Window) (subs : List SubRegion) : Except BusError Window :=
  subs.foldlM add w

/-- The backing target of `offset` and the offset in it; nothing in a gap. -/
def route (w : Window) (offset : UInt32) : Option (TargetId × UInt32) := do
  let s ← (w.subs.takeWhile (·.offset ≤ offset)).getLast?
  if s.contains offset then
    return (s.target, s.targetOffset + (offset - s.offset))
  else
    none

/-- The part that covers `offset`; nothing in a gap. -/
def part? (w : Window) (offset : UInt32) : Option SubRegion := do
  let s ← (w.subs.takeWhile (·.offset ≤ offset)).getLast?
  if s.contains offset then return s else none

/-- The route from an offset is through the part that covers it. -/
theorem route_eq_map (w : Window) (offset : UInt32) :
    w.route offset =
      (w.part? offset).map fun s => (s.target, s.targetOffset + (offset - s.offset)) := by
  unfold route part?
  cases (w.subs.takeWhile (·.offset ≤ offset)).getLast? with
  | none => rfl
  | some s =>
    simp only [Option.bind_eq_bind, Option.bind_some]
    split <;> rfl

theorem part?_eq_some {w : Window} {offset : UInt32} {s : SubRegion}
    (h : w.part? offset = some s) : s ∈ w.subs ∧ s.contains offset = true := by
  simp only [part?, Option.bind_eq_bind, Option.bind_eq_some_iff] at h
  obtain ⟨last, found, h⟩ := h
  split at h
  · rename_i covers
    cases h
    exact ⟨(List.takeWhile_sublist _).subset (List.mem_of_getLast? found), covers⟩
  · cases h

end Window
end Backplane
