import Backplane.Proofs.Target.Shape

/-!
# Sizes and routes

The size of a target is found by recursion through splits to a fixed depth, and
an offset is routed by a walk of a fixed number of steps. The two agree where
only splits lie between a target and its leaves: below its size, every offset is
routed to a leaf that is large enough (`routeWithin_of_lt_size`). A split that
lies too deep for the recursion counts as empty, so the walk, which may take one
step more than the recursion has levels, never runs short.

Sizes are found once and hold for good, as routes do, if devices keep theirs.
-/

namespace Backplane
namespace Arena

variable {σ : Type} {a a' : Arena σ}

/-- Splits lead from one target to another, in some number of steps. -/
inductive Through (a : Arena σ) : TargetId → TargetId → Prop where
  /-- In no step. -/
  | here (id : TargetId) : Through a id id
  /-- By the side that is read. -/
  | read {id read write j : TargetId} : a.get? id = some (.split read write) →
    Through a read j → Through a id j
  /-- By the side that is written. -/
  | write {id read write j : TargetId} : a.get? id = some (.split read write) →
    Through a write j → Through a id j

/-- Splits alone lie between a target and its leaves. -/
def SplitsOnly (a : Arena σ) (id : TargetId) : Prop :=
  ∀ j w, a.Through id j → a.get? j ≠ some (.window w)

theorem splitsOnly_of_noWindow (none : ∀ slot ∈ a.slots, ∀ w, slot.target ≠ .window w)
    (id : TargetId) : a.SplitsOnly id := by
  intro j w _ here
  obtain ⟨slot, hs, eq⟩ := Option.map_eq_some_iff.mp here
  exact none slot (Array.mem_of_getElem? hs) w eq

variable [DeviceModel σ]

/-- A cell lies within memory or within a device. -/
inductive Backs (a : Arena σ) (cell : Cell) : Prop where
  /-- Within memory. -/
  | memory {t : Target σ} {m : Memory} : a.get? cell.target = some t → t.memory? = some m →
    cell.offset.toNat < m.size → Backs a cell
  /-- Within a device. -/
  | device {state : σ} : a.get? cell.target = some (.device state) →
    cell.offset < DeviceModel.size state → Backs a cell

/-- The devices of an arena and of a later one have the same sizes. -/
abbrev SizesExtend (a a' : Arena σ) : Prop := a.Extends (DeviceModel.size : σ → UInt32) a'

theorem Backs.extends (h : a.SizesExtend a') {cell : Cell} (backs : a.Backs cell) :
    a'.Backs cell := by
  cases backs with
  | memory here memory lt =>
    obtain ⟨t', here', alike⟩ := h _ _ here
    cases alike with
    | ram same | rom same =>
      cases memory
      exact .memory here' rfl (by rwa [same])
    | _ => cases memory
  | device here lt =>
    obtain ⟨t', here', alike⟩ := h _ _ here
    cases alike with
    | device same => exact .device here' (by rwa [same])

/-! ## Sizes -/

/-- How the size of a target comes about, where at most `depth` splits are
followed. -/
inductive Measured (a : Arena σ) : Nat → TargetId → UInt32 → Prop where
  /-- Memory has its number of bytes, in 32 bits. -/
  | memory {depth : Nat} {id : TargetId} {t : Target σ} {m : Memory} : a.get? id = some t →
    t.memory? = some m → Measured a depth id m.size.toUInt32
  /-- A window has its own size. -/
  | window {depth : Nat} {id : TargetId} {w : Window} : a.get? id = some (.window w) →
    Measured a depth id w.size
  /-- A device has its own size. -/
  | device {depth : Nat} {id : TargetId} {state : σ} : a.get? id = some (.device state) →
    Measured a depth id (DeviceModel.size state)
  /-- A split that lies too deep counts as empty. -/
  | tooDeep {id read write : TargetId} : a.get? id = some (.split read write) →
    Measured a 0 id 0
  /-- A split is as large as the smaller of its sides. -/
  | split {depth : Nat} {id read write : TargetId} {r w : UInt32} :
    a.get? id = some (.split read write) → Measured a depth read r → Measured a depth write w →
    Measured a (depth + 1) id (min r w)

theorem measured_of_sizeWithin {depth : Nat} {id : TargetId} {size : UInt32}
    (h : a.sizeWithin depth id = .ok size) : a.Measured depth id size := by
  fun_induction a.sizeWithin depth id generalizing size with
  | case1 => cases h
  | case2 depth id m here =>
    cases h
    exact .memory here rfl
  | case3 depth id m here =>
    cases h
    exact .memory here rfl
  | case4 depth id w here =>
    cases h
    exact .window here
  | case5 depth id state here =>
    cases h
    exact .device here
  | case6 id read write here =>
    cases h
    exact .tooDeep here
  | case7 id read write here depth ihr ihw =>
    cases hr : a.sizeWithin depth read with
    | error e =>
      rw [hr] at h
      cases h
    | ok r =>
      cases hw : a.sizeWithin depth write with
      | error e =>
        rw [hr, hw] at h
        cases h
      | ok w =>
        rw [hr, hw] at h
        cases h
        exact .split here (ihr hr) (ihw hw)

theorem Measured.sizeWithin {depth : Nat} {id : TargetId} {size : UInt32}
    (h : a.Measured depth id size) : a.sizeWithin depth id = .ok size := by
  induction h with
  | @memory depth id t m here memory =>
    cases t with
    | ram | rom => cases memory; unfold Arena.sizeWithin; rw [here]
    | _ => cases memory
  | window here | device here => unfold Arena.sizeWithin; rw [here]
  | tooDeep here => unfold Arena.sizeWithin; rw [here]
  | split here _ _ ihr ihw =>
    unfold Arena.sizeWithin
    rw [here]
    dsimp only
    rw [ihr, ihw]
    rfl

/-- A target has a size only if it is there. -/
theorem Measured.get? {depth : Nat} {id : TargetId} {size : UInt32}
    (h : a.Measured depth id size) : ∃ t, a.get? id = some t := by
  cases h <;> exact ⟨_, ‹_›⟩

theorem Measured.extends (h : a.SizesExtend a') {depth : Nat} {id : TargetId} {size : UInt32}
    (measured : a.Measured depth id size) : a'.Measured depth id size := by
  induction measured with
  | memory here memory =>
    obtain ⟨t', here', alike⟩ := h _ _ here
    cases alike with
    | ram same | rom same =>
      cases memory
      rw [← same]
      exact .memory here' rfl
    | _ => cases memory
  | window here =>
    obtain ⟨t', here', alike⟩ := h _ _ here
    cases alike
    exact .window here'
  | device here =>
    obtain ⟨t', here', alike⟩ := h _ _ here
    cases alike with
    | device same =>
      rw [← same]
      exact .device here'
  | tooDeep here =>
    obtain ⟨t', here', alike⟩ := h _ _ here
    cases alike
    exact .tooDeep here'
  | split here _ _ ihr ihw =>
    obtain ⟨t', here', alike⟩ := h _ _ here
    cases alike
    exact .split here' ihr ihw

/-- A target keeps its size for good. -/
theorem Extends.sizeOf (h : a.SizesExtend a') {id : TargetId} {size : UInt32}
    (found : a.sizeOf id = .ok size) : a'.sizeOf id = .ok size :=
  ((measured_of_sizeWithin found).extends h).sizeWithin

/-! ## Routes below a size -/

/-- Below its size, every offset of a target that only splits lead through is
routed to a leaf that is large enough, at the same offset. The walk may take one
step more than the recursion had levels, for the leaf itself. -/
theorem Measured.routeWithin {depth : Nat} {id : TargetId} {size : UInt32}
    (measured : a.Measured depth id size) (only : a.SplitsOnly id) {offset : UInt32}
    (lt : offset < size) (direction : Direction) :
    ∃ leaf, a.routeWithin direction (depth + 1) ⟨id, offset⟩ = .ok leaf ∧
      leaf.offset = offset ∧ a.Backs leaf := by
  induction measured with
  | @memory depth id t m here memory =>
    have backs : a.Backs ⟨id, offset⟩ := by
      refine .memory here memory (Nat.lt_of_lt_of_le (UInt32.lt_iff_toNat_lt.mp lt) ?_)
      exact Nat.mod_le _ _
    refine ⟨⟨id, offset⟩, ?_, rfl, backs⟩
    cases t with
    | ram | rom => unfold Arena.routeWithin; rw [here]
    | _ => cases memory
  | window here => exact absurd here (only _ _ (.here _))
  | @device depth id state here =>
    exact ⟨⟨id, offset⟩, by unfold Arena.routeWithin; rw [here], rfl, .device here lt⟩
  | tooDeep => exact absurd lt (UInt32.not_lt.mpr (UInt32.zero_le))
  | @split depth id read write r w here _ _ ihr ihw =>
    have below : offset < r ∧ offset < w := by
      change offset < if r ≤ w then r else w at lt
      simp only [UInt32.lt_iff_toNat_lt, UInt32.le_iff_toNat_le] at lt ⊢
      split at lt <;> omega
    cases direction with
    | read =>
      rw [Arena.routeWithin, here]
      exact ihr (fun j w hj => only j w (.read here hj)) below.1
    | write =>
      rw [Arena.routeWithin, here]
      exact ihw (fun j w hj => only j w (.write here hj)) below.2

end Arena
end Backplane
