import Backplane.Device.Probe
import Backplane.Target.Fabric

/-!
# Tallies of probes

How often each handler of a probe has run. A plain probe has no handler of its
own for peeks and pokes, and takes a write of several bytes as single writes.
-/

namespace Backplane

/-- How often each handler of a probe has run. -/
structure Tally where
  /-- Reads of a byte. -/
  reads : Nat := 0
  /-- Writes of a byte. -/
  writes : Nat := 0
  /-- Writes of several bytes as a whole. -/
  wideWrites : Nat := 0
  /-- Reads without side effects. -/
  peeks : Nat := 0
  /-- Writes without side effects. -/
  pokes : Nat := 0
  deriving DecidableEq, Repr

namespace Probe

/-- How many bytes of a series of writes are tried: those before the first that
is refused, and that one. -/
def triedLanes (p : Probe) : List (UInt32 × UInt8) → Nat
  | [] => 0
  | lane :: lanes => if lane.1 ∈ p.noWrite then 1 else 1 + p.triedLanes lanes

/-- The tally after a call. -/
def count (p : Probe) (t : Tally) : DeviceCall → Tally
  | .read _ => { t with reads := t.reads + 1 }
  | .write _ _ => { t with writes := t.writes + 1 }
  | .writeWide cell value bytes =>
    if p.full then { t with wideWrites := t.wideWrites + 1 }
    else { t with writes := t.writes + p.triedLanes (writeLanes cell.offset value bytes) }
  | .peek _ => if p.full then { t with peeks := t.peeks + 1 } else t
  | .poke _ _ => if p.full then { t with pokes := t.pokes + 1 } else t

end Probe

/-- The tally of a probe that is the target `id`. -/
def Fabric.tally {σ : Type} (f : Fabric σ) (id : TargetId) (p : Probe) : Tally :=
  f.calls.foldl (fun t call => if call.cell.target = id then p.count t call else t) {}

end Backplane
