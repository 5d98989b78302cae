import Backplane.Bus.Transactions

/-!
# Address arithmetic

Serving an access takes sums of offsets: the byte at a distance in a page, a part of a
window in its target, the bytes of a span in their device. They are formed in 32 bits and
not checked. A build without overflow checks keeps the low 32 bits, as `Cell.advance` and
`Window.route` do; one with them stops at the first sum that has more.

`sums` lists the sums of a transaction in the order in which they are formed, and
`overflow?` tells whether one of a series of transactions stops, and how it leaves the bus.
-/

namespace Backplane

/-- A sum that is formed in 32 bits. -/
structure OffsetSum where
  /-- The first number. -/
  left : UInt32
  /-- The number added to it. -/
  right : UInt32
  deriving DecidableEq, Repr

/-- Whether a sum fits in 32 bits. -/
def OffsetSum.isExact (s : OffsetSum) : Bool := s.left.toNat + s.right.toNat < UInt32.size

/-- The sum that leads to the byte at distance `lane`. -/
def Cell.laneSum (cell : Cell) (lane : Nat) : OffsetSum := ⟨cell.offset, lane.toUInt32⟩

namespace Arena

variable {σ : Type} (a : Arena σ)

/-- The sums on a route, one for each window that is passed. -/
def routeSumsWithin (direction : Direction) : Nat → Cell → List OffsetSum
  | 0, _ => []
  | steps + 1, cell =>
    match a.get? cell.target with
    | none | some (.ram _) | some (.rom _) | some (.device _) => []
    | some (.split read write) =>
      routeSumsWithin direction steps
        ⟨match direction with | .read => read | .write => write, cell.offset⟩
    | some (.window w) =>
      match w.part? cell.offset with
      | none => []
      | some s =>
        ⟨s.targetOffset, cell.offset - s.offset⟩ ::
          routeSumsWithin direction steps ⟨s.target, s.targetOffset + (cell.offset - s.offset)⟩

/-- The sums on a route to memory or to a device. -/
def routeSums (direction : Direction) (cell : Cell) : List OffsetSum :=
  a.routeSumsWithin direction (maxNesting + 1) cell

/-- The sums that lead from a cell to the byte at distance `lane`, and on from there. -/
def laneSums (direction : Direction) (cell : Cell) (lane : Nat) : List OffsetSum :=
  cell.laneSum lane :: a.routeSums direction (cell.advance lane)

/-- The sums of comparing the bytes at distances `lanes` with those of a device, up to the
first that leads elsewhere. -/
def spanSumsFrom (cell leaf : Cell) : List Nat → List OffsetSum
  | [] => []
  | lane :: lanes =>
    a.laneSums .write cell lane ++ leaf.laneSum lane ::
      match a.route .write (cell.advance lane) with
      | .error _ => []
      | .ok next => if next = leaf.advance lane then spanSumsFrom cell leaf lanes else []

/-- The sums of finding out whether a write of `bytes` bytes leads to one device. -/
def spanSums (cell : Cell) (bytes : Nat) : List OffsetSum :=
  a.routeSums .write cell ++
    match a.route .write cell with
    | .error _ => []
    | .ok leaf =>
      match a.get? leaf.target with
      | some (.device _) => a.spanSumsFrom cell leaf (List.range' 1 (bytes - 1))
      | _ => []

end Arena

namespace Bus

variable {σ : Type}

/-- The sums of the check before a wide write, up to the first byte that fails it. -/
def checkSums (arena : Arena σ) (cell : Cell) (bypass : Bool) : List Nat → List OffsetSum
  | [] => []
  | lane :: lanes =>
    arena.laneSums .write cell lane ++
      if arena.isProtected (cell.advance lane) bypass then []
      else match arena.route .write (cell.advance lane) with
        | .error _ => []
        | .ok _ => checkSums arena cell bypass lanes

variable [DeviceModel σ]

/-- The sums of reading the bytes at distances `lanes`, up to the first that is refused. -/
def readSums (a : Access) (r : Resolved) : Fabric σ → List Nat → List OffsetSum
  | _, [] => []
  | f, lane :: lanes =>
    f.arena.laneSums .read r.cell lane ++
      match readByte f a r.entry (r.cell.advance lane) with
      | (_, .error _) => []
      | (f, .ok _) => readSums a r f lanes

/-- The sums of writing the bytes at distances `lanes`, up to the first that is refused. -/
def writeSums (a : Access) (r : Resolved) : Fabric σ → List Nat → List OffsetSum
  | _, [] => []
  | f, lane :: lanes =>
    f.arena.laneSums .write r.cell lane ++
      match writeByte f a r.entry (r.cell.advance lane) (Access.valueByte a.value lane) with
      | (_, .error _) => []
      | (f, .ok ()) => writeSums a r f lanes

/-- The sums of writing the value of `a` where its page led. -/
def resolvedSums (f : Fabric σ) (a : Access) (r : Resolved) : List OffsetSum :=
  let lanes := List.range a.width.bytes
  let bypass := a.intent = .debugWrite
  if a.width = .byte then writeSums a r f lanes
  else checkSums f.arena r.cell bypass lanes ++
    match checkLanes f.arena r.cell bypass lanes with
    | .error _ => []
    | .ok () =>
      if a.suppressesSideEffects then writeSums a r f lanes
      else f.arena.spanSums r.cell a.width.bytes ++
        match f.arena.deviceSpan? r.cell a.width.bytes with
        | some leaf => [leaf.laneSum (a.width.bytes - 1)]
        | none => writeSums a r f lanes

/-- The sums of a transaction, in order. -/
def sums (b : Bus σ) (x : Transaction) : List OffsetSum :=
  match b.resolve x.access with
  | .error _ => []
  | .ok r =>
    match x with
    | .read a => readSums a r b.fabric (List.range a.width.bytes)
    | .write a => resolvedSums b.fabric a r

/-- The bus that a transaction leaves when it stops at a sum. The bytes of a read that come
before that sum have been read; a write stops before it stores anything. Layer commands wait
still, and nothing is traced. -/
def stopped (b : Bus σ) (x : Transaction) : Bus σ :=
  match b.resolve x.access with
  | .error _ => b
  | .ok r =>
    match x with
    | .read a =>
      let before := (List.range a.width.bytes).takeWhile fun lane =>
        (b.arena.laneSums .read r.cell lane).all OffsetSum.isExact
      { b with fabric := (readBytes a r b.fabric before).1 }
    | .write _ => b

/-- The bus that a series of transactions leaves when one of them stops at a sum that has
more than 32 bits; nothing if none does. -/
def overflow? (b : Bus σ) : List Transaction → Option (Bus σ)
  | [] => none
  | x :: xs =>
    if (b.sums x).all OffsetSum.isExact then overflow? (b.transact x) xs else some (b.stopped x)

end Bus
end Backplane
