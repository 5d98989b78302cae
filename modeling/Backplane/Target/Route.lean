import Backplane.Target.Arena

/-!
# Routes

Every access to a target is led through windows and splits to a cell: an offset
in a target that is memory or a device. A window leads on by offset, a split by
direction. Chains longer than `maxNesting` lead nowhere, so cycles do not hang.
-/

namespace Backplane

/-- An offset in a target. -/
structure Cell where
  /-- The target. -/
  target : TargetId
  /-- The offset in it. -/
  offset : UInt32
  deriving DecidableEq, Repr, Inhabited

/-- The cell `i` bytes further on in the same target. -/
def Cell.advance (cell : Cell) (i : Nat) : Cell :=
  { cell with offset := cell.offset + i.toUInt32 }

namespace Arena

variable {σ : Type} (a : Arena σ)

/-- The cell that `cell` stands for, found in at most `steps` steps. -/
def routeWithin (direction : Direction) : Nat → Cell → Except Reject Cell
  | 0, _ => .error .nestingTooDeep
  | steps + 1, cell =>
    match a.get? cell.target with
    | none => .error .unbacked
    | some (.ram _) | some (.rom _) | some (.device _) => .ok cell
    | some (.split read write) =>
      routeWithin direction steps
        ⟨match direction with | .read => read | .write => write, cell.offset⟩
    | some (.window w) =>
      match w.route cell.offset with
      | none => .error .unbacked
      | some (target, offset) => routeWithin direction steps ⟨target, offset⟩

/-- The cell of memory or of a device that `cell` stands for. -/
def route (direction : Direction) (cell : Cell) : Except Reject Cell :=
  a.routeWithin direction (maxNesting + 1) cell

/-- Whether a write to `cell` is refused because it leads to read-only memory;
never with `bypass`. -/
def isProtected (cell : Cell) (bypass : Bool) : Bool :=
  !bypass &&
    match a.route .write cell with
    | .ok leaf =>
      match a.get? leaf.target with
      | some (.rom _) => true
      | _ => false
    | .error _ => false

/-- The first cell of a write of `bytes` bytes to `cell`, if all of them lead to
consecutive offsets of one device. -/
def deviceSpan? (cell : Cell) (bytes : Nat) : Option Cell :=
  match a.route .write cell with
  | .error _ => none
  | .ok leaf =>
    match a.get? leaf.target with
    | some (.device _) =>
      if (List.range bytes).all fun i =>
          match a.route .write (cell.advance i) with
          | .ok next => next = leaf.advance i
          | .error _ => false
      then some leaf else none
    | _ => none

end Arena
end Backplane
