/-!
# Target ids

Pages, windows and layers refer to targets by number.
-/

namespace Backplane

/-- The number of a target, in the order of registration. -/
structure TargetId where
  /-- Position among the targets. -/
  number : UInt32
  deriving DecidableEq, Repr, Inhabited

namespace TargetId

/-- The position of the target in its arena. -/
def index (id : TargetId) : Nat := id.number.toNat

/-- The id of the target at position `i`. -/
def ofIndex (i : Nat) : TargetId := ⟨i.toUInt32⟩

end TargetId
end Backplane
