import Backplane.Access.Fault

/-!
# Refusals

Why a target does not serve a byte, and the fault that becomes of it.
-/

namespace Backplane

/-- Why a target does not serve a byte. -/
inductive Reject where
  /-- A write to read-only memory. -/
  | readOnly
  /-- Nothing backs the offset. -/
  | unbacked
  /-- The device cannot be accessed without side effects. -/
  | noSideEffectFreePath
  /-- The device refused. -/
  | rejected
  /-- The chain of windows and splits is too long. -/
  | nestingTooDeep
  deriving DecidableEq, Repr, Inhabited

/-- The kind of fault that a refusal becomes. -/
def Reject.faultKind : Reject → FaultKind
  | readOnly => .permission
  | unbacked => .unmapped
  | noSideEffectFreePath | rejected | nestingTooDeep => .deviceFault

/-- The way in which data flows. -/
inductive Direction where
  /-- Reads, peeks and fetches. -/
  | read
  /-- Writes and pokes. -/
  | write
  deriving DecidableEq, Repr, Inhabited

end Backplane
