import Backplane.Page.Region
import Backplane.Text.Numeral

/-!
# Faults

How an access fails that a program on the bus made. Faults are answers, not
errors: each has a stable code, and names the address and the region where the
access failed.
-/

namespace Backplane

/-- Why an access failed. -/
inductive FaultKind where
  /-- Nothing answers at the address. -/
  | unmapped
  /-- The page lacks the permission that the access needs. -/
  | permission
  /-- The page of an instruction fetch is not executable. -/
  | noExecute
  /-- A wide access does not lie at a multiple of its width. -/
  | misaligned
  /-- The target refused. -/
  | deviceFault
  deriving DecidableEq, Repr, Inhabited

namespace FaultKind

/-- All kinds, in the order of their codes. -/
def all : List FaultKind := [unmapped, permission, noExecute, misaligned, deviceFault]

/-- The stable code of a kind. -/
def code : FaultKind → UInt8
  | unmapped => 1
  | permission => 2
  | noExecute => 3
  | misaligned => 4
  | deviceFault => 5

/-- The kind with this code. -/
def ofCode? (code : UInt8) : Option FaultKind := all.find? fun kind => kind.code = code

/-- The word for a kind in dumps and traces. -/
def label : FaultKind → String
  | unmapped => "unmapped"
  | permission => "permission"
  | noExecute => "no-execute"
  | misaligned => "misaligned"
  | deviceFault => "device-fault"

/-- What a kind says in a report. -/
def text : FaultKind → String
  | unmapped => "unmapped address"
  | permission => "permission denied"
  | noExecute => "instruction fetch from non-executable page"
  | misaligned => "misaligned access"
  | deviceFault => "device rejected access"

@[simp] theorem ofCode?_code (k : FaultKind) : ofCode? k.code = some k := by
  cases k <;> decide

end FaultKind

/-- The failure of one access. -/
structure Fault where
  /-- Why it failed. -/
  kind : FaultKind
  /-- What occupies the page. -/
  region : Region
  /-- The address of the byte or word that failed. -/
  address : UInt32
  deriving DecidableEq, Repr, Inhabited

namespace Fault

/-- The fault of an access where nothing is mapped. -/
def unmappedAt (address : UInt32) : Fault := ⟨.unmapped, .invalid, address⟩

/-- The text of a fault. -/
def text (f : Fault) : String :=
  f.kind.text ++ " at $" ++ Numeral.hexPadded 4 f.address.toNat ++ " (" ++ f.region.name ++ ")"

end Fault

/-- What a byte reads as when its access faulted. -/
def openBus : UInt8 := 0xFF

end Backplane
