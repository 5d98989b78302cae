import Backplane.Bus.Transfer

/-!
# Memory dumps

A dump reads a range of addresses byte by byte, past all faults. Its text shows
sixteen bytes to a row, dashes for a fault, and below them the faults, adjacent
addresses of one kind as one run.
-/

namespace Backplane

/-- Adjacent addresses that faulted in the same way. -/
structure FaultRun where
  /-- The first address. -/
  first : UInt32
  /-- The last address. -/
  last : UInt32
  /-- Why they faulted. -/
  kind : FaultKind
  deriving DecidableEq, Repr

namespace FaultRun

/-- Whether `fault` comes right after the run and is of its kind. -/
def continues (run : FaultRun) (fault : Fault) : Bool :=
  run.kind = fault.kind && run.last + 1 = fault.address

/-- The runs of `faults` after those of which `run` is the last. -/
def extend (run : FaultRun) : List Fault → List FaultRun
  | [] => [run]
  | fault :: faults =>
    if run.continues fault then extend { run with last := fault.address } faults
    else run :: extend ⟨fault.address, fault.address, fault.kind⟩ faults

/-- The longest runs of adjacent faults of one kind. -/
def ofFaults : List Fault → List FaultRun
  | [] => []
  | fault :: faults => extend ⟨fault.address, fault.address, fault.kind⟩ faults

/-- The text of a run: its addresses and what happened there. -/
def text (run : FaultRun) : String :=
  let first := "$" ++ Numeral.hexPadded 4 run.first.toNat
  if run.first = run.last then first ++ " " ++ run.kind.label
  else first ++ "-$" ++ Numeral.hexPadded 4 run.last.toNat ++ " " ++ run.kind.label

end FaultRun

/-- The bytes of a range of addresses. -/
structure Dump where
  /-- The first address. -/
  start : UInt32
  /-- One answer for each byte, in order. -/
  bytes : List (Except Fault UInt8)

namespace Dump

/-- The number of bytes in a row of the text. -/
def rowBytes : Nat := 16

/-- The access of a tool that reads a dump. -/
def access (start : UInt32) (intent : Intent) : Access :=
  (Access.fromTooling { address := start, intent := intent, mode := .decomposed }).withFlags .bulk

/-- Reads `length` bytes from `start`. -/
def capture {σ : Type} [DeviceModel σ] (b : Bus σ) (start : UInt32) (length : Nat)
    (intent : Intent) : Bus σ × Dump :=
  let (b, reads) := b.readMany (access start intent) length
  (b, ⟨start, reads.bytes⟩)

variable (d : Dump)

/-- The runs of faults in the dump. -/
def faultRuns : List FaultRun := FaultRun.ofFaults (d.bytes.filterMap faultOf)

/-- A byte in a row. -/
def byteText : Except Fault UInt8 → String
  | .ok byte => " " ++ Numeral.hexPadded 2 byte.toNat
  | .error _ => " --"

/-- The rows of bytes in order, each with its address. -/
def rows (address : UInt32) (bytes : List (Except Fault UInt8)) : List String :=
  if _h : bytes = [] then []
  else
    ("$" ++ Numeral.hexPadded 4 address.toNat ++ ":" ++
        String.join ((bytes.take rowBytes).map byteText) ++ "\n") ::
      rows (address + rowBytes.toUInt32) (bytes.drop rowBytes)
termination_by bytes.length
decreasing_by
  have := List.length_pos_iff.mpr _h
  simp only [List.length_drop, rowBytes]
  omega

/-- The text of a dump. -/
def text : String :=
  let runs := d.faultRuns
  String.join (rows d.start d.bytes) ++
    if runs.isEmpty then ""
    else "faults:\n" ++ String.join (runs.map fun run => "  " ++ run.text ++ "\n")

end Dump
end Backplane
