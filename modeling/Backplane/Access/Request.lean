import Backplane.Access.Fault
import Backplane.Bus.Error
import Backplane.Page.Perms

/-!
# Access requests

One access to the address space: where, how wide, what for, by whom and when.
The intent decides which permission the page must grant, and, with the flags,
whether the access may have side effects.
-/

namespace Backplane

/-- The width of an access. -/
inductive Width where
  /-- One byte. -/
  | byte
  /-- Two bytes. -/
  | half
  /-- Four bytes. -/
  | word
  deriving DecidableEq, Repr, Inhabited

namespace Width

/-- The width of this many bits. -/
def ofBits (bits : UInt8) : Except BusError Width :=
  if bits = 8 then .ok byte
  else if bits = 16 then .ok half
  else if bits = 32 then .ok word
  else .error (.invalidWidth bits)

/-- The number of bits. -/
def bits : Width → UInt8
  | byte => 8
  | half => 16
  | word => 32

/-- The number of bytes. -/
def bytes : Width → Nat
  | byte => 1
  | half => 2
  | word => 4

theorem bytes_pos (width : Width) : 0 < width.bytes := by
  cases width <;> decide

/-- The largest value of this width. -/
def mask : Width → UInt32
  | byte => 0xFF
  | half => 0xFFFF
  | word => 0xFFFFFFFF

end Width

/-- How a wide access is carried out. -/
inductive Mode where
  /-- As one transaction, which succeeds or faults as a whole. -/
  | atomic
  /-- As one transaction for each byte. -/
  | decomposed
  deriving DecidableEq, Repr, Inhabited

/-- What an access is for. -/
inductive Intent where
  /-- A data read of the processor. -/
  | dataRead
  /-- A data write of the processor. -/
  | dataWrite
  /-- A read of a tool, without side effects. -/
  | debugRead
  /-- A write of a tool, without side effects; it may change read-only memory. -/
  | debugWrite
  /-- The fetch of an instruction. -/
  | instructionFetch
  /-- A read by a device. -/
  | dmaRead
  /-- A write by a device. -/
  | dmaWrite
  deriving DecidableEq, Repr, Inhabited

namespace Intent

/-- Whether the intent is to write. -/
def isWrite : Intent → Bool
  | dataWrite | debugWrite | dmaWrite => true
  | dataRead | debugRead | instructionFetch | dmaRead => false

/-- Whether the access is made by a tool. -/
def isDebug : Intent → Bool
  | debugRead | debugWrite => true
  | dataRead | dataWrite | instructionFetch | dmaRead | dmaWrite => false

/-- The permission that the page must grant. -/
def required : Intent → Perms
  | dataRead | debugRead | dmaRead => .read
  | dataWrite | debugWrite | dmaWrite => .write
  | instructionFetch => .execute

/-- The short name of an intent. -/
def shortName : Intent → String
  | dataRead => "read"
  | dataWrite => "write"
  | debugRead => "dbg-read"
  | debugWrite => "dbg-write"
  | instructionFetch => "fetch"
  | dmaRead => "dma-read"
  | dmaWrite => "dma-write"

/-- The name of an intent in traces. -/
def name : Intent → String
  | dataRead => "DataRead"
  | dataWrite => "DataWrite"
  | debugRead => "DebugRead"
  | debugWrite => "DebugWrite"
  | instructionFetch => "InstructionFetch"
  | dmaRead => "DmaRead"
  | dmaWrite => "DmaWrite"

/-- All intents. -/
def all : List Intent :=
  [dataRead, dataWrite, debugRead, debugWrite, instructionFetch, dmaRead, dmaWrite]

end Intent

/-- The flags of an access. Bits without a name are kept as they are. -/
structure AccessFlags where
  /-- Bit 0 forbids side effects, bit 1 marks bulk access, bit 2 keeps the access
  out of the trace. -/
  bits : UInt8
  deriving DecidableEq, Repr, Inhabited

namespace AccessFlags

/-- No flag. -/
def none : AccessFlags := ⟨0⟩

/-- The access must not have side effects. -/
def noSideEffects : AccessFlags := ⟨1⟩

/-- The access is part of a bulk transfer. -/
def bulk : AccessFlags := ⟨2⟩

/-- The access is not traced. -/
def noTrace : AccessFlags := ⟨4⟩

/-- Whether every flag of `q` is one of `p`. -/
def contains (p q : AccessFlags) : Bool := p.bits &&& q.bits = q.bits

/-- The flags in either. -/
def union (p q : AccessFlags) : AccessFlags := ⟨p.bits ||| q.bits⟩

/-- The names of the flags. -/
def names : FlagSet.Names := [("NO_SIDE_EFFECTS", 1), ("BULK", 2), ("NO_TRACE", 4)]

/-- The text of a set of flags. -/
def text (flags : AccessFlags) : String := FlagSet.text names flags.bits

end AccessFlags

/-- The number of whoever makes an access. -/
structure SourceId where
  /-- The number, in sixteen bits. -/
  number : UInt16
  deriving DecidableEq, Repr, Inhabited

namespace SourceId

/-- The processor. -/
def processor : SourceId := ⟨0⟩

/-- Tools such as a monitor. -/
def tooling : SourceId := ⟨0xFFFE⟩

end SourceId

/-- One access to the address space. -/
structure Access where
  /-- The first byte. -/
  address : UInt32
  /-- The value to write. -/
  value : UInt32 := 0
  /-- The width. -/
  width : Width := .byte
  /-- How a wide access is carried out. -/
  mode : Mode := .atomic
  /-- Whether the machine itself makes the access, and not a tool. -/
  emulated : Bool := true
  /-- What the access is for. -/
  intent : Intent
  /-- Who makes it. -/
  source : SourceId := .processor
  /-- When it is made. -/
  cycle : UInt64 := 0
  /-- Further wishes. -/
  flags : AccessFlags := .none
  deriving DecidableEq, Repr, Inhabited

namespace Access

/-- A processor read of one byte. -/
def read (address : UInt32) : Access where
  address := address
  intent := .dataRead

/-- A processor write of one byte. -/
def write (address : UInt32) (value : UInt8) : Access where
  address := address
  value := value.toUInt32
  intent := .dataWrite

/-- The fetch of one byte of an instruction. -/
def fetch (address : UInt32) : Access where
  address := address
  intent := .instructionFetch

/-- The access, made by a tool. -/
def fromTooling (a : Access) : Access := { a with emulated := false, source := .tooling }

/-- A tool's read of one byte. -/
def debugRead (address : UInt32) : Access :=
  fromTooling { address := address, intent := .debugRead }

/-- A tool's write of one byte. -/
def debugWrite (address : UInt32) (value : UInt8) : Access :=
  fromTooling { address := address, value := value.toUInt32, intent := .debugWrite }

/-- The access with more flags. -/
def withFlags (a : Access) (flags : AccessFlags) : Access :=
  { a with flags := a.flags.union flags }

/-- Whether the access must not have side effects. -/
def suppressesSideEffects (a : Access) : Bool :=
  a.intent.isDebug || a.flags.contains .noSideEffects

/-- Byte `i` of `value`, counted from the lowest; bytes past the fourth are zero. -/
def valueByte (value : UInt32) (i : Nat) : UInt8 := (value.toNat >>> (8 * i)).toUInt8

/-- The access to the byte at distance `i`, with byte `i` of the value. -/
def lane (a : Access) (i : Nat) : Access :=
  { a with
    address := a.address + i.toUInt32
    value := (valueByte a.value i).toUInt32
    width := .byte }

end Access

/-- Whether a page with permissions `perms` may serve `intent`, and why not. A
tool's write is always served. -/
def checkPermission (perms : Perms) (intent : Intent) : Except FaultKind Unit :=
  if intent = .debugWrite ∨ perms.contains intent.required then .ok ()
  else if intent = .instructionFetch then .error .noExecute
  else .error .permission

/-- Whether `address` is a multiple of the width. -/
def checkAlignment (address : UInt32) (width : Width) : Except FaultKind Unit :=
  if address.toNat % width.bytes = 0 then .ok () else .error .misaligned

end Backplane
