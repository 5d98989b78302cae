import Backplane.Bus.Basic

/-!
# Accesses

How the bus serves accesses. An atomic access is one transaction: the page is
looked up, its permissions, the alignment and the capability for wide access are
checked, and the target is asked for each byte. A decomposed access is one
transaction for each byte; a fault of one byte does not stop the others.

A wide atomic write is checked in full before its first byte is stored. If all
its bytes lead to one device, the device receives it as one call.

After each transaction the layer commands of devices are carried out, and the
transaction is traced.
-/

namespace Backplane

/-- Where a transaction leads. -/
structure Resolved where
  /-- The first byte in the target of the page. -/
  cell : Cell
  /-- The entry of the page. -/
  entry : PageEntry
  deriving DecidableEq, Repr

/-- The answers to the bytes of a decomposed read. -/
structure ByteReads where
  /-- The address of the first byte. -/
  address : UInt32
  /-- One answer for each byte, in order. -/
  bytes : List (Except Fault UInt8)

/-- The answers to the bytes of a decomposed write. -/
structure ByteWrites where
  /-- The address of the first byte. -/
  address : UInt32
  /-- One answer for each byte, in order. -/
  results : List (Except Fault Unit)

/-- The fault in an answer. -/
def faultOf {α : Type} : Except Fault α → Option Fault
  | .ok _ => none
  | .error fault => some fault

namespace ByteReads

variable (r : ByteReads)

/-- The faults of the bytes, in order. -/
def faults : List Fault := r.bytes.filterMap faultOf

/-- Whether no byte faulted. -/
def isComplete : Bool := r.bytes.all fun byte => (faultOf byte).isNone

/-- A byte of an answer, open bus for a fault. -/
def byteOrOpen : Except Fault UInt8 → UInt8
  | .ok byte => byte
  | .error _ => openBus

/-- The value of the bytes, the lowest first. -/
def assemble : List UInt8 → UInt32
  | [] => 0
  | byte :: rest => byte.toUInt32 ||| (assemble rest <<< 8)

/-- The value of the first four bytes, with open bus for a fault. -/
def openBusValue : UInt32 := assemble ((r.bytes.take 4).map byteOrOpen)

/-- The value of the first four bytes, or the first fault of any byte. -/
def value : Except Fault UInt32 :=
  match r.faults with
  | fault :: _ => .error fault
  | [] => .ok r.openBusValue

end ByteReads

namespace ByteWrites

variable (w : ByteWrites)

/-- The faults of the bytes, in order. -/
def faults : List Fault := w.results.filterMap faultOf

/-- Whether no byte faulted. -/
def isComplete : Bool := w.results.all fun result => (faultOf result).isNone

/-- Success, or the first fault of any byte. -/
def outcome : Except Fault Unit :=
  match w.faults with
  | fault :: _ => .error fault
  | [] => .ok ()

end ByteWrites

namespace Bus

variable {σ : Type}

/-! ## Page checks -/

/-- Where `a` leads, if its page lets it pass. -/
def resolve (b : Bus σ) (a : Access) : Except Fault Resolved :=
  match b.map.table.lookup a.address with
  | none => .error (.unmappedAt a.address)
  | some (entry, offset) =>
    match entry.target with
    | none => .error ⟨.unmapped, entry.region, a.address⟩
    | some target =>
      match checkPermission entry.perms a.intent with
      | .error kind => .error ⟨kind, entry.region, a.address⟩
      | .ok () =>
        if a.width = .byte then .ok ⟨⟨target, offset⟩, entry⟩
        else match checkAlignment a.address a.width with
          | .error kind => .error ⟨kind, entry.region, a.address⟩
          | .ok () =>
            if entry.caps.contains .wide then .ok ⟨⟨target, offset⟩, entry⟩
            else .error ⟨.deviceFault, entry.region, a.address⟩

/-- What a device is told about `a`. -/
def contextOf (a : Access) (entry : PageEntry) : DeviceContext :=
  ⟨a.cycle, a.source, entry.deviceId⟩

/-- The fault that a refusal becomes. -/
def faultFor (a : Access) (entry : PageEntry) (reason : Reject) : Fault :=
  ⟨reason.faultKind, entry.region, a.address⟩

/-! ## Bytes of a transaction -/

section Bytes

variable [DeviceModel σ]

/-- Reads one byte for `a`. -/
def readByte (f : Fabric σ) (a : Access) (entry : PageEntry) (cell : Cell) :
    Fabric σ × Except Reject UInt8 :=
  if a.suppressesSideEffects then f.peek cell else f.read cell (contextOf a entry)

/-- Writes one byte for `a`. -/
def writeByte (f : Fabric σ) (a : Access) (entry : PageEntry) (cell : Cell) (value : UInt8) :
    Fabric σ × Except Reject Unit :=
  if a.suppressesSideEffects then f.poke cell value (a.intent = .debugWrite)
  else f.write cell value (contextOf a entry)

/-- Reads the bytes at distances `lanes` for `a`, up to the first that is
refused. -/
def readBytes (a : Access) (r : Resolved) : Fabric σ → List Nat → Fabric σ × Except Reject UInt32
  | f, [] => (f, .ok 0)
  | f, lane :: lanes =>
    match readByte f a r.entry (r.cell.advance lane) with
    | (f, .error reason) => (f, .error reason)
    | (f, .ok byte) =>
      match readBytes a r f lanes with
      | (f, .error reason) => (f, .error reason)
      | (f, .ok rest) => (f, .ok (byte.toUInt32 <<< (8 * lane).toUInt32 ||| rest))

/-- Writes the bytes of the value of `a` at distances `lanes`, up to the first
that is refused. -/
def writeBytes (a : Access) (r : Resolved) : Fabric σ → List Nat → Fabric σ × Except Reject Unit
  | f, [] => (f, .ok ())
  | f, lane :: lanes =>
    match writeByte f a r.entry (r.cell.advance lane) (Access.valueByte a.value lane) with
    | (f, .error reason) => (f, .error reason)
    | (f, .ok ()) => writeBytes a r f lanes

/-- Whether all bytes of a wide write lead to something that can be written. -/
def checkLanes (arena : Arena σ) (cell : Cell) (bypass : Bool) : List Nat → Except Reject Unit
  | [] => .ok ()
  | lane :: lanes =>
    if arena.isProtected (cell.advance lane) bypass then .error .readOnly
    else match arena.route .write (cell.advance lane) with
      | .error reason => .error reason
      | .ok _ => checkLanes arena cell bypass lanes

/-- Writes the value of `a` where its page led. -/
def writeResolved (f : Fabric σ) (a : Access) (r : Resolved) : Fabric σ × Except Reject Unit :=
  let lanes := List.range a.width.bytes
  if a.width = .byte then writeBytes a r f lanes
  else match checkLanes f.arena r.cell (a.intent = .debugWrite) lanes with
    | .error reason => (f, .error reason)
    | .ok () =>
      if a.suppressesSideEffects then writeBytes a r f lanes
      else match f.arena.deviceSpan? r.cell a.width.bytes with
        | some leaf =>
          f.writeWide leaf (a.value &&& a.width.mask) a.width.bytes (contextOf a r.entry)
        | none => writeBytes a r f lanes

end Bytes

/-! ## The end of a transaction -/

/-- Carries out the layer commands that wait. -/
def settle (b : Bus σ) : Bus σ :=
  match b.fabric.commands with
  | [] => b
  | commands =>
    { b with
      map := commands.foldl AddressMap.command b.map
      fabric := { b.fabric with commands := [] } }

/-- The trace record of a transaction, made after it. -/
def recordOf (b : Bus σ) (a : Access) (value : UInt32) (fault : Option FaultKind) : TraceRecord :=
  let page := match b.map.table.lookup a.address with
    | some (entry, _) => (entry.region, entry.deviceId)
    | none => (.invalid, 0)
  { cycle := a.cycle
    address := a.address
    value := value
    widthBits := a.width.bits
    intent := a.intent
    flags := a.flags
    source := a.source
    deviceId := page.2
    region := page.1
    fault := fault }

/-- Traces a transaction, unless its flags say not to. -/
def record (b : Bus σ) (a : Access) (value : UInt32) (fault : Option FaultKind) : Bus σ :=
  if a.flags.contains .noTrace then b
  else match b.trace with
    | none => b
    | some ring => { b with trace := some (ring.emit (b.recordOf a value fault)) }

variable [DeviceModel σ]

/-! ## Transactions -/

/-- Reads as one transaction. -/
def readAtomic (b : Bus σ) (a : Access) : Bus σ × Except Fault UInt32 :=
  match b.resolve a with
  | .error fault => (b.settle.record a 0 fault.kind, .error fault)
  | .ok r =>
    match readBytes a r b.fabric (List.range a.width.bytes) with
    | (f, .ok value) => (({ b with fabric := f }).settle.record a value none, .ok value)
    | (f, .error reason) =>
      let fault := faultFor a r.entry reason
      (({ b with fabric := f }).settle.record a 0 fault.kind, .error fault)

/-- Writes as one transaction. -/
def writeAtomic (b : Bus σ) (a : Access) : Bus σ × Except Fault Unit :=
  let value := a.value &&& a.width.mask
  match b.resolve a with
  | .error fault => (b.settle.record a value fault.kind, .error fault)
  | .ok r =>
    match writeResolved b.fabric a r with
    | (f, .ok ()) => (({ b with fabric := f }).settle.record a value none, .ok ())
    | (f, .error reason) =>
      let fault := faultFor a r.entry reason
      (({ b with fabric := f }).settle.record a value fault.kind, .error fault)

/-! ## Series of transactions -/

/-- The work of `inTurn`, with the answers so far, the last first. -/
def inTurnFrom {α β : Type} (step : Bus σ → α → Bus σ × β) :
    Bus σ → List β → List α → Bus σ × List β
  | b, done, [] => (b, done.reverse)
  | b, done, x :: xs =>
    let (b, y) := step b x
    inTurnFrom step b (y :: done) xs

/-- Carries out a step for each item, one after the other. -/
def inTurn {α β : Type} (step : Bus σ → α → Bus σ × β) (b : Bus σ) (xs : List α) :
    Bus σ × List β :=
  inTurnFrom step b [] xs

omit [DeviceModel σ] in
theorem inTurnFrom_eq {α β : Type} (step : Bus σ → α → Bus σ × β) (b : Bus σ) (done : List β)
    (xs : List α) :
    inTurnFrom step b done xs =
      ((inTurn step b xs).1, done.reverse ++ (inTurn step b xs).2) := by
  induction xs generalizing b done with
  | nil => simp [inTurn, inTurnFrom]
  | cons x xs ih => simp [inTurn, inTurnFrom, ih (step b x).1 (_ :: _)]

omit [DeviceModel σ] in
@[simp] theorem inTurn_nil {α β : Type} (step : Bus σ → α → Bus σ × β) (b : Bus σ) :
    inTurn step b [] = (b, []) := rfl

omit [DeviceModel σ] in
theorem inTurn_cons {α β : Type} (step : Bus σ → α → Bus σ × β) (b : Bus σ) (x : α)
    (xs : List α) :
    inTurn step b (x :: xs) =
      ((inTurn step (step b x).1 xs).1, (step b x).2 :: (inTurn step (step b x).1 xs).2) := by
  simp [inTurn, inTurnFrom, inTurnFrom_eq step (step b x).1 [_]]

/-- Reads `count` bytes from the address of `a`, each as its own transaction. -/
def readMany (b : Bus σ) (a : Access) (count : Nat) : Bus σ × ByteReads :=
  let (b, bytes) := inTurn
    (fun b lane =>
      let (b, result) := b.readAtomic (a.lane lane)
      (b, result.map UInt32.toUInt8)) b (List.range count)
  (b, ⟨a.address, bytes⟩)

/-- Writes `bytes` from the address of `a`, each as its own transaction. -/
def writeMany (b : Bus σ) (a : Access) (bytes : List UInt8) : Bus σ × ByteWrites :=
  let (b, results) := inTurn
    (fun b (byte, lane) => b.writeAtomic { a.lane lane with value := byte.toUInt32 })
    b bytes.zipIdx
  (b, ⟨a.address, results⟩)

/-! ## Entry points -/

/-- Reads. -/
def read (b : Bus σ) (a : Access) : Bus σ × Except Fault UInt32 :=
  match a.mode with
  | .atomic => b.readAtomic a
  | .decomposed =>
    let (b, reads) := b.readMany a a.width.bytes
    (b, reads.value)

/-- Writes. -/
def write (b : Bus σ) (a : Access) : Bus σ × Except Fault Unit :=
  match a.mode with
  | .atomic => b.writeAtomic a
  | .decomposed =>
    let (b, writes) := b.writeMany a
      ((List.range a.width.bytes).map (Access.valueByte a.value))
    (b, writes.outcome)

/-- Reads a byte for the processor; a fault reads as open bus. -/
def readCpuByte (b : Bus σ) (address : UInt32) : Bus σ × UInt8 :=
  match b.readAtomic (.read address) with
  | (b, .ok value) => (b, value.toUInt8)
  | (b, .error _) => (b, openBus)

/-- Writes a byte for the processor; a fault is forgotten. -/
def writeCpuByte (b : Bus σ) (address : UInt32) (value : UInt8) : Bus σ :=
  (b.writeAtomic (.write address value)).1

/-- Reads a value of `bits` bits for the processor, byte by byte; a fault reads
as open bus. -/
def readCpu (b : Bus σ) (address : UInt32) (bits : UInt8) : Bus σ × Except BusError UInt32 :=
  match Width.ofBits bits with
  | .error e => (b, .error e)
  | .ok width =>
    let (b, reads) := b.readMany
      { address := address, intent := .dataRead, width := width, mode := .decomposed }
      width.bytes
    (b, .ok reads.openBusValue)

/-- Writes a value of `bits` bits for the processor, byte by byte; faults are
forgotten. -/
def writeCpu (b : Bus σ) (address : UInt32) (bits : UInt8) (value : UInt32) :
    Bus σ × Except BusError Unit :=
  match Width.ofBits bits with
  | .error e => (b, .error e)
  | .ok width =>
    let (b, _) := b.write
      { address := address, intent := .dataWrite, width := width, mode := .decomposed
        value := value &&& width.mask }
    (b, .ok ())

/-- Reads a byte for a tool, without side effects. -/
def peekByte (b : Bus σ) (address : UInt32) : Bus σ × Except Fault UInt8 :=
  let (b, result) := b.readAtomic (.debugRead address)
  (b, result.map UInt32.toUInt8)

/-- Writes a byte for a tool, without side effects, read-only memory included. -/
def pokeByte (b : Bus σ) (address : UInt32) (value : UInt8) : Bus σ × Except Fault Unit :=
  b.writeAtomic (.debugWrite address value)

end Bus
end Backplane
