import Backplane.Target.Route

/-!
# Serving bytes

The fabric is the arena of targets with all that devices leave behind: notices
for a consumer, layer commands for the bus, and a log of the calls that their
handlers received.

`read` and `write` have the side effects of devices; `peek` and `poke` never
have any. Read-only memory refuses a write, and takes a poke only with `bypass`.
-/

namespace Backplane

/-- A call of a device's handler. -/
inductive DeviceCall where
  /-- A read of one byte. -/
  | read (cell : Cell)
  /-- A write of one byte. -/
  | write (cell : Cell) (value : UInt8)
  /-- A write of several bytes at once. -/
  | writeWide (cell : Cell) (value : UInt32) (bytes : Nat)
  /-- A read without side effects. -/
  | peek (cell : Cell)
  /-- A write without side effects. -/
  | poke (cell : Cell) (value : UInt8)
  deriving DecidableEq, Repr

namespace DeviceCall

/-- The cell at which a handler is called. -/
def cell : DeviceCall → Cell
  | read cell | write cell _ | writeWide cell _ _ | peek cell | poke cell _ => cell

/-- Whether the call is free of side effects. -/
def isQuiet : DeviceCall → Bool
  | peek _ | poke _ _ => true
  | read _ | write _ _ | writeWide _ _ _ => false

end DeviceCall

/-- The targets of a machine and what its devices leave behind. -/
structure Fabric (σ : Type) where
  /-- The targets. -/
  arena : Arena σ
  /-- The notices that wait for a consumer. -/
  notices : NoticeQueue
  /-- The layer commands that wait to be carried out, in order. -/
  commands : List LayerCommand
  /-- All calls of handlers so far, in order. -/
  calls : Array DeviceCall

namespace Fabric

variable {σ : Type}

/-- The fabric without targets, with room for `capacity` notices. -/
def empty (capacity : Nat) : Fabric σ := ⟨.empty, .withCapacity capacity, [], #[]⟩

variable (f : Fabric σ)

/-- Takes in what comes of a call of the handler of a device. -/
def absorb {α : Type} (context : DeviceContext) (call : DeviceCall)
    (reply : DeviceReply σ α) : Fabric σ × Except Reject α :=
  ({ arena := f.arena.modify call.cell.target (.setState reply.state)
     notices := f.notices.pushAll
       (reply.notices.map fun kind => ⟨context.deviceId, context.cycle, kind⟩)
     commands := f.commands ++ reply.commands
     calls := f.calls.push call },
   reply.result)

/-- Notes a call that left nothing behind. -/
def note (call : DeviceCall) : Fabric σ := { f with calls := f.calls.push call }

/-- Replaces a byte of a block of `size` bytes, if there is one at `cell`. -/
def storeByte (cell : Cell) (value : UInt8) (size : Nat) : Fabric σ × Except Reject Unit :=
  if cell.offset.toNat < size then
    ({ f with arena := f.arena.modify cell.target (.store cell.offset value) }, .ok ())
  else
    (f, .error .unbacked)

/-- The byte of memory at an offset. -/
def byteAt (memory : Memory) (offset : UInt32) : Except Reject UInt8 :=
  match memory.get? offset.toNat with
  | some byte => .ok byte
  | none => .error .unbacked

variable [DeviceModel σ]

/-- Reads the byte that `cell` leads to. -/
def read (cell : Cell) (context : DeviceContext) : Fabric σ × Except Reject UInt8 :=
  match f.arena.route .read cell with
  | .error reason => (f, .error reason)
  | .ok leaf =>
    match f.arena.get? leaf.target with
    | some (.ram memory) | some (.rom memory) => (f, byteAt memory leaf.offset)
    | some (.device state) =>
      if leaf.offset < DeviceModel.size state then
        f.absorb context (.read leaf) (DeviceModel.read state leaf.offset context)
      else (f, .error .unbacked)
    | some (.window _) | some (.split _ _) => (f, .error .nestingTooDeep)
    | none => (f, .error .unbacked)

/-- Reads the byte that `cell` leads to, without side effects. -/
def peek (cell : Cell) : Fabric σ × Except Reject UInt8 :=
  match f.arena.route .read cell with
  | .error reason => (f, .error reason)
  | .ok leaf =>
    match f.arena.get? leaf.target with
    | some (.ram memory) | some (.rom memory) => (f, byteAt memory leaf.offset)
    | some (.device state) =>
      if leaf.offset < DeviceModel.size state then
        if (DeviceModel.caps state).contains .peek then
          (f.note (.peek leaf), DeviceModel.peek state leaf.offset)
        else (f, .error .noSideEffectFreePath)
      else (f, .error .unbacked)
    | some (.window _) | some (.split _ _) => (f, .error .nestingTooDeep)
    | none => (f, .error .unbacked)

/-- Writes the byte that `cell` leads to. -/
def write (cell : Cell) (value : UInt8) (context : DeviceContext) :
    Fabric σ × Except Reject Unit :=
  match f.arena.route .write cell with
  | .error reason => (f, .error reason)
  | .ok leaf =>
    match f.arena.get? leaf.target with
    | some (.ram memory) => f.storeByte leaf value memory.size
    | some (.rom _) => (f, .error .readOnly)
    | some (.device state) =>
      if leaf.offset < DeviceModel.size state then
        f.absorb context (.write leaf value) (DeviceModel.write state leaf.offset value context)
      else (f, .error .unbacked)
    | some (.window _) | some (.split _ _) => (f, .error .nestingTooDeep)
    | none => (f, .error .unbacked)

/-- Hands a write of several bytes to the device at `leaf` as one call. -/
def writeWide (leaf : Cell) (value : UInt32) (bytes : Nat) (context : DeviceContext) :
    Fabric σ × Except Reject Unit :=
  match f.arena.get? leaf.target with
  | some (.device state) =>
    if (leaf.advance (bytes - 1)).offset < DeviceModel.size state then
      f.absorb context (.writeWide leaf value bytes)
        (DeviceModel.writeWide state leaf.offset value bytes context)
    else (f, .error .unbacked)
  | _ => (f, .error .unbacked)

/-- Writes the byte that `cell` leads to, without side effects. -/
def poke (cell : Cell) (value : UInt8) (bypass : Bool) : Fabric σ × Except Reject Unit :=
  match f.arena.route .write cell with
  | .error reason => (f, .error reason)
  | .ok leaf =>
    match f.arena.get? leaf.target with
    | some (.ram memory) => f.storeByte leaf value memory.size
    | some (.rom memory) =>
      if bypass then f.storeByte leaf value memory.size else (f, .error .readOnly)
    | some (.device state) =>
      if leaf.offset < DeviceModel.size state then
        if (DeviceModel.caps state).contains .poke then
          let (state, result) := DeviceModel.poke state leaf.offset value
          ({ f with
              arena := f.arena.modify leaf.target (.setState state)
              calls := f.calls.push (.poke leaf value) }, result)
        else (f, .error .noSideEffectFreePath)
      else (f, .error .unbacked)
    | some (.window _) | some (.split _ _) => (f, .error .nestingTooDeep)
    | none => (f, .error .unbacked)

end Fabric
end Backplane
