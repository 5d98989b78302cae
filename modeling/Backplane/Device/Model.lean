import Backplane.Access.Request
import Backplane.Device.Notice
import Backplane.Overlay.Id
import Backplane.Target.Caps
import Backplane.Target.Reject

/-!
# Devices

A device is a state with handlers for the accesses that reach it. Reading and
writing may change the state, post notices and ask for overlay layers to be
shown or hidden. Peeking never changes anything, and poking changes nothing but
the state; a device that cannot do so refuses, which is the default.

A write of several bytes is one call. By default it writes the bytes one after
the other, the lowest first, up to the first that is refused.
-/

namespace Backplane

/-- What a device asks of the overlay layers. -/
inductive LayerCommand where
  /-- Show a layer. -/
  | activate (layer : LayerId)
  /-- Hide a layer. -/
  | deactivate (layer : LayerId)
  deriving DecidableEq, Repr, Inhabited

/-- What a device is told about the access that it serves. -/
structure DeviceContext where
  /-- The time of the access. -/
  cycle : UInt64
  /-- Who makes the access. -/
  source : SourceId
  /-- The device id of the page that led to the device. -/
  deviceId : UInt32
  deriving DecidableEq, Repr, Inhabited

/-- What comes of one call of a handler. -/
structure DeviceReply (σ α : Type) where
  /-- The state after the call. -/
  state : σ
  /-- The answer. -/
  result : Except Reject α
  /-- The notices posted, in order. -/
  notices : List NoticeKind := []
  /-- The layer commands issued, in order. -/
  commands : List LayerCommand := []

namespace DeviceReply

/-- The reply of a device that refuses and does nothing. -/
def refuse {σ α : Type} (state : σ) (reason : Reject) : DeviceReply σ α where
  state := state
  result := .error reason

/-- The reply of a device that answers and does nothing. -/
def answer {σ α : Type} (state : σ) (value : α) : DeviceReply σ α where
  state := state
  result := .ok value

/-- The reply with its state seen as part of another. -/
def mapState {σ τ α : Type} (f : σ → τ) (r : DeviceReply σ α) : DeviceReply τ α where
  state := f r.state
  result := r.result
  notices := r.notices
  commands := r.commands

end DeviceReply

/-- The bytes of a write of `bytes` bytes with their offsets, the lowest
first. -/
def writeLanes (offset value : UInt32) (bytes : Nat) : List (UInt32 × UInt8) :=
  (List.range bytes).map fun i =>
    (offset + i.toUInt32, (value >>> (8 * i).toUInt32).toUInt8)

/-- Writes bytes one after the other, up to the first that is refused. -/
def writeInTurn {σ : Type} (write : σ → UInt32 → UInt8 → DeviceReply σ Unit) :
    σ → List (UInt32 × UInt8) → DeviceReply σ Unit
  | state, [] => .answer state ()
  | state, (offset, value) :: rest =>
    let first := write state offset value
    match first.result with
    | .error _ => first
    | .ok () =>
      let others := writeInTurn write first.state rest
      { others with
        notices := first.notices ++ others.notices
        commands := first.commands ++ others.commands }

/-- The devices whose states are of type `σ`. -/
class DeviceModel (σ : Type) where
  /-- The short name of the kind of device. -/
  kind : σ → String
  /-- The number of bytes that the device answers. -/
  size : σ → UInt32
  /-- What the device promises. -/
  caps : σ → Caps
  /-- Reads the byte at an offset. -/
  read : σ → UInt32 → DeviceContext → DeviceReply σ UInt8
  /-- Writes the byte at an offset. -/
  write : σ → UInt32 → UInt8 → DeviceContext → DeviceReply σ Unit
  /-- Writes a value of several bytes at an offset. -/
  writeWide : σ → UInt32 → UInt32 → Nat → DeviceContext → DeviceReply σ Unit :=
    fun state offset value bytes context =>
      writeInTurn (fun s o v => write s o v context) state (writeLanes offset value bytes)
  /-- Reads the byte at an offset without side effects. -/
  peek : σ → UInt32 → Except Reject UInt8 := fun _ _ => .error .noSideEffectFreePath
  /-- Writes the byte at an offset without side effects. -/
  poke : σ → UInt32 → UInt8 → σ × Except Reject Unit :=
    fun state _ _ => (state, .error .noSideEffectFreePath)

/-- A device that is one of two models. -/
instance instDeviceModelSum {σ τ : Type} [DeviceModel σ] [DeviceModel τ] :
    DeviceModel (σ ⊕ τ) where
  kind
    | .inl s => DeviceModel.kind s
    | .inr t => DeviceModel.kind t
  size
    | .inl s => DeviceModel.size s
    | .inr t => DeviceModel.size t
  caps
    | .inl s => DeviceModel.caps s
    | .inr t => DeviceModel.caps t
  read
    | .inl s, offset, context => (DeviceModel.read s offset context).mapState .inl
    | .inr t, offset, context => (DeviceModel.read t offset context).mapState .inr
  write
    | .inl s, offset, value, context => (DeviceModel.write s offset value context).mapState .inl
    | .inr t, offset, value, context => (DeviceModel.write t offset value context).mapState .inr
  writeWide
    | .inl s, offset, value, bytes, context =>
      (DeviceModel.writeWide s offset value bytes context).mapState .inl
    | .inr t, offset, value, bytes, context =>
      (DeviceModel.writeWide t offset value bytes context).mapState .inr
  peek
    | .inl s, offset => DeviceModel.peek s offset
    | .inr t, offset => DeviceModel.peek t offset
  poke
    | .inl s, offset, value =>
      let (s, result) := DeviceModel.poke s offset value
      (.inl s, result)
    | .inr t, offset, value =>
      let (t, result) := DeviceModel.poke t offset value
      (.inr t, result)

end Backplane
