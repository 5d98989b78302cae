import Backplane.Bus.Error
import Backplane.Device.Model

/-!
# Switches

A bank of switches acts when one of its offsets is touched; the data written
never matters. A table gives for each offset what a read and what a write does.
Reads answer with the mode latch of the bank, after they have acted; peeks
answer with it and do not act.
-/

namespace Backplane

/-- What touching a switch does. -/
inductive SwitchAction where
  /-- Nothing. -/
  | none
  /-- Show a layer. -/
  | activate (layer : LayerId)
  /-- Hide a layer. -/
  | deactivate (layer : LayerId)
  /-- Hide the layer `off`, then show the layer `on`. -/
  | select (on off : LayerId)
  /-- Store a mode in the latch and post a notice of it. -/
  | latch (mode : UInt8)
  deriving DecidableEq, Repr, Inhabited

/-- What reads and writes of one offset do. -/
structure SwitchEntry where
  /-- What a read does. -/
  read : SwitchAction := .none
  /-- What a write does. -/
  write : SwitchAction := .none
  deriving DecidableEq, Repr, Inhabited

/-- What each offset of a bank does. -/
structure SwitchTable where
  /-- One entry for each offset. -/
  entries : Array SwitchEntry
  deriving DecidableEq

namespace SwitchTable

/-- The table of `size` offsets that do nothing. -/
def ofSize (size : UInt32) : SwitchTable := ⟨Array.replicate size.toNat {}⟩

variable (t : SwitchTable)

/-- The number of offsets. -/
def size : UInt32 := t.entries.size.toUInt32

/-- The entry of an offset. -/
def get? (offset : UInt32) : Option SwitchEntry := t.entries[offset.toNat]?

/-- Changes the entry of an offset. -/
def modify (offset : UInt32) (f : SwitchEntry → SwitchEntry) : Except BusError SwitchTable :=
  if offset.toNat < t.entries.size then .ok ⟨t.entries.modify offset.toNat f⟩
  else .error (.outOfBounds offset 1)

/-- Sets what reads of an offset do. -/
def setRead (offset : UInt32) (action : SwitchAction) : Except BusError SwitchTable :=
  t.modify offset ({ · with read := action })

/-- Sets what writes to an offset do. -/
def setWrite (offset : UInt32) (action : SwitchAction) : Except BusError SwitchTable :=
  t.modify offset ({ · with write := action })

/-- Sets what reads of an offset and writes to it do. -/
def setBoth (offset : UInt32) (action : SwitchAction) : Except BusError SwitchTable :=
  t.modify offset fun _ => ⟨action, action⟩

/-- The offsets that do something, with their entries. -/
def activeOffsets : List (Nat × SwitchEntry) :=
  (t.entries.toList.zipIdx.filter fun e => e.1 ≠ {}).map fun e => (e.2, e.1)

end SwitchTable

/-- A bank of switches. -/
structure SwitchBank where
  /-- What touching each offset does. -/
  table : SwitchTable
  /-- The mode stored last. -/
  mode : UInt8 := 0
  deriving DecidableEq

namespace SwitchBank

/-- Carries out an action, and answers with `value` of the bank after it. -/
def fire {α : Type} (s : SwitchBank) (action : SwitchAction) (value : SwitchBank → α) :
    DeviceReply SwitchBank α :=
  match action with
  | .none => { state := s, result := .ok (value s) }
  | .activate layer => { state := s, result := .ok (value s), commands := [.activate layer] }
  | .deactivate layer =>
    { state := s, result := .ok (value s), commands := [.deactivate layer] }
  | .select on off =>
    { state := s, result := .ok (value s), commands := [.deactivate off, .activate on] }
  | .latch mode =>
    let s := { s with mode := mode }
    { state := s, result := .ok (value s), notices := [.modeChanged mode] }

/-- The name of this kind of device. -/
def kindName : String := "soft-switch"

instance : DeviceModel SwitchBank where
  kind _ := kindName
  size s := s.table.size
  caps _ := Caps.peek.union .sideEffects
  read s offset _ :=
    match s.table.get? offset with
    | some entry => s.fire entry.read SwitchBank.mode
    | none => .refuse s .unbacked
  write s offset _ _ :=
    match s.table.get? offset with
    | some entry => s.fire entry.write fun _ => ()
    | none => .refuse s .unbacked
  peek s offset :=
    match s.table.get? offset with
    | some _ => .ok s.mode
    | none => .error .unbacked

end SwitchBank
end Backplane
