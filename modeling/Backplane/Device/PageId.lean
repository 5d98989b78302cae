import Backplane.Text.Column
import Backplane.Text.Numeral

/-!
# Device page ids

A device that owns a page has a structured id of twenty bits: its class, its
instance and its page. Class zero is reserved and belongs to no page.
-/

namespace Backplane

/-- The class of a device. -/
inductive DeviceClass where
  /-- The reserved class. -/
  | invalid
  /-- Compatible input and output. -/
  | compatIo
  /-- The read-only memory of a slot. -/
  | slotRom
  /-- The input and output window of a slot. -/
  | slotIo
  /-- Storage. -/
  | storage
  /-- A timer. -/
  | timer
  /-- Video. -/
  | video
  /-- Audio. -/
  | audio
  /-- Input. -/
  | input
  /-- A serial line. -/
  | serial
  /-- A network. -/
  | network
  /-- Memory. -/
  | memory
  /-- A clock. -/
  | clock
  /-- A further processor. -/
  | coprocessor
  /-- Debugging aids. -/
  | debug
  /-- Whatever a vendor chooses. -/
  | vendor
  deriving DecidableEq, Repr, Inhabited

namespace DeviceClass

/-- All classes, in the order of their codes. -/
def all : List DeviceClass :=
  [invalid, compatIo, slotRom, slotIo, storage, timer, video, audio, input, serial, network,
    memory, clock, coprocessor, debug, vendor]

/-- The code of a class, in four bits. -/
def code : DeviceClass → UInt8
  | invalid => 0
  | compatIo => 1
  | slotRom => 2
  | slotIo => 3
  | storage => 4
  | timer => 5
  | video => 6
  | audio => 7
  | input => 8
  | serial => 9
  | network => 10
  | memory => 11
  | clock => 12
  | coprocessor => 13
  | debug => 14
  | vendor => 15

/-- The class with this code. -/
def ofCode? (code : UInt8) : Option DeviceClass := all.find? fun c => c.code = code

/-- The name of a class. -/
def name : DeviceClass → String
  | invalid => "invalid"
  | compatIo => "compat-io"
  | slotRom => "slot-rom"
  | slotIo => "slot-io"
  | storage => "storage"
  | timer => "timer"
  | video => "video"
  | audio => "audio"
  | input => "input"
  | serial => "serial"
  | network => "network"
  | memory => "memory"
  | clock => "clock"
  | coprocessor => "coprocessor"
  | debug => "debug"
  | vendor => "vendor"

@[simp] theorem ofCode?_code (c : DeviceClass) : ofCode? c.code = some c := by
  cases c <;> decide

end DeviceClass

/-- The structured id of a page that a device owns. -/
structure DevicePageId where
  /-- Bits 16 to 19 are the class, 8 to 15 the instance, 0 to 7 the page. -/
  raw : UInt32
  deriving DecidableEq, Repr, Inhabited

namespace DevicePageId

/-- The id of these parts, whatever the class. -/
def pack (deviceClass : DeviceClass) (instanceNumber page : UInt8) : DevicePageId :=
  ⟨(deviceClass.code.toUInt32 <<< 16) ||| (instanceNumber.toUInt32 <<< 8) ||| page.toUInt32⟩

/-- A page of compatible input and output. -/
def compatIo (page : UInt8) : DevicePageId := pack .compatIo 0 page

/-- A page of the read-only memory of a slot. -/
def slotRom (slot page : UInt8) : DevicePageId := pack .slotRom slot page

/-- The input and output window of a slot. -/
def slotIo (slot : UInt8) : DevicePageId := pack .slotIo slot 0

/-- A page of a storage device. -/
def storage (instanceNumber page : UInt8) : DevicePageId := pack .storage instanceNumber page

/-- A timer. -/
def timer (instanceNumber : UInt8) : DevicePageId := pack .timer instanceNumber 0

/-- A page of debugging aids. -/
def debug (page : UInt8) : DevicePageId := pack .debug 0 page

variable (id : DevicePageId)

/-- The class. -/
def deviceClass : DeviceClass := (DeviceClass.ofCode? (id.raw >>> 16).toUInt8).getD .invalid

/-- The instance. -/
def instanceNumber : UInt8 := (id.raw >>> 8).toUInt8

/-- The page. -/
def page : UInt8 := id.raw.toUInt8

/-- The text of an id: its class, instance and page. -/
def text : String :=
  id.deviceClass.name ++ ":" ++ Numeral.hexPadded 2 id.instanceNumber.toNat ++ ":" ++
    Numeral.hexPadded 2 id.page.toNat

end DevicePageId

/-- Why a device could not be registered, or its id not be made. -/
inductive RegistryError where
  /-- Device id zero stands for plain memory. -/
  | reservedId
  /-- A device with this id is registered. -/
  | duplicateId (id : UInt32)
  /-- A device that owns this page is registered. -/
  | duplicatePageId (page : DevicePageId)
  /-- The class of a page id is the reserved one. -/
  | invalidClass
  /-- No page id has this number. -/
  | invalidPageId (raw : UInt32)
  /-- All device ids are given out. -/
  | idsExhausted
  deriving DecidableEq, Repr

/-- The text of an error. -/
def RegistryError.message : RegistryError → String
  | reservedId => "device id 0 is reserved for plain memory"
  | duplicateId id => "device id " ++ Numeral.decimal id.toNat ++ " is already registered"
  | duplicatePageId page => "device page id " ++ page.text ++ " is already registered"
  | invalidClass => "device class 0 is reserved"
  | invalidPageId raw => "raw device page id $" ++ Numeral.hex raw.toNat ++ " is malformed"
  | idsExhausted => "device id space exhausted"

namespace DevicePageId

/-- The id of these parts, unless the class is reserved. -/
def ofParts (deviceClass : DeviceClass) (instanceNumber page : UInt8) :
    Except RegistryError DevicePageId :=
  if deviceClass = .invalid then .error .invalidClass
  else .ok (pack deviceClass instanceNumber page)

/-- The id with this number: it has twenty bits, and its class is not reserved. -/
def ofRaw (raw : UInt32) : Except RegistryError DevicePageId :=
  if raw < 0x100000 ∧ 0x10000 ≤ raw then .ok ⟨raw⟩
  else .error (.invalidPageId raw)

end DevicePageId
end Backplane
