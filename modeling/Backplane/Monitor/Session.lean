import Backplane.Device.Registry
import Backplane.Device.Switch
import Backplane.Listing.Dump
import Backplane.Listing.Regions
import Backplane.Monitor.Command
import Backplane.Profile.Populate

/-!
# Monitor sessions

A session is a live bus with a device registry and a count of processor
accesses, built from a monitor profile and driven one command at a time. Each
command answers with the text to show; faults are part of the text, not errors.
-/

namespace Backplane

/-- Why a session could not be built, or a command not be carried out. -/
inductive MonitorError where
  /-- The machine of the profile is impossible. -/
  | profile (cause : ProfileError)
  /-- The bus refused. -/
  | bus (cause : BusError)
  /-- A device could not be registered. -/
  | registry (cause : RegistryError)
  /-- A line is no command. -/
  | command (cause : CommandError)
  /-- A dump would leave the address space. -/
  | dumpOutOfRange (start length : UInt32) (space : Nat)
  deriving DecidableEq, Repr

/-- The text of an error. -/
def MonitorError.message : MonitorError → String
  | profile cause => cause.message
  | bus cause => cause.message
  | registry cause => cause.message
  | command cause => cause.message
  | dumpOutOfRange start length space =>
    "dump of 0x" ++ Numeral.hex length.toNat ++ " bytes at $" ++
      Numeral.hexPadded 4 start.toNat ++ " runs past the 0x" ++ Numeral.hex space ++
      "-byte address space"

/-- A live bus that is driven by commands. -/
structure Session where
  /-- The bus. -/
  bus : Bus SwitchBank
  /-- The devices. -/
  devices : Registry := {}
  /-- The number of processor accesses so far. -/
  cycle : UInt64 := 0

namespace Session

/-! ## Building -/

/-- Goes on with the bus of an operation that succeeded. -/
def busOk {α : Type} (r : Bus SwitchBank × Except BusError α) :
    Except MonitorError (Bus SwitchBank × α) :=
  match r with
  | (bus, .ok value) => .ok (bus, value)
  | (_, .error cause) => .error (.bus cause)

/-- Goes on with the registry of an operation that succeeded. -/
def registryOk {α : Type} (r : Registry × Except RegistryError α) :
    Except MonitorError (Registry × α) :=
  match r with
  | (registry, .ok value) => .ok (registry, value)
  | (_, .error cause) => .error (.registry cause)

/-- Where a device called `name` is wired in. -/
def wiringPath (name : String) : String := "main/" ++ name

/-- Registers the device that owns a region, if one does. -/
def registerRegion (devices : Registry) (r : RegionSpec) : Except MonitorError Registry :=
  if r.deviceId = 0 then .ok devices
  else (registryOk (devices.register
    { id := r.deviceId, pageId := none, kind := r.region.name, name := r.name
      wiringPath := wiringPath r.name })).map Prod.fst

/-- Adds a layer on memory of its own, inactive, over saved base entries. -/
def addLayer (bus : Bus SwitchBank) (l : LayerSpec) : Except MonitorError (Bus SwitchBank) := do
  let (bus, target) ←
    busOk (bus.addTarget (l.name ++ ".backing") (.ram (.filled l.size.toNat l.fill)))
  let (bus, _) ← busOk (bus.createLayer l.name l.priority)
  let (bus, _) ← busOk (bus.setLayerMapping l.name
    { base := l.start, target := target, perms := l.perms, region := l.region
      targetOffset := 0, length := some l.size })
  let (bus, _) ← busOk (bus.saveBase (bus.geometry.pageOf l.start) (bus.geometry.pageOf l.size))
  return bus

/-- The id of the layer with this name. -/
def layerNamed (bus : Bus SwitchBank) (name : String) : Except MonitorError LayerId :=
  match bus.map.named name with
  | .ok id => .ok id
  | .error cause => .error (.bus cause)

/-- What touching a switch does, in terms of layer ids. -/
def actionOf (bus : Bus SwitchBank) : Option SwitchOp → Except MonitorError SwitchAction
  | none => .ok .none
  | some (.activate layer) => return .activate (← layerNamed bus layer)
  | some (.deactivate layer) => return .deactivate (← layerNamed bus layer)
  | some (.select on off) => do
    let on ← layerNamed bus on
    let off ← layerNamed bus off
    return .select on off
  | some (.latch mode) => .ok (.latch mode)

/-- The error of a table as an error of the session. -/
def tableOk : Except BusError SwitchTable → Except MonitorError SwitchTable
  | .ok table => .ok table
  | .error cause => .error (.bus cause)

/-- Sets what touching one offset does. -/
def bind (bus : Bus SwitchBank) (table : SwitchTable) (s : SwitchBinding) :
    Except MonitorError SwitchTable := do
  let table ← tableOk (table.setRead s.offset (← actionOf bus s.onRead))
  tableOk (table.setWrite s.offset (← actionOf bus s.onWrite))

/-- The table of a block of switches. -/
def tableOf (bus : Bus SwitchBank) (s : SwitchBlock) : Except MonitorError SwitchTable :=
  s.switches.foldlM (bind bus) (SwitchTable.ofSize s.size)

/-- Adds a block of switches as a device of its own. -/
def addBlock (state : Bus SwitchBank × Registry) (s : SwitchBlock) :
    Except MonitorError (Bus SwitchBank × Registry) := do
  let (bus, devices) := state
  let table ← tableOf bus s
  let (bus, target) ← busOk (bus.addTarget s.name (.device { table := table }))
  let (devices, id) ← registryOk devices.generateId
  let (devices, _) ← registryOk (devices.register
    { id := id
      pageId := some (.compatIo (bus.geometry.pageOf s.start).toUInt8)
      kind := SwitchBank.kindName
      name := s.name
      wiringPath := wiringPath s.name })
  let (bus, _) ← busOk (bus.mapRange s.start s.size
    { target := target, perms := .readWrite, region := .io, deviceId := id })
  return (bus, devices)

/-- The bus of a machine, as part of a session. -/
def machineBus (p : MachineProfile) : Except MonitorError (Bus SwitchBank) :=
  match Bus.ofProfile p with
  | .ok bus => .ok bus
  | .error cause => .error (.profile cause)

/-- Builds the session that a profile describes, with a trace if `trace` gives
its capacity. -/
def build (p : MonitorProfile) (trace : Option Nat) : Except MonitorError Session := do
  let bus ← machineBus p.machine
  let devices ← p.machine.regions.foldlM registerRegion {}
  let bus ← p.layers.foldlM addLayer bus
  let (bus, devices) ← p.blocks.foldlM addBlock (bus, devices)
  let bus ← (p.layers.filter LayerSpec.active).foldlM
    (fun bus l => (busOk (bus.activateNamed l.name)).map Prod.fst) bus
  match trace with
  | none => return { bus := bus, devices := devices }
  | some capacity =>
    let (bus, _) ← busOk (bus.enableTrace capacity)
    return { bus := bus, devices := devices }

/-! ## Texts -/

/-- An address in an answer. -/
def addressText (address : UInt32) : String := "$" ++ Numeral.hexPadded 4 address.toNat

/-- How many hexadecimal digits a value of `bits` bits has. -/
def hexWidth (bits : UInt8) : Nat := max (bits.toNat / 4) 2

/-- A value of `bits` bits in an answer. -/
def valueText (value : UInt32) (bits : UInt8) : String :=
  Numeral.hexPadded (hexWidth bits) value.toNat

/-- What an access answers that faulted. -/
def faultText (address : UInt32) (fault : Fault) : String :=
  addressText address ++ ": fault: " ++ fault.text ++ "\n"

/-- What a poke answers. -/
def pokeText (address : UInt32) (count : Nat) (writes : ByteWrites) : String :=
  let stored := count - writes.faults.length
  "poked " ++ Numeral.decimal stored ++ " of " ++ Numeral.decimal count ++ " bytes at " ++
    addressText address ++ "\n" ++
    String.join (writes.faults.map fun fault => "  fault: " ++ fault.text ++ "\n")

/-- A layer in the listing. -/
def layerText (geometry : Geometry) (layer : Layer) (index : Nat) : String :=
  "L" ++ Numeral.decimal index ++ " " ++ Column.left 16 layer.name ++ " prio " ++
    Column.right 4 (Numeral.signed layer.priority.toInt) ++ "  " ++
    (if layer.active then "active  " else "inactive") ++
    (match layer.placement with
      | some p =>
        if p.pageCount = 0 then ""
        else "  " ++ RegionRow.rangeText (geometry.pageBase p.firstPage)
          (geometry.pageBase (p.firstPage + p.pageCount - 1) + geometry.pageMask) ++ " " ++
          p.mapping.perms.triplet
      | none => "") ++ "\n"

/-- The listing of layers. -/
def layersText (bus : Bus SwitchBank) : String :=
  if bus.map.layers.isEmpty then "no layers\n"
  else String.join
    (bus.map.layers.toList.zipIdx.map fun l => layerText bus.geometry l.1 l.2)

/-- A record in the listing of a trace. -/
def recordText (r : TraceRecord) : String :=
  Column.right 8 (Numeral.decimal r.cycle.toNat) ++ "  " ++ addressText r.address ++ "  " ++
    Column.left 16 r.intent.name ++ " " ++ valueText r.value r.widthBits ++
    (match r.fault with
      | some kind => "  " ++ kind.label
      | none => "") ++ "\n"

/-- The newest `count` records of a trace. -/
def traceText (trace : Option TraceRing) (count : Nat) : String :=
  match trace with
  | none => "tracing is off\n"
  | some ring =>
    String.join ((ring.recent count).map recordText) ++
      Numeral.decimal ring.written.toNat ++ " records emitted\n"

/-- What a notice says. -/
def noticeKindText : NoticeKind → String
  | .dataChanged offset => "DataChanged \x7b offset: " ++ Numeral.decimal offset.toNat ++ " \x7d"
  | .modeChanged mode => "ModeChanged \x7b mode: " ++ Numeral.decimal mode.toNat ++ " \x7d"

/-- A notice in the listing of events. -/
def noticeText (n : Notice) : String :=
  "cycle " ++ Column.right 8 (Numeral.decimal n.cycle.toNat) ++ "  device " ++
    Column.right 3 (Numeral.decimal n.deviceId.toNat) ++ "  " ++ noticeKindText n.kind ++ "\n"

/-- The listing of events: the notices that waited, and how many were dropped
since the session began. -/
def eventsText (pending : List Notice) (dropped : UInt64) : String :=
  if pending.isEmpty ∧ dropped = 0 then "no events\n"
  else String.join (pending.map noticeText) ++
    if dropped = 0 then "" else Numeral.decimal dropped.toNat ++ " notifications dropped\n"

/-- A device in the listing. -/
def deviceText (info : DeviceInfo) : String :=
  Column.right 3 (Numeral.decimal info.id.toNat) ++ "  " ++
    Column.left 16 (match info.pageId with
      | some page => page.text
      | none => "-") ++ " " ++
    Column.left 12 info.kind ++ " " ++ Column.left 16 info.name ++ " " ++ info.wiringPath ++ "\n"

/-- The listing of devices. -/
def devicesText (devices : Registry) : String :=
  if devices.devices.isEmpty then "no devices\n"
  else String.join (devices.devices.map deviceText)

/-! ## Commands -/

variable (s : Session)

/-- The next processor access, decomposed into bytes, and the session that has
counted it. -/
def processorAccess (address : UInt32) (intent : Intent) (bits : UInt8) :
    Except BusError (Session × Access) :=
  match Width.ofBits bits with
  | .error cause => .error cause
  | .ok width =>
    let cycle := s.cycle + 1
    .ok ({ s with cycle := cycle },
      { address := address, intent := intent, width := width, mode := .decomposed
        cycle := cycle })

/-- Shows a range of memory. -/
def dump (start length : UInt32) : Session × Except MonitorError String :=
  if s.bus.geometry.spaceSize < start.toNat + length.toNat then
    (s, .error (.dumpOutOfRange start length s.bus.geometry.spaceSize))
  else
    let (bus, dump) := Dump.capture s.bus start length.toNat .debugRead
    ({ s with bus := bus }, .ok dump.text)

/-- Reads a byte without side effects. -/
def peek (address : UInt32) : Session × Except MonitorError String :=
  match s.bus.peekByte address with
  | (bus, .ok value) =>
    ({ s with bus := bus },
      .ok (addressText address ++ ": " ++ Numeral.hexPadded 2 value.toNat ++ "\n"))
  | (bus, .error fault) => ({ s with bus := bus }, .ok (faultText address fault))

/-- Writes bytes without side effects. -/
def poke (address : UInt32) (bytes : List UInt8) : Session × Except MonitorError String :=
  let (bus, writes) := s.bus.writeMany
    (Access.fromTooling { address := address, intent := .debugWrite, mode := .decomposed }) bytes
  ({ s with bus := bus }, .ok (pokeText address bytes.length writes))

/-- Reads as the processor does. -/
def read (address : UInt32) (bits : UInt8) : Session × Except MonitorError String :=
  match s.processorAccess address .dataRead bits with
  | .error cause => (s, .error (.bus cause))
  | .ok (s, access) =>
    match s.bus.read access with
    | (bus, .ok value) =>
      ({ s with bus := bus },
        .ok (addressText address ++ " -> " ++ valueText value bits ++ "\n"))
    | (bus, .error fault) => ({ s with bus := bus }, .ok (faultText address fault))

/-- Writes as the processor does. -/
def write (address value : UInt32) (bits : UInt8) : Session × Except MonitorError String :=
  match s.processorAccess address .dataWrite bits with
  | .error cause => (s, .error (.bus cause))
  | .ok (s, access) =>
    match s.bus.write { access with value := value } with
    | (bus, .ok ()) =>
      ({ s with bus := bus },
        .ok (addressText address ++ " <- " ++ valueText value bits ++ "\n"))
    | (bus, .error fault) => ({ s with bus := bus }, .ok (faultText address fault))

/-- Shows or hides a layer. -/
def setLayer (name : String) (on : Bool) : Session × Except MonitorError String :=
  match if on then s.bus.activateNamed name else s.bus.deactivateNamed name with
  | (bus, .ok ()) =>
    ({ s with bus := bus },
      .ok ("layer " ++ name ++ " " ++ (if on then "on" else "off") ++ "\n"))
  | (bus, .error cause) => ({ s with bus := bus }, .error (.bus cause))

/-- Takes out the notices of devices. -/
def events : Session × Except MonitorError String :=
  let (bus, pending) := s.bus.drainNotices
  ({ s with bus := bus }, .ok (eventsText pending s.bus.fabric.notices.dropped))

/-- Carries out a command, and answers with what to show. -/
def execute (c : Command) : Session × Except MonitorError String :=
  match c with
  | .dump start length => s.dump start length
  | .peek address => s.peek address
  | .poke address bytes => s.poke address bytes
  | .read address bits => s.read address bits
  | .write address value bits => s.write address value bits
  | .regions => (s, .ok (RegionRow.listingText (RegionRow.listing s.bus)))
  | .layers => (s, .ok (layersText s.bus))
  | .layer name on => s.setLayer name on
  | .trace count => (s, .ok (traceText s.bus.trace count))
  | .events => s.events
  | .devices => (s, .ok (devicesText s.devices))
  | .help => (s, .ok (Command.helpText ++ "\n"))

/-- Carries out the command that a line tells. -/
def executeLine (line : String) : Session × Except MonitorError String :=
  match Command.parse line with
  | .error cause => (s, .error (.command cause))
  | .ok c => s.execute c

end Session
end Backplane
