import Backplane.Json.Parser
import Backplane.Json.Record
import Backplane.Profile.Spec

/-!
# Reading profiles

A profile is one JSON object. Its members `layers` and `soft_switches` are read
field by field, so what they do not need is ignored, whatever it is; all other
members are first read as values, which must be sound. A profile is nested at
most `maxDepth` deep wherever values are read whole.

Regions and their parts are read from such values. There a choice may also name
its record by position.
-/

namespace Backplane

/-- How deep values that are read whole may be nested. -/
def Json.maxDepth : Nat := 127

namespace Profile

open Json (required withDefault)

/-- Permissions, as the text of a set of flags. -/
def perms? (json : Json) : Option Perms := json.string?.bind Perms.read?

/-- Capabilities, as the text of a set of flags. -/
def caps? (json : Json) : Option Caps := json.string?.bind Caps.read?

/-- A region by its name, which may also stand alone as the member of an
object. -/
def region? : Json → Option Region
  | .text (some name) => Region.ofName? name
  | .object [(some name, .null)] => Region.ofName? name
  | _ => none

/-- Which of `names` a tag is: the name itself or, with `numbered`, its
position. -/
def tag? (names : List String) (numbered : Bool) (json : Json) : Option String :=
  match json with
  | .text (some name) => names.find? fun n => n = name
  | .number _ => if numbered then (json.natBelow names.length).bind fun i => names[i]? else none
  | _ => none

/-! ## Regions -/

/-- The fill byte of memory. -/
def ram? (json : Json) : Option Backing := do
  match ← json.fields? ["fill"] with
  | [fill] => return .ram (← withDefault 0 Json.uint8? fill)
  | _ => none

/-- The image and the fill byte of read-only memory. -/
def rom? (json : Json) : Option Backing := do
  match ← json.fields? ["image", "fill"] with
  | [image, fill] =>
    return .rom (← withDefault [] (Json.list Json.uint8?) image) (← withDefault 0 Json.uint8? fill)
  | _ => none

/-- What backs a part of a region. -/
def backing? (json : Json) : Option Backing := do
  let (tag, rest) ← json.choice? "type"
  match ← tag? ["ram", "rom"] true tag with
  | "ram" => ram? rest
  | _ => rom? rest

/-- A part of a region. -/
def subRegion? (json : Json) : Option SubRegionSpec := do
  match ← json.fields? ["offset", "size", "label", "region", "backing"] with
  | [offset, size, label, region, backing] =>
    return {
      offset := ← required Json.uint32? offset
      size := ← required Json.uint32? size
      label := ← required Json.string? label
      region := ← required region? region
      backing := ← required backing? backing }
  | _ => none

/-- What a region consists of. -/
def kind? (json : Json) : Option RegionKind := do
  let (tag, rest) ← json.choice? "type"
  match ← tag? ["ram", "rom", "composite", "unmapped"] true tag with
  | "ram" => (ram? rest).map .memory
  | "rom" => (rom? rest).map .memory
  | "composite" =>
    match ← rest.fields? ["sub_regions"] with
    | [subs] => return .composite (← required (Json.list subRegion?) subs)
    | _ => none
  | _ => (rest.fields? []).map fun _ => .unmapped

/-- A region. -/
def regionSpec? (json : Json) : Option RegionSpec := do
  match ← json.fields?
      ["name", "start", "size", "kind", "perms", "caps", "region", "device_id"] with
  | [name, start, size, kind, perms, caps, region, deviceId] =>
    return {
      name := ← required Json.string? name
      start := ← required Json.uint32? start
      size := ← required Json.uint32? size
      kind := ← required kind? kind
      perms := ← withDefault .all perms? perms
      caps := ← withDefault none (Json.nullable caps?) caps
      region := ← required region? region
      deviceId := ← withDefault 0 Json.uint32? deviceId }
  | _ => none

/-! ## Layers and switches -/

/-- A layer. -/
def layer? (json : Json) : Option LayerSpec := do
  match ← json.fields?
      ["name", "priority", "start", "size", "fill", "perms", "region", "active"] with
  | [name, priority, start, size, fill, perms, region, active] =>
    return {
      name := ← required Json.string? name
      priority := ← withDefault 0 Json.int32? priority
      start := ← required Json.uint32? start
      size := ← required Json.uint32? size
      fill := ← withDefault 0 Json.uint8? fill
      perms := ← withDefault .all perms? perms
      region := ← withDefault .ram region? region
      active := ← withDefault false Json.bool? active }
  | _ => none

/-- How many containers hold what touching a switch does. -/
def switchOpDepth : Nat := 5

/-- What touching a switch does; it is read whole. -/
def switchOp? (json : Json) : Option SwitchOp := do
  if !json.isSound (Json.maxDepth - switchOpDepth) then none
  let (tag, rest) ← json.choice? "op"
  match ← tag? ["activate", "deactivate", "select", "latch"] false tag with
  | "activate" =>
    match ← rest.fields? ["layer"] with
    | [layer] => return .activate (← required Json.string? layer)
    | _ => none
  | "deactivate" =>
    match ← rest.fields? ["layer"] with
    | [layer] => return .deactivate (← required Json.string? layer)
    | _ => none
  | "select" =>
    match ← rest.fields? ["on", "off"] with
    | [on, off] =>
      return .select (← required Json.string? on) (← required Json.string? off)
    | _ => none
  | _ =>
    match ← rest.fields? ["mode"] with
    | [mode] => return .latch (← required Json.uint8? mode)
    | _ => none

/-- What touching an offset does. -/
def binding? (json : Json) : Option SwitchBinding := do
  match ← json.fields? ["offset", "on_read", "on_write"] with
  | [offset, onRead, onWrite] =>
    return {
      offset := ← required Json.uint32? offset
      onRead := ← withDefault none (Json.nullable switchOp?) onRead
      onWrite := ← withDefault none (Json.nullable switchOp?) onWrite }
  | _ => none

/-- A block of switches. -/
def block? (json : Json) : Option SwitchBlock := do
  match ← json.fields? ["name", "start", "size", "switches"] with
  | [name, start, size, switches] =>
    return {
      name := ← required Json.string? name
      start := ← required Json.uint32? start
      size := ← required Json.uint32? size
      switches := ← withDefault [] (Json.list binding?) switches }
  | _ => none

/-! ## Whole profiles -/

/-- The members of a profile that are read field by field. -/
def ownMembers : List String := ["layers", "soft_switches"]

/-- A machine; it is read whole. -/
def machine? (json : Json) : Option MachineProfile := do
  if !json.isSound Json.maxDepth then none
  match ← json.fields? ["name", "address_bits", "page_shift", "regions"] with
  | [name, addressBits, pageShift, regions] =>
    return {
      name := ← required Json.string? name
      addressBits := ← withDefault 16 Json.uint8? addressBits
      pageShift := ← withDefault 8 Json.uint8? pageShift
      regions := ← required (Json.list regionSpec?) regions }
  | _ => none

end Profile

namespace MonitorProfile

open Json (withDefault)

/-- The profile that a JSON value writes. -/
def ofJson? : Json → Option MonitorProfile
  | .object members => do
    let (own, others) := members.partition fun m => Profile.ownMembers.any fun n => m.1 = some n
    let machine ← Profile.machine? (.object others)
    match ← (Json.object own).fields? Profile.ownMembers with
    | [layers, blocks] =>
      return {
        machine := machine
        layers := ← withDefault [] (Json.list Profile.layer?) layers
        blocks := ← withDefault [] (Json.list Profile.block?) blocks }
    | _ => none
  | _ => none

/-- The profile that a text writes. -/
def parse? (source : String) : Option MonitorProfile := (Json.parse? source).bind ofJson?

end MonitorProfile
end Backplane
