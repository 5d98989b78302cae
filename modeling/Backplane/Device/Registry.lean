import Backplane.Device.PageId

/-!
# The device registry

What is known of each device, by its id and by the id of the page that it owns.
Ids are given out in ascending order, past all that were ever registered.
-/

namespace Backplane

/-- What is known of a device. -/
structure DeviceInfo where
  /-- The device id; never zero. -/
  id : UInt32
  /-- The page that the device owns, if it owns one. -/
  pageId : Option DevicePageId
  /-- The kind of device. -/
  kind : String
  /-- The name of the device. -/
  name : String
  /-- Where the device is wired in. -/
  wiringPath : String
  deriving DecidableEq, Repr

/-- The class of a device, the reserved one if it owns no page. -/
def DeviceInfo.deviceClass (info : DeviceInfo) : DeviceClass :=
  match info.pageId with
  | some page => page.deviceClass
  | none => .invalid

/-- The devices of a machine. -/
structure Registry where
  /-- The devices, in ascending order of id. -/
  devices : List DeviceInfo := []
  /-- The pages that devices own, each with the id of its device, the newest
  first. -/
  pages : List (DevicePageId × UInt32) := []
  /-- The largest id that was ever registered or given out. -/
  lastId : UInt32 := 0
  deriving DecidableEq

namespace Registry

variable (r : Registry)

/-- The device with this id. -/
def get? (id : UInt32) : Option DeviceInfo := r.devices.find? fun info => info.id = id

/-- The device that owns this page. -/
def getPage? (page : DevicePageId) : Option DeviceInfo :=
  (r.pages.lookup page).bind r.get?

/-- The devices of a class. -/
def ofClass (c : DeviceClass) : List DeviceInfo :=
  r.devices.filter fun info => info.pageId.any fun page => page.deviceClass = c

/-- Puts a device in its place by id. -/
def insertSorted (info : DeviceInfo) (devices : List DeviceInfo) : List DeviceInfo :=
  devices.takeWhile (·.id < info.id) ++ info :: devices.dropWhile (·.id < info.id)

/-- Registers a device. Its id must be new and not zero, its page not owned by
another. -/
def register (info : DeviceInfo) : Registry × Except RegistryError Unit :=
  if info.id = 0 then (r, .error .reservedId)
  else if (r.get? info.id).isSome then (r, .error (.duplicateId info.id))
  else
    let known := { r with
      devices := insertSorted info r.devices
      lastId := max r.lastId info.id }
    match info.pageId with
    | none => (known, .ok ())
    | some page =>
      if (r.pages.lookup page).isSome then (r, .error (.duplicatePageId page))
      else ({ known with pages := (page, info.id) :: r.pages }, .ok ())

/-- The first id from `candidate` on that no device has, among the first
`steps`. -/
def firstFree (steps : Nat) (candidate : Nat) : Option UInt32 :=
  match steps with
  | 0 => none
  | steps + 1 =>
    if UInt32.size ≤ candidate then none
    else if (r.get? candidate.toUInt32).isSome then firstFree steps (candidate + 1)
    else some candidate.toUInt32

/-- Gives out an id that was never registered or given out before. -/
def generateId : Registry × Except RegistryError UInt32 :=
  match r.firstFree (r.devices.length + 1) (r.lastId.toNat + 1) with
  | some id => ({ r with lastId := id }, .ok id)
  | none => (r, .error .idsExhausted)

end Registry
end Backplane
