import Backplane.Bus.Basic
import Backplane.Profile.Spec

/-!
# Populating a bus

A bus is built from a machine profile: for each region a target of its name, and
for each part of a composite region a target named after both, all mapped where
the profile says. Regions must not overlap, and an image must not be larger than
what it is for.
-/

namespace Backplane

/-- Why no bus could be built from a profile. -/
inductive ProfileError where
  /-- The address space is impossible. -/
  | bus (cause : BusError)
  /-- A region could not be made or mapped. -/
  | region (name : String) (cause : BusError)
  /-- Two regions have addresses in common. -/
  | overlap (first second : String)
  /-- An image is larger than what it is for. -/
  | imageTooLarge (name : String) (image : Nat) (size : UInt32)
  deriving DecidableEq, Repr

/-- The text of an error. -/
def ProfileError.message : ProfileError → String
  | bus cause => cause.message
  | region name cause => "region `" ++ name ++ "`: " ++ cause.message
  | overlap first second => "regions `" ++ first ++ "` and `" ++ second ++ "` overlap"
  | imageTooLarge name image size =>
    "image for `" ++ name ++ "` is " ++ Numeral.decimal image ++
      " bytes but the region holds " ++ Numeral.decimal size.toNat

/-- The memory of `size` bytes that a backing stands for, named in errors. -/
def Backing.build {σ : Type} (name : String) (size : UInt32) :
    Backing → Except ProfileError (Target σ)
  | .ram fill => .ok (.ram (.filled size.toNat fill))
  | .rom image fill =>
    if size.toNat < image.length then .error (.imageTooLarge name image.length size)
    else .ok (.rom (.ofImage size.toNat image.toArray fill))

/-! ## Overlaps -/

/-- The addresses of a region: its first, the first past it, and its name. -/
structure Span where
  /-- The first address. -/
  start : Nat
  /-- The first address past the region. -/
  stop : Nat
  /-- The name of the region. -/
  name : String
  deriving DecidableEq, Repr

namespace Span

/-- The addresses of a region. -/
def ofRegion (r : RegionSpec) : Span := ⟨r.start.toNat, r.start.toNat + r.size.toNat, r.name⟩

/-- Whether a region comes before another: by first address, then by end, then
by name. -/
def before (s t : Span) : Bool :=
  s.start < t.start ||
    (s.start = t.start && (s.stop < t.stop || (s.stop = t.stop && s.name ≤ t.name)))

/-- The first two neighbours of which the second begins inside the first. -/
def firstOverlap : List Span → Option (Span × Span)
  | s :: t :: rest => if t.start < s.stop then some (s, t) else firstOverlap (t :: rest)
  | _ => none

end Span

/-- Fails if two regions have addresses in common. -/
def MachineProfile.checkOverlaps (p : MachineProfile) : Except ProfileError Unit :=
  match Span.firstOverlap ((p.regions.map Span.ofRegion).mergeSort Span.before) with
  | some (s, t) => .error (.overlap s.name t.name)
  | none => .ok ()

/-! ## Regions -/

namespace RegionSpec

/-- An error of the bus as an error of the region. -/
def wrap {α : Type} (r : RegionSpec) : Except BusError α → Except ProfileError α
  | .ok value => .ok value
  | .error cause => .error (.region r.name cause)

variable {σ : Type}

/-- The name of the target of a part. -/
def subName (r : RegionSpec) (s : SubRegionSpec) : String := r.name ++ "." ++ s.label

/-- Adds the target of a part, and the part to the window of the region. -/
def addSub (r : RegionSpec) (state : Bus σ × Window) (s : SubRegionSpec) :
    Except ProfileError (Bus σ × Window) := do
  let target ← s.backing.build (r.subName s) s.size
  let (bus, id) := state.1.addTarget (r.subName s) target
  let id ← r.wrap id
  let window ← r.wrap (state.2.add ⟨s.offset, s.size, s.label, s.region, id, 0⟩)
  return (bus, window)

/-- The bus with what the targets of the region need, and the target of the
region; nothing if the region is unmapped. -/
def buildTarget (r : RegionSpec) (b : Bus σ) :
    Except ProfileError (Bus σ × Option (Target σ)) :=
  match r.kind with
  | .unmapped => .ok (b, none)
  | .memory backing => do
    let target ← backing.build r.name r.size
    return (b, some target)
  | .composite subs => do
    let (b, window) ← subs.foldlM r.addSub (b, Window.empty r.size)
    return (b, some (.window window))

/-- Adds the targets of the region and maps its pages. -/
def populate [DeviceModel σ] (r : RegionSpec) (b : Bus σ) : Except ProfileError (Bus σ) := do
  let (b, target) ← r.buildTarget b
  match target with
  | none =>
    let (b, result) := b.unmapRange r.start r.size
    r.wrap result
    return b
  | some target =>
    let (b, id) := b.addTarget r.name target
    let id ← r.wrap id
    let (b, result) := b.mapRange r.start r.size
      { target := id, perms := r.perms, region := r.region, deviceId := r.deviceId, caps := r.caps }
    r.wrap result
    return b

end RegionSpec

/-- The bus that a profile describes. -/
def Bus.ofProfile {σ : Type} [DeviceModel σ] (p : MachineProfile) :
    Except ProfileError (Bus σ) := do
  let geometry ← (Geometry.ofBits p.addressBits p.pageShift).mapError ProfileError.bus
  p.checkOverlaps
  p.regions.foldlM (fun b r => r.populate b) (Bus.empty geometry)

end Backplane
