import Mathlib
import Backplane.Profile.Printer
import Backplane.Profile.Reader
import Backplane.Proofs.Json.Reading
import Backplane.Proofs.Json.Records

/-!
# Profiles read back

The text of a profile is read as that profile (`MonitorProfile.parse?_text`): a writer and a
reader agree on every name, every default and every member that is left out.

Each type that is written has two lemmas of its own. One says that the value that writes it is
read as it, the other how deep that value is nested, since values that are read whole must not
be nested deeper than a limit.
-/

namespace Backplane

open Json

namespace Profile

@[simp] theorem perms?_text (p : Perms) : perms? (.ofString p.text) = some p := by
  rw [perms?, string?_ofString, Option.bind_some, Perms.read?_text]

@[simp] theorem caps?_text (c : Caps) : caps? (.ofString c.text) = some c := by
  rw [caps?, string?_ofString, Option.bind_some, Caps.read?_text]

@[simp] theorem nullable_caps? (c : Option Caps) :
    nullable caps? (ofOption (fun c => .ofString c.text) c) = some c := by
  cases c with
  | none => rfl
  | some c => exact congrArg (Option.map some) (caps?_text c)

@[simp] theorem region?_name (r : Region) : region? (.ofString r.name) = some r :=
  Region.ofName?_name r

/-- A name is read as itself. -/
theorem tag?_name {names : List String} {name : String} (mem : name ∈ names) (numbered : Bool) :
    tag? names numbered (.ofString name) = some name :=
  find?_of_inj (f := id) mem fun _ _ same => same

/-! ## Regions -/

/-- The fill byte of memory, without the tag that comes before it. -/
theorem ram?_written (fill : UInt8) :
    ram? (.object [member "fill" (.ofUInt8 fill)]) = some (.ram fill) := by
  rw [ram?, Option.bind_eq_bind, Option.bind_eq_some_iff]
  refine ⟨_, fields?_written _ (by decide) [some (.ofUInt8 fill)] rfl, ?_⟩
  simp

/-- The image and the fill byte of read-only memory, without the tag. -/
theorem rom?_written (image : List UInt8) (fill : UInt8) :
    rom? (.object [member "image" (.array (image.map Json.ofUInt8)),
      member "fill" (.ofUInt8 fill)]) = some (.rom image fill) := by
  rw [rom?, Option.bind_eq_bind, Option.bind_eq_some_iff]
  refine ⟨_, fields?_written _ (by decide)
    [some (.array (image.map Json.ofUInt8)), some (.ofUInt8 fill)] rfl, ?_⟩
  simp

theorem isSound_backing (room : Nat) (b : Backing) :
    (object b.toMembers).isSound (room + 2) = true := by
  cases b <;> simp [Backing.toMembers, isSound]

theorem backing?_toMembers (b : Backing) : backing? (.object b.toMembers) = some b := by
  rw [backing?, Option.bind_eq_bind]
  cases b with
  | ram fill =>
    simp (disch := simp) only [Backing.toMembers, choice?_written, Option.bind_some, tag?_name,
      ram?_written, Option.bind_eq_bind]
  | rom image fill =>
    simp (disch := simp) only [Backing.toMembers, choice?_written, Option.bind_some, tag?_name,
      rom?_written, Option.bind_eq_bind]

theorem isSound_subRegion (room : Nat) (s : SubRegionSpec) :
    s.toJson.isSound (room + 3) = true := by
  have backing := isSound_backing room s.backing
  simpa [SubRegionSpec.toJson, isSound] using backing

theorem subRegion?_toJson (s : SubRegionSpec) : subRegion? s.toJson = some s := by
  rw [subRegion?, Option.bind_eq_bind, Option.bind_eq_some_iff]
  refine ⟨_, fields?_written _ (by decide)
    [some (.ofUInt32 s.offset), some (.ofUInt32 s.size), some (.ofString s.label),
      some (.ofString s.region.name), some (.object s.backing.toMembers)] rfl, ?_⟩
  simp [backing?_toMembers]

theorem isSound_kind (room : Nat) (k : RegionKind) : k.toJson.isSound (room + 5) = true := by
  cases k with
  | memory backing => exact isSound_backing (room + 3) backing
  | composite subs => simp [RegionKind.toJson, isSound, isSound_subRegion]
  | unmapped => rfl

/-- A region and its memory are one record, with one tag. -/
theorem kind?_toJson (k : RegionKind) : kind? k.toJson = some k := by
  rw [kind?]
  simp only [Option.bind_eq_bind]
  cases k with
  | memory backing =>
    cases backing with
    | ram fill =>
      simp (disch := simp) only [RegionKind.toJson, Backing.toMembers, choice?_written,
        Option.bind_some, tag?_name, ram?_written, Option.map_some]
    | rom image fill =>
      simp (disch := simp) only [RegionKind.toJson, Backing.toMembers, choice?_written,
        Option.bind_some, tag?_name, rom?_written, Option.map_some]
  | composite subs =>
    simp (disch := simp) only [RegionKind.toJson, choice?_written, Option.bind_some, tag?_name]
    rw [Option.bind_eq_some_iff]
    refine ⟨_,
      fields?_written _ (by decide) [some (.array (subs.map SubRegionSpec.toJson))] rfl, ?_⟩
    simp [subRegion?_toJson]
  | unmapped =>
    rw [RegionKind.toJson, choice?_written (by simp)]
    rfl

theorem isSound_regionSpec (room : Nat) (r : RegionSpec) :
    r.toJson.isSound (room + 6) = true := by
  obtain ⟨name, start, size, kind, perms, caps, region, deviceId⟩ := r
  cases caps <;> simp [RegionSpec.toJson, isSound, isSound_kind]

theorem regionSpec?_toJson (r : RegionSpec) : regionSpec? r.toJson = some r := by
  obtain ⟨name, start, size, kind, perms, caps, region, deviceId⟩ := r
  have fields := fields?_written
    ["name", "start", "size", "kind", "perms", "caps", "region", "device_id"] (by decide)
    [some (.ofString name), some (.ofUInt32 start), some (.ofUInt32 size), some kind.toJson,
      some (.ofString perms.text), some (ofOption (fun c => .ofString c.text) caps),
      some (.ofString region.name), some (.ofUInt32 deviceId)] rfl
  rw [regionSpec?, Option.bind_eq_bind, Option.bind_eq_some_iff]
  refine ⟨_, Eq.trans ?_ fields, ?_⟩
  · -- Capabilities that are missing are written as `null`.
    cases caps <;> rfl
  · simp [kind?_toJson]

/-! ## Layers and switches -/

theorem isSound_layer (room : Nat) (l : LayerSpec) : l.toJson.isSound (room + 1) = true := by
  simp [LayerSpec.toJson, isSound]

theorem layer?_toJson (l : LayerSpec) : layer? l.toJson = some l := by
  rw [layer?, Option.bind_eq_bind, Option.bind_eq_some_iff]
  refine ⟨_, fields?_written _ (by decide)
    [some (.ofString l.name), some (.ofInt l.priority.toInt), some (.ofUInt32 l.start),
      some (.ofUInt32 l.size), some (.ofUInt8 l.fill), some (.ofString l.perms.text),
      some (.ofString l.region.name), some (.bool l.active)] rfl, ?_⟩
  simp

theorem isSound_switchOp (room : Nat) (op : SwitchOp) : op.toJson.isSound (room + 1) = true := by
  cases op <;> simp [SwitchOp.toJson, isSound]

theorem switchOp?_toJson (op : SwitchOp) : switchOp? op.toJson = some op := by
  have sound : op.toJson.isSound (maxDepth - switchOpDepth) = true := isSound_switchOp _ op
  rw [switchOp?, sound]
  simp only [Bool.not_true, Bool.false_eq_true, if_false, Option.bind_eq_bind]
  cases op with
  | activate layer =>
    simp (disch := simp) only [SwitchOp.toJson, choice?_written, Option.bind_some, tag?_name]
    rw [Option.bind_eq_some_iff]
    exact ⟨_, fields?_written _ (by decide) [some (.ofString layer)] rfl, rfl⟩
  | deactivate layer =>
    simp (disch := simp) only [SwitchOp.toJson, choice?_written, Option.bind_some, tag?_name]
    rw [Option.bind_eq_some_iff]
    exact ⟨_, fields?_written _ (by decide) [some (.ofString layer)] rfl, rfl⟩
  | select on off =>
    simp (disch := simp) only [SwitchOp.toJson, choice?_written, Option.bind_some, tag?_name]
    rw [Option.bind_eq_some_iff]
    exact ⟨_, fields?_written _ (by decide) [some (.ofString on), some (.ofString off)] rfl, rfl⟩
  | latch mode =>
    simp (disch := simp) only [SwitchOp.toJson, choice?_written, Option.bind_some, tag?_name]
    rw [Option.bind_eq_some_iff]
    refine ⟨_, fields?_written _ (by decide) [some (.ofUInt8 mode)] rfl, ?_⟩
    simp

/-- What touching a switch does is never written as `null`. -/
theorem nullable_switchOp? (op : SwitchOp) : nullable switchOp? op.toJson = some (some op) := by
  have read := congrArg (Option.map some) (switchOp?_toJson op)
  cases op <;> exact read

theorem isSound_binding (room : Nat) (s : SwitchBinding) :
    s.toJson.isSound (room + 2) = true := by
  obtain ⟨offset, onRead, onWrite⟩ := s
  cases onRead <;> cases onWrite <;>
    simp [SwitchBinding.toJson, SwitchOp.toMember, isSound, isSound_switchOp]

theorem binding?_toJson (s : SwitchBinding) : binding? s.toJson = some s := by
  obtain ⟨offset, onRead, onWrite⟩ := s
  have fields := fields?_written ["offset", "on_read", "on_write"] (by decide)
    [some (.ofUInt32 offset), onRead.map SwitchOp.toJson, onWrite.map SwitchOp.toJson] rfl
  rw [binding?, Option.bind_eq_bind, Option.bind_eq_some_iff]
  refine ⟨_, Eq.trans ?_ fields, ?_⟩
  · -- What does nothing is left out.
    cases onRead <;> cases onWrite <;> rfl
  · cases onRead <;> cases onWrite <;> simp [nullable_switchOp?]

theorem isSound_block (room : Nat) (b : SwitchBlock) : b.toJson.isSound (room + 4) = true := by
  simp [SwitchBlock.toJson, isSound, isSound_binding]

theorem block?_toJson (b : SwitchBlock) : block? b.toJson = some b := by
  rw [block?, Option.bind_eq_bind, Option.bind_eq_some_iff]
  refine ⟨_, fields?_written _ (by decide)
    [some (.ofString b.name), some (.ofUInt32 b.start), some (.ofUInt32 b.size),
      some (.array (b.switches.map SwitchBinding.toJson))] rfl, ?_⟩
  simp [binding?_toJson]

/-! ## Whole profiles -/

/-- The members of a profile that write its machine. -/
def machineMembers (m : MachineProfile) : List (Option String × Json) :=
  [member "name" (.ofString m.name), member "address_bits" (.ofUInt8 m.addressBits),
   member "page_shift" (.ofUInt8 m.pageShift),
   member "regions" (.array (m.regions.map RegionSpec.toJson))]

theorem isSound_machineMembers (room : Nat) (m : MachineProfile) :
    (object (machineMembers m)).isSound (room + 8) = true := by
  simp [machineMembers, isSound, isSound_regionSpec]

theorem machine?_machineMembers (m : MachineProfile) :
    machine? (.object (machineMembers m)) = some m := by
  have sound : isSound maxDepth (.object (machineMembers m)) = true := isSound_machineMembers _ m
  rw [machine?, sound]
  simp only [Bool.not_true, Bool.false_eq_true, if_false, Option.bind_eq_bind]
  rw [Option.bind_eq_some_iff]
  refine ⟨_, fields?_written _ (by decide) [some (.ofString m.name), some (.ofUInt8 m.addressBits),
    some (.ofUInt8 m.pageShift), some (.array (m.regions.map RegionSpec.toJson))] rfl, ?_⟩
  simp [regionSpec?_toJson]

end Profile

namespace MonitorProfile

open Profile

/-- The members of a profile that write its layers and switches. -/
def layerMembers (p : MonitorProfile) : List (Option String × Json) :=
  [member "layers" (.array (p.layers.map LayerSpec.toJson)),
   member "soft_switches" (.array (p.blocks.map SwitchBlock.toJson))]

theorem toJson_eq (p : MonitorProfile) :
    p.toJson = .object (machineMembers p.machine ++ p.layerMembers) := rfl

/-- The members that are read field by field are told from those of the machine. -/
theorem partition_members (p : MonitorProfile) :
    (machineMembers p.machine ++ p.layerMembers).partition
        (fun m => ownMembers.any fun n => m.1 = some n) =
      (p.layerMembers, machineMembers p.machine) := rfl

/-- The JSON value of a profile is read as that profile. -/
theorem ofJson?_toJson (p : MonitorProfile) : ofJson? p.toJson = some p := by
  have fields := fields?_written ownMembers (by decide)
    [some (.array (p.layers.map LayerSpec.toJson)), some (.array (p.blocks.map SwitchBlock.toJson))]
    rfl
  rw [toJson_eq, ofJson?, partition_members]
  simp only [Option.bind_eq_bind]
  rw [machine?_machineMembers, Option.bind_some, Option.bind_eq_some_iff]
  refine ⟨_, fields, ?_⟩
  simp [layer?_toJson, block?_toJson]

/-- The JSON value of a profile can be kept whole. -/
theorem isSound_toJson (room : Nat) (p : MonitorProfile) : p.toJson.isSound (room + 8) = true := by
  simp [toJson, isSound, isSound_regionSpec, isSound_layer, isSound_block]

/-- The text of a profile is read as that profile. -/
theorem parse?_text (p : MonitorProfile) : parse? p.text = some p := by
  rw [parse?, text, parse?_pretty (isSound_toJson 0 p), Option.bind_some, ofJson?_toJson]

end MonitorProfile
end Backplane
