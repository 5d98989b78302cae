import Mathlib
import Backplane.Proofs.Device.Index
import Backplane.Proofs.Monitor.Run

/-!
# The devices of a session

The registry of a session has the devices that own regions, by the ids that the profile
gives, and after them the blocks of switches, by ids that the registry gives out
(`Session.Enrolled`). What a registry has is said once for all (`Registry.Knows`): devices
with different ids, of which none is zero.
-/

namespace Backplane

/-! ## What a registry has -/

namespace Registry

variable {r r' : Registry} {info : DeviceInfo} {infos : List DeviceInfo} {id : UInt32}

/-- The registry has these devices and no others, and none of them has the id zero. -/
structure Knows (r : Registry) (infos : List DeviceInfo) : Prop where
  consistent : r.Consistent
  devices : r.devices.Perm infos
  nonzero : ∀ info ∈ infos, info.id ≠ 0

theorem knows_new : Knows {} [] where
  consistent := consistent_new
  devices := .nil
  nonzero := nofun

theorem Knows.mem_iff (h : r.Knows infos) : info ∈ r.devices ↔ info ∈ infos := h.devices.mem_iff

theorem Knows.nodup_ids (h : r.Knows infos) : (infos.map DeviceInfo.id).Nodup :=
  (h.devices.map DeviceInfo.id).nodup_iff.mp h.consistent.distinct

theorem Knows.get?_of_mem (h : r.Knows infos) (mem : info ∈ infos) : r.get? info.id = some info :=
  h.consistent.get?_eq_some_iff.mpr ⟨h.mem_iff.mpr mem, rfl⟩

theorem Knows.register (h : r.Knows infos) (registered : r.register info = (r', .ok ())) :
    r'.Knows (infos ++ [info]) := by
  obtain ⟨accepts, rfl⟩ := register_eq_ok_iff.mp registered
  refine ⟨h.consistent.withDevice accepts, ?_, ?_⟩
  · exact (insertSorted_perm info r.devices).trans
      ((h.devices.cons info).trans (List.perm_append_singleton info infos).symm)
  · exact List.forall_mem_append.mpr ⟨h.nonzero, List.forall_mem_singleton.mpr accepts.nonzero⟩

/-- Giving out an id registers nothing. -/
theorem Knows.generateId (h : r.Knows infos) (given : r.generateId = (r', .ok id)) :
    r'.Knows infos := by
  have same : r' = { r with lastId := id } := by
    rcases r.generateId_cases with ⟨other, next⟩ | refused
    · cases given.symm.trans next
      rfl
    · cases given.symm.trans refused
  subst same
  exact ⟨⟨h.consistent.sorted, h.consistent.distinct, h.consistent.lookup_iff⟩, h.devices,
    h.nonzero⟩

end Registry

/-! ## Regions and blocks -/

/-- What the registry has of the device that owns a region. -/
def RegionSpec.info (r : RegionSpec) : DeviceInfo where
  id := r.deviceId
  pageId := none
  kind := r.region.name
  name := r.name
  wiringPath := Session.wiringPath r.name

/-- The devices that own regions, in the order of the regions. -/
def owners (regions : List RegionSpec) : List DeviceInfo :=
  (regions.filter fun r => r.deviceId ≠ 0).map RegionSpec.info

/-- The devices of blocks that have these ids. -/
def SwitchBlock.infos (g : Geometry) (blocks : List SwitchBlock) (ids : List UInt32) :
    List DeviceInfo :=
  (blocks.zip ids).map fun b => b.1.info g b.2

theorem map_id_owners (regions : List RegionSpec) :
    (owners regions).map DeviceInfo.id =
      (regions.map RegionSpec.deviceId).filter (fun id => decide (id ≠ 0)) := by
  rw [owners, List.map_map, List.filter_map]
  rfl

theorem SwitchBlock.map_id_infos (g : Geometry) {blocks : List SwitchBlock} {ids : List UInt32}
    (length : ids.length = blocks.length) : (infos g blocks ids).map DeviceInfo.id = ids := by
  rw [infos, List.map_map]
  exact List.map_snd_zip (Nat.le_of_eq length)

namespace Session

variable {bus bus' : Bus SwitchBank} {devices devices' : Registry}

theorem registerRegion_eq (devices : Registry) (r : RegionSpec) :
    registerRegion devices r =
      if r.deviceId = 0 then .ok devices
      else (registryOk (devices.register r.info)).map Prod.fst := rfl

theorem registerRegion_eq_ok {r : RegionSpec} (added : registerRegion devices r = .ok devices') :
    (r.deviceId = 0 ∧ devices' = devices) ∨
      (r.deviceId ≠ 0 ∧ devices.register r.info = (devices', .ok ())) := by
  rw [registerRegion_eq] at added
  split at added
  · rename_i zero
    cases added
    exact .inl ⟨zero, rfl⟩
  · rename_i nonzero
    cases result : registryOk (devices.register r.info) with
    | error e =>
      rw [result] at added
      cases added
    | ok v =>
      rw [result] at added
      cases added
      exact .inr ⟨nonzero, registryOk_eq_ok_iff.mp result⟩

/-- The registry has the devices of these regions, if they are owned. -/
theorem registerRegions_knows {regions : List RegionSpec}
    (registered : regions.foldlM registerRegion {} = .ok devices) :
    devices.Knows (owners regions) := by
  refine foldlM_keeps (I := fun done devices => devices.Knows (owners done)) ?_
    Registry.knows_new registered
  intro done r devices devices' h added
  rw [owners, List.filter_append, List.map_append, ← owners]
  rcases registerRegion_eq_ok added with ⟨zero, rfl⟩ | ⟨nonzero, registered⟩
  · rw [List.filter_singleton]
    simpa [zero] using h
  · have next := h.register registered
    rw [List.filter_singleton]
    simpa [nonzero] using next

/-- The registry has the devices that own regions, and after them the blocks, each under an
id of its own. -/
def Enrolled (g : Geometry) (owners : List DeviceInfo) (blocks : List SwitchBlock)
    (devices : Registry) : Prop :=
  ∃ ids, ids.length = blocks.length ∧ devices.Knows (owners ++ SwitchBlock.infos g blocks ids)

theorem Enrolled.addBlock {owners : List DeviceInfo} {blocks : List SwitchBlock} {s : SwitchBlock}
    (h : Enrolled bus.geometry owners blocks devices)
    (added : addBlock (bus, devices) s = .ok (bus', devices')) :
    bus'.geometry = bus.geometry ∧ Enrolled bus.geometry owners (blocks ++ [s]) devices' := by
  obtain ⟨table, device, known, -, -, generated, registered, -, rfl⟩ := addBlock_eq_ok added
  obtain ⟨ids, length, knows⟩ := h
  have knows := (knows.generateId generated).register registered
  refine ⟨(Bus.setBases_follows bus.map _ _ _).geometry_eq, ids ++ [device], ?_, ?_⟩
  · rw [List.length_append, List.length_append, length, List.length_singleton,
      List.length_singleton]
  · rwa [SwitchBlock.infos, List.zip_append length.symm, List.map_append, ← SwitchBlock.infos,
      ← List.append_assoc]

theorem Enrolled.addBlocks {owners : List DeviceInfo} {blocks : List SwitchBlock}
    {state : Bus SwitchBank × Registry} (knows : devices.Knows owners)
    (added : blocks.foldlM Session.addBlock (bus, devices) = .ok state) :
    state.1.geometry = bus.geometry ∧ Enrolled bus.geometry owners blocks state.2 := by
  refine foldlM_keeps (I := fun done state => state.1.geometry = bus.geometry ∧
    Enrolled bus.geometry owners done state.2) ?_ ⟨rfl, [], rfl, ?_⟩ added
  · rintro done s ⟨bus₁, devices₁⟩ ⟨bus₂, devices₂⟩ ⟨geometry, h⟩ next
    dsimp only at geometry h ⊢
    rw [← geometry] at h ⊢
    exact h.addBlock next
  · rwa [SwitchBlock.infos, List.zip_nil_left, List.map_nil, List.append_nil]

/-! ## Building -/

/-- Layers are added to a bus of the geometry of the profile. -/
theorem layered_geometry {p : MonitorProfile} {base : Bus SwitchBank}
    (accepted : Bus.ofProfile p.machine = .ok base)
    (layered : p.layers.foldlM addLayer base = .ok bus) :
    Geometry.ofBits p.machine.addressBits p.machine.pageShift = .ok bus.geometry := by
  obtain ⟨g, bits, -, populates⟩ := ofProfile_eq_ok_iff.mp accepted
  have populated : base.Builds g none := foldlM_keeps (I := fun _ bus => bus.Builds g none)
    (fun _ _ _ _ h populates => RegionSpec.populate_builds h populates) .empty populates
  have builds : bus.Builds g none := foldlM_keeps (I := fun _ bus => bus.Builds g none)
    (fun _ _ _ _ h added => addLayer_builds h added) populated layered
  rw [builds.leads.geometry_eq]
  exact Geometry.ofBits_eq_ok_iff.mpr bits

/-- The registry of a session has the devices that own regions, and after them the blocks. -/
theorem build_enrolled {p : MonitorProfile} {trace : Option ℕ} {s : Session}
    (built : build p trace = .ok s) :
    ∃ g, Geometry.ofBits p.machine.addressBits p.machine.pageShift = .ok g ∧
      Enrolled g (owners p.machine.regions) p.blocks s.devices := by
  obtain ⟨base, layered, ⟨blocked, final⟩, _, devices, stages, registered, blocks⟩ :=
    build_registers built
  obtain ⟨-, enrolled⟩ := Enrolled.addBlocks (registerRegions_knows registered) blocks
  rw [stages.devices]
  exact ⟨layered.geometry, layered_geometry stages.accepted stages.layers, enrolled⟩

end Session
end Backplane
