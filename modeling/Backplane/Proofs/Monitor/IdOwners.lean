import Mathlib
import Backplane.Proofs.Bus.DeviceIds
import Backplane.Proofs.Monitor.Build
import Backplane.Proofs.Monitor.Devices
import Backplane.Proofs.Monitor.Inspection

/-!
# Whose ids are on the bus of a session

Building a session brings ids to its bus from two places: from the regions of the machine,
whose devices are registered, and from the registry, which gives out an id for each block of
switches. Either way the id comes to a range together with the target that has the name of
the device (`PageEntry.Owned`). Layers and commands bring no ids. So the registry knows every
device id that is on the bus, now and after any commands (`device_ids_registered`).
-/

namespace Backplane

/-! ## Ids and devices -/

section Owned

variable {σ : Type} {a a' : Arena σ} {r r' : Registry}

/-- The entry has no device id, or that of a device whose name the target of the entry has. -/
def PageEntry.Owned (a : Arena σ) (r : Registry) (entry : PageEntry) : Prop :=
  entry.deviceId = 0 ∨ ∃ info id, r.get? entry.deviceId = some info ∧ entry.target = some id ∧
    a.find? info.name = some id

theorem PageEntry.Owned.mono {entry : PageEntry} (h : entry.Owned a r)
    (kept : ∀ name id, a.find? name = some id → a'.find? name = some id)
    (extends' : r'.Extends r) : entry.Owned a' r' :=
  h.imp_right fun ⟨info, id, registered, leads, named⟩ =>
    ⟨info, id, extends'.get? registered, leads, kept _ _ named⟩

namespace Bus

variable {b b' : Bus σ}

/-- All ids on the bus are those of devices that are registered. -/
def Owned (b : Bus σ) (r : Registry) : Prop := b.Attributed (PageEntry.Owned b.arena r)

theorem owned_empty (g : Geometry) (r : Registry) : (Bus.empty g : Bus σ).Owned r :=
  attributed_empty g (.inl rfl)

namespace Owned

theorem mono (h : b.Owned r) (extends' : r'.Extends r) : b.Owned r' :=
  Attributed.mono h fun _ owned => owned.mono (fun _ _ found => found) extends'

variable [DeviceModel σ]

theorem perform (h : b.Owned r) {o : Operation σ}
    (new : ∀ entry, b.Makes o entry → entry.Owned b.arena r) : (b.perform o).Owned r := by
  have before : (b.perform o).Attributed (PageEntry.Owned b.arena r) := Attributed.perform h new
  -- Targets may be added, but those that were there keep their names.
  exact before.mono fun _ owned => owned.mono (fun _ _ found => b.find?_perform o found) (.refl r)

/-- Operations that bring no id leave all ids to their devices. -/
theorem bare (h : b.Owned r) {o : Operation σ} (led : b.perform o = b') (none : o.deviceId = 0) :
    b'.Owned r :=
  led ▸ h.perform fun _ made => .inl (made.deviceId_eq.trans none)

/-- A target that is added is found by its name. -/
theorem addTarget (h : b.Owned r) {name : String} {target : Target σ} {id : TargetId}
    (added : b.addTarget name target = (b', .ok id)) :
    b'.Owned r ∧ b'.arena.find? name = some id := by
  refine ⟨h.bare (o := .addTarget name target) (congrArg Prod.fst added) rfl, ?_⟩
  rw [addTarget_eq] at added
  split at added
  · cases added
  · rename_i fresh
    cases added
    exact Arena.find?_last fresh

/-- A range brings the id of the device that has the name of its target. -/
theorem mapRange (h : b.Owned r) {start length : UInt32} {mapping : RangeMapping}
    {info : DeviceInfo} (led : b.perform (.mapRange start length mapping) = b')
    (own : mapping.deviceId = 0 ∨ r.get? mapping.deviceId = some info)
    (named : b.arena.find? info.name = some mapping.target) : b'.Owned r := by
  refine led ▸ h.perform fun entry made => ?_
  have target : entry.target = some mapping.target := by
    cases made
    rfl
  rw [PageEntry.Owned, made.deviceId_eq]
  exact own.imp_right fun registered => ⟨info, mapping.target, registered, target, named⟩

end Owned
end Bus

end Owned

/-! ## Machines -/

section Machines

variable {σ : Type} [DeviceModel σ] {b b' : Bus σ} {devices : Registry} {r : RegionSpec}

namespace RegionSpec

theorem addSub_owned {s : SubRegionSpec} {state state' : Bus σ × Window}
    (h : state.1.Owned devices) (added : r.addSub state s = .ok state') :
    state'.1.Owned devices := by
  obtain ⟨b, w⟩ := state
  unfold addSub at added
  simp only [bind_eq_ok_iff, wrap_eq_ok_iff, pure, Except.pure] at added
  obtain ⟨_, -, id, -, w', -, ⟨⟩⟩ := added
  exact h.bare (o := .addTarget _ _) rfl rfl

theorem buildTarget_owned {made : Bus σ × Option (Target σ)} (h : b.Owned devices)
    (builds : r.buildTarget b = .ok made) : made.1.Owned devices := by
  unfold buildTarget at builds
  split at builds
  · cases builds
    exact h
  · simp only [bind_eq_ok_iff, pure, Except.pure] at builds
    obtain ⟨_, -, ⟨⟩⟩ := builds
    exact h
  · simp only [bind_eq_ok_iff, pure, Except.pure] at builds
    obtain ⟨state, run, ⟨⟩⟩ := builds
    exact foldlM_keeps (I := fun _ state => state.1.Owned devices)
      (fun _ _ _ _ h added => addSub_owned h added) h run

/-- A region brings the id of its device, which has its name. -/
theorem populate_owned (h : b.Owned devices)
    (own : r.deviceId = 0 ∨ devices.get? r.deviceId = some r.info)
    (populates : r.populate b = .ok b') : b'.Owned devices := by
  unfold populate at populates
  obtain ⟨⟨b₁, target⟩, made, rest⟩ := bind_eq_ok_iff.mp populates
  have parts : b₁.Owned devices := buildTarget_owned h made
  cases target with
  | none =>
    simp only [bind_eq_ok_iff, pure, Except.pure] at rest
    obtain ⟨_, -, ⟨⟩⟩ := rest
    exact parts.bare (o := .unmapRange r.start r.size) rfl rfl
  | some target =>
    simp only [bind_eq_ok_iff, wrap_eq_ok_iff, pure, Except.pure] at rest
    obtain ⟨id, targeted, _, -, ⟨⟩⟩ := rest
    obtain ⟨added, named⟩ := parts.addTarget (Prod.ext rfl targeted)
    exact added.mapRange rfl own named

end RegionSpec

theorem Bus.ofProfile_owned {p : MachineProfile}
    (own : ∀ r ∈ p.regions, r.deviceId = 0 ∨ devices.get? r.deviceId = some r.info)
    (accepted : Bus.ofProfile p = .ok b) : b.Owned devices := by
  obtain ⟨g, -, -, populates⟩ := ofProfile_eq_ok_iff.mp accepted
  let Own (r : RegionSpec) : Prop := r.deviceId = 0 ∨ devices.get? r.deviceId = some r.info
  refine foldlM_keeps (I := fun done b => (∀ r ∈ done, Own r) → b.Owned devices) ?_
    (fun _ => owned_empty g devices) populates own
  intro done r b b' h populates own
  obtain ⟨before, here⟩ := List.forall_mem_append.mp own
  exact RegionSpec.populate_owned (h before) (here r List.mem_cons_self) populates

end Machines

/-! ## Sessions -/

namespace Session

variable {bus bus' : Bus SwitchBank} {devices devices' : Registry}

theorem addLayer_owned {l : LayerSpec} (h : bus.Owned devices)
    (added : addLayer bus l = .ok bus') : bus'.Owned devices := by
  unfold addLayer at added
  simp only [bind_eq_ok_iff, busOk_eq_ok_iff, pure, Except.pure] at added
  obtain ⟨⟨b₁, id⟩, targeted, ⟨b₂, _⟩, created, ⟨b₃, _⟩, placed, ⟨b₄, _⟩, saved, ⟨⟩⟩ := added
  dsimp only at targeted created placed saved
  obtain ⟨added, -⟩ := h.addTarget targeted
  have named := added.bare (o := .createLayer _ _) (congrArg Prod.fst created) rfl
  have led := named.bare (o := .setLayerMapping _ (l.mapping id)) (congrArg Prod.fst placed) rfl
  exact led.bare (o := .saveBase _ _) (congrArg Prod.fst saved) rfl

/-- A block brings the id under which it is registered. -/
theorem addBlock_owned {s : SwitchBlock} (h : bus.Owned devices)
    (added : addBlock (bus, devices) s = .ok (bus', devices')) : bus'.Owned devices' := by
  unfold addBlock at added
  simp only [bind_eq_ok_iff, busOk_eq_ok_iff, registryOk_eq_ok_iff, pure, Except.pure] at added
  obtain ⟨table, -, ⟨b₁, id⟩, targeted, ⟨known, device⟩, generated, ⟨registry, _⟩,
    registered, ⟨b₂, _⟩, mapped, ⟨⟩⟩ := added
  dsimp only at targeted generated registered mapped
  have extends' := (Registry.extends_of_register registered).trans
    (Registry.extends_of_generateId generated)
  have own := (Registry.get?_of_register registered device).trans (if_pos rfl)
  obtain ⟨added, named⟩ := (h.mono extends').addTarget targeted
  exact added.mapRange (congrArg Prod.fst mapped) (.inr own) named

theorem showNamed_owned {l : LayerSpec} (h : bus.Owned devices)
    (activated : showNamed bus l = .ok bus') : bus'.Owned devices := by
  have led := congrArg Prod.fst (showNamed_eq_ok_iff.mp activated)
  exact h.bare (o := .activateNamed l.name) led rfl

/-- The device of a region is registered, if it has one. -/
theorem get?_of_registerRegions {regions : List RegionSpec}
    (registered : regions.foldlM registerRegion {} = .ok devices) {r : RegionSpec}
    (mem : r ∈ regions) : r.deviceId = 0 ∨ devices.get? r.deviceId = some r.info := by
  have knows := registerRegions_knows registered
  refine Decidable.or_iff_not_imp_left.mpr fun nonzero => ?_
  have owner : r.info ∈ owners regions :=
    List.mem_map_of_mem (List.mem_filter.mpr ⟨mem, decide_eq_true nonzero⟩)
  exact knows.get?_of_mem owner

theorem build_owned {p : MonitorProfile} {trace : Option ℕ} {s : Session}
    (built : build p trace = .ok s) : s.bus.Owned s.devices := by
  obtain ⟨base, layered, ⟨blocked, final⟩, shown, devices, stages, registered, blocks⟩ :=
    build_registers built
  have based : base.Owned devices :=
    Bus.ofProfile_owned (fun _ mem => get?_of_registerRegions registered mem) stages.accepted
  have layered : layered.Owned devices := foldlM_keeps (I := fun _ bus => bus.Owned devices)
    (fun _ _ _ _ h added => addLayer_owned h added) based stages.layers
  have blocked : blocked.Owned final := foldlM_keeps (I := fun _ state => state.1.Owned state.2)
    (fun _ _ _ _ h added => addBlock_owned h added) layered blocks
  have shown : shown.Owned final := foldlM_keeps (I := fun _ bus => bus.Owned final)
    (fun _ _ _ _ h activated => showNamed_owned h activated) blocked stages.active
  rw [stages.devices]
  rcases stages.traced with same | ⟨capacity, same⟩
  · rwa [same]
  · exact shown.bare (o := .enableTrace capacity) same.symm rfl

/-- Commands bring no ids. -/
theorem execute_owned {s : Session} (h : s.bus.Owned s.devices) (c : Command) :
    (s.execute c).1.bus.Owned s.devices := by
  rw [(s.execute_bus c).1]
  cases operation : s.operation? c with
  | none => exact h
  | some o =>
    refine h.bare rfl ?_
    rcases operation?_cases s operation with ⟨t, rfl⟩ | ⟨name, rfl⟩ | ⟨name, rfl⟩ | rfl <;> rfl

theorem after_devices (s : Session) (cs : List Command) : (s.after cs).devices = s.devices := by
  induction cs generalizing s with
  | nil => rfl
  | cons c cs ih => exact (ih _).trans (s.execute_bus c).2

theorem after_owned {s : Session} (h : s.bus.Owned s.devices) (cs : List Command) :
    (s.after cs).bus.Owned s.devices := by
  induction cs generalizing s with
  | nil => exact h
  | cons c cs ih =>
    have same := (s.execute_bus c).2
    have next := execute_owned h c
    rw [← same] at next ⊢
    exact ih next

/-- After any commands, each device id that is not zero in the live table, among the saved
entries or in a layer is registered for the device that has the name of the entry's target,
and each in a notice that waits is registered. What is registered are the devices of regions
and the blocks of switches, and no two of them have the same id. -/
theorem device_ids_registered {p : MonitorProfile} {trace : Option ℕ} {s : Session}
    (built : build p trace = .ok s) (cs : List Command) :
    let t := s.after cs
    (∀ entry, t.bus.map.Held entry → entry.deviceId ≠ 0 →
      ∃ info id, t.devices.get? entry.deviceId = some info ∧ entry.target = some id ∧
        t.bus.arena.find? info.name = some id) ∧
    (∀ n ∈ t.bus.fabric.notices.pending, n.deviceId ≠ 0 →
      ∃ info, t.devices.get? n.deviceId = some info) ∧
    ∃ g ids, Geometry.ofBits p.machine.addressBits p.machine.pageShift = .ok g ∧
      ids.length = p.blocks.length ∧ 0 ∉ ids ∧
      ((p.machine.regions.map RegionSpec.deviceId).filter (fun id => decide (id ≠ 0)) ++
        ids).Nodup ∧
      t.devices.devices.Perm (owners p.machine.regions ++ SwitchBlock.infos g p.blocks ids) := by
  intro t
  have devices : t.devices = s.devices := s.after_devices cs
  have owned : t.bus.Owned t.devices := devices ▸ after_owned (build_owned built) cs
  refine ⟨fun entry held nonzero => ?_, fun n mem nonzero => ?_, ?_⟩
  · exact (owned.map.entries entry held).resolve_left nonzero
  · obtain ⟨entry, attributed, same⟩ := owned.notices n mem
    obtain ⟨info, -, registered, -⟩ := attributed.resolve_left (same ▸ nonzero)
    exact ⟨info, same ▸ registered⟩
  · obtain ⟨g, valid, ids, length, knows⟩ := build_enrolled built
    have all : (owners p.machine.regions ++ SwitchBlock.infos g p.blocks ids).map DeviceInfo.id =
        (p.machine.regions.map RegionSpec.deviceId).filter (fun id => decide (id ≠ 0)) ++ ids := by
      rw [List.map_append, map_id_owners, SwitchBlock.map_id_infos g length]
    refine ⟨g, ids, valid, length, ?_, all ▸ knows.nodup_ids, devices ▸ knows.devices⟩
    intro zero
    rw [← SwitchBlock.map_id_infos g length] at zero
    obtain ⟨info, mem, none⟩ := List.mem_map.mp zero
    exact knows.nonzero info (List.mem_append_right _ mem) none

/-- Memory that is a device, under a layer and switches of which one latches a mode and one
shows the layer. -/
def populated : MonitorProfile where
  machine :=
    { watched.machine with regions := watched.machine.regions.map ({ · with deviceId := 7 }) }
  layers := watched.layers
  blocks := watched.blocks

/-- Both switches are fired. -/
def fired : List Command := [.read 0x80 8, .read 0x81 8]

/-- The notice is from the block, which has the id after that of the memory, and the memory is
beneath the layer that is shown. -/
theorem device_ids_registered_populated :
    ∃ s, build populated none = .ok s ∧
      leads (s.after fired).bus =
        [some (⟨0⟩, 0, 7), some (⟨1⟩, 0, 0), some (⟨2⟩, 0, 8), some (⟨0⟩, 0xc0, 7)] ∧
      (s.after fired).bus.fabric.notices.pending = [⟨8, 1, .modeChanged 5⟩] ∧
      (∃ info, (s.after fired).devices.get? 8 = some info) ∧
      ∃ entry, (s.after fired).bus.map.savedBase? 1 = some entry ∧ entry.deviceId = 7 ∧
        ∃ info id, (s.after fired).devices.get? 7 = some info ∧ entry.target = some id ∧
          (s.after fired).bus.arena.find? info.name = some id := by
  have run : ((build populated none).toOption.map fun s =>
      (leads (s.after fired).bus, (s.after fired).bus.fabric.notices.pending,
        ((s.after fired).bus.map.savedBase? 1).map PageEntry.deviceId)) =
      some ([some (⟨0⟩, 0, 7), some (⟨1⟩, 0, 0), some (⟨2⟩, 0, 8), some (⟨0⟩, 0xc0, 7)],
        [⟨8, 1, .modeChanged 5⟩], some 7) := by
    decide_cbv
  obtain ⟨s, succeeds, results⟩ := Option.map_eq_some_iff.mp run
  rw [Prod.mk.injEq, Prod.mk.injEq] at results
  obtain ⟨live, pending, saved⟩ := results
  have built : build populated none = .ok s := toOption_eq_some_iff.mp succeeds
  obtain ⟨entries, notices, -⟩ := device_ids_registered built fired
  obtain ⟨entry, beneath, id⟩ := Option.map_eq_some_iff.mp saved
  refine ⟨s, built, live, pending, ?_, entry, beneath, id, ?_⟩
  · exact notices ⟨8, 1, .modeChanged 5⟩ (pending ▸ List.mem_singleton_self _) (by decide)
  · rw [← id]
    exact entries entry (.saved beneath) (id ▸ by decide)

end Session
end Backplane
