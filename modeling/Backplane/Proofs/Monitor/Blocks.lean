import Mathlib
import Backplane.Proofs.Device.Lookup
import Backplane.Proofs.Monitor.Layers

/-!
# Adding blocks of switches to a session

A block of switches is a device of its own, registered under an id of its own, and
mapped over whatever was on its pages. `addBlock_realizes` says what the overlay of
the bus is then: the same layers, over a base that the block has replaced on its
pages.
-/

namespace Backplane
namespace SwitchBlock

variable (s : SwitchBlock)

/-- The addresses of the block. -/
def range : RegionSpec := .range s.start s.size

/-- The entry of a page of the block. -/
def entry (g : Geometry) (id : TargetId) (caps : Caps) (device : UInt32) (page : ℕ) : PageEntry :=
  ⟨some id, .readWrite, caps, .io, g.pageBase page - s.start, device⟩

/-- The bank of the block, with nothing latched. -/
def slot (table : SwitchTable) : Slot SwitchBank := ⟨s.name, .device { table := table }⟩

/-- How the pages of a block are mapped. -/
def mapping (id : TargetId) (device : UInt32) : RangeMapping where
  target := id
  perms := .readWrite
  region := .io
  deviceId := device

/-- The bus with the block on it. -/
def mappedOn (bus : Bus SwitchBank) (table : SwitchTable) (device : UInt32) : Bus SwitchBank :=
  let id := .ofIndex bus.arena.size
  let banked := bus.adding [s.slot table]
  { banked with
    map := Bus.setBases bus.map (bus.geometry.pageOf s.start) (bus.geometry.pageOf s.size)
      (banked.entryAt (mapping id device) (banked.arena.capsOf id)) }

/-- What the registry knows of the block. -/
def info (g : Geometry) (device : UInt32) : DeviceInfo where
  id := device
  pageId := some (.compatIo (g.pageOf s.start).toUInt8)
  kind := SwitchBank.kindName
  name := s.name
  wiringPath := Session.wiringPath s.name

/-- The block is on the bus as a bank of switches, and registered as this device, which
owns its page. -/
structure Wired (bus : Bus SwitchBank) (devices : Registry) (id : TargetId) (caps : Caps)
    (device : UInt32) : Prop where
  stands : ∃ bank, bus.arena.Stands ⟨s.name, .device bank⟩ id caps
  registered : devices.get? device = some (s.info bus.geometry device)
  owner : devices.getPage? (.compatIo (bus.geometry.pageOf s.start).toUInt8) =
    some (s.info bus.geometry device)
  nonzero : device ≠ 0

end SwitchBlock

theorem Overlay.rebase_congr {o : Overlay} {first count : ℕ} {entry entry' : ℕ → PageEntry}
    (same : ∀ step < count, entry step = entry' step) :
    o.rebase first count entry = o.rebase first count entry' := by
  rw [rebase, rebase, Overlay.mk.injEq]
  refine ⟨?_, rfl, rfl⟩
  funext page
  split
  · rename_i inside
    exact same _ (by omega)
  · rfl

/-- The pages of a block are mapped one after the other, from the start of the bank
on. -/
theorem SwitchBlock.rebase_entry (o : Overlay) {s : SwitchBlock} {g : Geometry}
    (placed : s.range.Placed g.addressBits g.pageShift) (id : TargetId) (caps : Caps)
    (device : UInt32) :
    (o.rebase (g.pageOf s.start) (g.pageOf s.size) fun step =>
        s.entry g id caps device (g.pageOf s.start + step)) =
      o.rebase (g.pageOf s.start) (g.pageOf s.size) fun step =>
        ⟨some id, .readWrite, caps, .io, 0 + step.toUInt32 * g.pageSize, device⟩ := by
  apply Overlay.rebase_congr
  intro step lt
  have here : s.range.HasPage g (g.pageOf s.start + step) :=
    (RegionSpec.hasPage_iff placed).mpr ⟨Nat.le_add_right _ _, Nat.add_lt_add_left lt _⟩
  have distance : (0 : UInt32) + (g.pageOf s.start + step - g.pageOf s.start).toUInt32 *
      g.pageSize = g.pageBase (g.pageOf s.start + step) - s.start :=
    RegionSpec.steps_eq_distance placed here
  rw [entry, ← distance, Nat.add_sub_cancel_left]

/-- A block replaces the base entries of its own pages and no others. -/
theorem SwitchBlock.base_rebase (o : Overlay) {s : SwitchBlock} {g : Geometry}
    (placed : s.range.Placed g.addressBits g.pageShift) (entry : ℕ → PageEntry) (page : ℕ) :
    let o' := o.rebase (g.pageOf s.start) (g.pageOf s.size) fun step =>
      entry (g.pageOf s.start + step)
    (s.range.HasPage g page → o'.base page = entry page) ∧
      (¬s.range.HasPage g page → o'.base page = o.base page) := by
  intro o'
  have covers : s.range.HasPage g page ↔
      g.pageOf s.start ≤ page ∧ page < g.pageOf s.start + g.pageOf s.size :=
    RegionSpec.hasPage_iff placed
  rw [covers]
  constructor
  · intro inside
    refine (if_pos inside).trans ?_
    rw [Nat.add_sub_cancel' inside.1]
  · intro outside
    exact if_neg outside

namespace Session

variable {bus bus' : Bus SwitchBank} {devices devices' : Registry} {o : Overlay}

theorem registryOk_eq_ok_iff {α : Type} {r : Registry × Except RegistryError α}
    {v : Registry × α} : registryOk r = .ok v ↔ r = (v.1, .ok v.2) := by
  obtain ⟨after, result⟩ := r
  cases result with
  | error e => simp [registryOk]
  | ok value => simp [registryOk, Prod.ext_iff]

/-- A block that is added has a table of its own, a name that is new, an id that is
generated for it, and whole pages. -/
theorem addBlock_eq_ok {s : SwitchBlock}
    (added : addBlock (bus, devices) s = .ok (bus', devices')) :
    ∃ table device known, tableOf bus s = .ok table ∧ s.name ∉ bus.arena.names ∧
      devices.generateId = (known, .ok device) ∧
      known.register (s.info bus.geometry device) = (devices', .ok ()) ∧
      s.range.Placed bus.geometry.addressBits bus.geometry.pageShift ∧
      bus' = s.mappedOn bus table device := by
  unfold addBlock at added
  simp only [bind_eq_ok_iff, busOk_eq_ok_iff, registryOk_eq_ok_iff, pure, Except.pure] at added
  obtain ⟨table, tabled, ⟨b₁, id⟩, targeted, ⟨known, device⟩, generated, ⟨registry, _⟩,
    registered, ⟨b₂, _⟩, mapped, ⟨⟩⟩ := added
  dsimp only at targeted generated registered mapped
  rw [Bus.addTarget_eq] at targeted
  split at targeted
  · cases targeted
  rename_i unused
  cases targeted
  obtain ⟨placed, -, after⟩ := (RegionSpec.mapRange_eq_ok_iff (r := s.range) rfl).mp mapped
  exact ⟨table, device, known, tabled, unused, generated, registered, placed, after⟩

/-- Adding a block puts its bank at the end of the arena and its device into the
registry, and replaces the base entries of its pages. -/
theorem addBlock_realizes (h : bus.map.Realizes o) {s : SwitchBlock}
    (added : addBlock (bus, devices) s = .ok (bus', devices')) :
    ∃ id caps device,
      (∃ slots, bus'.arena = bus.arena.adding slots) ∧ bus'.geometry = bus.geometry ∧
      devices'.Extends devices ∧
      s.Wired bus' devices' id caps device ∧
      s.range.Placed bus.geometry.addressBits bus.geometry.pageShift ∧
      bus'.map.Realizes (o.rebase (bus.geometry.pageOf s.start) (bus.geometry.pageOf s.size)
        fun step => s.entry bus.geometry id caps device (bus.geometry.pageOf s.start + step)) := by
  obtain ⟨table, device, known, -, unused, generated, registered, placed, rfl⟩ :=
    addBlock_eq_ok added
  have stands : (bus.arena.adding [s.slot table]).Stands (s.slot table) (.ofIndex bus.arena.size)
      ((bus.arena.adding [s.slot table]).capsOf (.ofIndex bus.arena.size)) :=
    Arena.stands_last trivial unused
  have geometry : (s.mappedOn bus table device).geometry = bus.geometry :=
    (Bus.setBases_follows bus.map _ _ _).geometry_eq
  obtain ⟨nonzero, -⟩ := Registry.register_eq_ok registered
  refine ⟨_, _, device, ⟨[s.slot table], rfl⟩, geometry, ?_, ⟨⟨_, stands⟩, ?_, ?_, nonzero⟩,
    placed, ?_⟩
  · exact (Registry.extends_of_register registered).trans (Registry.extends_of_generateId generated)
  · rw [geometry, Registry.get?_of_register registered]
    exact if_pos rfl
  · rw [geometry]
    exact Registry.getPage?_of_register registered rfl
  · rw [SwitchBlock.rebase_entry o placed]
    exact h.setBases _ _ _

end Session
end Backplane
