import Mathlib
import Backplane.Monitor.Session
import Backplane.Proofs.Overlay.Accepted
import Backplane.Proofs.Profile.Population

/-!
# Adding layers to a session

A layer of a profile brings memory of its own, is placed over its pages before it is
ever shown, and has the base entries of these pages saved. `addLayer_realizes` says
what the overlay of the bus is then: one layer more, hidden, over the same base.
-/

namespace Backplane

variable {σ : Type}

/-! ## Targets of pages -/

/-- The target leads to no other. -/
def Target.IsLeaf : Target σ → Prop
  | .ram _ | .rom _ | .device _ => True
  | .window _ | .split _ _ => False

/-- What a target that leads to no other is capable of. -/
def Target.ownCaps [DeviceModel σ] : Target σ → Caps
  | .ram _ | .rom _ => .memory
  | .device state => DeviceModel.caps state
  | .window _ | .split _ _ => .none

/-- A target stands in the arena and is found by its name under this id. Ids count in
32 bits; while that is enough the id leads to the target, and `caps` are what it is
capable of. -/
structure Arena.Stands [DeviceModel σ] (a : Arena σ) (slot : Slot σ) (id : TargetId)
    (caps : Caps) : Prop where
  position : ∃ i, a.slots[i]? = some slot ∧ id = .ofIndex i
  named : a.find? slot.name = some id
  found : a.size ≤ 2 ^ 32 → a.get? id = some slot.target ∧ caps = slot.target.ownCaps

namespace Arena

variable [DeviceModel σ] {a : Arena σ} {slot : Slot σ}

theorem Stands.adding {id : TargetId} {caps : Caps} (h : a.Stands slot id caps)
    (slots : List (Slot σ)) : (a.adding slots).Stands slot id caps where
  position := by
    obtain ⟨i, here, eq⟩ := h.position
    exact ⟨i, slots_adding_of_eq_some here, eq⟩
  named := find?_adding h.named
  found room := by
    rw [size_adding] at room
    obtain ⟨leads, capable⟩ := h.found (Nat.le_trans (Nat.le_add_right _ _) room)
    exact ⟨get?_adding leads, capable⟩

theorem capsOf_of_leaf {id : TargetId} {t : Target σ} (leaf : t.IsLeaf)
    (here : a.get? id = some t) : a.capsOf id = t.ownCaps := by
  rw [capsOf, capsWithin, here]
  cases t with
  | ram | rom | device => rfl
  | window | split => exact leaf.elim

/-- The target that was added last stands at the end. -/
theorem stands_last (leaf : slot.target.IsLeaf) (fresh : slot.name ∉ a.names) :
    (a.adding [slot]).Stands slot (.ofIndex a.size)
      ((a.adding [slot]).capsOf (.ofIndex a.size)) := by
  have here : (a.adding [slot]).slots[a.size]? = some slot := by
    rw [← Nat.add_zero a.size, slots_adding]
    rfl
  refine ⟨⟨a.size, here, rfl⟩, find?_last fresh, ?_⟩
  intro room
  rw [size_adding] at room
  have leads : (a.adding [slot]).get? (.ofIndex a.size) = some slot.target := by
    have lt : a.size < 2 ^ 32 := room
    rw [get?_ofIndex lt, here, Option.map_some]
  exact ⟨leads, capsOf_of_leaf leaf leads⟩

end Arena

/-! ## Layers as they are meant -/

/-- A range of addresses, as a region of nothing. -/
def RegionSpec.range (start size : UInt32) : RegionSpec where
  name := ""
  start := start
  size := size
  kind := .unmapped
  region := .invalid

namespace LayerSpec

variable (l : LayerSpec)

/-- The addresses of the layer. -/
def range : RegionSpec := .range l.start l.size

/-- The memory behind the layer. -/
def slot : Slot σ := ⟨l.name ++ ".backing", .ram (.filled l.size.toNat l.fill)⟩

/-- How the layer is mapped to its memory. -/
def mapping (id : TargetId) : LayerMapping where
  base := l.start
  target := id
  perms := l.perms
  region := l.region
  targetOffset := 0
  length := some l.size

/-- Where the layer leads its pages. -/
def placement (g : Geometry) (id : TargetId) (caps : Caps) : Placement where
  mapping := l.mapping id
  firstPage := g.pageOf l.start
  pageCount := g.pageOf l.size
  first := ⟨some id, l.perms, caps, l.region, 0, 0⟩
  pageSize := g.pageSize

/-- The layer, hidden. -/
def layer (g : Geometry) (id : TargetId) (caps : Caps) : Layer :=
  ⟨l.name, l.priority, false, some (l.placement g id caps)⟩

/-- The entry of a page under the layer. -/
def entry (g : Geometry) (id : TargetId) (caps : Caps) (page : ℕ) : PageEntry :=
  ⟨some id, l.perms, caps, l.region, g.pageBase page - l.start, 0⟩

variable {l : LayerSpec} {g : Geometry} {id : TargetId} {caps : Caps}

theorem mem_pages_layer (placed : l.range.Placed g.addressBits g.pageShift) {page : ℕ} :
    page ∈ (l.layer g id caps).pages ↔ l.range.HasPage g page := by
  rw [RegionSpec.hasPage_iff placed]
  exact List.mem_range'_1

theorem covers_layer (placed : l.range.Placed g.addressBits g.pageShift) {page : ℕ} :
    (l.layer g id caps).covers page = true ↔ l.range.HasPage g page := by
  rw [← Layer.mem_pages, mem_pages_layer placed]

theorem entryFor_placement (placed : l.range.Placed g.addressBits g.pageShift) {page : ℕ}
    (here : l.range.HasPage g page) :
    (l.placement g id caps).entryFor page = l.entry g id caps page := by
  have distance : (0 : UInt32) + (page - g.pageOf l.start).toUInt32 * g.pageSize =
      g.pageBase page - l.start := RegionSpec.steps_eq_distance placed here
  rw [entry, ← distance]
  rfl

/-- A layer that can be placed is made of whole pages. -/
theorem ofMapping_eq_ok [DeviceModel σ] {a : Arena σ} {p : Placement}
    (h : Placement.ofMapping g a (l.mapping id) = .ok p) :
    l.range.Placed g.addressBits g.pageShift ∧ p = l.placement g id (a.capsOf id) := by
  unfold Placement.ofMapping at h
  rw [bind_eq_ok_iff] at h
  obtain ⟨size, -, h⟩ := h
  have length : (l.mapping id).length = some l.size := rfl
  simp only [length, Option.getD_some, bind, Except.bind, pure, Except.pure] at h
  split at h
  · cases h
  · rename_i whole
    split at h
    · cases h
    · rename_i inside
      cases h
      simp only [Bool.or_eq_true, decide_eq_true_eq, Bool.not_eq_true', Bool.eq_false_iff, ne_eq,
        Geometry.isAligned_iff, not_or, not_not] at whole
      obtain ⟨⟨start, size⟩, nonempty⟩ := whole
      have space : g.spaceSize = 2 ^ g.addressBits := Nat.one_shiftLeft _
      rw [space, not_or] at inside
      exact ⟨⟨nonempty, start, size, Nat.not_lt.mp inside.1⟩, rfl⟩

end LayerSpec

/-! ## Adding a layer -/

/-- The overlay with one layer more, and the base entries of its pages kept. -/
def Overlay.over (o : Overlay) (k : Layer) : Overlay :=
  { o with layers := o.layers ++ [k] }.keep k.pages

/-- A new layer is the last one, and placing it places that one. -/
theorem Overlay.place_create (o : Overlay) {name : String} (priority : Int32) (p : Placement)
    {i : ℕ} (fresh : ∀ l ∈ o.layers, l.name ≠ name)
    (position : (o.create name priority).layers.findIdx? (fun l => l.name = name) = some i) :
    (o.create name priority).place i p =
      { o with layers := o.layers ++ [⟨name, priority, false, some p⟩] } := by
  have others : o.layers.findIdx? (fun l => l.name = name) = none := by
    rw [List.findIdx?_eq_none_iff]
    intro l hl
    exact decide_eq_false (fresh l hl)
  rw [create, List.findIdx?_append, others, Option.none_or] at position
  obtain rfl : 0 + o.layers.length = i := by simpa using position
  rw [Nat.zero_add, place, modifyLayer, create, Overlay.mk.injEq]
  refine ⟨rfl, rfl, ?_⟩
  generalize o.layers = layers
  induction layers with
  | nil => rfl
  | cons l layers ih => exact congrArg (l :: ·) ih

namespace Session

variable {bus bus' : Bus SwitchBank} {o : Overlay}

theorem busOk_eq_ok_iff {α : Type} {r : Bus SwitchBank × Except BusError α}
    {v : Bus SwitchBank × α} : busOk r = .ok v ↔ r = (v.1, .ok v.2) := by
  obtain ⟨after, result⟩ := r
  cases result with
  | error e => simp [busOk]
  | ok value => simp [busOk, Prod.ext_iff]

/-- Adding a layer puts its memory at the end of the arena, and the layer over all
others, hidden. -/
theorem addLayer_realizes (h : bus.map.Realizes o) (few : o.layers.length < maxLayers)
    {l : LayerSpec} (added : addLayer bus l = .ok bus') :
    ∃ id caps, bus'.arena = bus.arena.adding [l.slot] ∧ bus'.arena.Stands l.slot id caps ∧
      l.range.Placed bus.geometry.addressBits bus.geometry.pageShift ∧
      (∀ k ∈ o.layers, k.name ≠ l.name) ∧ bus'.geometry = bus.geometry ∧
      bus'.map.Realizes (o.over (l.layer bus.geometry id caps)) := by
  unfold addLayer at added
  simp only [bind_eq_ok_iff, busOk_eq_ok_iff, pure, Except.pure] at added
  obtain ⟨⟨b₁, id⟩, targeted, ⟨b₂, layer⟩, created, ⟨b₃, _⟩, placed, ⟨b₄, _⟩, saved, ⟨⟩⟩ := added
  dsimp only at targeted created placed saved
  -- The memory.
  rw [Bus.addTarget_eq] at targeted
  split at targeted
  · cases targeted
  rename_i unused
  cases targeted
  have stands : (bus.arena.adding [l.slot]).Stands l.slot (.ofIndex bus.arena.size)
      ((bus.arena.adding [l.slot]).capsOf (.ofIndex bus.arena.size)) :=
    Arena.stands_last trivial unused
  -- The layer, then its place, then the base entries under it.
  obtain ⟨after_create, fresh⟩ := Bus.createLayer_remapped (b := bus.adding [l.slot]) h created
  have few₂ : b₂.map.layers.size ≤ maxLayers := by
    rw [after_create.size_layers, Overlay.create, List.length_append]
    exact few
  obtain ⟨i, p, position, made, after_place⟩ :=
    Bus.setLayerMapping_remapped after_create.realizes few₂ placed
  have after_save := Bus.saveBase_remapped after_place.realizes saved
  rw [after_create.geometry, after_create.arena] at made
  obtain ⟨whole, rfl⟩ := LayerSpec.ofMapping_eq_ok made
  have geometry₃ : b₃.geometry = bus.geometry := after_place.geometry.trans after_create.geometry
  have arena₄ : b₄.arena = bus.arena.adding [l.slot] := by
    rw [after_save.arena, after_place.arena, after_create.arena]
    rfl
  refine ⟨_, _, arena₄, by rw [arena₄]; exact stands, whole, fresh,
    after_save.geometry.trans geometry₃, ?_⟩
  · have realizes := after_save.realizes
    rw [Overlay.place_create o l.priority _ fresh position, geometry₃] at realizes
    exact realizes

end Session

end Backplane
