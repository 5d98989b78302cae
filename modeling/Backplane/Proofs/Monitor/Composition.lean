import Mathlib
import Backplane.Proofs.Monitor.Blocks

/-!
# Layers and blocks over a machine

Building a session adds the layers of its profile, all hidden, then maps its blocks of
switches, and then shows the layers that are to be active. `Composed` is what these
passes keep, for as many of the layers and blocks as they have come to: the layers of
the bus are the ones added, and beneath them on each page lies the last block there, or
else the machine.
-/

namespace Backplane

/-! ## What is meant -/

/-- What lies beneath the layers on a page: of the blocks there the one listed last,
or else the machine. -/
inductive Beneath (base bus : Bus SwitchBank) (devices : Registry) (blocks : List SwitchBlock)
    (page : ℕ) : PageEntry → Prop
  /-- A block of switches. -/
  | block {before after : List SwitchBlock} {s : SwitchBlock} {id : TargetId} {caps : Caps}
      {device : UInt32} : blocks = before ++ s :: after →
    s.range.HasPage base.geometry page → (∀ t ∈ after, ¬t.range.HasPage base.geometry page) →
    s.Wired bus devices id caps device →
    Beneath base bus devices blocks page (s.entry base.geometry id caps device page)
  /-- The machine. -/
  | machine {entry : PageEntry} : (∀ s ∈ blocks, ¬s.range.HasPage base.geometry page) →
    base.map.table.get? page = some entry → Beneath base bus devices blocks page entry

/-- The layer `k` of the bus is the one that the profile describes, active where
`shown` says so. -/
def LayerSpec.Renders (bus : Bus SwitchBank) (shown : LayerSpec → Bool) (l : LayerSpec)
    (k : Layer) : Prop :=
  ∃ id caps, bus.arena.Stands l.slot id caps ∧
    l.range.Placed bus.geometry.addressBits bus.geometry.pageShift ∧
    k = { l.layer bus.geometry id caps with active := shown l }

/-- These layers and blocks have been added to the machine `base`, and the layers are
shown that `shown` tells. -/
structure Composed (base : Bus SwitchBank) (shown : LayerSpec → Bool) (layers : List LayerSpec)
    (blocks : List SwitchBlock) (bus : Bus SwitchBank) (devices : Registry) (o : Overlay) :
    Prop where
  realizes : bus.map.Realizes o
  geometry : bus.geometry = base.geometry
  renders : List.Forall₂ (LayerSpec.Renders bus shown) layers o.layers
  names : (o.layers.map Layer.name).Nodup
  kept : ∀ k ∈ o.layers, ∀ page ∈ k.pages, o.kept page = true
  beneath : ∀ page < base.geometry.pageCount,
    Beneath base bus devices blocks page (o.base page)

/-- No layer is shown. -/
def LayerSpec.never (_ : LayerSpec) : Bool := false

variable {base bus bus' : Bus SwitchBank} {devices devices' : Registry} {o : Overlay}
  {shown : LayerSpec → Bool} {layers : List LayerSpec} {blocks : List SwitchBlock}

/-- What each step of a fold keeps, of the items that it has come to, holds of all of
them in the end. -/
theorem foldlM_keeps {α β ε : Type} {step : β → α → Except ε β} {I : List α → β → Prop}
    (keeps : ∀ done x y y', I done y → step y x = .ok y' → I (done ++ [x]) y')
    {xs : List α} {y y' : β} (h : I [] y) (run : xs.foldlM step y = .ok y') : I xs y' := by
  suffices later : ∀ done y, I done y → xs.foldlM step y = .ok y' → I (done ++ xs) y' from
    later [] y h run
  clear h run
  induction xs with
  | nil =>
    intro done y h run
    cases run
    rwa [List.append_nil]
  | cons x xs ih =>
    intro done y h run
    rw [List.foldlM_cons, bind_eq_ok_iff] at run
    obtain ⟨next, first, rest⟩ := run
    have kept := ih (done ++ [x]) next (keeps done x y next h first) rest
    rwa [List.append_assoc] at kept

/-! ## The machine -/

namespace Bus

variable {σ : Type} [DeviceModel σ] {b b' : Bus σ}

/-- The map of a machine has a base and nothing over it. -/
theorem ofProfile_realizes {p : MachineProfile} (accepted : Bus.ofProfile p = .ok b) :
    ∃ o, b.map.Realizes o ∧ o.layers = [] := by
  obtain ⟨g, -, -, populates⟩ := ofProfile_eq_ok_iff.mp accepted
  have populated : b.arena.names.Nodup ∧ ∃ o, b.map.Realizes o ∧ o.layers = [] := by
    refine foldlM_keeps
      (I := fun _ b => b.arena.names.Nodup ∧ ∃ o, b.map.Realizes o ∧ o.layers = [])
      ?_ ⟨List.nodup_nil, _, .empty g, rfl⟩ populates
    rintro - r b b' ⟨nodup, o, realizes, bare⟩ populates
    obtain ⟨-, -, -, new, -, rfl⟩ := (RegionSpec.populate_eq_ok_iff nodup).mp populates
    rw [← RegionSpec.names_populated] at new
    exact ⟨new, _, realizes.setBases _ _ _, bare⟩
  exact populated.2

end Bus

/-! ## Adding layers and blocks -/

theorem SwitchBlock.Wired.mono {s : SwitchBlock} {id : TargetId} {caps : Caps} {device : UInt32}
    (h : s.Wired bus devices id caps device)
    (grown : ∃ slots, bus'.arena = bus.arena.adding slots) (geometry : bus'.geometry = bus.geometry)
    (known : devices'.Extends devices) :
    s.Wired bus' devices' id caps device where
  stands := by
    obtain ⟨slots, eq⟩ := grown
    obtain ⟨bank, stands⟩ := h.stands
    exact ⟨bank, eq ▸ stands.adding slots⟩
  registered := by
    rw [geometry]
    exact known.get? h.registered
  owner := by
    rw [geometry]
    exact known.getPage? h.owner
  nonzero := h.nonzero

theorem Beneath.mono {page : ℕ} {entry : PageEntry} (h : Beneath base bus devices blocks page entry)
    (grown : ∃ slots, bus'.arena = bus.arena.adding slots) (geometry : bus'.geometry = bus.geometry)
    (known : devices'.Extends devices) :
    Beneath base bus' devices' blocks page entry := by
  cases h with
  | block split here last wired => exact .block split here last (wired.mono grown geometry known)
  | machine free shown => exact .machine free shown

/-- A block elsewhere changes nothing on a page. -/
theorem Beneath.append {page : ℕ} {entry : PageEntry}
    (h : Beneath base bus devices blocks page entry) {s : SwitchBlock}
    (elsewhere : ¬s.range.HasPage base.geometry page) :
    Beneath base bus devices (blocks ++ [s]) page entry := by
  cases h with
  | @block before after t id caps device split here last wired =>
    have split' : blocks ++ [s] = before ++ t :: (after ++ [s]) := by
      rw [split, List.append_assoc, List.cons_append]
    refine .block split' here (List.forall_mem_append.mpr ⟨last, ?_⟩) wired
    exact List.forall_mem_singleton.mpr elsewhere
  | machine free shown =>
    refine .machine (List.forall_mem_append.mpr ⟨free, ?_⟩) shown
    exact List.forall_mem_singleton.mpr elsewhere

namespace LayerSpec.Renders

variable {l : LayerSpec} {k : Layer} (h : l.Renders bus shown k)
include h

theorem name_eq : k.name = l.name := by
  obtain ⟨id, caps, -, -, rfl⟩ := h
  rfl

theorem priority_eq : k.priority = l.priority := by
  obtain ⟨id, caps, -, -, rfl⟩ := h
  rfl

theorem active_eq : k.active = shown l := by
  obtain ⟨id, caps, -, -, rfl⟩ := h
  rfl

theorem covers_iff {page : ℕ} : k.covers page = true ↔ l.range.HasPage bus.geometry page := by
  obtain ⟨id, caps, -, placed, rfl⟩ := h
  exact covers_layer placed

theorem mono (grown : ∃ slots, bus'.arena = bus.arena.adding slots)
    (geometry : bus'.geometry = bus.geometry) : l.Renders bus' shown k := by
  obtain ⟨slots, eq⟩ := grown
  obtain ⟨id, caps, stands, placed, rfl⟩ := h
  rw [Renders, geometry, eq]
  exact ⟨id, caps, stands.adding slots, placed, rfl⟩

end LayerSpec.Renders

namespace Composed

theorem length_layers (h : Composed base shown layers blocks bus devices o) :
    o.layers.length = layers.length := h.renders.length_eq.symm

/-- A machine has neither layers nor blocks. -/
theorem machine (h : base.map.Realizes o) (bare : o.layers = []) (devices : Registry) :
    Composed base LayerSpec.never [] [] base devices o where
  realizes := h
  geometry := rfl
  renders := by rw [bare]; exact .nil
  names := by rw [bare]; exact List.nodup_nil
  kept k hk := by
    rw [bare] at hk
    cases hk
  beneath page lt := by
    obtain ⟨entry, live, shows⟩ := h.live page lt
    have uncovered : Uncovered o.layers page := by
      rw [bare]
      intro k hk
      cases hk
    rw [shows.eq_base uncovered] at live
    exact .machine (fun s hs => absurd hs List.not_mem_nil) live

theorem addLayer (h : Composed base LayerSpec.never layers blocks bus devices o)
    (few : layers.length < maxLayers) {l : LayerSpec}
    (added : Session.addLayer bus l = .ok bus') :
    ∃ o', Composed base LayerSpec.never (layers ++ [l]) blocks bus' devices o' := by
  rw [← h.length_layers] at few
  obtain ⟨id, caps, arena, stands, placed, fresh, geometry, realizes⟩ :=
    Session.addLayer_realizes h.realizes few added
  refine ⟨_, realizes, geometry.trans h.geometry, ?_, ?_, ?_, ?_⟩
  · have last : l.Renders bus' LayerSpec.never (l.layer bus.geometry id caps) := by
      rw [LayerSpec.Renders, geometry]
      exact ⟨id, caps, stands, placed, rfl⟩
    have others := h.renders.imp fun _ _ renders => renders.mono ⟨_, arena⟩ geometry
    exact List.rel_append others (.cons last .nil)
  · have names : (o.over (l.layer bus.geometry id caps)).layers.map Layer.name =
        (o.layers.map Layer.name).concat l.name := by
      rw [Overlay.over, Overlay.keep, List.map_append, List.concat_eq_append]
      rfl
    rw [names]
    refine h.names.concat ?_
    intro mem
    obtain ⟨k, hk, same⟩ := List.mem_map.mp mem
    exact fresh k hk same
  · intro k hk page hp
    rcases List.mem_append.mp hk with hk | hk
    · exact Bool.or_eq_true_iff.mpr (.inl (h.kept k hk page hp))
    · rw [List.mem_singleton] at hk
      subst hk
      exact Bool.or_eq_true_iff.mpr (.inr (decide_eq_true hp))
  · intro page lt
    exact (h.beneath page lt).mono ⟨_, arena⟩ geometry (.refl _)

theorem addBlock (h : Composed base shown layers blocks bus devices o) {s : SwitchBlock}
    (added : Session.addBlock (bus, devices) s = .ok (bus', devices')) :
    ∃ o', Composed base shown layers (blocks ++ [s]) bus' devices' o' := by
  obtain ⟨id, caps, device, grown, geometry, known, wired, placed, realizes⟩ :=
    Session.addBlock_realizes h.realizes added
  refine ⟨_, realizes, geometry.trans h.geometry, ?_, h.names, h.kept, ?_⟩
  · exact h.renders.imp fun _ _ renders => renders.mono grown geometry
  · intro page lt
    obtain ⟨inside, outside⟩ := SwitchBlock.base_rebase o placed
      (s.entry bus.geometry id caps device) page
    by_cases here : s.range.HasPage bus.geometry page
    · rw [inside here, h.geometry]
      rw [h.geometry] at here
      exact .block rfl here (fun t ht => absurd ht List.not_mem_nil) wired
    · rw [outside here]
      rw [h.geometry] at here
      exact ((h.beneath page lt).mono grown geometry known).append here

theorem addLayers {added : List LayerSpec} (h : Composed base LayerSpec.never [] [] bus devices o)
    (few : added.length ≤ maxLayers) (run : added.foldlM Session.addLayer bus = .ok bus') :
    ∃ o', Composed base LayerSpec.never added [] bus' devices o' := by
  refine foldlM_keeps (I := fun done bus => done.length ≤ maxLayers →
    ∃ o, Composed base LayerSpec.never done [] bus devices o) ?_ (fun _ => ⟨o, h⟩) run few
  intro done l bus bus' kept added few
  rw [List.length_append, List.length_singleton] at few
  obtain ⟨o, h⟩ := kept (by omega)
  exact h.addLayer few added

theorem addBlocks {added : List SwitchBlock} {final : Bus SwitchBank × Registry}
    (h : Composed base shown layers [] bus devices o)
    (run : added.foldlM Session.addBlock (bus, devices) = .ok final) :
    ∃ o', Composed base shown layers added final.1 final.2 o' := by
  refine foldlM_keeps
    (I := fun done state => ∃ o, Composed base shown layers done state.1 state.2 o)
    ?_ ⟨o, h⟩ run
  rintro done s state state' ⟨o, h⟩ added
  exact h.addBlock added

/-! ## Showing and hiding layers -/

end Composed

namespace Session

/-- Shows a layer that is to be active. -/
def showNamed (bus : Bus SwitchBank) (l : LayerSpec) : Except MonitorError (Bus SwitchBank) :=
  (busOk (bus.activateNamed l.name)).map Prod.fst

theorem showNamed_eq_ok_iff {l : LayerSpec} :
    showNamed bus l = .ok bus' ↔ bus.activateNamed l.name = (bus', .ok ()) := by
  rw [showNamed]
  obtain ⟨after, result⟩ := bus.activateNamed l.name
  cases result with
  | error e => exact iff_of_false nofun nofun
  | ok value => simp [busOk, Except.map]

end Session

namespace Composed

/-- Showing or hiding layers changes which layers are shown, and nothing else. -/
theorem flag (h : Composed base shown layers blocks bus devices o) {active : Bool}
    {names : List String} (flagged : bus.Remapped bus' (o.flag active names))
    {shown' : LayerSpec → Bool}
    (tells : ∀ l ∈ layers, shown' l = if l.name ∈ names then active else shown l) :
    Composed base shown' layers blocks bus' devices (o.flag active names) where
  realizes := flagged.realizes
  geometry := flagged.geometry.trans h.geometry
  renders := by
    rw [Overlay.flag, List.forall₂_map_right_iff]
    refine ((List.forall₂_and_left _ _).mpr ⟨tells, h.renders⟩).imp ?_
    rintro l k ⟨tells, id, caps, stands, placed, rfl⟩
    rw [LayerSpec.Renders, flagged.arena, flagged.geometry, tells]
    refine ⟨id, caps, stands, placed, ?_⟩
    have name : (l.layer bus.geometry id caps).name = l.name := rfl
    rw [name]
    split <;> rfl
  names := by
    rw [Overlay.names_flag]
    exact h.names
  kept := by
    intro k hk page hp
    obtain ⟨l, hl, rfl⟩ := List.mem_map.mp hk
    refine h.kept l hl page ?_
    split at hp <;> exact hp
  beneath page lt := by
    refine (h.beneath page lt).mono ⟨[], ?_⟩ flagged.geometry (.refl _)
    rw [flagged.arena, Arena.adding_nil]

/-- Showing layers by name, one after the other, flags them all. -/
theorem showAll (h : Composed base shown layers blocks bus devices o)
    (few : layers.length ≤ maxLayers) {ls : List LayerSpec}
    (run : ls.foldlM Session.showNamed bus = .ok bus') :
    bus.Remapped bus' (o.flag true (ls.map LayerSpec.name)) := by
  refine foldlM_keeps
    (I := fun done bus' => bus.Remapped bus' (o.flag true (done.map LayerSpec.name))) ?_ ?_ run
  · intro done l bus₁ bus₂ flagged activated
    have before := h.flag flagged fun _ _ => rfl
    have few' : bus₁.map.layers.size ≤ maxLayers := by
      rwa [flagged.size_layers, Overlay.length_flag, h.length_layers]
    obtain ⟨i, position, step⟩ := Bus.activateNamed_remapped before.realizes few'
      (Session.showNamed_eq_ok_iff.mp activated)
    rw [Overlay.reveal_eq_flag before.names position before.kept, Overlay.flag_append] at step
    rw [List.map_append]
    exact flagged.trans step
  · rw [List.map_nil, Overlay.flag_nil]
    exact ⟨rfl, rfl, h.realizes⟩

/-- Of layers whose names differ, those that are to be active have the names of those
that are to be active. -/
theorem mem_active_names (names : (layers.map LayerSpec.name).Nodup) {l : LayerSpec}
    (hl : l ∈ layers) :
    l.name ∈ (layers.filter LayerSpec.active).map LayerSpec.name ↔ l.active = true := by
  constructor
  · intro mem
    obtain ⟨k, hk, same⟩ := List.mem_map.mp mem
    obtain ⟨hk, active⟩ := List.mem_filter.mp hk
    rwa [← List.inj_on_of_nodup_map names hk hl same]
  · intro active
    exact List.mem_map_of_mem (List.mem_filter.mpr ⟨hl, active⟩)

/-- What a layer has by its description can be read off either. -/
theorem map_layers {α : Type} (h : Composed base shown layers blocks bus devices o)
    {described : LayerSpec → α} {shows : Layer → α}
    (agree : ∀ l k, l.Renders bus shown k → described l = shows k) :
    layers.map described = o.layers.map shows := by
  rw [← List.forall₂_eq_eq_eq, List.forall₂_map_left_iff, List.forall₂_map_right_iff]
  exact h.renders.imp agree

/-- Showing the layers that are to be active shows these and no others. -/
theorem showActive (h : Composed base LayerSpec.never layers blocks bus devices o)
    (few : layers.length ≤ maxLayers)
    (run : (layers.filter LayerSpec.active).foldlM Session.showNamed bus = .ok bus') :
    ∃ o', Composed base LayerSpec.active layers blocks bus' devices o' := by
  refine ⟨_, h.flag (h.showAll few run) ?_⟩
  intro l hl
  have names : layers.map LayerSpec.name = o.layers.map Layer.name :=
    h.map_layers fun _ _ renders => renders.name_eq.symm
  have marked := mem_active_names (names ▸ h.names) hl
  cases active : l.active with
  | true => exact (if_pos (marked.mpr active)).symm
  | false =>
    refine (if_neg fun mem => ?_).symm
    exact Bool.false_ne_true (active.symm.trans (marked.mp mem))

/-- Hiding all layers, in any order, shows none. -/
theorem hideAll (h : Composed base shown layers blocks bus devices o)
    (few : layers.length ≤ maxLayers) {names : List String} (all : ∀ l ∈ layers, l.name ∈ names) :
    ∃ o', bus.Remapped (bus.hide names) o' ∧
      Composed base LayerSpec.never layers blocks (bus.hide names) devices o' := by
  rw [← h.length_layers] at few
  have hidden := Bus.hide_remapped h.realizes few h.names names
  refine ⟨_, hidden, h.flag hidden ?_⟩
  intro l hl
  exact (if_pos (all l hl)).symm

end Composed

/-! ## Stages of building -/

namespace Session

/-- A session is built in stages: the machine, the layers over it, the blocks of
switches, the layers that are to be active, and a trace, which concerns neither the
targets nor the map. -/
structure Stages (p : MonitorProfile) (s : Session) (machine layered : Bus SwitchBank)
    (blocked : Bus SwitchBank × Registry) (shown : Bus SwitchBank) : Prop where
  accepted : Bus.ofProfile p.machine = .ok machine
  layers : p.layers.foldlM addLayer machine = .ok layered
  blocks : ∃ devices, p.blocks.foldlM addBlock (layered, devices) = .ok blocked
  active : (p.layers.filter LayerSpec.active).foldlM showNamed blocked.1 = .ok shown
  devices : s.devices = blocked.2
  traced : s.bus = shown ∨ ∃ capacity, s.bus = (shown.enableTrace capacity).1

theorem machineBus_eq_ok_iff {p : MachineProfile} {bus : Bus SwitchBank} :
    machineBus p = .ok bus ↔ Bus.ofProfile p = .ok bus := by
  unfold machineBus
  cases (Bus.ofProfile p : Except _ (Bus SwitchBank)) with
  | error e => exact iff_of_false nofun nofun
  | ok machine => rw [Except.ok.injEq, Except.ok.injEq]

/-- Blocks are registered after the devices that own regions. -/
theorem build_registers {p : MonitorProfile} {trace : Option ℕ} {s : Session}
    (built : build p trace = .ok s) :
    ∃ machine layered blocked shown devices, Stages p s machine layered blocked shown ∧
      p.machine.regions.foldlM registerRegion {} = .ok devices ∧
      p.blocks.foldlM addBlock (layered, devices) = .ok blocked := by
  unfold build at built
  simp only [bind_eq_ok_iff, machineBus_eq_ok_iff] at built
  obtain ⟨base, accepted, devices, registered, bus₁, layered, ⟨bus₂, devices'⟩, blocked, bus₃,
    shown, traced⟩ := built
  cases trace with
  | none =>
    cases traced
    exact ⟨base, bus₁, (bus₂, devices'), _, devices,
      ⟨accepted, layered, ⟨devices, blocked⟩, shown, rfl, .inl rfl⟩, registered, blocked⟩
  | some capacity =>
    simp only [bind_eq_ok_iff, busOk_eq_ok_iff] at traced
    obtain ⟨⟨bus₄, _⟩, enabled, ⟨⟩⟩ := traced
    exact ⟨base, bus₁, (bus₂, devices'), bus₃, devices,
      ⟨accepted, layered, ⟨devices, blocked⟩, shown, rfl,
        .inr ⟨capacity, (congrArg Prod.fst enabled).symm⟩⟩, registered, blocked⟩

theorem build_stages {p : MonitorProfile} {trace : Option ℕ} {s : Session}
    (built : build p trace = .ok s) :
    ∃ machine layered blocked shown, Stages p s machine layered blocked shown := by
  obtain ⟨machine, layered, blocked, shown, -, stages, -⟩ := build_registers built
  exact ⟨machine, layered, blocked, shown, stages⟩

namespace Stages

variable {p : MonitorProfile} {s : Session} {machine layered shown : Bus SwitchBank}
  {blocked : Bus SwitchBank × Registry}

theorem fabric_eq (h : Stages p s machine layered blocked shown) : s.bus.fabric = shown.fabric := by
  obtain same | ⟨capacity, same⟩ := h.traced
  · rw [same]
  · rw [same, Bus.enableTrace_fabric]

theorem map_eq (h : Stages p s machine layered blocked shown) : s.bus.map = shown.map := by
  obtain same | ⟨capacity, same⟩ := h.traced
  · rw [same]
  · rw [same, Bus.enableTrace_map]

end Stages

end Session

end Backplane
