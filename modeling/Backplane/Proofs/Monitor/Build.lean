import Mathlib
import Backplane.Proofs.Monitor.Composition

/-!
# The machine that a monitor profile describes

On each page a session shows what its profile says, whatever the order in which it was
built (`build_shows`): of the layers that are to be active there the strongest, beneath
the layers the block of switches listed last, and beneath the blocks the machine.
-/

namespace Backplane

/-- The layer at position `i` of the profile is to be active over the page, and of all
that are it has the highest priority, or the same as others and is listed before them. -/
structure MonitorProfile.Tops (p : MonitorProfile) (g : Geometry) (page i : ℕ) (l : LayerSpec) :
    Prop where
  getElem?_eq : p.layers[i]? = some l
  active : l.active = true
  covers : l.range.HasPage g page
  beats : ∀ {j : ℕ} {k : LayerSpec}, p.layers[j]? = some k → k.active = true →
    k.range.HasPage g page → j ≠ i →
      k.priority < l.priority ∨ k.priority = l.priority ∧ i < j

/-- What a page of the session is to show: its top layer, or what lies beneath. -/
inductive MonitorProfile.Shows (p : MonitorProfile) (base bus : Bus SwitchBank)
    (devices : Registry) (page : ℕ) : PageEntry → Prop
  /-- A layer. -/
  | layer {i : ℕ} {l : LayerSpec} {id : TargetId} {caps : Caps} :
    p.Tops base.geometry page i l → bus.arena.Stands l.slot id caps →
    Shows p base bus devices page (l.entry base.geometry id caps page)
  /-- No layer. -/
  | beneath {entry : PageEntry} :
    (∀ l ∈ p.layers, l.active = true → ¬l.range.HasPage base.geometry page) →
    Beneath base bus devices p.blocks page entry → Shows p base bus devices page entry

variable {base bus : Bus SwitchBank} {devices : Registry} {o : Overlay}
  {shown : LayerSpec → Bool} {layers : List LayerSpec} {blocks : List SwitchBlock}

/-! ## Layers and their descriptions -/

/-- What stands in a list is related to what stands at its position in the other. -/
theorem related_getElem? {α β : Type} {R : α → β → Prop} {xs : List α} {ys : List β}
    (h : List.Forall₂ R xs ys) {i : ℕ} {y : β} (here : ys[i]? = some y) :
    ∃ x, xs[i]? = some x ∧ R x y := by
  induction h generalizing i with
  | nil => cases here
  | @cons x y' xs ys first _ ih =>
    cases i with
    | zero =>
      cases here
      exact ⟨x, rfl, first⟩
    | succ i => exact ih here

namespace Composed

/-- A layer that contends for a page has a description that is shown there. -/
theorem of_contends (h : Composed base shown layers blocks bus devices o) {page i : ℕ} {k : Layer}
    (contends : Contends o.layers page i k) :
    ∃ l, layers[i]? = some l ∧ shown l = true ∧ l.range.HasPage base.geometry page ∧
      l.Renders bus shown k := by
  obtain ⟨l, here, renders⟩ := related_getElem? h.renders contends.getElem?_eq
  refine ⟨l, here, ?_, ?_, renders⟩
  · rw [← renders.active_eq]
    exact contends.active
  · rw [← h.geometry, ← renders.covers_iff]
    exact contends.covers

/-- A description that is shown on a page has a layer that contends for it. -/
theorem contends (h : Composed base shown layers blocks bus devices o) {page i : ℕ} {l : LayerSpec}
    (here : layers[i]? = some l) (active : shown l = true)
    (covers : l.range.HasPage base.geometry page) :
    ∃ k, Contends o.layers page i k ∧ k.priority = l.priority := by
  have mirrored : List.Forall₂ (flip (LayerSpec.Renders bus shown)) o.layers layers :=
    h.renders.flip
  obtain ⟨k, there, (renders : l.Renders bus shown k)⟩ := related_getElem? mirrored here
  refine ⟨k, ⟨there, ?_, ?_⟩, renders.priority_eq⟩
  · rw [renders.active_eq]
    exact active
  · rw [renders.covers_iff, h.geometry]
    exact covers

/-- With the layers shown that are to be active, each page shows what the profile
says. -/
theorem shows {p : MonitorProfile}
    (h : Composed base LayerSpec.active p.layers p.blocks bus devices o) {page : ℕ}
    (lt : page < base.geometry.pageCount) :
    ∃ entry, bus.map.table.get? page = some entry ∧ p.Shows base bus devices page entry := by
  have inside : page < bus.geometry.pageCount := by rwa [h.geometry]
  obtain ⟨entry, live, shows⟩ := h.realizes.live page inside
  refine ⟨entry, live, ?_⟩
  cases shows with
  | @layer i k placement wins placed =>
    obtain ⟨l, here, active, covers, id, caps, stands, whole, rfl⟩ :=
      h.of_contends wins.toContends
    cases placed
    have top : p.Tops base.geometry page i l := by
      refine ⟨here, active, covers, ?_⟩
      intro j l' here' active' covers' ne
      obtain ⟨k', contends, priority⟩ := h.contends here' active' covers'
      rw [← priority]
      exact wins.beats contends ne
    rw [← h.geometry] at covers
    rw [LayerSpec.entryFor_placement whole covers, h.geometry]
    exact .layer top stands
  | base uncovered =>
    refine .beneath ?_ (h.beneath page lt)
    intro l hl active covers
    obtain ⟨i, here⟩ := List.getElem?_of_mem hl
    obtain ⟨k, contends, -⟩ := h.contends here active covers
    exact uncovered_iff.mp uncovered i k contends

/-- With no layer shown, each page shows what is beneath. -/
theorem shows_beneath (h : Composed base LayerSpec.never layers blocks bus devices o) {page : ℕ}
    (lt : page < base.geometry.pageCount) :
    ∃ entry, bus.map.table.get? page = some entry ∧
      Beneath base bus devices blocks page entry := by
  have inside : page < bus.geometry.pageCount := by rwa [h.geometry]
  obtain ⟨entry, live, shows⟩ := h.realizes.live page inside
  have uncovered : Uncovered o.layers page := by
    rw [uncovered_iff]
    intro i k contends
    obtain ⟨l, -, active, -⟩ := h.of_contends contends
    cases active
  refine ⟨entry, live, ?_⟩
  rw [shows.eq_base uncovered]
  exact h.beneath page lt

theorem flags (h : Composed base shown layers blocks bus devices o) :
    bus.map.layers.toList.map (fun k => (k.name, k.priority, k.active)) =
      layers.map fun l => (l.name, l.priority, shown l) := by
  rw [h.realizes.layers]
  refine (h.map_layers ?_).symm
  intro l k renders
  rw [renders.name_eq, renders.priority_eq, renders.active_eq]

end Composed

/-! ## Building -/

namespace Session

variable {p : MonitorProfile} {trace : Option Nat} {s : Session}

theorem build_composed (few : p.layers.length ≤ maxLayers) (built : build p trace = .ok s) :
    ∃ base o, Bus.ofProfile p.machine = .ok base ∧
      Composed base LayerSpec.active p.layers p.blocks s.bus s.devices o := by
  obtain ⟨base, bus₁, ⟨bus₂, devices⟩, bus₃, stages⟩ := build_stages built
  obtain ⟨o₀, realizes, bare⟩ := Bus.ofProfile_realizes stages.accepted
  obtain ⟨registry, blocked⟩ := stages.blocks
  obtain ⟨o₁, layers⟩ := (Composed.machine realizes bare registry).addLayers few stages.layers
  obtain ⟨o₂, blocks⟩ := layers.addBlocks blocked
  obtain ⟨o₃, active⟩ := blocks.showActive few stages.active
  have same : bus₃.Remapped s.bus (o₃.flag true []) := by
    rw [Overlay.flag_nil]
    refine ⟨stages.fabric_eq, ?_, ?_⟩
    · rw [Bus.geometry, stages.map_eq, Bus.geometry]
    · rw [stages.map_eq]
      exact active.realizes
  rw [stages.devices]
  exact ⟨base, _, stages.accepted, active.flag same fun l _ => (if_neg List.not_mem_nil).symm⟩

/-- **A session shows what its profile describes.** Each page shows the top layer there,
or what is beneath; just the layers that are to be active are so; and hiding all of
them, by any names in any order, leaves on each page what is beneath. -/
theorem build_shows (few : p.layers.length ≤ maxLayers) (built : build p trace = .ok s) :
    ∃ base, Bus.ofProfile p.machine = .ok base ∧ s.bus.geometry = base.geometry ∧
      (∀ page < base.geometry.pageCount, ∃ entry, s.bus.map.table.get? page = some entry ∧
        p.Shows base s.bus s.devices page entry) ∧
      s.bus.map.layers.toList.map (fun k => (k.name, k.priority, k.active)) =
        p.layers.map (fun l => (l.name, l.priority, l.active)) ∧
      ∀ names : List String, (∀ l ∈ p.layers, l.name ∈ names) →
        ∀ page < base.geometry.pageCount, ∃ entry,
          (s.bus.hide names).map.table.get? page = some entry ∧
            Beneath base s.bus s.devices p.blocks page entry := by
  obtain ⟨base, o, accepted, composed⟩ := build_composed few built
  refine ⟨base, accepted, composed.geometry, fun page lt => composed.shows lt, composed.flags, ?_⟩
  intro names all page lt
  obtain ⟨o', hidden, bare⟩ := composed.hideAll few all
  obtain ⟨entry, live, beneath⟩ := bare.shows_beneath lt
  refine ⟨entry, live, beneath.mono ⟨[], ?_⟩ hidden.geometry.symm (.refl _)⟩
  rw [hidden.arena, Arena.adding_nil]

/-- Memory of four pages under two layers of equal priority, a third that is not to be
active, and two blocks of switches, where each overlaps the next. -/
def layered : MonitorProfile where
  machine :=
    { name := "layered"
      addressBits := 8
      pageShift := 6
      regions :=
        [{ name := "ram", start := 0, size := 0x100, perms := .all, region := .ram,
           kind := .memory (.ram 0) }] }
  layers :=
    [{ name := "first", start := 0, size := 0x80, active := true },
     { name := "second", start := 0x40, size := 0x80, perms := .readExecute, region := .rom,
       active := true },
     { name := "third", priority := 9, start := 0, size := 0x100 }]
  blocks :=
    [{ name := "under", start := 0x80, size := 0x80,
       switches := [{ offset := 3, onRead := some (.activate "third") }] },
     { name := "over", start := 0xc0, size := 0x40 }]

/-- Where each page leads, at which offset and for which device. -/
def leads (bus : Bus SwitchBank) : List (Option (TargetId × UInt32 × UInt32)) :=
  bus.map.table.entries.toList.map fun e => e.target.map fun id => (id, e.physicalBase, e.deviceId)

/-- The first layer wins the tie on the second page, the second layer hides the first
block, and the last page is left to the second block. -/
theorem build_shows_layered :
    ∃ s base, build layered (some 4) = .ok s ∧ Bus.ofProfile layered.machine = .ok base ∧
      (∀ page < base.geometry.pageCount, ∃ entry, s.bus.map.table.get? page = some entry ∧
        layered.Shows base s.bus s.devices page entry) ∧
      leads s.bus =
        [some (⟨1⟩, 0, 0), some (⟨1⟩, 0x40, 0), some (⟨2⟩, 0x40, 0), some (⟨5⟩, 0, 2)] ∧
      (∀ page < base.geometry.pageCount, ∃ entry,
        (s.bus.hide ["third", "second", "first"]).map.table.get? page = some entry ∧
          Beneath base s.bus s.devices layered.blocks page entry) ∧
      leads (s.bus.hide ["third", "second", "first"]) =
        [some (⟨0⟩, 0, 0), some (⟨0⟩, 0x40, 0), some (⟨4⟩, 0, 1), some (⟨5⟩, 0, 2)] := by
  have run : ((build layered (some 4)).toOption.map fun s =>
      [leads s.bus, leads (s.bus.hide ["third", "second", "first"])]) = some
        [[some (⟨1⟩, 0, 0), some (⟨1⟩, 0x40, 0), some (⟨2⟩, 0x40, 0), some (⟨5⟩, 0, 2)],
         [some (⟨0⟩, 0, 0), some (⟨0⟩, 0x40, 0), some (⟨4⟩, 0, 1), some (⟨5⟩, 0, 2)]] := by
    decide_cbv
  obtain ⟨s, succeeds, tables⟩ := Option.map_eq_some_iff.mp run
  have built : build layered (some 4) = .ok s := by
    generalize build layered (some 4) = result at succeeds ⊢
    cases result with
    | error e => cases succeeds
    | ok value =>
      cases succeeds
      rfl
  obtain ⟨shown, hidden, -⟩ := List.cons.inj tables |>.imp_right List.cons.inj
  obtain ⟨base, accepted, -, shows, -, beneath⟩ := build_shows (by decide) built
  exact ⟨s, base, built, accepted, shows, shown, beneath _ (by decide), hidden⟩

end Session
end Backplane
