import Mathlib
import Backplane.Proofs.Overlay.Restore
import Backplane.Proofs.Overlay.Shown

/-!
# Operations that succeed

What an operation that the bus does not refuse makes of the overlay, without a case
for refusal: the layer is there, the base entries are kept, the range is mapped.
Nothing here touches the targets or the space (`Remapped`).
-/

namespace Backplane
namespace Bus

variable {σ : Type} {b b' : Bus σ} {o o' : Overlay}

/-- The bus has become `b'`, with the same targets and in the same space, and realizes
this overlay. -/
structure Remapped (b b' : Bus σ) (o' : Overlay) : Prop where
  fabric : b'.fabric = b.fabric
  geometry : b'.geometry = b.geometry
  realizes : b'.map.Realizes o'

theorem Remapped.arena (h : b.Remapped b' o') : b'.arena = b.arena := by
  rw [Bus.arena, h.fabric, Bus.arena]

theorem Remapped.trans {b'' : Bus σ} {o'' : Overlay} (h : b.Remapped b' o')
    (h' : b'.Remapped b'' o'') : b.Remapped b'' o'' :=
  ⟨h'.fabric.trans h.fabric, h'.geometry.trans h.geometry, h'.realizes⟩

theorem Remapped.size_layers (h : b.Remapped b' o') : b'.map.layers.size = o'.layers.length := by
  rw [← h.realizes.layers, Array.length_toList]

theorem createLayer_remapped (h : b.map.Realizes o) {name : String} {priority : Int32}
    {id : LayerId} (made : b.createLayer name priority = (b', .ok id)) :
    b.Remapped b' (o.create name priority) ∧ ∀ l ∈ o.layers, l.name ≠ name := by
  have result : (b.map.createLayer name priority).2 = .ok id := congrArg Prod.snd made
  have after : b' = { b with map := (b.map.createLayer name priority).1 } :=
    (congrArg Prod.fst made).symm
  have realizes := h.createLayer name priority
  rw [result] at realizes
  subst after
  refine ⟨⟨rfl, (b.map.createLayer_follows name priority).geometry_eq, realizes⟩, ?_⟩
  intro l hl same
  rw [← h.layers, Array.mem_toList_iff] at hl
  unfold AddressMap.createLayer at result
  split at result
  · cases result
  · rename_i unused
    rw [AddressMap.layerId?, Option.map_eq_none_iff, Array.findIdx?_eq_none_iff] at unused
    exact absurd same (of_decide_eq_false (unused l hl))

theorem saveBase_remapped (h : b.map.Realizes o) {first count : ℕ}
    (saved : b.saveBase first count = (b', .ok ())) :
    b.Remapped b' (o.keep (List.range' first count)) := by
  have result : (b.map.saveBase first count).2 = .ok () := congrArg Prod.snd saved
  have after : b' = { b with map := (b.map.saveBase first count).1 } :=
    (congrArg Prod.fst saved).symm
  have realizes := h.saveBase first count
  rw [result] at realizes
  subst after
  exact ⟨rfl, (b.map.saveBase_follows first count).geometry_eq, realizes⟩

theorem setLayerMapping_remapped [DeviceModel σ] (h : b.map.Realizes o)
    (few : b.map.layers.size ≤ maxLayers) {name : String} {mapping : LayerMapping}
    (placed : b.setLayerMapping name mapping = (b', .ok ())) :
    ∃ i p, (o.layers.findIdx? fun l => l.name = name) = some i ∧
      Placement.ofMapping b.geometry b.arena mapping = .ok p ∧ b.Remapped b' (o.place i p) := by
  unfold setLayerMapping at placed
  rcases h.named_cases few name with ⟨id, found, position⟩ | ⟨⟨e, missing⟩, -⟩
  · rw [found] at placed
    have result : (b.map.setMapping b.arena id mapping).2 = .ok () := congrArg Prod.snd placed
    have after : b' = { b with map := (b.map.setMapping b.arena id mapping).1 } :=
      (congrArg Prod.fst placed).symm
    have realizes := h.setMapping few b.arena id mapping
    rcases b.map.setMapping_cases b.arena id mapping with ⟨l, p, -, made, -, -⟩ | ⟨e, refused⟩
    · rw [result, made] at realizes
      subst after
      exact ⟨id.index, p, position, made, rfl,
        (b.map.setMapping_follows b.arena id mapping).geometry_eq, realizes⟩
    · rw [refused] at result
      cases result
  · rw [missing] at placed
    cases placed

theorem activateNamed_remapped (h : b.map.Realizes o) (few : b.map.layers.size ≤ maxLayers)
    {name : String} (shown : b.activateNamed name = (b', .ok ())) :
    ∃ i, (o.layers.findIdx? fun l => l.name = name) = some i ∧ b.Remapped b' (o.reveal i) := by
  unfold activateNamed at shown
  rcases h.named_cases few name with ⟨id, found, position⟩ | ⟨⟨e, missing⟩, -⟩
  · rw [found] at shown
    have after : b' = { b with map := (b.map.activate id).1 } := (congrArg Prod.fst shown).symm
    subst after
    exact ⟨id.index, position, rfl, (b.map.activate_follows id).geometry_eq, h.activate few id⟩
  · rw [missing] at shown
    cases shown

/-- Hiding layers never fails to leave them hidden: a name that no layer has changes
nothing. -/
theorem deactivateNamed_remapped (h : b.map.Realizes o) (few : b.map.layers.size ≤ maxLayers)
    (name : String) :
    b.Remapped (b.deactivateNamed name).1 (o.named name Overlay.hide) := by
  unfold deactivateNamed Overlay.named
  rcases h.named_cases few name with ⟨id, found, position⟩ | ⟨⟨e, missing⟩, position⟩
  · rw [found, position]
    exact ⟨rfl, (b.map.deactivate_follows id).geometry_eq, h.deactivate few id⟩
  · rw [missing, position]
    exact ⟨rfl, rfl, h⟩

end Bus

/-! ## Layers by name -/

namespace Overlay

variable (o : Overlay)

/-- The overlay with the layers of these names shown, or hidden. -/
def flag (active : Bool) (names : List String) : Overlay :=
  { o with layers := o.layers.map fun l =>
      if l.name ∈ names then { l with active := active } else l }

theorem flag_nil (active : Bool) : o.flag active [] = o := by
  simp [flag]

theorem flag_append (active : Bool) (first second : List String) :
    (o.flag active first).flag active second = o.flag active (first ++ second) := by
  rw [flag, flag, flag, List.map_map]
  congr 1
  apply List.map_congr_left
  intro l _
  by_cases here : l.name ∈ first <;> by_cases there : l.name ∈ second <;> simp [here, there]

@[simp] theorem length_flag (active : Bool) (names : List String) :
    (o.flag active names).layers.length = o.layers.length := List.length_map _

theorem names_flag (active : Bool) (names : List String) :
    (o.flag active names).layers.map Layer.name = o.layers.map Layer.name := by
  rw [flag, List.map_map]
  apply List.map_congr_left
  intro l _
  show (if l.name ∈ names then { l with active := active } else l).name = l.name
  split <;> rfl

variable {o : Overlay} (nodup : (o.layers.map Layer.name).Nodup)
include nodup

/-- Where names differ, the first layer of a name is the only one. -/
theorem modifyLayer_eq_flag {name : String} {i : ℕ}
    (position : (o.layers.findIdx? fun l => l.name = name) = some i) (active : Bool) :
    o.modifyLayer i ({ · with active := active }) = o.flag active [name] := by
  obtain ⟨lt, here, -⟩ := List.findIdx?_eq_some_iff_getElem.mp position
  rw [modifyLayer, flag, Overlay.mk.injEq]
  refine ⟨rfl, rfl, ?_⟩
  apply List.ext_getElem?
  intro j
  rw [List.getElem?_modify, List.getElem?_map]
  cases there : o.layers[j]? with
  | none => rfl
  | some l =>
    have same : l.name ∈ [name] ↔ i = j := by
      rw [List.mem_singleton, ← of_decide_eq_true here]
      constructor
      · intro clash
        have inside : i < (o.layers.map Layer.name).length := by rwa [List.length_map]
        refine (List.getElem?_inj inside nodup).mp ?_
        rw [List.getElem?_map, List.getElem?_map, List.getElem?_eq_getElem lt, there,
          Option.map_some, Option.map_some, clash]
      · rintro rfl
        rw [List.getElem?_eq_getElem lt, Option.some.injEq] at there
        rw [there]
    simp only [Option.map_eq_map, Option.map_some, same]

theorem reveal_eq_flag {name : String} {i : ℕ}
    (position : (o.layers.findIdx? fun l => l.name = name) = some i)
    (kept : ∀ l ∈ o.layers, ∀ page ∈ l.pages, o.kept page = true) :
    o.reveal i = o.flag true [name] := by
  rw [← modifyLayer_eq_flag nodup position, reveal]
  obtain ⟨lt, -⟩ := List.findIdx?_eq_some_iff_getElem.mp position
  rw [List.getElem?_eq_getElem lt]
  have all : o.layers[i].pages.all o.kept = true :=
    List.all_eq_true.mpr (kept _ (List.getElem_mem lt))
  cases active : o.layers[i].active with
  | false => exact if_pos ⟨active, all⟩
  | true =>
    refine (if_neg fun hidden => ?_).trans (AddressMap.modifyLayer_eq_self fun l here => ?_).symm
    · exact Bool.false_ne_true (hidden.1.symm.trans active)
    · rw [List.getElem?_eq_getElem lt, Option.some.injEq] at here
      subst here
      rw [← active]

theorem named_hide_eq_flag (name : String) : o.named name hide = o.flag false [name] := by
  unfold named
  cases position : o.layers.findIdx? fun l => l.name = name with
  | some i => exact modifyLayer_eq_flag nodup position false
  | none =>
    rw [List.findIdx?_eq_none_iff] at position
    have same : o.layers.map (fun l => if l.name ∈ [name] then { l with active := false } else l) =
        o.layers := by
      refine (List.map_congr_left ?_).trans (List.map_id o.layers)
      intro l hl
      exact if_neg fun mem => of_decide_eq_false (position l hl) (List.mem_singleton.mp mem)
    rw [flag, same]

end Overlay

namespace Bus

variable {σ : Type} {b : Bus σ} {o : Overlay}

/-- The bus with the layers of these names hidden, one after the other. -/
def hide (b : Bus σ) (names : List String) : Bus σ :=
  names.foldl (fun b name => (b.deactivateNamed name).1) b

theorem hide_remapped (h : b.map.Realizes o) (few : o.layers.length ≤ maxLayers)
    (nodup : (o.layers.map Layer.name).Nodup) (names : List String) :
    b.Remapped (b.hide names) (o.flag false names) := by
  induction names using List.reverseRecOn with
  | nil =>
    rw [Overlay.flag_nil]
    exact ⟨rfl, rfl, h⟩
  | append_singleton names name ih =>
    have few' : (b.hide names).map.layers.size ≤ maxLayers := by
      rwa [ih.size_layers, Overlay.length_flag]
    have step := deactivateNamed_remapped ih.realizes few' name
    rw [← Overlay.names_flag o false names] at nodup
    rw [Overlay.named_hide_eq_flag nodup, Overlay.flag_append] at step
    rw [hide, List.foldl_append]
    exact ih.trans step

end Bus
end Backplane
