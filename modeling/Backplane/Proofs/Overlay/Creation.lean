import Mathlib
import Backplane.Proofs.Bus.Operations
import Backplane.Proofs.Overlay.Refresh
import Backplane.Proofs.Overlay.Winner
import Backplane.Proofs.Text.Numeral

/-!
# Creating layers

Layers that are created one after the other stand in that order, each under a name of its
own, and the id of each is its position in sixteen bits (`Lists`). A name that is taken is
refused, and nothing else is. Names find the ids that were told, but an id finds its layer
only if the position fits: past `maxLayers` ids begin anew, and those that are told there
belong to the first layers. The main statement is `created_ids_tell_apart`.
-/

namespace Backplane

theorem LayerId.index_ofIndex_mod (i : ℕ) : (LayerId.ofIndex i).index = i % maxLayers := by
  simp [LayerId.index, LayerId.ofIndex, maxLayers]

/-- Ids tell positions apart as far as they fit. -/
theorem LayerId.nodup_ofIndex_iff (n : ℕ) :
    ((List.range n).map LayerId.ofIndex).Nodup ↔ n ≤ maxLayers := by
  constructor
  · intro nodup
    by_contra past
    have first : 0 ∈ List.range n := List.mem_range.mpr (by omega)
    have again : maxLayers ∈ List.range n := List.mem_range.mpr (by omega)
    have same : LayerId.ofIndex 0 = LayerId.ofIndex maxLayers := by decide
    have := List.inj_on_of_nodup_map nodup first again same
    exact absurd this (by decide)
  · intro few
    refine List.Nodup.map_on (fun i hi j hj same => ?_) List.nodup_range
    have same := congrArg LayerId.index same
    rwa [index_ofIndex (Nat.lt_of_lt_of_le (List.mem_range.mp hi) few),
      index_ofIndex (Nat.lt_of_lt_of_le (List.mem_range.mp hj) few)] at same

namespace AddressMap

/-! ## One layer -/

/-- A layer that is created. -/
def fresh (name : String) (priority : Int32) : Layer := ⟨name, priority, false, none⟩

variable {m : AddressMap} {made : List (Layer × LayerId)} {name : String} {priority : Int32}

/-- The map has these layers and no others, all under different names, and these ids were
told. -/
structure Lists (m : AddressMap) (made : List (Layer × LayerId)) : Prop where
  layers : m.layers.toList = made.map Prod.fst
  ids : made.map Prod.snd = (List.range made.length).map LayerId.ofIndex
  names : m.names.Nodup

theorem lists_empty (geometry : Geometry) : (empty geometry).Lists [] := ⟨rfl, rfl, .nil⟩

theorem createLayer_taken (taken : name ∈ m.names) (priority : Int32) :
    m.createLayer name priority = (m, .error (.duplicateLayer name)) := by
  have found : m.layerId? name ≠ none := by
    rw [AddressMap.layerId?_eq, Ne, Option.map_eq_none_iff, List.findIdx?_eq_none_iff]
    intro others
    exact absurd rfl (of_decide_eq_false (others name taken))
  obtain ⟨id, found⟩ := Option.ne_none_iff_exists'.mp found
  rw [createLayer, found]

theorem createLayer_new (new : name ∉ m.names) (priority : Int32) :
    m.createLayer name priority =
      ({ m with layers := m.layers.push (fresh name priority) },
        .ok (LayerId.ofIndex m.layers.size)) := by
  have unused : m.layerId? name = none := by
    rw [AddressMap.layerId?_eq, Option.map_eq_none_iff, List.findIdx?_eq_none_iff]
    exact fun other mem => decide_eq_false fun same => new (same ▸ mem)
  rw [createLayer, unused]
  rfl

/-- The id of a new layer is its position in sixteen bits. -/
theorem Lists.push (h : m.Lists made) (new : name ∉ m.names) (priority : Int32) :
    Lists { m with layers := m.layers.push (fresh name priority) }
      (made ++ [(fresh name priority, LayerId.ofIndex m.layers.size)]) where
  layers := by rw [Array.toList_push, h.layers, List.map_append, List.map_singleton]
  ids := by
    have size : m.layers.size = made.length := by
      rw [← Array.length_toList, h.layers, List.length_map]
    rw [List.map_append, h.ids, List.length_append, List.length_singleton, List.range_succ,
      List.map_append, List.map_singleton, List.map_singleton, size]
  names := by
    rw [AddressMap.names, Array.toList_push, List.map_append]
    exact h.names.append (List.nodup_singleton _)
      (List.disjoint_singleton.mpr new)

/-! ## Finding a layer again -/

theorem Lists.getElem? (h : m.Lists made) {k : ℕ} {l : Layer} {id : LayerId}
    (here : made[k]? = some (l, id)) : m.layers.toList[k]? = some l ∧ id = LayerId.ofIndex k := by
  have lt : k < made.length := (List.getElem?_eq_some_iff.mp here).1
  refine ⟨by rw [h.layers, List.getElem?_map, here, Option.map_some], Option.some.inj ?_⟩
  calc
    some id = (made.map Prod.snd)[k]? := by rw [List.getElem?_map, here, Option.map_some]
    _ = some (LayerId.ofIndex k) := by
      rw [h.ids, List.getElem?_map, List.getElem?_range lt, Option.map_some]

theorem names_getElem? {k : ℕ} {l : Layer} (here : m.layers.toList[k]? = some l) :
    m.names[k]? = some l.name := by
  rw [names, List.getElem?_map, here, Option.map_some]

/-- No two layers have one name. -/
theorem Lists.position_unique (h : m.Lists made) {i j : ℕ} (first : m.names[i]? = some name)
    (second : m.names[j]? = some name) : i = j :=
  (List.getElem?_inj (List.getElem?_eq_some_iff.mp first).1 h.names).mp (first.trans second.symm)

/-- The name of a layer finds the id that was told. -/
theorem Lists.layerId?_eq (h : m.Lists made) {l : Layer} {id : LayerId} (mem : (l, id) ∈ made) :
    m.layerId? l.name = some id := by
  obtain ⟨k, here⟩ := List.getElem?_of_mem mem
  obtain ⟨place, rfl⟩ := h.getElem? here
  have named := names_getElem? place
  rw [AddressMap.layerId?_eq]
  cases position : m.names.findIdx? fun other => other = l.name with
  | none =>
    have others := List.findIdx?_eq_none_iff.mp position _ (List.mem_of_getElem? named)
    exact absurd rfl (of_decide_eq_false others)
  | some i =>
    obtain ⟨lt, same, -⟩ := List.findIdx?_eq_some_iff_getElem.mp position
    have there : m.names[i]? = some l.name :=
      (List.getElem?_eq_getElem lt).trans (congrArg some (of_decide_eq_true same))
    rw [h.position_unique there named, Option.map_some]

/-- The id of a layer leads to it just if its position fits. -/
theorem Lists.layer?_eq_iff (h : m.Lists made) {k : ℕ} {l : Layer} {id : LayerId}
    (here : made[k]? = some (l, id)) : m.layer? id = some l ↔ k < maxLayers := by
  obtain ⟨place, rfl⟩ := h.getElem? here
  rw [layer?_eq, LayerId.index_ofIndex_mod]
  constructor
  · intro found
    have back : k % maxLayers = k := h.position_unique (names_getElem? found) (names_getElem? place)
    exact back ▸ Nat.mod_lt k (by decide)
  · intro fits
    rwa [Nat.mod_eq_of_lt fits]

/-! ## One call after the other -/

/-- The map after these layers, by names and priorities, were to be created. -/
def createAll (m : AddressMap) (calls : List (String × Int32)) : AddressMap :=
  calls.foldl (fun m call => (m.createLayer call.1 call.2).1) m

/-- The layers that are created, with the ids that are told. -/
def created (m : AddressMap) : List (String × Int32) → List (Layer × LayerId)
  | [] => []
  | (name, priority) :: calls =>
    match m.createLayer name priority with
    | (m', .ok id) => (fresh name priority, id) :: m'.created calls
    | (m', .error _) => m'.created calls

theorem createAll_cons (m : AddressMap) (call : String × Int32) (calls : List (String × Int32)) :
    m.createAll (call :: calls) = (m.createLayer call.1 call.2).1.createAll calls := rfl

theorem Lists.createAll (h : m.Lists made) (calls : List (String × Int32)) :
    (m.createAll calls).Lists (made ++ m.created calls) := by
  induction calls generalizing m made with
  | nil => rwa [created, List.append_nil]
  | cons call calls ih =>
    obtain ⟨name, priority⟩ := call
    rw [createAll_cons, created]
    by_cases taken : name ∈ m.names
    · rw [createLayer_taken taken]
      exact ih h
    · have next := ih (h.push taken priority)
      rw [createLayer_new taken]
      rwa [List.append_assoc, List.singleton_append] at next

theorem lists_created (geometry : Geometry) (calls : List (String × Int32)) :
    ((empty geometry).createAll calls).Lists ((empty geometry).created calls) :=
  (lists_empty geometry).createAll calls

/-- The names that are taken are those that were asked for. -/
theorem mem_names_createAll {calls : List (String × Int32)} :
    name ∈ (m.createAll calls).names ↔ name ∈ m.names ∨ name ∈ calls.map Prod.fst := by
  induction calls generalizing m with
  | nil => simp [createAll]
  | cons call calls ih =>
    obtain ⟨other, priority⟩ := call
    rw [createAll_cons, ih, List.map_cons, List.mem_cons]
    by_cases taken : other ∈ m.names
    · rw [createLayer_taken taken]
      constructor
      · rintro (old | later)
        · exact .inl old
        · exact .inr (.inr later)
      · rintro (old | rfl | later)
        · exact .inl old
        · exact .inl taken
        · exact .inr later
    · rw [createLayer_new taken, names, Array.toList_push, List.map_append, List.map_singleton,
        List.mem_append, List.mem_singleton, ← names, or_assoc]
      rfl

/-- If all names differ, all layers are created. -/
theorem created_eq {calls : List (String × Int32)} (new : ∀ call ∈ calls, call.1 ∉ m.names)
    (distinct : (calls.map Prod.fst).Nodup) :
    (m.created calls).map Prod.fst = calls.map fun call => fresh call.1 call.2 := by
  induction calls generalizing m with
  | nil => rfl
  | cons call calls ih =>
    obtain ⟨name, priority⟩ := call
    obtain ⟨first, rest⟩ := List.nodup_cons.mp distinct
    obtain ⟨here, later⟩ := List.forall_mem_cons.mp new
    rw [created, createLayer_new here, List.map_cons, List.map_cons, ih _ rest]
    intro other mem taken
    rw [names, Array.toList_push, List.map_append, List.map_singleton, List.mem_append,
      List.mem_singleton] at taken
    rcases taken with taken | same
    · exact later other mem taken
    · have repeated : other.1 ∈ calls.map Prod.fst := List.mem_map_of_mem mem
      rw [same] at repeated
      exact first repeated

/-- Creating a layer fails just if its name is taken. Names find the ids that were told. The
id of a layer leads to it just if less than `maxLayers` layers were created before it, and
ids are pairwise distinct just if there are no more than `maxLayers` of them. -/
theorem created_ids_tell_apart (geometry : Geometry) (calls : List (String × Int32)) :
    let m := (empty geometry).createAll calls
    let made := (empty geometry).created calls
    (∀ name priority e, (m.createLayer name priority).2 = .error e ↔
      name ∈ calls.map Prod.fst ∧ e = .duplicateLayer name) ∧
    m.layers.toList = made.map Prod.fst ∧
    made.map Prod.snd = (List.range made.length).map LayerId.ofIndex ∧
    (∀ l id, (l, id) ∈ made → m.layerId? l.name = some id) ∧
    (∀ k l id, made[k]? = some (l, id) → (m.layer? id = some l ↔ k < maxLayers)) ∧
    ((made.map Prod.snd).Nodup ↔ made.length ≤ maxLayers) := by
  intro m made
  have h : m.Lists made := lists_created geometry calls
  refine ⟨fun name priority e => ?_, h.layers, h.ids, fun l id mem => h.layerId?_eq mem,
    fun k l id here => h.layer?_eq_iff here, ?_⟩
  · have taken_iff : name ∈ m.names ↔ name ∈ calls.map Prod.fst :=
      mem_names_createAll.trans (or_iff_right List.not_mem_nil)
    rw [← taken_iff]
    by_cases taken : name ∈ m.names
    · rw [createLayer_taken taken, Except.error.injEq]
      exact ⟨fun same => ⟨taken, same.symm⟩, fun refused => refused.2.symm⟩
    · rw [createLayer_new taken]
      exact iff_of_false nofun fun refused => taken refused.1
  · rw [h.ids]
    exact LayerId.nodup_ofIndex_iff made.length

/-- One layer more than there are ids, with numbers for names. -/
def oneTooMany : List (String × Int32) :=
  (List.range (maxLayers + 1)).map fun i => (Numeral.decimal i, 0)

/-- All the layers are created, and the last is told the id of the first, which leads to
the first. -/
theorem last_id_is_first :
    let m := (empty smallSpace).createAll oneTooMany
    let made := (empty smallSpace).created oneTooMany
    made.map (fun told => told.1.name) = oneTooMany.map Prod.fst ∧
      made[0]? = some (fresh "0" 0, ⟨0⟩) ∧ made[65536]? = some (fresh "65536" 0, ⟨0⟩) ∧
      m.layerId? "65536" = some ⟨0⟩ ∧ m.layer? ⟨0⟩ = some (fresh "0" 0) := by
  intro m made
  have h : m.Lists made := lists_created smallSpace oneTooMany
  have all : made.map Prod.fst = oneTooMany.map fun call => fresh call.1 call.2 := by
    refine created_eq (fun call mem taken => nomatch taken) ?_
    rw [oneTooMany, List.map_map]
    exact List.nodup_range.map Numeral.decimal_injective
  have told (i : ℕ) (lt : i < maxLayers + 1) :
      made[i]? = some (fresh (Numeral.decimal i) 0, LayerId.ofIndex i) := by
    have layer : (made.map Prod.fst)[i]? = some (fresh (Numeral.decimal i) 0) := by
      rw [all, oneTooMany, List.map_map, List.getElem?_map, List.getElem?_range lt]
      rfl
    rw [List.getElem?_map] at layer
    obtain ⟨⟨l, id⟩, here, rfl⟩ := Option.map_eq_some_iff.mp layer
    rw [here, (h.getElem? here).2]
  have first : made[0]? = some (fresh "0" 0, ⟨0⟩) := told 0 (by decide)
  have last : made[65536]? = some (fresh "65536" 0, ⟨0⟩) := told 65536 (by decide)
  refine ⟨?_, first, last, h.layerId?_eq (List.mem_of_getElem? last),
    (h.layer?_eq_iff first).mpr (by decide)⟩
  calc
    made.map (fun told => told.1.name) = (made.map Prod.fst).map Layer.name :=
      (List.map_map ..).symm
    _ = oneTooMany.map Prod.fst := by rw [all, List.map_map]; rfl

end AddressMap
end Backplane
