import Mathlib
import Backplane.Proofs.Target.Shape

/-!
# The names of an arena

Names of targets are distinct, and a target is found by its name at the position
at which it was added. Ids count positions in 32 bits, so the first `2 ^ 32`
targets can be told apart by them.

An arena grows at its end only (`Arena.adding`): names and ids that were found
stay found. Accesses change targets and leave their names.
-/

namespace Backplane
namespace Arena

variable {σ : Type} {a a' : Arena σ} {slots : List (Slot σ)}

/-- The names of all targets, in the order of registration. -/
def names (a : Arena σ) : List String := a.slots.toList.map Slot.name

theorem length_names (a : Arena σ) : a.names.length = a.size := by
  rw [names, List.length_map, Array.length_toList, size]

/-! ## Growth -/

/-- The arena with more targets at its end. -/
def adding (a : Arena σ) (slots : List (Slot σ)) : Arena σ := ⟨a.slots ++ slots.toArray⟩

@[simp] theorem adding_nil (a : Arena σ) : a.adding [] = a := by
  rw [adding, Array.append_empty]

theorem adding_append (a : Arena σ) (first second : List (Slot σ)) :
    a.adding (first ++ second) = (a.adding first).adding second := by
  simp only [adding, Array.append_assoc, List.append_toArray]

@[simp] theorem names_adding : (a.adding slots).names = a.names ++ slots.map Slot.name := by
  simp only [names, adding, Array.toList_append, List.map_append]

@[simp] theorem size_adding : (a.adding slots).size = a.size + slots.length := by
  simp only [size, adding, Array.size_append, List.size_toArray]

theorem slots_adding_of_eq_some {i : Nat} {slot : Slot σ} (here : a.slots[i]? = some slot) :
    (a.adding slots).slots[i]? = some slot := by
  obtain ⟨lt, -⟩ := Array.getElem?_eq_some_iff.mp here
  rw [adding, Array.getElem?_append_left lt, here]

/-- The targets that were added follow those that were there. -/
theorem slots_adding (i : Nat) : (a.adding slots).slots[a.size + i]? = slots[i]? := by
  rw [adding, size, Array.getElem?_append_right (Nat.le_add_right _ _), Nat.add_sub_cancel_left,
    List.getElem?_toArray]

/-! ## Names -/

theorem find?_eq_none_iff {name : String} : a.find? name = none ↔ name ∉ a.names := by
  simp only [find?, Option.map_eq_none_iff, Array.findIdx?_eq_none_iff, names, List.mem_map,
    Array.mem_toList_iff, decide_eq_false_iff_not, not_exists, not_and]

/-- A target is added if its name is new. -/
theorem insert_eq (a : Arena σ) (name : String) (target : Target σ) :
    a.insert name target =
      if name ∈ a.names then .error (.duplicateTarget name)
      else .ok (a.adding [⟨name, target⟩], .ofIndex a.size) := by
  unfold insert
  cases found : a.find? name with
  | none =>
    rw [if_neg (find?_eq_none_iff.mp found)]
    rfl
  | some id =>
    have taken : name ∈ a.names := by
      refine Decidable.of_not_not fun new => ?_
      rw [find?_eq_none_iff.mpr new] at found
      cases found
    rw [if_pos taken]

/-- A target is found by its name. -/
theorem find?_of_slot (nodup : a.names.Nodup) {i : Nat} {slot : Slot σ}
    (here : a.slots[i]? = some slot) : a.find? slot.name = some (.ofIndex i) := by
  obtain ⟨lt, rfl⟩ := Array.getElem?_eq_some_iff.mp here
  rw [find?, Option.map_eq_some_iff]
  refine ⟨i, Array.findIdx?_eq_some_iff_getElem.mpr ⟨lt, decide_eq_true rfl, ?_⟩, rfl⟩
  intro j before same
  have clash : a.names[j]? = a.names[i]? := by
    simp only [names, List.getElem?_map, Array.getElem?_toList]
    rw [Array.getElem?_eq_getElem lt, Array.getElem?_eq_getElem (Nat.lt_trans before lt)]
    exact congrArg some (of_decide_eq_true same)
  have inside : i < a.names.length := by rwa [length_names]
  exact Nat.ne_of_gt before ((List.getElem?_inj inside nodup).mp clash.symm)

/-- The target of each of the first `2 ^ 32` ids is the one at that position. -/
theorem get?_ofIndex {i : Nat} (lt : i < 2 ^ 32) :
    a.get? (.ofIndex i) = a.slots[i]?.map Slot.target := by
  rw [get?, TargetId.index, TargetId.ofIndex, show i.toUInt32.toNat = i from Nat.mod_eq_of_lt lt]

theorem name?_ofIndex {i : Nat} (lt : i < 2 ^ 32) :
    a.name? (.ofIndex i) = a.slots[i]?.map Slot.name := by
  rw [name?, TargetId.index, TargetId.ofIndex, show i.toUInt32.toNat = i from Nat.mod_eq_of_lt lt]

theorem get?_adding {id : TargetId} {t : Target σ} (here : a.get? id = some t) :
    (a.adding slots).get? id = some t := by
  obtain ⟨slot, at_index, rfl⟩ := Option.map_eq_some_iff.mp here
  rw [get?, slots_adding_of_eq_some at_index, Option.map_some]

theorem get?_size_eq_none (room : a.size < 2 ^ 32) : a.get? (.ofIndex a.size) = none := by
  rw [get?_ofIndex room, size, Array.getElem?_eq_none (Nat.le_refl _), Option.map_none]

/-- A target is one that was there, or the one that was added. -/
theorem get?_adding_cases {slot : Slot σ} {id : TargetId} {t : Target σ}
    (here : (a.adding [slot]).get? id = some t) :
    a.get? id = some t ∨ id = .ofIndex a.size ∧ t = slot.target := by
  obtain ⟨found, at_index, rfl⟩ := Option.map_eq_some_iff.mp here
  rw [adding, Array.getElem?_append] at at_index
  split at at_index
  · exact .inl (by rw [get?, at_index, Option.map_some])
  · rename_i past
    rw [List.getElem?_toArray, List.getElem?_singleton] at at_index
    split at at_index
    · rename_i first
      cases at_index
      refine .inr ⟨?_, rfl⟩
      have index : id.number.toNat = a.size := by
        rw [TargetId.index] at past first
        rw [size]
        omega
      rw [TargetId.ofIndex, ← index, Nat.toUInt32_eq, UInt32.ofNat_toNat]
    · cases at_index

theorem name?_adding {id : TargetId} {name : String} (here : a.name? id = some name) :
    (a.adding slots).name? id = some name := by
  obtain ⟨slot, at_index, rfl⟩ := Option.map_eq_some_iff.mp here
  rw [name?, slots_adding_of_eq_some at_index, Option.map_some]

theorem find?_adding {name : String} {id : TargetId} (found : a.find? name = some id) :
    (a.adding slots).find? name = some id := by
  rw [find?] at found ⊢
  rw [adding, Array.findIdx?_append]
  obtain ⟨i, at_index, rfl⟩ := Option.map_eq_some_iff.mp found
  rw [at_index, Option.some_or, Option.map_some]

/-- A target that is added under a new name is found at the end. -/
theorem find?_last {slot : Slot σ} (fresh : slot.name ∉ a.names) :
    (a.adding [slot]).find? slot.name = some (.ofIndex a.size) := by
  rw [← find?_eq_none_iff, find?, Option.map_eq_none_iff] at fresh
  rw [find?, adding, Array.findIdx?_append, fresh, Option.none_or]
  have alone : #[slot].findIdx? (fun other => other.name = slot.name) = some 0 := by simp
  rw [alone, Option.map_some, Option.map_some, Nat.zero_add]
  rfl

/-! ## Changes of targets -/

theorem names_modify (a : Arena σ) (id : TargetId) (f : Target σ → Target σ) :
    (a.modify id f).names = a.names := by
  rw [names, names, modify, Array.toList_modify]
  apply List.ext_getElem?
  intro i
  rw [List.getElem?_map, List.getElem?_map, List.getElem?_modify]
  cases a.slots.toList[i]? with
  | none => rfl
  | some slot =>
    dsimp only [Option.map_eq_map, Option.map_some]
    split <;> rfl

/-- Names decide what is found by name. -/
theorem find?_congr (same : a'.names = a.names) (name : String) : a'.find? name = a.find? name := by
  have by_names (a : Arena σ) :
      a.find? name = (a.names.findIdx? fun other => other = name).map .ofIndex := by
    rw [find?, names, List.findIdx?_map, ← List.findIdx?_toArray]
    rfl
  rw [by_names, by_names, same]

/-- Accesses rename nothing. -/
theorem Touches.names_eq [DeviceModel σ] (h : a.Touches a') : a'.names = a.names := by
  cases h with
  | none => rfl
  | store id offset value => exact a.names_modify id _
  | @call id => exact a.names_modify id _

end Arena

end Backplane
