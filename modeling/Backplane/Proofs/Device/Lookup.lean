import Mathlib
import Backplane.Device.Registry

/-!
# Looking up devices

The registry finds a device by its id, and by the page that it owns, from the moment it
is registered on, whatever else is registered later: ids and pages are told apart when
they are registered, and giving out an id changes no entry.
-/

namespace Backplane
namespace Registry

variable {r r' : Registry} {info : DeviceInfo}

/-- The list of devices is cut where the new one belongs, so any other device keeps
its place among the rest. -/
theorem find?_insertSorted (devices : List DeviceInfo) (id : UInt32) :
    (insertSorted info devices).find? (fun other => other.id = id) =
      if info.id = id then (devices.takeWhile (·.id < info.id)).find? (fun other => other.id = id)
        |>.or (some info)
      else devices.find? fun other => other.id = id := by
  rw [insertSorted, List.find?_append, List.find?_cons]
  by_cases same : info.id = id
  · rw [if_pos same]
    simp only [decide_eq_true same]
  · rw [if_neg same]
    simp only [decide_eq_false same]
    rw [← List.find?_append, List.takeWhile_append_dropWhile]

/-- What a registration that succeeds has checked, and what it does. -/
theorem register_eq_ok (h : r.register info = (r', .ok ())) :
    info.id ≠ 0 ∧ r.get? info.id = none ∧ r'.devices = insertSorted info r.devices ∧
      (∀ page, info.pageId = some page → r.pages.lookup page = none) ∧
      r'.pages = (info.pageId.toList.map fun page => (page, info.id)) ++ r.pages := by
  unfold register at h
  split at h
  · cases h
  · rename_i nonzero
    split at h
    · cases h
    · rename_i unused
      have new : r.get? info.id = none := by simpa using unused
      dsimp only at h
      split at h
      · rename_i free
        cases h
        refine ⟨nonzero, new, rfl, ?_, ?_⟩
        · intro page owned
          cases free.symm.trans owned
        · rw [free]
          rfl
      · rename_i page owned
        split at h
        · cases h
        · rename_i free
          cases h
          refine ⟨nonzero, new, rfl, ?_, ?_⟩
          · intro page' owned'
            cases owned.symm.trans owned'
            rwa [Bool.not_eq_true, Option.isSome_eq_false_iff, Option.isNone_iff_eq_none] at free
          · rw [owned]
            rfl

theorem get?_of_register (h : r.register info = (r', .ok ())) (id : UInt32) :
    r'.get? id = if info.id = id then some info else r.get? id := by
  obtain ⟨-, unused, devices, -⟩ := register_eq_ok h
  rw [get?, devices, find?_insertSorted]
  by_cases same : info.id = id
  · rw [if_pos same, if_pos same]
    subst same
    have before : (r.devices.takeWhile (·.id < info.id)).find? (fun other => other.id = info.id) =
        none := by
      rw [get?, List.find?_eq_none] at unused
      rw [List.find?_eq_none]
      intro other mem
      exact unused other (List.takeWhile_subset _ mem)
    rw [before, Option.none_or]
  · rw [if_neg same, if_neg same]
    rfl

theorem getPage?_of_register (h : r.register info = (r', .ok ())) {page : DevicePageId}
    (owned : info.pageId = some page) : r'.getPage? page = some info := by
  obtain ⟨-, -, -, -, pages⟩ := register_eq_ok h
  have owner : r'.pages.lookup page = some info.id := by
    rw [pages, owned]
    exact List.lookup_cons_self
  rw [getPage?, owner, Option.bind_some, get?_of_register h, if_pos rfl]

/-! ## What stays known -/

/-- Each device that `old` knows is known to `r` as well. -/
structure Extends (r old : Registry) : Prop where
  get? : ∀ {id : UInt32} {known : DeviceInfo}, old.get? id = some known → r.get? id = some known
  getPage? : ∀ {page : DevicePageId} {known : DeviceInfo}, old.getPage? page = some known →
    r.getPage? page = some known

theorem Extends.refl (r : Registry) : r.Extends r := ⟨id, id⟩

theorem Extends.trans {r'' : Registry} (h : r''.Extends r') (h' : r'.Extends r) : r''.Extends r :=
  ⟨h.get? ∘ h'.get?, h.getPage? ∘ h'.getPage?⟩

/-- A device stays registered, and no other takes its page. -/
theorem extends_of_register (h : r.register info = (r', .ok ())) : r'.Extends r := by
  obtain ⟨-, unused, -, free, pages⟩ := register_eq_ok h
  have known : ∀ {id : UInt32} {known : DeviceInfo}, r.get? id = some known →
      r'.get? id = some known := by
    intro id known here
    rw [get?_of_register h, if_neg, here]
    rintro rfl
    cases unused.symm.trans here
  refine ⟨known, ?_⟩
  intro page info' here
  obtain ⟨id, owner, registered⟩ := Option.bind_eq_some_iff.mp here
  have owner' : r'.pages.lookup page = some id := by
    rw [pages]
    cases owned : info.pageId with
    | none => exact owner
    | some other =>
      have ne : (page == other) = false := by
        rw [beq_eq_false_iff_ne]
        rintro rfl
        cases (free page owned).symm.trans owner
      show (((other, info.id) :: r.pages).lookup page) = some id
      rw [List.lookup_cons, ne]
      exact owner
  rw [getPage?, owner', Option.bind_some]
  exact known registered

/-- Giving out an id registers nothing. -/
theorem extends_of_generateId {id : UInt32} (h : r.generateId = (r', .ok id)) : r'.Extends r := by
  unfold generateId at h
  split at h
  · cases h
    exact ⟨fun here => here, fun here => here⟩
  · cases h

end Registry
end Backplane
