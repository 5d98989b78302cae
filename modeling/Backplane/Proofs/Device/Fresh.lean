import Mathlib
import Backplane.Proofs.Device.Index

/-!
# Fresh ids

The registry remembers the last id, the largest that was registered or given out
(`Counted`). No device has an id past it, so the search for a free id ends where it begins,
at the next number, and fails only if there is none (`generateId_next`). Registering a device
and giving out an id both move the last id on, and a call that is refused moves nothing;
`generated_ids_fresh` draws the conclusions for every run.
-/

namespace Backplane
namespace Registry

namespace Outcome

/-- The id that was registered or given out. -/
def id? : Outcome → Option UInt32
  | registered info => some info.id
  | generated id => some id
  | refused _ => none

/-- The id that was given out. -/
def generated? : Outcome → Option UInt32
  | generated id => some id
  | registered _ | refused _ => none

end Outcome

/-- The ids that were registered or given out, in order. -/
def used (outcomes : List Outcome) : List UInt32 := outcomes.filterMap Outcome.id?

/-- The ids that were given out, in order. -/
def generated (outcomes : List Outcome) : List UInt32 := outcomes.filterMap Outcome.generated?

theorem id_mem_used {outcomes : List Outcome} {info : DeviceInfo}
    (mem : info ∈ registered outcomes) : info.id ∈ used outcomes := by
  obtain ⟨outcome, here, device⟩ := List.mem_filterMap.mp mem
  refine List.mem_filterMap.mpr ⟨outcome, here, ?_⟩
  cases outcome with
  | registered other =>
    cases device
    rfl
  | generated id => cases device
  | refused e => cases device

theorem mem_used_of_generated {outcomes : List Outcome} {id : UInt32}
    (mem : id ∈ generated outcomes) : id ∈ used outcomes := by
  obtain ⟨outcome, here, given⟩ := List.mem_filterMap.mp mem
  refine List.mem_filterMap.mpr ⟨outcome, here, ?_⟩
  cases outcome with
  | registered info => cases given
  | generated other =>
    cases given
    rfl
  | refused e => cases given

/-! ## The next id -/

variable {r : Registry}

theorem le_largest (id : UInt32) : id ≤ 0xFFFFFFFF :=
  UInt32.le_iff_toNat_le.mpr (Nat.le_of_lt_succ id.toNat_lt_size)

/-- If no device has an id past the last, the number after it is free. An id is given out
unless there is no such number. -/
theorem generateId_next (le : ∀ info ∈ r.devices, info.id ≤ r.lastId) :
    (∃ id, id.toNat = r.lastId.toNat + 1 ∧ r.generateId = ({ r with lastId := id }, .ok id)) ∨
      (r.lastId = 0xFFFFFFFF ∧ r.generateId = (r, .error .idsExhausted)) := by
  unfold generateId firstFree
  rcases Nat.lt_or_ge (r.lastId.toNat + 1) UInt32.size with lt | ge
  · have next : (r.lastId.toNat + 1).toUInt32.toNat = r.lastId.toNat + 1 :=
      UInt32.toNat_ofNat_of_lt' lt
    have free : r.get? (r.lastId.toNat + 1).toUInt32 = none := by
      refine get?_eq_none_iff.mpr ?_
      intro info mem same
      have before := UInt32.le_iff_toNat_le.mp (le info mem)
      rw [same, next] at before
      omega
    refine .inl ⟨(r.lastId.toNat + 1).toUInt32, next, ?_⟩
    rw [if_neg (Nat.not_le.mpr lt), free]
    rfl
  · have last : 0xFFFFFFFF ≤ r.lastId := UInt32.le_iff_toNat_le.mpr (Nat.le_of_succ_le_succ ge)
    rw [if_pos ge]
    exact .inr ⟨UInt32.le_antisymm (le_largest _) last, rfl⟩

/-- An id that is given out is past the last. -/
theorem lastId_lt_of_generateId (le : ∀ info ∈ r.devices, info.id ≤ r.lastId) {id : UInt32}
    (given : r.generateId.2 = .ok id) : r.lastId < id := by
  rcases generateId_next le with ⟨next, number, same⟩ | ⟨-, same⟩
  · rw [same] at given
    cases given
    rw [UInt32.lt_iff_toNat_lt, number]
    exact Nat.lt_succ_self _
  · rw [same] at given
    cases given

theorem devices_generateId (r : Registry) : r.generateId.1.devices = r.devices := by
  rcases r.generateId_cases with ⟨id, same⟩ | same
  · rw [same]
  · rw [same]

/-- If a new id is refused, then for the page. -/
theorem refused_for_page {info : DeviceInfo} {e : RegistryError} (nonzero : info.id ≠ 0)
    (unused : r.get? info.id = none) (refused : (r.register info).2 = .error e) :
    ∃ page, e = .duplicatePageId page := by
  obtain ⟨-, reserved | duplicate | ⟨page, same, -⟩⟩ := register_eq_error (Prod.ext rfl refused)
  · exact absurd reserved.2 nonzero
  · exact absurd unused duplicate.2
  · exact ⟨page, same⟩

/-! ## Counting on -/

/-- The last id is the largest that was registered or given out, or zero if there is none
yet, and ids were given out in ascending order. -/
structure Counted (r : Registry) (outcomes : List Outcome) : Prop where
  le_last : ∀ id ∈ used outcomes, id ≤ r.lastId
  last_mem : r.lastId = 0 ∨ r.lastId ∈ used outcomes
  ascending : (generated outcomes).Pairwise (· < ·)

theorem counted_new : Counted {} [] where
  le_last := by rintro id ⟨⟩
  last_mem := .inl rfl
  ascending := .nil

/-- The last id moves on to the id of a device if that is larger. -/
theorem lastId_withDevice (r : Registry) (info : DeviceInfo) :
    (r.lastId ≤ info.id ∧ (r.withDevice info).lastId = info.id) ∨
      (info.id ≤ r.lastId ∧ (r.withDevice info).lastId = r.lastId) := by
  have last : (r.withDevice info).lastId = if r.lastId ≤ info.id then info.id else r.lastId := rfl
  rw [last]
  split
  · rename_i le
    exact .inl ⟨le, rfl⟩
  · rename_i gt
    exact .inr ⟨UInt32.le_of_lt (UInt32.not_le.mp gt), rfl⟩

variable {outcomes : List Outcome}

theorem used_concat (o : Outcome) : used (outcomes ++ [o]) = used outcomes ++ used [o] :=
  List.filterMap_append

theorem generated_concat (o : Outcome) :
    generated (outcomes ++ [o]) = generated outcomes ++ generated [o] := List.filterMap_append

theorem Counted.withDevice (h : r.Counted outcomes) (info : DeviceInfo) :
    (r.withDevice info).Counted (outcomes ++ [.registered info]) := by
  have mem_used (id : UInt32) :
      id ∈ used (outcomes ++ [.registered info]) ↔ id ∈ used outcomes ∨ id = info.id := by
    rw [used_concat]
    exact List.mem_append.trans (or_congr_right List.mem_singleton)
  refine ⟨?_, ?_, ?_⟩
  · intro id mem
    rcases (mem_used id).mp mem with before | rfl
    · have le := h.le_last id before
      rcases r.lastId_withDevice info with ⟨larger, last⟩ | ⟨-, last⟩
      · rw [last]
        exact UInt32.le_trans le larger
      · rwa [last]
    · rcases r.lastId_withDevice info with ⟨-, last⟩ | ⟨le, last⟩
      · rw [last]
        exact UInt32.le_refl _
      · rwa [last]
  · rw [mem_used]
    rcases r.lastId_withDevice info with ⟨-, last⟩ | ⟨-, last⟩
    · exact .inr (.inr last)
    · rw [last]
      exact h.last_mem.imp_right .inl
  · rw [generated_concat]
    exact (List.append_nil _).symm ▸ h.ascending

theorem Counted.generated (h : r.Counted outcomes) {id : UInt32} (lt : r.lastId < id) :
    ({ r with lastId := id } : Registry).Counted (outcomes ++ [.generated id]) := by
  have later : ∀ earlier ∈ used outcomes, earlier < id := by
    intro earlier mem
    exact UInt32.lt_of_le_of_lt (h.le_last earlier mem) lt
  refine ⟨?_, ?_, ?_⟩
  · rw [used_concat]
    intro earlier mem
    rcases List.mem_append.mp mem with before | here
    · exact UInt32.le_of_lt (later earlier before)
    · rw [List.mem_singleton.mp here]
      exact UInt32.le_refl _
  · rw [used_concat]
    exact .inr (List.mem_append_right _ (List.mem_singleton_self id))
  · rw [generated_concat, List.pairwise_append]
    refine ⟨h.ascending, List.pairwise_singleton _ _, ?_⟩
    intro earlier before other here
    rw [List.mem_singleton.mp here]
    exact later earlier (mem_used_of_generated before)

theorem Counted.refused (h : r.Counted outcomes) (e : RegistryError) :
    r.Counted (outcomes ++ [.refused e]) := by
  refine ⟨?_, ?_, ?_⟩
  · rw [used_concat]
    exact (List.append_nil _).symm ▸ h.le_last
  · rw [used_concat]
    exact (List.append_nil _).symm ▸ h.last_mem
  · rw [generated_concat]
    exact (List.append_nil _).symm ▸ h.ascending

/-- A call goes on counting. -/
theorem Counted.answer (h : r.Counted outcomes) (le : ∀ info ∈ r.devices, info.id ≤ r.lastId)
    (c : Call) : (r.answer c).1.Counted (outcomes ++ [(r.answer c).2]) := by
  rcases r.answer_cases c with ⟨info, -, same⟩ | ⟨id, given, same⟩ | ⟨e, same⟩
  · rw [same]
    exact h.withDevice info
  · rw [same]
    exact h.generated (lastId_lt_of_generateId le given)
  · rw [same]
    exact h.refused e

/-- Registered ids are among those that were counted. -/
theorem Counted.le_of_devices (h : r.Counted outcomes)
    (devices : r.devices.Perm (registered outcomes)) : ∀ info ∈ r.devices, info.id ≤ r.lastId :=
  fun info mem => h.le_last info.id (id_mem_used (devices.mem_iff.mp mem))

theorem counted_run (calls : List Call) : (run calls).1.Counted (run calls).2 := by
  induction calls using List.reverseRecOn with
  | nil => exact counted_new
  | append_singleton calls c ih =>
    rw [run_concat]
    exact ih.answer (ih.le_of_devices (devices_run calls)) c

/-- After any calls, an id that is given out is not zero and past every id that was
registered or given out, so that a device can be registered under it unless its page is
taken; the ids that are given out ascend. None is given out exactly if the largest number
was registered or given out before, and nothing changes then. -/
theorem generated_ids_fresh (calls : List Call) :
    let r := (run calls).1
    let outcomes := (run calls).2
    (∀ id, r.generateId.2 = .ok id →
      id ≠ 0 ∧ (∀ earlier ∈ used outcomes, earlier < id) ∧
        ∀ info, info.id = id →
          (r.generateId.1.register info).2 ≠ .error .reservedId ∧
            ∀ other, (r.generateId.1.register info).2 ≠ .error (.duplicateId other)) ∧
    (generated outcomes).Pairwise (· < ·) ∧
    (r.generateId.2 = .error .idsExhausted ↔ 0xFFFFFFFF ∈ used outcomes) ∧
    ∀ e, r.generateId.2 = .error e → e = .idsExhausted ∧ r.generateId.1 = r := by
  intro r outcomes
  have counted : r.Counted outcomes := counted_run calls
  have le : ∀ info ∈ r.devices, info.id ≤ r.lastId := counted.le_of_devices (devices_run calls)
  have exhausted : r.lastId = 0xFFFFFFFF ↔ 0xFFFFFFFF ∈ used outcomes := by
    constructor
    · intro last
      rcases counted.last_mem with zero | mem
      · cases last.symm.trans zero
      · rwa [last] at mem
    · intro mem
      exact UInt32.le_antisymm (le_largest _) (counted.le_last _ mem)
  refine ⟨?_, counted.ascending, ?_, ?_⟩
  · intro id given
    have past := lastId_lt_of_generateId le given
    have nonzero : id ≠ 0 := by
      rintro rfl
      exact UInt32.not_lt_zero past
    refine ⟨nonzero, ?_, ?_⟩
    · intro earlier mem
      exact UInt32.lt_of_le_of_lt (counted.le_last earlier mem) past
    · rintro info rfl
      have unused : r.generateId.1.get? info.id = none := by
        refine get?_eq_none_iff.mpr ?_
        rw [r.devices_generateId]
        intro other mem
        exact UInt32.ne_of_lt (UInt32.lt_of_le_of_lt (le other mem) past)
      constructor
      · intro refused
        obtain ⟨page, ⟨⟩⟩ := refused_for_page nonzero unused refused
      · intro other refused
        obtain ⟨page, ⟨⟩⟩ := refused_for_page nonzero unused refused
  · rw [← exhausted]
    rcases generateId_next le with ⟨next, number, same⟩ | ⟨last, same⟩
    · rw [same]
      constructor
      · rintro ⟨⟩
      · intro last
        rw [last] at number
        exact absurd number (Nat.ne_of_lt next.toNat_lt_size)
    · rw [same]
      exact ⟨fun _ => last, fun _ => rfl⟩
  · intro e refused
    rcases r.generateId_cases with ⟨id, same⟩ | same
    · rw [same] at refused
      cases refused
    · rw [same] at refused ⊢
      cases refused
      exact ⟨rfl, rfl⟩

/-- Ids are given out before and after a larger one is registered, one past the last is
refused for its page, and then the largest number of all is registered. -/
theorem generated_ids_fresh_exhausted :
    let disk : DeviceInfo := ⟨5, some (.slotRom 6 0), "disk", "Disk", "main/slot6"⟩
    let speaker : DeviceInfo := ⟨3, none, "speaker", "Speaker", "main/speaker"⟩
    let calls : List Call := [.generateId, .register disk, .register { disk with id := 9 },
      .generateId, .register speaker]
    let full := calls ++ [.register { speaker with id := 0xFFFFFFFF }]
    let r := (run calls).1
    r.generateId.2 = .ok 7 ∧ used (run calls).2 = [1, 5, 6, 3] ∧
      (∀ earlier ∈ used (run calls).2, earlier < 7) ∧
      (r.generateId.1.register { speaker with id := 7 }).2 ≠ .error (.duplicateId 7) ∧
      (run full).1.generateId.2 = .error .idsExhausted ∧
      (run full).1.generateId.1 = (run full).1 := by
  intro disk speaker calls full r
  have given : r.generateId.2 = .ok 7 := by decide
  obtain ⟨fresh, -⟩ := generated_ids_fresh calls
  obtain ⟨-, later, accepted⟩ := fresh 7 given
  obtain ⟨-, -, exhausted, unchanged⟩ := generated_ids_fresh full
  have none : (run full).1.generateId.2 = .error .idsExhausted := exhausted.mpr (by decide)
  exact ⟨given, by decide, later, (accepted { speaker with id := 7 } rfl).2 7, none,
    (unchanged _ none).2⟩

end Registry
end Backplane
