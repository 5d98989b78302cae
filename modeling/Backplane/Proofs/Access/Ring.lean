import Mathlib
import Backplane.Access.Trace

/-!
# The newest records

A ring knows where its records are by one number, how many were written since it was
cleared. `Holds r log` says what this number and the slots have to do with the `log` of
those records: the newest of them are in the slots of their numbers. What the slots of
older numbers, or of a log before the last clearing, were used for does not matter.

Writing goes on with the log (`Holds.emit`) as long as the number fits its word, and
clearing begins another one (`holds_clear`). All that is read off the ring is then read
off the end of the log, which `run_keeps_newest` says of every run.
-/

namespace Backplane
namespace TraceRing

/-! ## Slots -/

theorem exists_ofCapacity_iff {capacity : ℕ} :
    (∃ r, ofCapacity capacity = .ok r) ↔ ∃ n, capacity = 2 ^ n := by
  unfold ofCapacity
  constructor
  · rintro ⟨r, made⟩
    split at made
    · rename_i power
      exact ⟨capacity.log2, power.trans (Nat.one_shiftLeft _)⟩
    · cases made
  · rintro ⟨n, rfl⟩
    have power : 2 ^ n = 1 <<< (2 ^ n).log2 := by rw [Nat.log2_two_pow, Nat.one_shiftLeft]
    exact ⟨_, dif_pos power⟩

/-- A new ring is as if cleared. -/
theorem cleared_of_ofCapacity {capacity : ℕ} {r : TraceRing} (made : ofCapacity capacity = .ok r) :
    r.slots.size = capacity ∧ r.written = 0 := by
  unfold ofCapacity at made
  split at made
  · cases made
    exact ⟨Array.size_replicate, rfl⟩
  · cases made

variable (r : TraceRing)

theorem slots_size : r.slots.size = 2 ^ r.slots.size.log2 := by
  rw [← Nat.one_shiftLeft]
  exact r.capacity_eq

theorem slots_pos : 0 < r.slots.size := by
  rw [r.slots_size]
  exact Nat.two_pow_pos _

/-- A mask of more bits than a word has lets every number through. -/
theorem toNat_mask (n : ℕ) : ((2 ^ n).toUInt64 - 1).toNat = 2 ^ min n 64 - 1 := by
  rcases Nat.lt_or_ge n 64 with lt | ge
  · have fits : 2 ^ n < 2 ^ 64 := Nat.pow_lt_pow_right (by omega) lt
    have pos : 0 < 2 ^ n := Nat.two_pow_pos n
    have word : (2 ^ n).toUInt64.toNat = 2 ^ n := UInt64.toNat_ofNat_of_lt' fits
    have le : (1 : UInt64) ≤ (2 ^ n).toUInt64 := by
      rw [UInt64.le_iff_toNat_le, word]
      exact pos
    rw [UInt64.toNat_sub_of_le _ _ le, word, Nat.min_eq_left lt.le]
    rfl
  · have none : (2 ^ n).toUInt64 = 0 := by
      apply UInt64.toNat_inj.mp
      rw [Nat.toUInt64, UInt64.toNat_ofNat']
      exact Nat.mod_eq_zero_of_dvd (Nat.pow_dvd_pow 2 ge)
    rw [none, Nat.min_eq_right ge]
    rfl

/-- To mask a number is to divide it by the capacity. -/
theorem slot_eq_mod (number : UInt64) : r.slot number = number.toNat % r.slots.size := by
  rw [slot, UInt64.toNat_and]
  generalize bits : r.slots.size.log2 = n
  have size : r.slots.size = 2 ^ n := by rw [← bits]; exact r.slots_size
  rw [size, toNat_mask, Nat.and_two_pow_sub_one_eq_mod]
  rcases Nat.le_total n 64 with le | ge
  · rw [Nat.min_eq_left le]
  · have lt : number.toNat < 2 ^ 64 := number.toNat_lt
    rw [Nat.min_eq_right ge, Nat.mod_eq_of_lt lt,
      Nat.mod_eq_of_lt (lt.trans_le (Nat.pow_le_pow_right (by omega) ge))]

/-- Numbers that share a slot are a whole capacity apart. -/
theorem le_of_mod_eq {size i j : ℕ} (lt : i < j) (same : i % size = j % size) :
    i + size ≤ j := by
  have divides : size ∣ j - i := (Nat.modEq_iff_dvd' lt.le).mp same
  have le : size ≤ j - i := Nat.le_of_dvd (by omega) divides
  omega

/-! ## The log -/

/-- The ring has written `log` since it was cleared, and its slots hold the end of it. -/
structure Holds (r : TraceRing) (log : List TraceRecord) : Prop where
  written : r.written.toNat = log.length
  newest : ∀ {i : ℕ} {record : TraceRecord}, log[i]? = some record →
    log.length ≤ i + r.slots.size → r.slots[i % r.slots.size]? = some record

theorem holds_nil {r : TraceRing} (cleared : r.written = 0) : r.Holds [] := by
  refine ⟨?_, ?_⟩
  · rw [cleared]
    rfl
  · intro i record here
    cases here

theorem holds_clear : r.clear.Holds [] := holds_nil rfl

@[simp] theorem size_slots_emit (record : TraceRecord) :
    (r.emit record).slots.size = r.slots.size := Array.size_setIfInBounds

variable {r} {log : List TraceRecord}

/-- Writing takes the slot of a record that was one of the newest, and is no longer. -/
theorem Holds.emit (h : r.Holds log) (record : TraceRecord)
    (fits : (log ++ [record]).length < 2 ^ 64) : (r.emit record).Holds (log ++ [record]) := by
  rw [List.length_append, List.length_singleton] at fits
  have place : r.slot r.written = log.length % r.slots.size := by rw [slot_eq_mod, h.written]
  refine ⟨?_, ?_⟩
  · show (r.written + 1).toNat = _
    rw [UInt64.toNat_add, h.written, List.length_append, List.length_singleton]
    exact Nat.mod_eq_of_lt fits
  · intro i other here recent
    rw [size_slots_emit] at recent ⊢
    rw [List.length_append, List.length_singleton] at recent
    show (r.slots.setIfInBounds (r.slot r.written) record)[i % r.slots.size]? = _
    rw [place, Array.getElem?_setIfInBounds]
    rcases Nat.lt_trichotomy i log.length with lt | rfl | gt
    · -- An older record: its slot is another one, or it would be a whole capacity older.
      have elsewhere : log.length % r.slots.size ≠ i % r.slots.size := by
        intro same
        have := le_of_mod_eq lt same.symm
        omega
      rw [if_neg elsewhere]
      rw [List.getElem?_append_left lt] at here
      exact h.newest here (by omega)
    · have new : record = other := by
        rw [List.getElem?_concat_length] at here
        exact Option.some.inj here
      rw [if_pos rfl, if_pos (Nat.mod_lt _ r.slots_pos), new]
    · have beyond : (log ++ [record]).length ≤ i := by
        rw [List.length_append, List.length_singleton]
        exact gt
      rw [List.getElem?_eq_none beyond] at here
      cases here

/-! ## What is read off a ring -/

theorem Holds.size_eq (h : r.Holds log) : r.size = min r.slots.size log.length := by
  rw [size, h.written, Nat.min_comm]

theorem Holds.size_le (h : r.Holds log) : r.size ≤ log.length :=
  h.size_eq ▸ Nat.min_le_right _ _

/-- The records that are kept are those at the end of the log. -/
theorem Holds.kept_eq (h : r.Holds log) {step : ℕ} (lt : step < r.size) :
    log[log.length - r.size + step]? = some (r.kept step) := by
  have size := h.size_le
  have slots : r.size ≤ r.slots.size := h.size_eq ▸ Nat.min_le_left _ _
  have word : log.length < 2 ^ 64 := h.written ▸ r.written.toNat_lt
  -- No difference and no sum of words wraps around here.
  have number : (r.written - r.size.toUInt64 + step.toUInt64).toNat =
      log.length - r.size + step := by
    have sizeWord : r.size.toUInt64.toNat = r.size :=
      UInt64.toNat_ofNat_of_lt' (size.trans_lt word)
    have stepWord : step.toUInt64.toNat = step :=
      UInt64.toNat_ofNat_of_lt' (lt.trans (size.trans_lt word))
    have le : r.size.toUInt64 ≤ r.written := by
      rw [UInt64.le_iff_toNat_le, sizeWord, h.written]
      exact size
    rw [UInt64.toNat_add, UInt64.toNat_sub_of_le _ _ le, h.written, sizeWord, stepWord]
    exact Nat.mod_eq_of_lt (by omega)
  obtain ⟨record, here⟩ : ∃ record, log[log.length - r.size + step]? = some record :=
    ⟨_, List.getElem?_eq_getElem (by omega)⟩
  rw [kept, slot_eq_mod, number, Array.getD_eq_getD_getElem?, h.newest here (by omega)]
  exact here

theorem Holds.toList_eq (h : r.Holds log) : r.toList = log.rtake r.size := by
  have size := h.size_le
  apply List.ext_getElem?
  intro step
  rw [toList, List.rtake, List.getElem?_drop, List.getElem?_map]
  rcases Nat.lt_or_ge step r.size with lt | ge
  · rw [List.getElem?_range lt, h.kept_eq lt]
    rfl
  · have beyond : (List.range r.size)[step]? = none :=
      List.getElem?_eq_none (by rwa [List.length_range])
    rw [beyond, List.getElem?_eq_none (by omega)]
    rfl

/-- From its other end, the ring is walked through the same records. -/
theorem newestFirst_eq : r.newestFirst = r.toList.reverse := by
  apply List.ext_getElem?
  intro i
  rw [newestFirst, toList, List.getElem?_map]
  rcases Nat.lt_or_ge i r.size with lt | ge
  · rw [List.getElem?_reverse (by simpa using lt), List.getElem?_map, List.getElem?_range lt,
      List.length_map, List.length_range, List.getElem?_range (by omega)]
    rfl
  · rw [List.getElem?_eq_none (by simpa using ge), List.getElem?_eq_none (by simpa using ge)]
    rfl

theorem Holds.recent_eq (h : r.Holds log) (count : ℕ) :
    r.recent count = log.rtake (min count r.size) := by
  have size := h.size_le
  rw [recent, h.toList_eq, List.rtake, List.rtake, List.drop_drop]
  congr 1
  omega

/-! ## Runs -/

/-- A change of a ring. -/
inductive Step where
  /-- A record is written. -/
  | emit (record : TraceRecord)
  /-- All records are forgotten. -/
  | clear

/-- The ring after a change. -/
def step (r : TraceRing) : Step → TraceRing
  | .emit record => r.emit record
  | .clear => r.clear

/-- The ring after changes in order. -/
def run (r : TraceRing) (steps : List Step) : TraceRing := steps.foldl step r

/-- A log after a change: clearing begins another one. -/
def note (log : List TraceRecord) : Step → List TraceRecord
  | .emit record => log ++ [record]
  | .clear => []

/-- The records that were written since the ring was last cleared. -/
def logged (steps : List Step) : List TraceRecord := steps.foldl note []

theorem run_concat (r : TraceRing) (steps : List Step) (s : Step) :
    r.run (steps ++ [s]) = (r.run steps).step s := List.foldl_concat ..

theorem logged_concat (steps : List Step) (s : Step) :
    logged (steps ++ [s]) = note (logged steps) s := List.foldl_concat ..

theorem size_slots_run (r : TraceRing) (steps : List Step) :
    (r.run steps).slots.size = r.slots.size := by
  induction steps using List.reverseRecOn with
  | nil => rfl
  | append_singleton steps s ih =>
    rw [run_concat]
    cases s with
    | emit record => exact (size_slots_emit _ record).trans ih
    | clear => exact ih

/-- Logs that were too long before a clearing do not matter after it. -/
theorem holds_run (cleared : r.written = 0) (steps : List Step)
    (fits : (logged steps).length < 2 ^ 64) : (r.run steps).Holds (logged steps) := by
  induction steps using List.reverseRecOn with
  | nil => exact holds_nil cleared
  | append_singleton steps s ih =>
    rw [logged_concat] at fits
    rw [run_concat, logged_concat]
    cases s with
    | emit record =>
      have before : (logged steps).length < 2 ^ 64 := by
        rw [note, List.length_append] at fits
        exact lt_of_le_of_lt (Nat.le_add_right _ _) fits
      exact (ih before).emit record fits
    | clear => exact holds_clear _

/-- A ring of `2 ^ n` slots keeps the newest of the records that were written since it was
last cleared, all of them or as many as it has slots. It lists them in the order in which
they were written, and from its other end in the reverse order; its newest records are at
the end of that list, and it counts all records, those that it no longer keeps as well. -/
theorem run_keeps_newest (n : ℕ) :
    ∃ ring, ofCapacity (2 ^ n) = .ok ring ∧ ∀ steps : List Step,
      let log := logged steps
      let r := ring.run steps
      log.length < 2 ^ 64 →
        r.toList = log.rtake (min (2 ^ n) log.length) ∧
        r.newestFirst = (log.rtake (min (2 ^ n) log.length)).reverse ∧
        (∀ count, r.recent count = log.rtake (min count (min (2 ^ n) log.length))) ∧
        r.size = min (2 ^ n) log.length ∧ r.written.toNat = log.length := by
  obtain ⟨ring, made⟩ := exists_ofCapacity_iff.mpr ⟨n, rfl⟩
  obtain ⟨capacity, cleared⟩ := cleared_of_ofCapacity made
  refine ⟨ring, made, ?_⟩
  intro steps log r fits
  have holds : r.Holds log := holds_run cleared steps fits
  have size : r.size = min (2 ^ n) log.length := by
    rw [holds.size_eq, ring.size_slots_run, capacity]
  rw [← size]
  refine ⟨holds.toList_eq, ?_, holds.recent_eq, rfl, holds.written⟩
  rw [newestFirst_eq, holds.toList_eq]

/-- A record of an earlier log is in a slot, and the new log is longer than the ring. -/
theorem run_keeps_newest_wrapped :
    let steps : List Step := .emit { cycle := 9 } :: .clear ::
      [1, 2, 3, 4, 5, 6].map fun cycle => .emit { cycle := cycle }
    (logged steps).length < 2 ^ 64 ∧ ∃ ring, ofCapacity 4 = .ok ring ∧
      let r := ring.run steps
      r.toList.map TraceRecord.cycle = [3, 4, 5, 6] ∧
      r.newestFirst.map TraceRecord.cycle = [6, 5, 4, 3] ∧
      (r.recent 2).map TraceRecord.cycle = [5, 6] ∧
      (r.recent 9).map TraceRecord.cycle = [3, 4, 5, 6] ∧
      r.size = 4 ∧ r.written.toNat = 6 := by
  intro steps
  have fits : (logged steps).length < 2 ^ 64 := by decide
  obtain ⟨ring, made, keeps⟩ := run_keeps_newest 2
  obtain ⟨oldestFirst, newestFirst, recent, size, written⟩ := keeps steps fits
  refine ⟨fits, ring, made, ?_⟩
  intro r
  rw [oldestFirst, newestFirst, recent, recent, size, written]
  decide

end TraceRing
end Backplane
