import Mathlib
import Backplane.Proofs.Target.Parts

/-!
# Windows that are built part by part

Whoever builds a window offers it parts, one after the other; a part that does not fit is
refused, and the window stays as it was (`offer`). So the parts of a window always stand
apart, in ascending order, and within it (`Partitioned`).

The place of a new part and the part behind an offset are searched by halving the list of
parts. Such a search finds where a condition stops to hold, in a list that begins with the
items of which it holds and goes on with the others (`PartitionPoint`). The parts of a window
are such a list, for both conditions that are searched for.

The main statement is `window_partitions`.
-/

namespace Backplane

/-! ## Searching -/

/-- A condition holds of the first `n` items of a list and of no other. -/
structure PartitionPoint {α : Type} (p : α → Bool) (xs : List α) (n : Nat) : Prop where
  le_length : n ≤ xs.length
  holds_iff : ∀ i x, xs[i]? = some x → (p x = true ↔ i < n)

namespace PartitionPoint

variable {α : Type} {p : α → Bool} {xs : List α} {n : Nat}

/-- A list has a partition point if the condition, once it fails, fails for good. -/
theorem exists_of_pairwise (falls : xs.Pairwise fun x y => p y = true → p x = true) :
    ∃ n, PartitionPoint p xs n := by
  induction xs with
  | nil => exact ⟨0, Nat.le_refl 0, fun i x here => by cases here⟩
  | cons x xs ih =>
    obtain ⟨first, rest⟩ := List.pairwise_cons.mp falls
    by_cases holds : p x = true
    · obtain ⟨n, le, iff⟩ := ih rest
      refine ⟨n + 1, Nat.succ_le_succ le, fun i y here => ?_⟩
      cases i with
      | zero =>
        obtain rfl := Option.some.inj here
        exact iff_of_true holds (Nat.succ_pos n)
      | succ i =>
        rw [Nat.add_lt_add_iff_right]
        exact iff i y here
    · refine ⟨0, Nat.zero_le _, fun i y here => ?_⟩
      refine iff_of_false (fun later => holds ?_) (Nat.not_lt_zero i)
      rcases List.mem_cons.mp (List.mem_of_getElem? here) with rfl | mem
      · exact later
      · exact first y mem later

/-- The items of which the condition holds are those at the start. -/
theorem takeWhile_eq (h : PartitionPoint p xs n) : xs.takeWhile p = xs.take n := by
  obtain ⟨le, iff⟩ := h
  induction xs generalizing n with
  | nil => rw [List.takeWhile_nil, List.take_nil]
  | cons x xs ih =>
    have first := iff 0 x rfl
    cases n with
    | zero =>
      rw [List.takeWhile_cons_of_neg fun holds => Nat.lt_irrefl 0 (first.mp holds), List.take_zero]
    | succ n =>
      have rest : xs.takeWhile p = xs.take n := by
        refine ih (Nat.le_of_succ_le_succ le) fun i y here => ?_
        rw [iff (i + 1) y here, Nat.add_lt_add_iff_right]
      rw [List.takeWhile_cons_of_pos (first.mpr (Nat.succ_pos n)), List.take_succ_cons, rest]

theorem dropWhile_eq (h : PartitionPoint p xs n) : xs.dropWhile p = xs.drop n := by
  have whole := List.takeWhile_append_dropWhile (p := p) (l := xs)
  rw [h.takeWhile_eq] at whole
  exact List.append_cancel_left (whole.trans (List.take_append_drop n xs).symm)

end PartitionPoint

namespace Window

/-! ## Offering parts -/

/-- The window after a part was offered: with the part if it fits, else as it was. -/
def offer (w : Window) (s : SubRegion) : Window :=
  match w.add s with
  | .ok w' => w'
  | .error _ => w

/-- What a window of `size` bytes becomes when parts are offered to it in turn. -/
def offered (size : UInt32) (parts : List SubRegion) : Window := parts.foldl offer (empty size)

/-- The parts hold bytes, ascend, have no offset in common, and end within the window. -/
structure Partitioned (w : Window) : Prop extends w.Divided where
  stop_le : ∀ s ∈ w.subs, s.stop ≤ w.size.toNat

variable {w w' : Window} {s : SubRegion}

theorem partitioned_empty (size : UInt32) : (empty size).Partitioned :=
  ⟨divided_empty size, fun _ mem => nomatch mem⟩

theorem Partitioned.withPart (h : w.Partitioned) (admits : w.Admits s) :
    (w.withPart s).Partitioned where
  toDivided := h.toDivided.withPart admits
  stop_le t mem := by
    rcases mem_withPart.mp mem with rfl | mem
    · exact admits.stop_le
    · exact h.stop_le t mem

/-- A window that takes a part had room for it, and has nothing else new. -/
theorem offer_cases (h : w.Partitioned) (s : SubRegion) :
    (w.Admits s ∧ w.add s = .ok (w.withPart s) ∧ w.offer s = w.withPart s) ∨
      (¬w.Admits s ∧ w.add s = .error (.invalidSubRegion s.label) ∧ w.offer s = w) := by
  by_cases admits : w.Admits s
  · have taken := (add_eq_ok_iff h.toDivided).mpr ⟨admits, rfl⟩
    exact .inl ⟨admits, taken, by rw [offer, taken]⟩
  · cases added : w.add s with
    | ok w' => exact absurd ((add_eq_ok_iff h.toDivided).mp added).1 admits
    | error e =>
      refine .inr ⟨admits, ?_, by rw [offer, added]⟩
      unfold add at added
      split at added <;> cases added
      rfl

theorem Partitioned.offer (h : w.Partitioned) (s : SubRegion) : (w.offer s).Partitioned := by
  rcases offer_cases h s with ⟨admits, -, eq⟩ | ⟨-, -, eq⟩ <;> rw [eq]
  · exact h.withPart admits
  · exact h

theorem size_offer (h : w.Partitioned) (s : SubRegion) : (w.offer s).size = w.size := by
  rcases offer_cases h s with ⟨-, -, eq⟩ | ⟨-, -, eq⟩ <;> rw [eq]
  rfl

theorem partitioned_offered (size : UInt32) (parts : List SubRegion) :
    (offered size parts).Partitioned ∧ (offered size parts).size = size := by
  have run (parts : List SubRegion) (w : Window) (h : w.Partitioned) :
      (parts.foldl Window.offer w).Partitioned ∧ (parts.foldl Window.offer w).size = w.size := by
    induction parts generalizing w with
    | nil => exact ⟨h, rfl⟩
    | cons s parts ih =>
      obtain ⟨kept, size⟩ := ih (w.offer s) (h.offer s)
      exact ⟨kept, size.trans (size_offer h s)⟩
  exact run parts (empty size) (partitioned_empty size)

/-! ## The parts of a window -/

theorem Divided.strictly_ascending (h : w.Divided) :
    w.subs.Pairwise fun s t => s.offset < t.offset := by
  refine h.ascending.imp_of_mem ?_
  intro s t mem _ before
  rw [UInt32.lt_iff_toNat_lt]
  exact Nat.lt_of_lt_of_le (SubRegion.offset_lt_stop (h.size_ne_zero s mem)) before

/-- No two parts cover one offset. -/
theorem Divided.part_unique (h : w.Divided) {t : SubRegion} (hs : s ∈ w.subs) (ht : t ∈ w.subs)
    {offset : Nat} (in_s : offset ∈ s.offsets) (in_t : offset ∈ t.offsets) : t = s := by
  have : Std.Symm fun s t : SubRegion => Disjoint s.offsets t.offsets :=
    ⟨fun _ _ apart => apart.symm⟩
  refine Decidable.of_not_not fun ne => ?_
  exact Set.disjoint_left.mp (h.disjoint.forall ht hs ne) in_t in_s

/-- From an offset that a part covers, the window leads as far on in the target. -/
theorem toNat_route {offset : UInt32} (inside : offset.toNat ∈ s.offsets) :
    (s.targetOffset + (offset - s.offset)).toNat =
      (s.targetOffset.toNat + (offset.toNat - s.offset.toNat)) % 2 ^ 32 := by
  rw [UInt32.toNat_add, UInt32.toNat_sub_of_le _ _ (UInt32.le_iff_toNat_le.mpr inside.1)]

/-! ## The searches of a window -/

theorem Divided.partitionPoint_le (h : w.Divided) (offset : UInt32) :
    ∃ n, PartitionPoint (fun t : SubRegion => t.offset ≤ offset) w.subs n := by
  refine PartitionPoint.exists_of_pairwise (h.sorted.imp fun order le => ?_)
  exact decide_eq_true (UInt32.le_trans order (of_decide_eq_true le))

theorem Divided.partitionPoint_lt (h : w.Divided) (offset : UInt32) :
    ∃ n, PartitionPoint (fun t : SubRegion => t.offset < offset) w.subs n := by
  refine PartitionPoint.exists_of_pairwise (h.sorted.imp fun order lt => ?_)
  exact decide_eq_true (UInt32.lt_of_le_of_lt order (of_decide_eq_true lt))

variable {n : Nat}

/-- The part behind an offset is the last of those that begin at or before it, if it goes
that far. -/
theorem route_of_partitionPoint {offset : UInt32}
    (point : PartitionPoint (fun t : SubRegion => t.offset ≤ offset) w.subs n) :
    w.route offset = ((w.subs.take n).getLast?.filter (·.contains offset)).map fun s =>
      (s.target, s.targetOffset + (offset - s.offset)) := by
  rw [route_eq_map, part?, point.takeWhile_eq]
  cases (w.subs.take n).getLast? <;> rfl

/-- A new part is put behind those that begin before it. -/
theorem withPart_of_partitionPoint
    (point : PartitionPoint (fun t : SubRegion => t.offset < s.offset) w.subs n) :
    w.withPart s = { w with subs := w.subs.take n ++ s :: w.subs.drop n } := by
  rw [Window.withPart, insertSorted, point.takeWhile_eq, point.dropWhile_eq]

/-- Whatever parts a window was offered, it takes another exactly if that holds a byte, ends
within the window and has no offset in common with those that it took; if it refuses, nothing
changes. Its parts are in strictly ascending order and have no offset in common. An offset
leads on through the one part that has it, as far on in its target as in the part, and from an
offset that no part has no way leads on.

Both searches, for the place of a new part and for the part behind an offset, are made in a list
that has a partition point, and the answer is the one at that point, however it is found. -/
theorem window_partitions (size : UInt32) (parts : List SubRegion) :
    let w := offered size parts
    (∀ s : SubRegion,
      ((∃ w', w.add s = .ok w') ↔
        0 < s.size.toNat ∧ s.stop ≤ size.toNat ∧ ∀ t ∈ w.subs, Disjoint s.offsets t.offsets) ∧
      (∀ e, w.add s = .error e → e = .invalidSubRegion s.label ∧ w.offer s = w) ∧
      (∃ n, PartitionPoint (fun t : SubRegion => t.offset < s.offset) w.subs n) ∧
      ∀ w', w.add s = .ok w' → w' = w.offer s ∧ w'.size = size ∧
        ∀ n, PartitionPoint (fun t : SubRegion => t.offset < s.offset) w.subs n →
          w'.subs = w.subs.take n ++ s :: w.subs.drop n) ∧
    w.subs.Pairwise (fun s t => s.offset < t.offset ∧ Disjoint s.offsets t.offsets) ∧
    ∀ offset : UInt32,
      (∀ s ∈ w.subs, offset.toNat ∈ s.offsets →
        (∀ t ∈ w.subs, offset.toNat ∈ t.offsets → t = s) ∧
        ∃ next, w.route offset = some (s.target, next) ∧
          next.toNat = (s.targetOffset.toNat + (offset.toNat - s.offset.toNat)) % 2 ^ 32) ∧
      ((∀ s ∈ w.subs, offset.toNat ∉ s.offsets) → w.route offset = none) ∧
      (∃ n, PartitionPoint (fun t : SubRegion => t.offset ≤ offset) w.subs n) ∧
      ∀ n, PartitionPoint (fun t : SubRegion => t.offset ≤ offset) w.subs n →
        w.route offset = ((w.subs.take n).getLast?.filter (·.contains offset)).map fun s =>
          (s.target, s.targetOffset + (offset - s.offset)) := by
  intro w
  obtain ⟨whole, same_size⟩ := partitioned_offered size parts
  change w.Partitioned at whole
  change w.size = size at same_size
  refine ⟨fun s => ⟨?_, ?_, whole.partitionPoint_lt s.offset, ?_⟩, ?_, fun offset =>
    ⟨fun s mem inside => ⟨?_, ?_⟩, route_eq_none, whole.partitionPoint_le offset, fun n => ?_⟩⟩
  · -- The part fits.
    rw [← same_size]
    constructor
    · rintro ⟨w', taken⟩
      obtain ⟨admits, -⟩ := (add_eq_ok_iff whole.toDivided).mp taken
      exact ⟨toNat_pos_of_ne_zero admits.size_ne_zero, admits.stop_le, admits.disjoint⟩
    · rintro ⟨pos, stop_le, apart⟩
      have nonempty : s.size ≠ 0 := fun zero => by simp [zero] at pos
      exact ⟨_, (add_eq_ok_iff whole.toDivided).mpr ⟨⟨nonempty, stop_le, apart⟩, rfl⟩⟩
  · -- The part is refused.
    intro e refused
    rcases offer_cases whole s with ⟨-, taken, -⟩ | ⟨-, refused', same⟩
    · cases taken.symm.trans refused
    · exact ⟨Except.error.inj (refused.symm.trans refused'), same⟩
  · -- The part is put in its place.
    intro w' taken
    rcases offer_cases whole s with ⟨-, taken', eq⟩ | ⟨-, refused, -⟩
    · obtain rfl := Except.ok.inj (taken'.symm.trans taken)
      exact ⟨eq.symm, same_size, fun n point => by rw [withPart_of_partitionPoint point]⟩
    · cases refused.symm.trans taken
  · exact whole.strictly_ascending.and whole.disjoint
  · exact fun t there inside' => whole.part_unique mem there inside inside'
  · exact ⟨_, whole.route_eq_some mem inside, toNat_route inside⟩
  · exact route_of_partitionPoint

end Window
end Backplane
