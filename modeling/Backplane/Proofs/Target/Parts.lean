import Mathlib
import Backplane.Target.Window

/-!
# The parts of a window

A window that is built part by part stays `Divided`: its parts hold bytes, stand in
ascending order of offset and have no offset in common. Then the walk of `route` to
the last part that begins at or before an offset finds the part that covers it
(`Divided.route_eq_some`), and in a gap it finds nothing.

`addAll_eq_ok_iff` says which lists of parts make a window.
-/

namespace Backplane

/-- Two steps succeed if the first does, and the second on its result. -/
theorem bind_eq_ok_iff {ε α β : Type} {x : Except ε α} {f : α → Except ε β} {result : β} :
    (x >>= f) = .ok result ↔ ∃ value, x = .ok value ∧ f value = .ok result := by
  cases x with
  | error e =>
    refine iff_of_false nofun ?_
    rintro ⟨value, ⟨⟩, -⟩
  | ok value =>
    constructor
    · exact fun second => ⟨value, rfl, second⟩
    · rintro ⟨value', ⟨⟩, second⟩
      exact second

theorem toOption_eq_some_iff {ε α : Type} {x : Except ε α} {value : α} :
    x.toOption = some value ↔ x = .ok value := by
  cases x <;> simp [Except.toOption]

theorem toNat_pos_of_ne_zero {n : UInt32} (h : n ≠ 0) : 0 < n.toNat :=
  Nat.pos_of_ne_zero fun zero => h (UInt32.toNat_inj.mp zero)

/-- Of two ranges in ascending order, the later not empty, the earlier ends before
the later begins, or else they overlap. -/
theorem Ico_disjoint_Ico_of_le {a b c d : ℕ} (start : a ≤ c) (nonempty : c < d) :
    Disjoint (Set.Ico a b) (Set.Ico c d) ↔ b ≤ c := by
  rw [Set.Ico_disjoint_Ico, max_eq_right start, min_le_iff]
  omega

namespace SubRegion

/-- The offsets of a part. -/
def offsets (s : SubRegion) : Set ℕ := Set.Ico s.offset.toNat s.stop

variable {s t : SubRegion}

theorem contains_eq_true_iff {offset : UInt32} :
    s.contains offset = true ↔ offset.toNat ∈ s.offsets := by
  simp only [contains, offsets, Bool.and_eq_true, decide_eq_true_eq, UInt32.le_iff_toNat_le,
    Set.mem_Ico]

theorem offset_lt_stop (nonempty : s.size ≠ 0) : s.offset.toNat < s.stop :=
  Nat.lt_add_of_pos_right (toNat_pos_of_ne_zero nonempty)

theorem overlaps_eq_false_iff (hs : s.size ≠ 0) (ht : t.size ≠ 0) :
    s.overlaps t = false ↔ Disjoint s.offsets t.offsets := by
  have := offset_lt_stop hs
  have := offset_lt_stop ht
  simp only [overlaps, offsets, Bool.and_eq_false_iff, decide_eq_false_iff_not,
    Set.Ico_disjoint_Ico, min_le_iff, le_max_iff]
  omega

end SubRegion

namespace Window

/-! ## Order -/

/-- The order of the parts of a window. -/
def byOffset (s t : SubRegion) : Prop := s.offset ≤ t.offset

instance : DecidableRel byOffset := fun s t => inferInstanceAs (Decidable (s.offset ≤ t.offset))

instance : Std.Total byOffset := ⟨fun s t => UInt32.le_total s.offset t.offset⟩

instance : IsTrans SubRegion byOffset := ⟨fun _ _ _ h h' => UInt32.le_trans h h'⟩

theorem insertSorted_eq (s : SubRegion) (subs : List SubRegion) :
    insertSorted s subs = subs.orderedInsert byOffset s := by
  have same : (fun t : SubRegion => decide (t.offset < s.offset)) =
      fun t => decide ¬byOffset s t := by
    funext t
    rw [decide_eq_decide, byOffset, UInt32.not_le]
  rw [List.orderedInsert_eq_take_drop, insertSorted, same]

theorem insertSorted_perm (s : SubRegion) (subs : List SubRegion) :
    (insertSorted s subs).Perm (s :: subs) := by
  rw [insertSorted_eq]
  exact List.perm_orderedInsert byOffset s subs

/-- The parts hold bytes, ascend, and have no offset in common. -/
structure Divided (w : Window) : Prop where
  size_ne_zero : ∀ s ∈ w.subs, s.size ≠ 0
  sorted : w.subs.Pairwise byOffset
  disjoint : w.subs.Pairwise fun s t => Disjoint s.offsets t.offsets

theorem divided_empty (size : UInt32) : (empty size).Divided := by
  constructor
  · rintro s ⟨⟩
  · exact .nil
  · exact .nil

variable {w w' : Window} {s : SubRegion}

/-- Each part ends before the next begins. -/
theorem Divided.ascending (h : w.Divided) :
    w.subs.Pairwise fun s t => s.stop ≤ t.offset.toNat := by
  refine (h.sorted.and h.disjoint).imp_of_mem ?_
  rintro s t - ht ⟨order, disjoint⟩
  exact (Ico_disjoint_Ico_of_le (UInt32.le_iff_toNat_le.mp order)
    (SubRegion.offset_lt_stop (h.size_ne_zero t ht))).mp disjoint

/-! ## Adding parts -/

/-- A part holds a byte, lies in the window and has no offset in common with
another part. -/
structure Admits (w : Window) (s : SubRegion) : Prop where
  size_ne_zero : s.size ≠ 0
  stop_le : s.stop ≤ w.size.toNat
  disjoint : ∀ t ∈ w.subs, Disjoint s.offsets t.offsets

/-- The window with another part. -/
def withPart (w : Window) (s : SubRegion) : Window := { w with subs := insertSorted s w.subs }

theorem mem_withPart {t : SubRegion} : t ∈ (w.withPart s).subs ↔ t = s ∨ t ∈ w.subs := by
  rw [withPart, (insertSorted_perm s w.subs).mem_iff, List.mem_cons]

theorem Divided.withPart (h : w.Divided) (admits : w.Admits s) : (w.withPart s).Divided where
  size_ne_zero t ht := by
    rcases mem_withPart.mp ht with rfl | ht
    · exact admits.size_ne_zero
    · exact h.size_ne_zero t ht
  sorted := by
    rw [Window.withPart, insertSorted_eq]
    exact h.sorted.orderedInsert s w.subs
  disjoint := by
    refine ((insertSorted_perm s w.subs).pairwise_iff fun apart => apart.symm).mpr ?_
    exact List.pairwise_cons.mpr ⟨admits.disjoint, h.disjoint⟩

theorem add_eq_ok_iff (h : w.Divided) :
    w.add s = .ok w' ↔ w.Admits s ∧ w' = w.withPart s := by
  unfold add
  split
  · rename_i refused
    simp only [reduceCtorEq, false_iff]
    rintro ⟨admits, -⟩
    rcases refused with empty | outside | overlap
    · exact admits.size_ne_zero empty
    · exact Nat.not_lt.mpr admits.stop_le outside
    · obtain ⟨t, ht, meets⟩ := List.any_eq_true.mp overlap
      have apart := (SubRegion.overlaps_eq_false_iff admits.size_ne_zero
        (h.size_ne_zero t ht)).mpr (admits.disjoint t ht)
      exact Bool.noConfusion (meets.symm.trans apart)
  · rename_i accepted
    simp only [not_or, Nat.not_lt, Bool.not_eq_true, List.any_eq_false] at accepted
    obtain ⟨nonempty, inside, apart⟩ := accepted
    have admits : w.Admits s :=
      ⟨nonempty, inside, fun t ht =>
        (SubRegion.overlaps_eq_false_iff nonempty (h.size_ne_zero t ht)).mp (apart t ht)⟩
    rw [Except.ok.injEq]
    exact ⟨fun eq => ⟨admits, eq.symm⟩, fun eq => eq.2.symm⟩

theorem eq_withPart_of_add (added : w.add s = .ok w') : w' = w.withPart s := by
  unfold add at added
  split at added
  · cases added
  · cases added
    rfl

theorem addAll_cons (w : Window) (s : SubRegion) (parts : List SubRegion) :
    w.addAll (s :: parts) = (w.add s >>= fun w' => w'.addAll parts) := rfl

/-- The parts that a window takes in turn are those that it would take alone, if
they have no offset in common. -/
theorem addAll_eq_ok_iff (h : w.Divided) {parts : List SubRegion} :
    w.addAll parts = .ok w' ↔
      (∀ s ∈ parts, w.Admits s) ∧
      parts.Pairwise (fun s t => Disjoint s.offsets t.offsets) ∧
      w' = parts.foldl withPart w := by
  induction parts generalizing w with
  | nil =>
    simp only [addAll, List.foldlM_nil, pure, Except.pure, Except.ok.injEq, List.foldl_nil]
    exact ⟨fun eq => ⟨nofun, .nil, eq.symm⟩, fun all => all.2.2.symm⟩
  | cons s parts ih =>
    -- The parts that follow must fit into the window with `s` in it.
    have later (admits : w.Admits s) : (∀ t ∈ parts, (w.withPart s).Admits t) ↔
        (∀ t ∈ parts, w.Admits t) ∧ ∀ t ∈ parts, Disjoint s.offsets t.offsets := by
      constructor
      · intro fits
        refine ⟨fun t ht => ⟨(fits t ht).size_ne_zero, (fits t ht).stop_le, fun u hu => ?_⟩,
          fun t ht => ?_⟩
        · exact (fits t ht).disjoint u (mem_withPart.mpr (.inr hu))
        · exact ((fits t ht).disjoint s (mem_withPart.mpr (.inl rfl))).symm
      · rintro ⟨fits, apart⟩ t ht
        refine ⟨(fits t ht).size_ne_zero, (fits t ht).stop_le, fun u hu => ?_⟩
        rcases mem_withPart.mp hu with rfl | hu
        · exact (apart t ht).symm
        · exact (fits t ht).disjoint u hu
    rw [addAll_cons, bind_eq_ok_iff, List.forall_mem_cons, List.pairwise_cons, List.foldl_cons]
    simp only [add_eq_ok_iff h]
    constructor
    · rintro ⟨_, ⟨admits, rfl⟩, rest⟩
      obtain ⟨fits, apart, eq⟩ := (ih (h.withPart admits)).mp rest
      obtain ⟨fits, from_first⟩ := (later admits).mp fits
      exact ⟨⟨admits, fits⟩, ⟨from_first, apart⟩, eq⟩
    · rintro ⟨⟨admits, fits⟩, ⟨from_first, apart⟩, eq⟩
      refine ⟨_, ⟨admits, rfl⟩, ?_⟩
      exact (ih (h.withPart admits)).mpr ⟨(later admits).mpr ⟨fits, from_first⟩, apart, eq⟩

/-- Parts that are taken in turn leave the window divided. -/
theorem Divided.addAll (h : w.Divided) {parts : List SubRegion} (added : w.addAll parts = .ok w') :
    w'.Divided := by
  induction parts generalizing w with
  | nil =>
    cases added
    exact h
  | cons s parts ih =>
    rw [addAll_cons, bind_eq_ok_iff] at added
    obtain ⟨w₁, first, rest⟩ := added
    obtain ⟨admits, rfl⟩ := (add_eq_ok_iff h).mp first
    exact ih (h.withPart admits) rest

theorem foldl_withPart_size (w : Window) (parts : List SubRegion) :
    (parts.foldl withPart w).size = w.size := by
  induction parts generalizing w with
  | nil => rfl
  | cons s parts ih => exact ih (w.withPart s)

theorem mem_foldl_withPart {parts : List SubRegion} :
    s ∈ (parts.foldl withPart w).subs ↔ s ∈ parts ∨ s ∈ w.subs := by
  induction parts generalizing w with
  | nil => simp
  | cons t parts ih =>
    rw [List.foldl_cons, ih, mem_withPart, List.mem_cons]
    tauto

/-! ## Routes -/

/-- The route from an offset in a part is through that part. -/
theorem Divided.route_eq_some (h : w.Divided) (mem : s ∈ w.subs) {offset : UInt32}
    (inside : offset.toNat ∈ s.offsets) :
    w.route offset = some (s.target, s.targetOffset + (offset - s.offset)) := by
  obtain ⟨before, after, split⟩ := List.append_of_mem mem
  have ascending := h.ascending
  rw [split, List.pairwise_append, List.pairwise_cons] at ascending
  obtain ⟨-, ⟨later, -⟩, earlier⟩ := ascending
  obtain ⟨from_start, to_stop⟩ := inside
  have before_le : ∀ t ∈ before, decide (t.offset ≤ offset) = true := by
    intro t ht
    have le : t.stop ≤ s.offset.toNat := earlier t ht s List.mem_cons_self
    rw [decide_eq_true_eq, UInt32.le_iff_toNat_le]
    rw [SubRegion.stop] at le
    omega
  have after_gt : after.takeWhile (fun t => decide (t.offset ≤ offset)) = [] := by
    cases after with
    | nil => rfl
    | cons t after =>
      have le : s.stop ≤ t.offset.toNat := later t List.mem_cons_self
      refine List.takeWhile_cons_of_neg ?_
      rw [decide_eq_true_eq, UInt32.le_iff_toNat_le]
      omega
  have last : (w.subs.takeWhile fun t => decide (t.offset ≤ offset)).getLast? = some s := by
    rw [split, List.takeWhile_append_of_pos before_le, List.takeWhile_cons,
      if_pos (decide_eq_true (UInt32.le_iff_toNat_le.mpr from_start)), after_gt,
      List.getLast?_append, List.getLast?_singleton, Option.some_or]
  simp only [route, last, Option.bind_eq_bind, Option.bind_some]
  rw [if_pos (SubRegion.contains_eq_true_iff.mpr ⟨from_start, to_stop⟩)]
  rfl

/-- From a gap there is no route. -/
theorem route_eq_none {offset : UInt32} (gap : ∀ s ∈ w.subs, offset.toNat ∉ s.offsets) :
    w.route offset = none := by
  rw [route_eq_map, Option.map_eq_none_iff, Option.eq_none_iff_forall_not_mem]
  intro s part
  obtain ⟨mem, covers⟩ := part?_eq_some part
  exact gap s mem (SubRegion.contains_eq_true_iff.mp covers)

end Window
end Backplane
