import Mathlib
import Backplane.Profile.Populate
import Backplane.Proofs.Target.Parts

/-!
# Overlapping regions

Overlaps are looked for among neighbours, after the regions were sorted by their
first addresses. If no neighbours overlap, each region ends before any later one
begins; so where no region is empty, the check passes exactly if no two regions
have an address in common (`checkOverlaps_eq_ok_iff`).
-/

namespace Backplane

/-- The addresses of a region. -/
def RegionSpec.addresses (r : RegionSpec) : Set ℕ :=
  Set.Ico r.start.toNat (r.start.toNat + r.size.toNat)

theorem RegionSpec.start_mem {r : RegionSpec} (nonempty : r.size ≠ 0) :
    r.start.toNat ∈ r.addresses :=
  ⟨Nat.le_refl _, Nat.lt_add_of_pos_right (toNat_pos_of_ne_zero nonempty)⟩

namespace Span

/-- The addresses of a span. -/
def addresses (s : Span) : Set ℕ := Set.Ico s.start s.stop

/-! ## The order of spans -/

theorem before_eq_true_iff {s t : Span} :
    s.before t = true ↔
      s.start < t.start ∨ s.start = t.start ∧
        (s.stop < t.stop ∨ s.stop = t.stop ∧ s.name ≤ t.name) := by
  simp only [before, Bool.or_eq_true, Bool.and_eq_true, decide_eq_true_eq]

theorem start_le_of_before {s t : Span} (h : s.before t = true) : s.start ≤ t.start := by
  rcases before_eq_true_iff.mp h with lt | ⟨eq, -⟩
  · exact Nat.le_of_lt lt
  · exact Nat.le_of_eq eq

theorem before_trans (s t u : Span) (h : s.before t = true) (h' : t.before u = true) :
    s.before u = true := by
  rw [before_eq_true_iff] at h h' ⊢
  have names (first : s.name ≤ t.name) (second : t.name ≤ u.name) : s.name ≤ u.name :=
    String.le_trans first second
  rcases h with lt | ⟨eq, lt | ⟨stop, le⟩⟩ <;> rcases h' with lt' | ⟨eq', lt' | ⟨stop', le'⟩⟩
  all_goals first
    | exact .inl (by omega)
    | exact .inr ⟨by omega, .inl (by omega)⟩
    | exact .inr ⟨by omega, .inr ⟨by omega, names le le'⟩⟩

theorem before_total (s t : Span) : (s.before t || t.before s) = true := by
  rw [Bool.or_eq_true, before_eq_true_iff, before_eq_true_iff]
  rcases Nat.lt_trichotomy s.start t.start with lt | eq | gt
  · exact .inl (.inl lt)
  · rcases Nat.lt_trichotomy s.stop t.stop with lt | stop | gt
    · exact .inl (.inr ⟨eq, .inl lt⟩)
    · rcases String.le_total s.name t.name with le | le
      · exact .inl (.inr ⟨eq, .inr ⟨stop, le⟩⟩)
      · exact .inr (.inr ⟨eq.symm, .inr ⟨stop.symm, le⟩⟩)
    · exact .inr (.inr ⟨eq.symm, .inl gt⟩)
  · exact .inr (.inl gt)

/-! ## Neighbours -/

/-- If spans ascend and no two neighbours overlap, no two spans do. -/
theorem firstOverlap_eq_none_iff {spans : List Span}
    (sorted : spans.Pairwise fun s t => s.start ≤ t.start) :
    firstOverlap spans = none ↔ spans.Pairwise fun s t => s.stop ≤ t.start := by
  induction spans with
  | nil => exact iff_of_true rfl .nil
  | cons s rest ih =>
    cases rest with
    | nil => exact iff_of_true rfl (List.pairwise_singleton _ _)
    | cons t rest =>
      obtain ⟨-, later⟩ := List.pairwise_cons.mp sorted
      have from_t : ∀ u ∈ t :: rest, t.start ≤ u.start := by
        intro u hu
        rcases List.mem_cons.mp hu with rfl | hu
        · exact Nat.le_refl _
        · exact (List.pairwise_cons.mp later).1 u hu
      rw [firstOverlap]
      split
      · rename_i overlap
        simp only [reduceCtorEq, false_iff]
        intro apart
        exact Nat.not_le.mpr overlap ((List.pairwise_cons.mp apart).1 t List.mem_cons_self)
      · rename_i apart
        rw [ih later]
        constructor
        · intro rest_apart
          refine List.pairwise_cons.mpr ⟨fun u hu => ?_, rest_apart⟩
          exact Nat.le_trans (Nat.not_lt.mp apart) (from_t u hu)
        · exact fun all => (List.pairwise_cons.mp all).2

/-- The check among sorted neighbours finds an overlap unless there is none. -/
theorem firstOverlap_mergeSort_eq_none_iff {spans : List Span}
    (nonempty : ∀ s ∈ spans, s.start < s.stop) :
    firstOverlap (spans.mergeSort before) = none ↔
      spans.Pairwise fun s t => Disjoint s.addresses t.addresses := by
  have perm := List.mergeSort_perm spans before
  have sorted : (spans.mergeSort before).Pairwise fun s t => s.start ≤ t.start :=
    (List.pairwise_mergeSort before_trans before_total spans).imp start_le_of_before
  rw [firstOverlap_eq_none_iff sorted, ← perm.pairwise_iff fun apart => apart.symm]
  -- For spans that ascend, to be disjoint is to follow one another.
  have same {s t : Span} (ht : t ∈ spans.mergeSort before) (le : s.start ≤ t.start) :
      Disjoint s.addresses t.addresses ↔ s.stop ≤ t.start :=
    Ico_disjoint_Ico_of_le le (nonempty t (perm.mem_iff.mp ht))
  constructor
  · intro follow
    refine (sorted.and follow).imp_of_mem ?_
    rintro s t - ht ⟨le, follows⟩
    exact (same ht le).mpr follows
  · intro apart
    refine (sorted.and apart).imp_of_mem ?_
    rintro s t - ht ⟨le, disjoint⟩
    exact (same ht le).mp disjoint

end Span

/-- The check for overlaps passes exactly if no two regions have an address in
common. -/
theorem MachineProfile.checkOverlaps_eq_ok_iff {p : MachineProfile}
    (nonempty : ∀ r ∈ p.regions, r.size ≠ 0) :
    p.checkOverlaps = .ok () ↔
      p.regions.Pairwise fun r s => Disjoint r.addresses s.addresses := by
  have spans_nonempty : ∀ s ∈ p.regions.map Span.ofRegion, s.start < s.stop := by
    intro s hs
    obtain ⟨r, hr, rfl⟩ := List.mem_map.mp hs
    exact Nat.lt_add_of_pos_right (toNat_pos_of_ne_zero (nonempty r hr))
  have pairs := Span.firstOverlap_mergeSort_eq_none_iff spans_nonempty
  rw [List.pairwise_map] at pairs
  have addresses (r : RegionSpec) : (Span.ofRegion r).addresses = r.addresses := rfl
  simp only [addresses] at pairs
  rw [← pairs, checkOverlaps]
  cases Span.firstOverlap ((p.regions.map Span.ofRegion).mergeSort Span.before) with
  | none => exact iff_of_true rfl rfl
  | some found =>
    simp only [reduceCtorEq]

end Backplane
