import Mathlib
import Backplane.Device.Probe
import Backplane.Listing.Regions
import Backplane.Proofs.Bus.Bounds
import Backplane.Proofs.Profile.Regions
import Backplane.Proofs.Target.Windows

/-!
# Views of the parts of a window

A listing shows the parts of a window at absolute addresses: where they would lie if all of the
window were mapped as the page is. The window may begin below the first address there is, so a
view has an address if that lies less than the size of the view after its start, in 32 bits
(`SubRegionView.contains`).

A bus leads from an address to an offset in the window, and from there to the part that covers
it. The way back, from the part to its place among the addresses, makes the same sums in
another order, so the address lies as far after the start of a view as the offset after that of
the part. Whether one contains the other is then the same question, as long as parts end within
their windows; and parts of a window that was built do (`Arena.Assembled`).

The main statement is `views_agree_with_routes`.
-/

namespace Backplane

/-! ## The part that covers an offset -/

namespace SubRegion

/-- A part that ends within 32 bits covers the offsets that lie less than its size after its
first. -/
theorem contains_eq_decide {s : SubRegion} (fits : s.stop ≤ 2 ^ 32) (offset : UInt32) :
    s.contains offset = decide (offset - s.offset < s.size) := by
  rw [contains, ← Bool.decide_and, decide_eq_decide, UInt32.lt_iff_toNat_lt]
  rw [stop] at fits ⊢
  by_cases le : s.offset ≤ offset
  · have order := UInt32.le_iff_toNat_le.mp le
    rw [UInt32.toNat_sub_of_le _ _ le]
    simp only [le, true_and]
    omega
  · -- The distance goes round the end of the 32 bits, and the part does not reach that far.
    have order := UInt32.lt_iff_toNat_lt.mp (UInt32.not_le.mp le)
    have bound := s.offset.toNat_lt
    simp only [le, false_and, false_iff, UInt32.toNat_sub]
    omega

end SubRegion

namespace Window

variable {w : Window} {s : SubRegion} {offset : UInt32}

/-- The part behind an offset is the one that covers it. -/
theorem Divided.part?_eq_some_iff (h : w.Divided) :
    w.part? offset = some s ↔ s ∈ w.subs ∧ s.contains offset = true := by
  refine ⟨part?_eq_some, fun ⟨mem, covers⟩ => ?_⟩
  have inside := SubRegion.contains_eq_true_iff.mp covers
  have route := h.route_eq_some mem inside
  rw [route_eq_map, Option.map_eq_some_iff] at route
  obtain ⟨t, part, -⟩ := route
  obtain ⟨mem', covers'⟩ := part?_eq_some part
  have same := h.part_unique mem mem' inside (SubRegion.contains_eq_true_iff.mp covers')
  rw [part, same]

/-- Of the parts of a window, at most the one behind an offset covers it. -/
theorem Divided.filter_contains (h : w.Divided) (offset : UInt32) :
    w.subs.filter (·.contains offset) = (w.part? offset).toList := by
  cases part : w.part? offset with
  | none =>
    refine List.filter_eq_nil_iff.mpr fun s mem covers => ?_
    have found := h.part?_eq_some_iff.mpr ⟨mem, covers⟩
    rw [part] at found
    cases found
  | some s =>
    obtain ⟨mem, covers⟩ := part?_eq_some part
    have inside := SubRegion.contains_eq_true_iff.mp covers
    obtain ⟨before, after, split⟩ := List.append_of_mem mem
    have apart := h.disjoint
    rw [split, List.pairwise_append, List.pairwise_cons] at apart
    obtain ⟨-, ⟨later, -⟩, earlier⟩ := apart
    have before_nil : before.filter (·.contains offset) = [] := by
      refine List.filter_eq_nil_iff.mpr fun t mem covers' => ?_
      exact Set.disjoint_left.mp (earlier t mem s List.mem_cons_self)
        (SubRegion.contains_eq_true_iff.mp covers') inside
    have after_nil : after.filter (·.contains offset) = [] := by
      refine List.filter_eq_nil_iff.mpr fun t mem covers' => ?_
      exact Set.disjoint_left.mp (later t mem) inside (SubRegion.contains_eq_true_iff.mp covers')
    rw [split, List.filter_append, before_nil, List.filter_cons, if_pos covers, after_nil]
    rfl

end Window

/-! ## Arenas whose windows were built -/

namespace Arena

variable {σ α : Type} {measure : σ → α} {a a' : Arena σ}

/-- Every window has parts that stand apart, in ascending order, and within it. -/
def Assembled (a : Arena σ) : Prop :=
  ∀ id w, a.get? id = some (.window w) → w.Partitioned

theorem Assembled.of_matches (h : a.Assembled) (same : a.Matches measure a') : a'.Assembled :=
  fun id w window => h id w (same.window_iff.mp window)

/-- Another target leaves the windows that were there as they were. -/
theorem Assembled.adding (h : a.Assembled) (name : String) {target : Target σ}
    (built : ∀ w, target = .window w → w.Partitioned) : (a.adding [⟨name, target⟩]).Assembled := by
  intro id w here
  rcases get?_adding_cases here with here | ⟨-, same⟩
  · exact h id w here
  · exact built w same.symm

end Arena

/-- A window that the operation adds was built part by part: it was empty and was offered
parts, which is how windows are made. -/
def Operation.AddsBuilt {σ : Type} : Operation σ → Prop
  | .addTarget _ (.window w) => ∃ size parts, w = Window.offered size parts
  | _ => True

namespace Bus

variable {σ : Type} [DeviceModel σ] {b : Bus σ}

theorem assembled_transact (h : b.arena.Assembled) (x : Transaction) :
    (b.transact x).arena.Assembled := by
  have shape : DeviceModel.Keeps fun _ : σ => () := fun _ _ _ => rfl
  rw [transact_arena]
  exact h.of_matches (b.served_matches shape x)

theorem assembled_perform (h : b.arena.Assembled) {o : Operation σ} (built : o.AddsBuilt) :
    (b.perform o).arena.Assembled := by
  rcases b.perform_arena_cases o with ⟨t, rfl⟩ | ⟨name, target, rfl⟩ | same
  · exact transfer_induction (P := fun b => b.arena.Assembled)
      (fun b x h => assembled_transact h x) h t
  · rw [perform, addTarget_eq]
    split
    · exact h
    · refine h.adding name ?_
      rintro w rfl
      obtain ⟨size, parts, rfl⟩ := built
      exact (Window.partitioned_offered size parts).1
  · rwa [same]

theorem assembled_run (h : b.arena.Assembled) {os : List (Operation σ)}
    (built : ∀ o ∈ os, o.AddsBuilt) : (b.run os).arena.Assembled := by
  induction os generalizing b with
  | nil => exact h
  | cons o os ih =>
    obtain ⟨first, rest⟩ := List.forall_mem_cons.mp built
    exact ih (assembled_perform h first) rest

omit [DeviceModel σ] in
theorem assembled_empty (geometry : Geometry) : (Bus.empty (σ := σ) geometry).arena.Assembled :=
  fun _ _ here => nomatch here

end Bus

/-! ## Views -/

/-- Whether the address lies less than the size of the view after its start. -/
def SubRegionView.contains (v : SubRegionView) (address : UInt32) : Bool :=
  address - v.start < v.size

/-- The view of a part if the window begins at `origin`. -/
def Arena.viewAt {σ : Type} (a : Arena σ) (origin : UInt32) (s : SubRegion) : SubRegionView where
  start := origin + s.offset
  size := s.size
  label := s.label
  region := s.region
  target := s.target
  targetName := (a.name? s.target).getD ""

/-- An address and its offset in the window lie as far after the starts of a view and of its
part. -/
theorem Arena.contains_viewAt {σ : Type} (a : Arena σ) (origin : UInt32) {s : SubRegion}
    (fits : s.stop ≤ 2 ^ 32) (offset : UInt32) :
    (a.viewAt origin s).contains (origin + offset) = s.contains offset := by
  have distance : origin + offset - (origin + s.offset) = offset - s.offset := by grind
  rw [s.contains_eq_decide fits, SubRegionView.contains, viewAt, distance]

namespace Bus

variable {σ : Type} {b : Bus σ} {page : Nat} {entry : PageEntry} {id : TargetId} {w : Window}

/-- The address at which the window of an entry of page `index` would begin. -/
def originOf (b : Bus σ) (index : Nat) (entry : PageEntry) : UInt32 :=
  b.geometry.pageBase index - entry.physicalBase

theorem subRegionViews_eq (here : b.map.table.get? page = some entry)
    (mapped : entry.target = some id) (window : b.arena.get? id = some (.window w)) :
    b.subRegionViews page = w.subs.map (b.arena.viewAt (b.originOf page entry)) := by
  have parts : b.arena.subRegions? id = some w.subs := by rw [Arena.subRegions?, window]
  simp only [subRegionViews, here, mapped, Option.bind_some, parts]
  rfl

/-- An address of a page lies at its offset from where the window begins. -/
theorem originOf_add {address offset : UInt32} (on_page : b.geometry.pageIndex address = some page)
    (sum : entry.physicalBase + b.geometry.pageOffset address = offset) :
    b.originOf page entry + offset = address := by
  unfold Geometry.pageIndex at on_page
  split at on_page <;> cases on_page
  have whole := b.geometry.pageBase_add_pageOffset address
  rw [originOf, ← sum]
  grind

/-- The views that contain an address of the page are those of the part behind its offset. -/
theorem filter_subRegionViews (whole : w.Partitioned) (here : b.map.table.get? page = some entry)
    (mapped : entry.target = some id) (window : b.arena.get? id = some (.window w))
    {address offset : UInt32} (on_page : b.geometry.pageIndex address = some page)
    (sum : entry.physicalBase + b.geometry.pageOffset address = offset) :
    (b.subRegionViews page).filter (·.contains address) =
      (w.part? offset).toList.map (b.arena.viewAt (b.originOf page entry)) := by
  have fits (s : SubRegion) (mem : s ∈ w.subs) : s.stop ≤ 2 ^ 32 :=
    Nat.le_trans (whole.stop_le s mem) (Nat.le_of_lt w.size.toNat_lt)
  rw [subRegionViews_eq here mapped window, List.filter_map, ← whole.filter_contains]
  refine congrArg _ (List.filter_congr fun s mem => ?_)
  rw [← originOf_add on_page sum]
  exact b.arena.contains_viewAt _ (fits s mem) offset

variable [DeviceModel σ]

/-- Whatever was done to a bus whose windows were built part by part, the views of the window
behind a page say of each address of the page what routing makes of it. The page table leads to
an offset in the window. If that leads on through a part, exactly one view contains the address,
and shows the target, the label and the region of that part; if it leads nowhere, no view
contains the address. -/
theorem views_agree_with_routes (geometry : Geometry) (os : List (Operation σ))
    (built : ∀ o ∈ os, o.AddsBuilt) (b : Bus σ) (reached : b = (Bus.empty geometry).run os)
    (here : b.map.table.get? page = some entry) (mapped : entry.target = some id)
    (window : b.arena.get? id = some (.window w)) {address : UInt32}
    (on_page : b.geometry.pageIndex address = some page) :
    ∃ offset, b.map.table.lookup address = some (entry, offset) ∧
      ((w.route offset).isSome = true ↔
        ∃ v, (b.subRegionViews page).filter (·.contains address) = [v]) ∧
      (∀ s, w.part? offset = some s →
        w.route offset = some (s.target, s.targetOffset + (offset - s.offset)) ∧
        ∃ v, (b.subRegionViews page).filter (·.contains address) = [v] ∧
          v.target = s.target ∧ v.label = s.label ∧ v.region = s.region ∧ v.size = s.size) ∧
      (w.route offset = none → ∀ v ∈ b.subRegionViews page, v.contains address = false) := by
  have whole : w.Partitioned := by
    rw [reached] at window
    exact assembled_run (assembled_empty geometry) built id w window
  generalize sum : entry.physicalBase + b.geometry.pageOffset address = offset
  refine ⟨offset, PageTable.lookup_eq_some_iff.mpr ⟨page, on_page, here, sum⟩, ?_⟩
  have views := filter_subRegionViews whole here mapped window on_page sum
  rw [Window.route_eq_map]
  cases part : w.part? offset with
  | none =>
    rw [part, Option.toList_none, List.map_nil] at views
    refine ⟨?_, fun s found => (nomatch found), fun _ v mem => ?_⟩
    · rw [views]
      exact iff_of_false (by simp) fun ⟨v, one⟩ => nomatch one
    · exact Bool.eq_false_iff.mpr (List.filter_eq_nil_iff.mp views v mem)
  | some s =>
    rw [part, Option.toList_some, List.map_singleton] at views
    refine ⟨iff_of_true rfl ⟨_, views⟩, ?_, fun leads => (nomatch leads)⟩
    rintro t ⟨⟩
    exact ⟨rfl, _, views, rfl, rfl, rfl, rfl⟩

/-- A window of eight bytes with two parts, the later one offered first. -/
def pieces : Window :=
  .offered 8 [⟨5, 3, "upper", .rom, ⟨0⟩, 4⟩, ⟨2, 1, "lower", .ram, ⟨0⟩, 0⟩]

/-- Page 0 shows the second half of the window, which would begin below address 0. -/
def showHalf : List (Operation Probe) :=
  [.addTarget "backing" (.ram (.filled 8 7)), .addTarget "pieces" (.window pieces),
   .mapRange 0 4 { target := ⟨1⟩, perms := .all, region := .composite, targetOffset := 4 }]

/-- The bus with that page. -/
def halfShown : Bus Probe := (Bus.empty smallSpace).run showHalf

theorem views_agree_halfShown :
    (∀ o ∈ showHalf, o.AddsBuilt) ∧
      (halfShown.subRegionViews 0).map SubRegionView.start = [0xFFFFFFFE, 1] ∧
      (∃ v, (halfShown.subRegionViews 0).filter (·.contains 1) = [v] ∧ v.target = ⟨0⟩ ∧
        v.label = "upper" ∧ v.region = .rom) ∧
      ∀ v ∈ halfShown.subRegionViews 0, v.contains 0 = false := by
  have built : ∀ o ∈ showHalf, o.AddsBuilt := by
    simp only [showHalf, List.forall_mem_cons]
    exact ⟨trivial, ⟨8, _, rfl⟩, trivial, fun _ mem => nomatch mem⟩
  have live : halfShown.map.table.get? 0 =
      some ⟨some ⟨1⟩, .all, ⟨7⟩, .composite, 4, 0⟩ := by cbv
  have window : halfShown.arena.get? ⟨1⟩ = some (.window pieces) := by cbv
  have agree (address : UInt32) (on_page : halfShown.geometry.pageIndex address = some 0) :=
    views_agree_with_routes smallSpace showHalf built halfShown rfl live rfl window on_page
  refine ⟨built, by cbv, ?_, ?_⟩
  · have behind : halfShown.map.table.lookup 1 =
        some (⟨some ⟨1⟩, .all, ⟨7⟩, .composite, 4, 0⟩, 5) := by cbv
    have part : pieces.part? 5 = some ⟨5, 3, "upper", .rom, ⟨0⟩, 4⟩ := by cbv
    obtain ⟨offset, looked, -, leads, -⟩ := agree 1 (by cbv)
    cases behind.symm.trans looked
    obtain ⟨-, v, one, target, label, region, -⟩ := leads _ part
    exact ⟨v, one, target, label, region⟩
  · have behind : halfShown.map.table.lookup 0 =
        some (⟨some ⟨1⟩, .all, ⟨7⟩, .composite, 4, 0⟩, 4) := by cbv
    have lost : pieces.route 4 = none := by cbv
    obtain ⟨offset, looked, -, -, gap⟩ := agree 0 (by cbv)
    cases behind.symm.trans looked
    exact gap lost

end Bus
end Backplane
