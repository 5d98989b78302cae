import Mathlib
import Backplane.Proofs.Listing.Partition
import Backplane.Proofs.Listing.Views

/-!
# How far views reach

The views of a row are those of its first page: they show all parts of the window, wherever
they would lie if all of it were mapped as that page is. The pages of a row lie as far apart in
the window as in the space, so for all of them the window begins at one address
(`originOf_of_distance`), and on the row each view says what routing makes of an address. Off
the row it says so for the pages that show the window from the same address, and is silent
about all others: they may not be mapped, or a layer may have put something else there.

The main statement is `views_hold_on_rows`.
-/

namespace Backplane

namespace Geometry

variable (g : Geometry)

theorem pageBase_add (first i : Nat) :
    g.pageBase (first + i) = g.pageBase first + (i * g.pageBytes).toUInt32 := by
  rw [pageBase, Nat.add_mul]
  exact UInt32.ofNat_add _ _

/-- An address between the first of one page of the space and the last of another is on a page
between the two. -/
theorem exists_page {start last address : UInt32} {first count : Nat}
    (start_eq : start.toNat = first * g.pageBytes)
    (last_eq : last.toNat + 1 = (first + count) * g.pageBytes)
    (inside : first + count ≤ g.pageCount) (from_start : start ≤ address)
    (to_last : address ≤ last) : ∃ i < count, g.pageIndex address = some (first + i) := by
  have pos := g.pageBytes_pos
  have low := UInt32.le_iff_toNat_le.mp from_start
  have high := UInt32.le_iff_toNat_le.mp to_last
  have after : first ≤ g.pageOf address := (Nat.le_div_iff_mul_le pos).mpr (by omega)
  have before : g.pageOf address < first + count := (Nat.div_lt_iff_lt_mul pos).mpr (by omega)
  have space : (first + count) * g.pageBytes ≤ g.spaceSize := by
    rw [← g.pageCount_mul_pageBytes]
    exact Nat.mul_le_mul_right _ inside
  refine ⟨g.pageOf address - first, by omega, ?_⟩
  rw [pageIndex, if_pos (by simp only [contains, decide_eq_true_eq]; omega)]
  exact congrArg some (Nat.add_sub_cancel' after).symm

end Geometry

namespace Bus

variable {σ : Type} {b : Bus σ}

/-- Two pages as far apart in their targets as in the space show targets that begin at the same
address. -/
theorem originOf_of_distance {base entry : PageEntry} {first i : Nat}
    (distance : entry.physicalBase.toNat = base.physicalBase.toNat + i * b.geometry.pageBytes) :
    b.originOf (first + i) entry = b.originOf first base := by
  have bound := entry.physicalBase.toNat_lt
  have apart : entry.physicalBase = base.physicalBase + (i * b.geometry.pageBytes).toUInt32 := by
    have small : (i * b.geometry.pageBytes).toUInt32.toNat = i * b.geometry.pageBytes :=
      Nat.mod_eq_of_lt (by omega)
    rw [← UInt32.toNat_inj, UInt32.toNat_add, small, distance, Nat.mod_eq_of_lt (by omega)]
  rw [originOf, originOf, b.geometry.pageBase_add, apart]
  grind

/-- A page with views shows a window. -/
theorem exists_window {page : Nat} {entry : PageEntry} {v : SubRegionView}
    (here : b.map.table.get? page = some entry) (shown : v ∈ b.subRegionViews page) :
    ∃ id w, entry.target = some id ∧ b.arena.get? id = some (.window w) := by
  rw [subRegionViews, here] at shown
  dsimp only at shown
  cases parts : entry.target.bind b.arena.subRegions? with
  | none =>
    rw [parts] at shown
    cases shown
  | some subs =>
    obtain ⟨id, mapped, of_id⟩ := Option.bind_eq_some_iff.mp parts
    rw [Arena.subRegions?] at of_id
    split at of_id
    · rename_i w window
      exact ⟨id, w, mapped, window⟩
    · cases of_id

end Bus

namespace RegionRow

variable {σ : Type} {b : Bus σ} {row : RegionRow} {rows : List RegionRow}
  {entries : List PageEntry} {n : Nat} {before : UInt32}

/-! ## The views of a row -/

/-- What holds of a row when a page begins it, and still when another page is taken into it,
holds of all that is listed. -/
theorem collect_induction {P : RegionRow → Prop}
    (begins : ∀ page entry, b.map.table.get? page = some entry → P (begin b page entry))
    (grows : ∀ row last, P row → P { row with last := last })
    (left : ∀ i, entries[i]? = b.map.table.get? (n + i)) (rows_hold : ∀ row ∈ rows, P row) :
    ∀ row ∈ collect b rows before n entries, P row := by
  induction entries generalizing rows n before with
  | nil =>
    cases rows <;> exact fun row mem => rows_hold row (List.mem_reverse.mp mem)
  | cons entry entries ih =>
    have here := begins n entry (left 0).symm
    have rest (i : Nat) : entries[i]? = b.map.table.get? (n + 1 + i) := by
      rw [Nat.add_assoc, Nat.add_comm 1, ← left (i + 1), List.getElem?_cons_succ]
    cases rows with
    | nil => exact ih rest (List.forall_mem_singleton.mpr here)
    | cons last rows =>
      obtain ⟨last_holds, rows_hold'⟩ := List.forall_mem_cons.mp rows_hold
      rw [collect]
      split
      · exact ih rest (List.forall_mem_cons.mpr ⟨grows _ _ last_holds, rows_hold'⟩)
      · exact ih rest (List.forall_mem_cons.mpr ⟨here, rows_hold⟩)

/-- A row has the views of the page it begins with. -/
theorem subs_of_mem_listing (listed : row ∈ listing b) :
    ∃ page < b.geometry.pageCount, row.start = b.geometry.pageBase page ∧
      row.subs = b.subRegionViews page :=
  collect_induction
    (P := fun row => ∃ page < b.geometry.pageCount, row.start = b.geometry.pageBase page ∧
      row.subs = b.subRegionViews page)
    (fun page _ here => ⟨page, PageTable.lt_of_get? here, rfl, rfl⟩) (fun _ _ holds => holds)
    (fun i => by rw [Nat.zero_add, Array.getElem?_toList]; rfl)
    (fun _ mem => absurd mem List.not_mem_nil) row listed

theorem Describes.subs_eq {first count : Nat} (h : row.Describes b first count)
    (listed : row ∈ listing b) : row.subs = b.subRegionViews first := by
  obtain ⟨page, lt, start, subs⟩ := subs_of_mem_listing listed
  have same : page = first := by
    refine Nat.eq_of_mul_eq_mul_right b.geometry.pageBytes_pos ?_
    rw [← b.geometry.pageBase_toNat lt, ← start, h.start_eq]
  rw [subs, same]

theorem Describes.start_le_last {first count : Nat} (h : row.Describes b first count) :
    row.start ≤ row.last := by
  have pages := Nat.mul_le_mul_right b.geometry.pageBytes h.pos
  have bytes := b.geometry.pageBytes_pos
  have last := h.last_eq
  rw [Nat.add_mul] at last
  rw [UInt32.le_iff_toNat_le, h.start_eq]
  omega

theorem Describes.first_page {first count : Nat} (h : row.Describes b first count) :
    ∃ base, b.map.table.get? first = some base ∧ base.target = row.target := by
  obtain ⟨_, _, pages⟩ := h.pages
  obtain ⟨base, found, target, -⟩ := pages 0 h.pos
  exact ⟨base, found, target⟩

/-- Each address of a row is on a page that is answered as the row says, and whose target, if
there is one, begins at the same address as that of the first page. -/
theorem Describes.exists_page {first count : Nat} (h : row.Describes b first count)
    {base : PageEntry} (found : b.map.table.get? first = some base) {address : UInt32}
    (from_start : row.start ≤ address) (to_last : address ≤ row.last) :
    ∃ page entry, b.geometry.pageIndex address = some page ∧
      b.map.table.get? page = some entry ∧ entry.target = row.target ∧
      (row.target.isSome = true → b.originOf page entry = b.originOf first base) := by
  obtain ⟨base', found', pages⟩ := h.pages
  cases found.symm.trans found'
  have pos := h.pos
  obtain ⟨_, last, -⟩ := pages (count - 1) (by omega)
  have bound : first + (count - 1) < b.geometry.pageCount := PageTable.lt_of_get? last
  obtain ⟨i, lt, on_page⟩ :=
    b.geometry.exists_page h.start_eq h.last_eq (by omega) from_start to_last
  obtain ⟨entry, here, target, -, -, -, distance⟩ := pages i lt
  exact ⟨first + i, entry, on_page, here, target,
    fun mapped => Bus.originOf_of_distance (distance mapped)⟩

/-- The page table leads the begin of a row to where the target of its first page begins. -/
theorem Describes.lookup_start {first count : Nat} (h : row.Describes b first count)
    {base : PageEntry} (found : b.map.table.get? first = some base) :
    ∃ entry offset, b.map.table.lookup row.start = some (entry, offset) ∧
      entry.target = row.target ∧
      (row.target.isSome = true → row.start - offset = b.originOf first base) := by
  obtain ⟨page, entry, on_page, here, target, origin⟩ :=
    h.exists_page found (UInt32.le_refl _) h.start_le_last
  generalize sum : entry.physicalBase + b.geometry.pageOffset row.start = offset
  refine ⟨entry, offset, PageTable.lookup_eq_some_iff.mpr ⟨page, on_page, here, sum⟩, target,
    fun mapped => ?_⟩
  have place := Bus.originOf_add on_page sum
  rw [← origin mapped]
  grind

/-! ## What a view says -/

/-- The live page table leads the address to an offset in the window of the row, and routing
leads on from there through the part that the view shows, as far into it as the address lies
behind the start of the view. -/
def AnswersAs (b : Bus σ) (row : RegionRow) (v : SubRegionView) (address : UInt32) : Prop :=
  ∃ id w entry offset s, row.target = some id ∧ b.arena.get? id = some (.window w) ∧
    b.map.table.lookup address = some (entry, offset) ∧ entry.target = row.target ∧
    w.part? offset = some s ∧ v = b.arena.viewAt (address - offset) s ∧
    w.route offset = some (v.target, s.targetOffset + (address - v.start))

theorem AnswersAs.lookup_target {v : SubRegionView} {address : UInt32}
    (h : row.AnswersAs b v address) :
    (b.map.table.lookup address).map (·.1.target) = some row.target := by
  obtain ⟨_, _, entry, offset, _, -, -, looked, target, -⟩ := h
  rw [looked, Option.map_some, target]

/-- A view of a page holds of an address on any page that shows the window from the same
address. -/
theorem answersAs_of_origin {page first : Nat} {base entry : PageEntry} {v : SubRegionView}
    {address : UInt32} (built : b.arena.Assembled) (first_page : b.map.table.get? first = some base)
    (first_target : base.target = row.target) (shown : v ∈ b.subRegionViews first)
    (contains : v.contains address = true) (on_page : b.geometry.pageIndex address = some page)
    (here : b.map.table.get? page = some entry) (target : entry.target = row.target)
    (origin : b.originOf page entry = b.originOf first base) : row.AnswersAs b v address := by
  obtain ⟨id, w, mapped, window⟩ : ∃ id w, base.target = some id ∧
      b.arena.get? id = some (.window w) := Bus.exists_window first_page shown
  have whole := built id w window
  rw [Bus.subRegionViews_eq first_page mapped window, ← origin] at shown
  obtain ⟨s, part, rfl⟩ := List.mem_map.mp shown
  have fits : s.stop ≤ 2 ^ 32 :=
    Nat.le_trans (whole.stop_le s part) (Nat.le_of_lt w.size.toNat_lt)
  generalize sum : entry.physicalBase + b.geometry.pageOffset address = offset
  have place := Bus.originOf_add on_page sum
  have covers : s.contains offset = true := by
    rwa [← b.arena.contains_viewAt _ fits, place]
  have through := whole.part?_eq_some_iff.mpr ⟨part, covers⟩
  refine ⟨id, w, entry, offset, s, first_target.symm.trans mapped, window,
    PageTable.lookup_eq_some_iff.mpr ⟨page, on_page, here, sum⟩, target, through, ?_, ?_⟩
  · rw [← place]
    congr 1
    grind
  · have distance : address - (b.originOf page entry + s.offset) = offset - s.offset := by
      rw [← place]
      grind
    rw [Window.route_eq_map, through, Arena.viewAt, distance]
    rfl

variable [DeviceModel σ]

/-- Whatever was done to a bus whose windows were built part by part, the views of a row that is
listed are those of all parts of its window, placed where the window would begin if all of it were
mapped as the row's first page is; a row that shows no window has none. Each view holds of all its
addresses that lie on the row. Off the row it holds of the addresses whose page shows the window
of the row from the same address. -/
theorem views_hold_on_rows (geometry : Geometry) (os : List (Operation σ))
    (built : ∀ o ∈ os, o.AddsBuilt) (b : Bus σ) (reached : b = (Bus.empty geometry).run os)
    (listed : row ∈ listing b) :
    ∃ base first, b.map.table.lookup row.start = some (base, first) ∧ base.target = row.target ∧
      (∀ id w, row.target = some id → b.arena.get? id = some (.window w) →
        row.subs = w.subs.map (b.arena.viewAt (row.start - first))) ∧
      ((∀ id w, row.target = some id → b.arena.get? id ≠ some (.window w)) → row.subs = []) ∧
      ∀ v ∈ row.subs, ∀ address, v.contains address = true →
        (row.start ≤ address → address ≤ row.last → row.AnswersAs b v address) ∧
        ∀ entry offset, b.map.table.lookup address = some (entry, offset) →
          entry.target = row.target → address - offset = row.start - first →
          row.AnswersAs b v address := by
  have reachable : b.Reachable := reached ▸ (Bus.Reachable.empty geometry).run os
  have windows : b.arena.Assembled :=
    reached ▸ Bus.assembled_run (Bus.assembled_empty geometry) built
  obtain ⟨all, eq, rows⟩ := RegionRow.listed reachable.roomy
  have among : row ∈ all := by rwa [eq, List.mem_reverse] at listed
  obtain ⟨page, count, describes⟩ := rows.describes row among
  obtain ⟨base, found, base_target⟩ := describes.first_page
  obtain ⟨entry, first, at_start, start_target, start_origin⟩ := describes.lookup_start found
  rw [describes.subs_eq listed]
  refine ⟨entry, first, at_start, start_target, fun id w mapped window => ?_, fun bare => ?_,
    fun v shown address contains => ?_⟩
  · have some_target : row.target.isSome = true := by rw [mapped]; rfl
    rw [Bus.subRegionViews_eq found (base_target.trans mapped) window, start_origin some_target]
  · refine List.eq_nil_iff_forall_not_mem.mpr fun v shown => ?_
    obtain ⟨id, w, mapped, window⟩ := Bus.exists_window found shown
    exact bare id w (base_target.symm.trans mapped) window
  obtain ⟨id, w, mapped, -⟩ := Bus.exists_window found shown
  have some_target : row.target.isSome = true := by rw [← base_target, mapped]; rfl
  refine ⟨fun from_start to_last => ?_, fun other offset looked target same => ?_⟩
  · obtain ⟨page', other, on_page, here, target, origin⟩ :=
      describes.exists_page found from_start to_last
    exact answersAs_of_origin windows found base_target shown contains on_page here target
      (origin some_target)
  · obtain ⟨page', on_page, here, sum⟩ := PageTable.lookup_eq_some_iff.mp looked
    refine answersAs_of_origin windows found base_target shown contains on_page here target ?_
    have place := Bus.originOf_add on_page sum
    calc b.originOf page' other
      _ = address - offset := by grind
      _ = row.start - first := same
      _ = b.originOf page base := start_origin some_target

/-- A window of sixteen bytes without gaps. -/
def parted : Window :=
  .offered 16
    [⟨0, 4, "near", .ram, ⟨0⟩, 0⟩, ⟨4, 4, "middle", .io, ⟨0⟩, 4⟩, ⟨8, 8, "far", .rom, ⟨0⟩, 8⟩]

/-- Three quarters of the window are mapped, and a layer hides the second. -/
def cover : List (Operation Probe) :=
  [.addTarget "backing" (.ram (.filled 16 7)), .addTarget "parted" (.window parted),
   .mapRange 0 12 { target := ⟨1⟩, perms := .all, region := .composite },
   .createLayer "cover" 0, .saveBase 1 1,
   .setLayerMapping "cover" { base := 4, target := ⟨0⟩, perms := .all, length := some 4 },
   .activateNamed "cover"]

theorem addsBuilt_cover : ∀ o ∈ cover, o.AddsBuilt := by
  simp only [cover, List.forall_mem_cons]
  exact ⟨trivial, ⟨16, _, rfl⟩, trivial, trivial, trivial, trivial, trivial,
    fun _ mem => absurd mem List.not_mem_nil⟩

/-- The bus with the window that is cut in two. -/
def covered : Bus Probe := (Bus.empty smallSpace).run cover

/-- What is listed of the window at the range of addresses. -/
def partedRow (start last : UInt32) : RegionRow where
  start := start
  last := last
  target := some ⟨1⟩
  targetName := "parted"
  kind := "composite"
  perms := .all
  region := .composite
  deviceId := 0
  subs := [⟨0, 4, "near", .ram, ⟨0⟩, "backing"⟩, ⟨4, 4, "middle", .io, ⟨0⟩, "backing"⟩,
    ⟨8, 8, "far", .rom, ⟨0⟩, "backing"⟩]

/-- All parts of the window are listed with the first row, and the last of these views holds of an
address that is listed in another row, which shows the window from the same address, as it does
there. -/
theorem views_hold_covered :
    let far : SubRegionView := ⟨8, 8, "far", .rom, ⟨0⟩, "backing"⟩
    (∀ o ∈ cover, o.AddsBuilt) ∧
      partedRow 0 3 ∈ listing covered ∧
      (partedRow 0 3).subs = parted.subs.map (covered.arena.viewAt 0) ∧
      (partedRow 0 3).AnswersAs covered far 9 ∧
      partedRow 8 11 ∈ listing covered ∧ (partedRow 8 11).AnswersAs covered far 9 := by
  intro far
  have first : partedRow 0 3 ∈ listing covered := by decide_cbv
  have third : partedRow 8 11 ∈ listing covered := by decide_cbv
  have at_start : covered.map.table.lookup 0 =
      some (⟨some ⟨1⟩, .all, ⟨7⟩, .composite, 0, 0⟩, 0) := by cbv
  have here : covered.map.table.lookup 9 =
      some (⟨some ⟨1⟩, .all, ⟨7⟩, .composite, 8, 0⟩, 9) := by cbv
  have window : covered.arena.get? ⟨1⟩ = some (.window parted) := by cbv
  obtain ⟨_, _, found, -, shows, -, hold⟩ :=
    views_hold_on_rows smallSpace cover addsBuilt_cover covered rfl first
  obtain ⟨_, _, -, -, -, -, hold'⟩ :=
    views_hold_on_rows smallSpace cover addsBuilt_cover covered rfl third
  cases at_start.symm.trans found
  have inside : far.contains 9 = true := by decide
  obtain ⟨-, same_origin⟩ := hold far (by decide) 9 inside
  obtain ⟨on_row, -⟩ := hold' far (by decide) 9 inside
  exact ⟨addsBuilt_cover, first, shows ⟨1⟩ parted rfl window,
    same_origin _ _ here rfl (by decide), third, on_row (by decide) (by decide)⟩

/-- Of the same row, one view has an address that the layer leads elsewhere, and one an address
that is not mapped. -/
theorem views_silent_covered :
    let row := partedRow 0 3
    let middle : SubRegionView := ⟨4, 4, "middle", .io, ⟨0⟩, "backing"⟩
    let far : SubRegionView := ⟨8, 8, "far", .rom, ⟨0⟩, "backing"⟩
    (∀ o ∈ cover, o.AddsBuilt) ∧ row ∈ listing covered ∧
      (middle ∈ row.subs ∧ middle.contains 4 = true ∧
        (covered.map.table.lookup 4).map (·.1.target) = some (some ⟨0⟩) ∧
        ¬row.AnswersAs covered middle 4) ∧
      far ∈ row.subs ∧ far.contains 13 = true ∧
        (covered.map.table.lookup 13).map (·.1.target) = some none ∧
        ¬row.AnswersAs covered far 13 := by
  intro row middle far
  have hidden : (covered.map.table.lookup 4).map (·.1.target) = some (some ⟨0⟩) := by cbv
  have unmapped : (covered.map.table.lookup 13).map (·.1.target) = some none := by cbv
  refine ⟨addsBuilt_cover, by decide_cbv, ⟨by decide, by decide, hidden, fun answers => ?_⟩,
    by decide, by decide, unmapped, fun answers => ?_⟩
  · exact absurd (hidden.symm.trans answers.lookup_target) (by decide)
  · exact absurd (unmapped.symm.trans answers.lookup_target) (by decide)

end RegionRow
end Backplane
