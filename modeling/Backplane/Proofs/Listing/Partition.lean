import Mathlib
import Backplane.Listing.Regions
import Backplane.Proofs.Bus.Overflow

/-!
# The rows of a listing

A row stands for a run of pages (`RegionRow.Describes`): they have the target, the permissions,
the region and the device of the row, and if they are mapped, each goes on in the target where
the one before it ends. A listing is made page by page. A page that goes on with the one before
it (`PageEntry.GoesOn`) is taken into the last row; any other page begins a row, and leaves a
seam between the two. The rows so far, the last first, describe all pages so far and meet at
seams (`Listed`): one page keeps that, and so do all.

Whether a page goes on is asked in 32 bits, of the physical base of the page before. Pages that
are mapped end before the last of 32 bits in their targets, so the sum is exact.

The main statement is `listing_partitions`.
-/

namespace Backplane

/-! ## Pages that go on -/

/-- A page with the entry `e'` is answered as the page of `e` before it, and if they are mapped,
from where that ends. -/
structure PageEntry.GoesOn (pageBytes : Nat) (e e' : PageEntry) : Prop where
  target : e'.target = e.target
  perms : e'.perms = e.perms
  region : e'.region = e.region
  deviceId : e'.deviceId = e.deviceId
  physicalBase : e.isMapped = true → e'.physicalBase.toNat = e.physicalBase.toNat + pageBytes

namespace Geometry

variable (g : Geometry)

theorem pageMask_toNat : g.pageMask.toNat = g.pageBytes - 1 := by
  have pos := g.pageBytes_pos
  have one : (1 : UInt32) ≤ g.pageSize := by
    rw [UInt32.le_iff_toNat_le, g.pageSize_toNat]
    exact pos
  rw [pageMask, UInt32.toNat_sub_of_le _ _ one, g.pageSize_toNat]
  rfl

/-- The last address of a page of the space does not wrap. -/
theorem pageLast_toNat {page : Nat} (lt : page < g.pageCount) :
    (g.pageBase page + g.pageMask).toNat + 1 = (page + 1) * g.pageBytes := by
  have pos := g.pageBytes_pos
  have inside : (page + 1) * g.pageBytes ≤ g.pageCount * g.pageBytes :=
    Nat.mul_le_mul_right _ lt
  have space := g.spaceSize_le
  rw [g.pageCount_mul_pageBytes] at inside
  rw [UInt32.toNat_add, g.pageBase_toNat lt, g.pageMask_toNat]
  rw [Nat.add_mul, Nat.one_mul] at inside ⊢
  rw [Nat.mod_eq_of_lt (by omega)]
  omega

end Geometry

theorem PageTable.lt_of_get? {t : PageTable} {page : Nat} {entry : PageEntry}
    (here : t.get? page = some entry) : page < t.geometry.pageCount := by
  rw [← t.size_entries]
  exact (Array.getElem?_eq_some_iff.mp here).1

/-! ## Rows -/

namespace RegionRow

variable {σ : Type}

/-- The row stands for `count` pages from page `first` on: it begins and ends where they do,
they all are answered as it says, and if they are mapped, the distance of two pages in the
target is that of their addresses. -/
structure Describes (row : RegionRow) (b : Bus σ) (first count : Nat) : Prop where
  pos : 0 < count
  start_eq : row.start.toNat = first * b.geometry.pageBytes
  last_eq : row.last.toNat + 1 = (first + count) * b.geometry.pageBytes
  pages : ∃ base, b.map.table.get? first = some base ∧
    ∀ i < count, ∃ entry, b.map.table.get? (first + i) = some entry ∧
      entry.target = row.target ∧ entry.perms = row.perms ∧ entry.region = row.region ∧
      entry.deviceId = row.deviceId ∧
      (row.target.isSome = true →
        entry.physicalBase.toNat = base.physicalBase.toNat + i * b.geometry.pageBytes)

variable {b : Bus σ} {row : RegionRow} {rows : List RegionRow} {first count n : Nat}
  {e entry : PageEntry}

theorem describes_begin (here : b.map.table.get? n = some entry) :
    (begin b n entry).Describes b n 1 where
  pos := Nat.one_pos
  start_eq := b.geometry.pageBase_toNat (PageTable.lt_of_get? here)
  last_eq := b.geometry.pageLast_toNat (PageTable.lt_of_get? here)
  pages := by
    refine ⟨entry, here, fun i lt => ⟨entry, ?_, rfl, rfl, rfl, rfl, fun _ => ?_⟩⟩
    · rw [Nat.lt_one_iff.mp lt]
      exact here
    · rw [Nat.lt_one_iff.mp lt, Nat.zero_mul, Nat.add_zero]

/-- The last page of a row is answered as the row says. -/
theorem Describes.last_page (h : row.Describes b first count)
    (before : b.map.table.get? (first + count - 1) = some e) :
    e.target = row.target ∧ e.perms = row.perms ∧ e.region = row.region ∧
      e.deviceId = row.deviceId ∧
      ∀ base, b.map.table.get? first = some base → row.target.isSome = true →
        e.physicalBase.toNat =
          base.physicalBase.toNat + (count - 1) * b.geometry.pageBytes := by
  obtain ⟨base, found, pages⟩ := h.pages
  have pos := h.pos
  obtain ⟨e', before', target, perms, region, device, physical⟩ := pages (count - 1) (by omega)
  rw [← Nat.add_sub_assoc pos, before] at before'
  obtain rfl := Option.some.inj before'
  refine ⟨target, perms, region, device, fun base' found' => ?_⟩
  obtain rfl := Option.some.inj (found.symm.trans found')
  exact physical

/-- A page that goes on with the last page of a row is described by the row that ends with
it. -/
theorem Describes.extend (h : row.Describes b first count)
    (before : b.map.table.get? (first + count - 1) = some e)
    (here : b.map.table.get? (first + count) = some entry)
    (on : e.GoesOn b.geometry.pageBytes entry) :
    { row with last := b.geometry.pageBase (first + count) + b.geometry.pageMask }.Describes b
      first (count + 1) where
  pos := Nat.succ_pos count
  start_eq := h.start_eq
  last_eq := b.geometry.pageLast_toNat (PageTable.lt_of_get? here)
  pages := by
    obtain ⟨base, found, pages⟩ := h.pages
    obtain ⟨target, perms, region, device, physical⟩ := h.last_page before
    refine ⟨base, found, fun i lt => ?_⟩
    rcases Nat.lt_succ_iff_lt_or_eq.mp lt with lt | rfl
    · exact pages i lt
    · refine ⟨entry, here, on.target.trans target, on.perms.trans perms, on.region.trans region,
        on.deviceId.trans device, fun mapped => ?_⟩
      rw [on.physicalBase (by rw [PageEntry.isMapped, target]; exact mapped),
        physical base found mapped, Nat.add_assoc, ← Nat.succ_mul, Nat.succ_eq_add_one,
        Nat.sub_add_cancel h.pos]

/-- Within a row, each page goes on with the one before it. -/
theorem Describes.goesOn (h : row.Describes b first count) {i : Nat} (lt : i + 1 < count) :
    ∃ e e', b.map.table.get? (first + i) = some e ∧
      b.map.table.get? (first + i + 1) = some e' ∧ e.GoesOn b.geometry.pageBytes e' := by
  obtain ⟨base, -, pages⟩ := h.pages
  obtain ⟨e, before, target, perms, region, device, physical⟩ := pages i (by omega)
  obtain ⟨e', here, target', perms', region', device', physical'⟩ := pages (i + 1) lt
  refine ⟨e, e', before, here, target'.trans target.symm, perms'.trans perms.symm,
    region'.trans region.symm, device'.trans device.symm, fun mapped => ?_⟩
  rw [PageEntry.isMapped, target] at mapped
  rw [physical' mapped, physical mapped, Nat.succ_mul, Nat.add_assoc]

/-- Whether a page goes on with a row is whether it goes on with the last page of the row. -/
theorem Describes.continues_iff (h : row.Describes b first count)
    (before : b.map.table.get? (first + count - 1) = some e)
    (room : e.Roomy b.geometry.pageBytes) :
    row.continues b.geometry e.physicalBase entry = true ↔
      e.GoesOn b.geometry.pageBytes entry := by
  obtain ⟨target, perms, region, device, -⟩ := h.last_page before
  -- Where the page before is mapped, the sum of its base and the page size does not wrap.
  have sum (mapped : e.isMapped = true) :
      entry.physicalBase = e.physicalBase + b.geometry.pageSize ↔
        entry.physicalBase.toNat = e.physicalBase.toNat + b.geometry.pageBytes := by
    rw [← UInt32.toNat_inj, UInt32.toNat_add, b.geometry.pageSize_toNat,
      Nat.mod_eq_of_lt (room mapped)]
  simp only [continues, Bool.and_eq_true, Bool.or_eq_true, decide_eq_true_eq, ← target, ← perms,
    ← region, ← device]
  constructor
  · rintro ⟨⟨⟨⟨adjacent, target⟩, perms⟩, region⟩, device⟩
    refine ⟨target.symm, perms.symm, region.symm, device.symm, fun mapped => ?_⟩
    rw [PageEntry.isMapped, target] at mapped
    rcases adjacent with unmapped | adjacent
    · rw [Option.isNone_iff_eq_none.mp unmapped] at mapped
      cases mapped
    · rw [PageEntry.isMapped, target] at sum
      exact (sum mapped).mp adjacent
  · intro on
    refine ⟨⟨⟨⟨?_, on.target.symm⟩, on.perms.symm⟩, on.region.symm⟩, on.deviceId.symm⟩
    cases mapped : e.isMapped with
    | false =>
      rw [PageEntry.isMapped, ← on.target] at mapped
      exact .inl (Option.isSome_eq_false_iff.mp mapped)
    | true => exact .inr ((sum mapped).mpr (on.physicalBase mapped))

/-- Some row that begins where `row` does and ends where `next` does describes its pages. -/
def Joinable (b : Bus σ) (row next : RegionRow) : Prop :=
  ∃ (joined : RegionRow) (first count : Nat), joined.start = row.start ∧
    joined.last = next.last ∧ joined.Describes b first count

/-! ## Seams -/

/-- Page `n` does not go on with the page before it. -/
def Seam (b : Bus σ) (n : Nat) : Prop :=
  ∀ e e', b.map.table.get? (n - 1) = some e → b.map.table.get? n = some e' →
    ¬e.GoesOn b.geometry.pageBytes e'

/-- Rows that meet at a seam cannot be one row. -/
theorem Describes.not_joinable {next : RegionRow} {count' : Nat}
    (h : row.Describes b first count) (h' : next.Describes b (first + count) count')
    (seam : Seam b (first + count)) : ¬Joinable b row next := by
  rintro ⟨joined, first', whole, start_eq, last_eq, describes⟩
  have bytes := b.geometry.pageBytes_pos
  have same : first' = first := by
    refine Nat.eq_of_mul_eq_mul_right bytes ?_
    rw [← describes.start_eq, start_eq, h.start_eq]
  have length : first' + whole = first + count + count' := by
    refine Nat.eq_of_mul_eq_mul_right bytes ?_
    rw [← describes.last_eq, last_eq, h'.last_eq]
  obtain ⟨pos, pos'⟩ := And.intro h.pos h'.pos
  obtain ⟨e, e', before, here, on⟩ := describes.goesOn (i := count - 1) (by omega)
  have seam_at : first' + (count - 1) + 1 = first + count := by omega
  have before_at : first' + (count - 1) = first + count - 1 := by omega
  rw [before_at] at before
  rw [seam_at] at here
  exact seam e e' before here on

/-- The rows, the last first, describe the first `n` pages and meet at seams. -/
inductive Listed (b : Bus σ) : List RegionRow → Nat → Prop where
  /-- There is one row. -/
  | one {row : RegionRow} {count : Nat} : row.Describes b 0 count → Listed b [row] count
  /-- A row follows others. -/
  | more {row : RegionRow} {rows : List RegionRow} {first count : Nat} : Listed b rows first →
    row.Describes b first count → Seam b first → Listed b (row :: rows) (first + count)

/-- The last row so far ends with the last page so far. -/
theorem Listed.head (h : Listed b (row :: rows) n) :
    ∃ first count, row.Describes b first count ∧ first + count = n := by
  cases h with
  | one describes => exact ⟨0, _, describes, Nat.zero_add _⟩
  | more _ describes _ => exact ⟨_, _, describes, rfl⟩

/-- A page that goes on is taken into the last row. -/
theorem Listed.extend (h : Listed b (row :: rows) n)
    (before : b.map.table.get? (n - 1) = some e) (here : b.map.table.get? n = some entry)
    (on : e.GoesOn b.geometry.pageBytes entry) :
    Listed b ({ row with last := b.geometry.pageBase n + b.geometry.pageMask } :: rows)
      (n + 1) := by
  cases h with
  | one describes =>
    rw [← Nat.zero_add n] at before here
    have longer := describes.extend before here on
    rw [Nat.zero_add] at longer
    exact .one longer
  | @more _ _ first count listed describes seam =>
    rw [Nat.add_assoc]
    exact .more listed (describes.extend before here on) seam

/-- A page that does not go on begins a row. -/
theorem Listed.begin (h : Listed b rows n)
    (before : b.map.table.get? (n - 1) = some e) (here : b.map.table.get? n = some entry)
    (off : ¬e.GoesOn b.geometry.pageBytes entry) :
    Listed b (RegionRow.begin b n entry :: rows) (n + 1) := by
  refine .more h (describes_begin here) fun e₁ e₂ before' here' on => ?_
  cases before.symm.trans before'
  cases here.symm.trans here'
  exact off on

variable {entries : List PageEntry}

/-- All pages that are left are listed in turn. -/
theorem Listed.collect (h : Listed b (row :: rows) n) (roomy : b.Roomy)
    (before : b.map.table.get? (n - 1) = some e)
    (left : ∀ i, entries[i]? = b.map.table.get? (n + i)) :
    ∃ all, RegionRow.collect b (row :: rows) e.physicalBase n entries = all.reverse ∧
      Listed b all (n + entries.length) := by
  induction entries generalizing row rows n e with
  | nil => exact ⟨row :: rows, rfl, h⟩
  | cons entry entries ih =>
    have here : b.map.table.get? n = some entry := (left 0).symm
    have rest (i : Nat) : entries[i]? = b.map.table.get? (n + 1 + i) := by
      rw [Nat.add_assoc, Nat.add_comm 1, ← left (i + 1), List.getElem?_cons_succ]
    have length : n + (entry :: entries).length = n + 1 + entries.length := by
      rw [List.length_cons, Nat.add_assoc, Nat.add_comm 1]
    obtain ⟨first, count, describes, rfl⟩ := h.head
    have room := roomy.entries e (.live before)
    rw [length, RegionRow.collect]
    split
    · rename_i on
      exact ih (h.extend before here ((describes.continues_iff before room).mp on)) here rest
    · rename_i off
      have off := mt (describes.continues_iff before room).mpr off
      exact ih (h.begin before here off) here rest

theorem listed (roomy : b.Roomy) :
    ∃ all, listing b = all.reverse ∧ Listed b all b.geometry.pageCount := by
  have size := b.map.table.size_entries
  rw [← Array.length_toList] at size
  have left (i : Nat) : b.map.table.entries.toList[i]? = b.map.table.get? i :=
    Array.getElem?_toList
  rw [listing]
  generalize b.map.table.entries.toList = entries at size left
  cases entries with
  | nil => exact absurd size.symm (Nat.ne_of_gt b.map.table.geometry.pageCount_pos)
  | cons entry entries =>
    have here : b.map.table.get? 0 = some entry := (left 0).symm
    have rest (i : Nat) : entries[i]? = b.map.table.get? (1 + i) := by
      rw [Nat.add_comm, ← left (i + 1), List.getElem?_cons_succ]
    obtain ⟨all, eq, listed⟩ := (Listed.one (describes_begin here)).collect roomy here rest
    rw [List.length_cons, Nat.add_comm] at size
    rw [size] at listed
    exact ⟨all, eq, listed⟩

/-! ## What is listed -/

theorem Listed.describes (h : Listed b rows n) :
    ∀ row ∈ rows, ∃ first count, row.Describes b first count := by
  induction h with
  | one describes => exact List.forall_mem_singleton.mpr ⟨_, _, describes⟩
  | more _ describes _ ih => exact List.forall_mem_cons.mpr ⟨⟨_, _, describes⟩, ih⟩

/-- The first row begins with the first page. -/
theorem Listed.first_row (h : Listed b rows n) :
    ∃ row, rows.getLast? = some row ∧ row.start.toNat = 0 := by
  induction h with
  | @one row _ describes => exact ⟨row, rfl, by rw [describes.start_eq, Nat.zero_mul]⟩
  | more listed _ _ ih =>
    obtain ⟨row, last, start⟩ := ih
    exact ⟨row, by rw [List.getLast?_cons, last]; rfl, start⟩

/-- Each row begins where the one before it ends, and cannot be joined to it. -/
theorem Listed.isChain (h : Listed b rows n) :
    rows.IsChain fun next row =>
      next.start.toNat = row.last.toNat + 1 ∧ ¬Joinable b row next := by
  induction h with
  | one => exact .singleton _
  | @more _ rows _ _ listed describes seam ih =>
    cases rows with
    | nil => cases listed
    | cons row rows =>
      obtain ⟨first, count, before, rfl⟩ := listed.head
      refine List.isChain_cons_cons.mpr ⟨⟨?_, before.not_joinable describes seam⟩, ih⟩
      rw [describes.start_eq, before.last_eq]

variable [DeviceModel σ]

/-- The listing of a bus that is reached parts its address space into rows. The first begins at
address 0, each begins behind the one before it, and the last ends with the space. Every row
stands for a run of pages, all with its target, permissions, region and device, and if they are
mapped, as far apart in the target as their addresses are. No two rows that follow each other
could be one row. -/
theorem listing_partitions (reachable : b.Reachable) :
    (∃ row, (listing b).head? = some row ∧ row.start.toNat = 0) ∧
      (∃ row, (listing b).getLast? = some row ∧ row.last.toNat + 1 = b.geometry.spaceSize) ∧
      (listing b).IsChain (fun row next =>
        next.start.toNat = row.last.toNat + 1 ∧ ¬Joinable b row next) ∧
      ∀ row ∈ listing b, ∃ first count, row.Describes b first count := by
  obtain ⟨all, eq, listed⟩ := RegionRow.listed reachable.roomy
  rw [eq]
  refine ⟨?_, ?_, List.isChain_reverse.mpr listed.isChain, fun row mem => ?_⟩
  · rw [List.head?_reverse]
    exact listed.first_row
  · rw [List.getLast?_reverse]
    cases all with
    | nil => cases listed
    | cons row rows =>
      obtain ⟨first, count, describes, pages⟩ := listed.head
      refine ⟨row, rfl, ?_⟩
      rw [describes.last_eq, pages, b.geometry.pageCount_mul_pageBytes]
  · exact listed.describes row (List.mem_reverse.mp mem)

/-- Eight bytes on the first two pages, and the first four of them again on the next. -/
def mirrored : Bus Probe :=
  (Bus.empty smallSpace).run
    [.addTarget "rom" (.rom (.filled 8 7)),
     .mapRange 0 8 { target := ⟨0⟩, perms := .all, region := .rom },
     .mapRange 8 4 { target := ⟨0⟩, perms := .all, region := .rom }]

/-- The mirror of a page is a row of its own, though all but its place in the target is the
same. -/
theorem listing_partitions_mirrored :
    mirrored.Reachable ∧
      (listing mirrored).map (fun row => (row.start, row.last)) = [(0, 7), (8, 11), (12, 15)] ∧
      (listing mirrored).IsChain (fun row next => ¬Joinable mirrored row next) := by
  have reachable : mirrored.Reachable := (Bus.Reachable.empty smallSpace).run _
  obtain ⟨-, -, chain, -⟩ := listing_partitions reachable
  exact ⟨reachable, by cbv, chain.imp fun _ _ meet => meet.2⟩

end RegionRow
end Backplane
