import Mathlib
import Backplane.Device.Switch
import Backplane.Proofs.Bus.Follows
import Backplane.Proofs.Overlay.Entries
import Backplane.Proofs.Target.Contents
import Backplane.Proofs.Target.Reach

/-!
# Entries stay within their targets

A page entry names a target and an offset in it, and all offsets of the page must
lie within the target: otherwise the sum that `PageTable.lookup` forms would wrap,
or an access would lead past the end. Ranges and layers are checked when they are
mapped, each with its own arithmetic, and entries outlive the check. `Fits` is
what the checks establish. Targets keep their sizes, and no change of the map
makes an entry up, so it holds of every entry that a bus ever holds.

The main statement is `held_entry_in_bounds`.
-/

namespace Backplane

/-! ## Arithmetic of pages -/

namespace Geometry

variable (g : Geometry)

theorem pageSize_toNat : g.pageSize.toNat = g.pageBytes := by
  have lt : g.pageBytes < UInt32.size := by
    rw [pageBytes, Nat.one_shiftLeft]
    exact Nat.pow_lt_pow_right (by omega) g.pageShift_lt
  exact Nat.mod_eq_of_lt lt

theorem pageOffset_toNat (address : UInt32) :
    (g.pageOffset address).toNat = address.toNat % g.pageBytes := by
  have lt := Nat.lt_of_le_of_lt (Nat.mod_le address.toNat g.pageBytes) address.toNat_lt
  exact Nat.mod_eq_of_lt lt

/-- A page is a whole number of accesses of any width. -/
theorem bytes_dvd_pageBytes (width : Width) : width.bytes ∣ g.pageBytes := by
  have four : 4 ∣ g.pageBytes := by
    rw [pageBytes, Nat.one_shiftLeft]
    exact Nat.pow_dvd_pow 2 g.two_le_pageShift
  cases width with
  | byte => exact Nat.one_dvd _
  | half => exact Nat.dvd_trans (by decide) four
  | word => exact four

/-- An aligned access ends on the page on which it begins. -/
theorem aligned_fits {address : UInt32} {width : Width}
    (aligned : address.toNat % width.bytes = 0) :
    address.toNat % g.pageBytes + width.bytes ≤ g.pageBytes := by
  obtain ⟨n, pages⟩ := g.bytes_dvd_pageBytes width
  have multiple : width.bytes ∣ address.toNat % g.pageBytes :=
    (Nat.dvd_mod_iff (g.bytes_dvd_pageBytes width)).mpr (Nat.dvd_of_mod_eq_zero aligned)
  obtain ⟨k, offset⟩ := multiple
  have lt := Nat.mod_lt address.toNat g.pageBytes_pos
  rw [offset] at lt ⊢
  rw [pages] at lt ⊢
  exact Nat.mul_le_mul_left width.bytes (Nat.lt_of_mul_lt_mul_left lt)

theorem spaceSize_le : g.spaceSize ≤ 2 ^ 32 := by
  rw [spaceSize, Nat.one_shiftLeft]
  exact Nat.pow_le_pow_right (by decide) g.addressBits_le

/-- The first address of a page of the space does not wrap. -/
theorem pageBase_toNat {page : Nat} (lt : page < g.pageCount) :
    (g.pageBase page).toNat = page * g.pageBytes := by
  have inside : page * g.pageBytes < g.pageCount * g.pageBytes :=
    Nat.mul_lt_mul_of_pos_right lt g.pageBytes_pos
  rw [g.pageCount_mul_pageBytes] at inside
  exact Nat.mod_eq_of_lt (Nat.lt_of_lt_of_le inside g.spaceSize_le)

/-- An address lies at its offset from the start of its page. -/
theorem pageBase_add_pageOffset (address : UInt32) :
    g.pageBase (g.pageOf address) + g.pageOffset address = address := by
  have split : g.pageOf address * g.pageBytes + address.toNat % g.pageBytes = address.toNat :=
    Nat.div_add_mod' _ _
  have base : (g.pageBase (g.pageOf address)).toNat = g.pageOf address * g.pageBytes :=
    Nat.mod_eq_of_lt (Nat.lt_of_le_of_lt (Nat.div_mul_le_self _ _) address.toNat_lt)
  apply UInt32.toNat_inj.mp
  rw [UInt32.toNat_add, base, pageOffset_toNat, split]
  exact Nat.mod_eq_of_lt address.toNat_lt

/-- All bytes of an aligned access within the space lie on one page. -/
theorem pageIndex_add {address : UInt32} {width : Width} {k : Nat}
    (aligned : address.toNat % width.bytes = 0) (inside : g.contains address = true)
    (lt : k < width.bytes) :
    g.pageIndex (address + k.toUInt32) = g.pageIndex address := by
  have fits := g.aligned_fits aligned
  have split := Nat.div_add_mod' address.toNat g.pageBytes
  have within : address.toNat / g.pageBytes < g.pageCount := by
    rw [Nat.div_lt_iff_lt_mul g.pageBytes_pos, g.pageCount_mul_pageBytes]
    exact of_decide_eq_true inside
  have next : (address.toNat / g.pageBytes + 1) * g.pageBytes ≤ g.spaceSize := by
    rw [← g.pageCount_mul_pageBytes]
    exact Nat.mul_le_mul_right _ within
  rw [Nat.add_mul, Nat.one_mul] at next
  have space := g.spaceSize_le
  have exact_sum : (address + k.toUInt32).toNat = address.toNat + k := by
    have word : k.toUInt32.toNat = k := Nat.mod_eq_of_lt (by omega)
    rw [UInt32.toNat_add, word]
    exact Nat.mod_eq_of_lt (by omega)
  have inside' : g.contains (address + k.toUInt32) = true := by
    rw [contains, exact_sum, decide_eq_true_eq]
    omega
  have same : g.pageOf (address + k.toUInt32) = g.pageOf address := by
    rw [pageOf, pageOf, exact_sum]
    refine Nat.div_eq_of_lt_le (by omega) ?_
    rw [Nat.add_mul, Nat.one_mul]
    omega
  rw [pageIndex, pageIndex, if_pos inside, if_pos inside', same]

/-- Within an aligned access, offsets in the page ascend with addresses. -/
theorem pageOffset_add {address : UInt32} {width : Width} {k : Nat}
    (aligned : address.toNat % width.bytes = 0) (lt : k < width.bytes) :
    g.pageOffset (address + k.toUInt32) = g.pageOffset address + k.toUInt32 := by
  have fits := g.aligned_fits aligned
  have bound := address.toNat_lt
  have small : k < 4 ∧ address.toNat + k < 2 ^ 32 := by
    cases width <;> simp only [Width.bytes] at aligned lt <;> omega
  have word : k.toUInt32.toNat = k := Nat.mod_eq_of_lt (Nat.lt_trans small.1 (by decide))
  have within : k < g.pageBytes := by omega
  have sum : (address.toNat + k) % g.pageBytes = address.toNat % g.pageBytes + k := by
    have word := Nat.mod_eq_of_lt within
    rw [Nat.add_mod_of_add_mod_lt (by omega), word]
  have le := Nat.mod_le address.toNat g.pageBytes
  rw [← UInt32.toNat_inj, UInt32.toNat_add, pageOffset_toNat, pageOffset_toNat,
    UInt32.toNat_add, word, Nat.mod_eq_of_lt small.2, sum]
  exact (Nat.mod_eq_of_lt (by omega)).symm

/-- Of a range that fits a target, each page does, and its offset does not
wrap. -/
theorem page_fits {base length size : UInt32} {step : Nat}
    (fits : base.toNat + length.toNat ≤ size.toNat) (lt : step < g.pageOf length) :
    (base + step.toUInt32 * g.pageSize).toNat + g.pageBytes ≤ size.toNat := by
  have whole : (step + 1) * g.pageBytes ≤ length.toNat :=
    Nat.le_trans (Nat.mul_le_mul_right _ lt) (Nat.div_mul_le_self _ _)
  rw [Nat.add_mul, Nat.one_mul] at whole
  have size_lt := size.toNat_lt
  have step_le : step ≤ step * g.pageBytes := Nat.le_mul_of_pos_right _ g.pageBytes_pos
  have word : step.toUInt32.toNat = step := Nat.mod_eq_of_lt (by omega)
  rw [UInt32.toNat_add, UInt32.toNat_mul, word, g.pageSize_toNat]
  generalize step * g.pageBytes = distance at *
  rw [Nat.mod_eq_of_lt (a := distance) (by omega), Nat.mod_eq_of_lt (by omega)]
  omega

end Geometry

variable {σ : Type} [DeviceModel σ]

/-! ## What fits -/

/-- The target of an entry is there, and as large as the page needs it. -/
def PageEntry.Fits (arena : Arena σ) (pageBytes : Nat) (entry : PageEntry) : Prop :=
  ∀ id, entry.target = some id →
    ∃ size, arena.sizeOf id = .ok size ∧ entry.physicalBase.toNat + pageBytes ≤ size.toNat

theorem PageEntry.Fits.extends {arena arena' : Arena σ} (h : arena.SizesExtend arena')
    {pageBytes : Nat} {entry : PageEntry} (fits : entry.Fits arena pageBytes) :
    entry.Fits arena' pageBytes := by
  intro id target
  obtain ⟨size, found, le⟩ := fits id target
  exact ⟨size, h.sizeOf found, le⟩

theorem PageEntry.fits_unmapped (arena : Arena σ) (pageBytes : Nat) :
    PageEntry.unmapped.Fits arena pageBytes := fun _ target => nomatch target

/-- What the check of a placement establishes. -/
theorem Placement.ofMapping_eq_ok {geometry : Geometry} {arena : Arena σ}
    {mapping : LayerMapping} {p : Placement}
    (h : ofMapping geometry arena mapping = .ok p) :
    ∃ size length, arena.sizeOf mapping.target = .ok size ∧
      mapping.targetOffset.toNat + length.toNat ≤ size.toNat ∧
      p.pageCount = geometry.pageOf length ∧ p.pageSize = geometry.pageSize ∧
      p.first.target = some mapping.target ∧ p.first.physicalBase = mapping.targetOffset := by
  unfold ofMapping at h
  cases found : arena.sizeOf mapping.target with
  | error e =>
    rw [found] at h
    cases h
  | ok size =>
    rw [found] at h
    dsimp only [bind, Except.bind] at h
    generalize mapping.length.getD _ = length at h
    split at h
    · cases h
    · split at h
      · cases h
      · rename_i inside
        cases h
        exact ⟨size, length, rfl, by omega, rfl, rfl, rfl, rfl⟩

/-- A placement makes entries that fit. -/
theorem Placement.fits_entryFor {geometry : Geometry} {arena : Arena σ} {mapping : LayerMapping}
    {p : Placement} (h : ofMapping geometry arena mapping = .ok p) {page : Nat}
    (covers : p.covers page = true) : (p.entryFor page).Fits arena geometry.pageBytes := by
  obtain ⟨size, length, found, le, count, pageSize, target, base⟩ := ofMapping_eq_ok h
  simp only [Placement.covers, Bool.and_eq_true, decide_eq_true_eq] at covers
  intro id hid
  rw [entryFor, target] at hid
  cases hid
  refine ⟨size, found, ?_⟩
  rw [entryFor, base, pageSize]
  exact geometry.page_fits le (by omega)

namespace Bus

variable {b : Bus σ}

/-- A range mapping makes entries that fit. -/
theorem fits_entryAt {mapping : RangeMapping} {caps : Caps} {length size : UInt32} {step : Nat}
    (found : b.arena.sizeOf mapping.target = .ok size)
    (le : mapping.targetOffset.toNat + length.toNat ≤ size.toNat)
    (lt : step < b.geometry.pageOf length) :
    (b.entryAt mapping caps step).Fits b.arena b.geometry.pageBytes := by
  intro id target
  cases target
  exact ⟨size, found, b.geometry.page_fits le lt⟩

/-! ## What operations keep -/

theorem readByte_touches (f : Fabric σ) (a : Access) (entry : PageEntry) (cell : Cell) :
    f.arena.Touches (readByte f a entry cell).1.arena := by
  unfold readByte
  split
  · exact f.peek_touches _
  · exact f.read_touches _ _

theorem writeByte_touches (f : Fabric σ) (a : Access) (entry : PageEntry) (cell : Cell)
    (value : UInt8) : f.arena.Touches (writeByte f a entry cell value).1.arena := by
  unfold writeByte
  split
  · exact f.poke_touches _ _ _
  · exact f.write_touches _ _ _

/-- The fabric keeps every target while it serves a transaction, and what its
handlers do not change of it. -/
theorem served_matches {α : Type} {measure : σ → α} (keeps : DeviceModel.Keeps measure)
    (b : Bus σ) (x : Transaction) : b.arena.Matches measure (b.served x).arena := by
  let R (f g : Fabric σ) : Prop := f.arena.Matches measure g.arena
  have refl (f : Fabric σ) : R f f := .refl f.arena
  have trans {f g h : Fabric σ} (first : R f g) (second : R g h) : R f h := first.trans second
  cases x with
  | read a =>
    exact servedRead_rel (R := R) refl trans
      (fun f entry cell => (readByte_touches f a entry cell).matches_of_keeps keeps) b
  | write a =>
    exact servedWrite_rel (R := R) refl trans
      (fun f entry cell value => (writeByte_touches f a entry cell value).matches_of_keeps keeps)
      (fun _ f leaf value bytes context =>
        (f.writeWide_touches leaf value bytes context).matches_of_keeps keeps) b

omit [DeviceModel σ] in
theorem holds_setBases {P : PageEntry → Prop} {m : AddressMap} (h : m.Holds P) (first : Nat)
    {count : Nat} {entry : Nat → PageEntry} (new : ∀ step < count, P (entry step)) :
    (setBases m first count entry).Holds P := by
  induction count with
  | zero => exact h
  | succ count ih =>
    rw [setBases_succ]
    exact (ih fun step lt => new step (Nat.lt_succ_of_lt lt)).setBase _ (new count
      (Nat.lt_succ_self count))

theorem perform_extends {α : Type} {measure : σ → α} (keeps : DeviceModel.Keeps measure)
    (b : Bus σ) (operation : Operation σ) :
    b.arena.Extends measure (b.perform operation).arena := by
  rcases b.perform_arena_cases operation with ⟨t, rfl⟩ | ⟨name, target, rfl⟩ | same
  · refine transfer_induction (P := fun b' => b.arena.Extends measure b'.arena)
      (fun b' x h => ?_) (.refl b.arena) t
    rw [transact_arena]
    exact h.trans (b'.served_matches keeps x).extends
  · rw [perform, addTarget]
    cases added : b.arena.insert name target with
    | error e => exact .refl b.arena
    | ok result => exact Arena.extends_insert added
  · rw [same]
    exact .refl b.arena

theorem run_extends {α : Type} {measure : σ → α} (keeps : DeviceModel.Keeps measure)
    (b : Bus σ) (operations : List (Operation σ)) :
    b.arena.Extends measure (b.run operations).arena := by
  induction operations generalizing b with
  | nil => exact .refl b.arena
  | cons operation operations ih =>
    exact (perform_extends keeps b operation).trans (ih (b.perform operation))

/-- The entries that an operation makes: of a range and of a layer those that lead within
their target, and one that leads nowhere. -/
inductive Makes (b : Bus σ) : Operation σ → PageEntry → Prop where
  /-- The entry of a page of a range. -/
  | range {start length size : UInt32} {mapping : RangeMapping} {caps : Caps} {step : Nat} :
    b.arena.sizeOf mapping.target = .ok size →
    mapping.targetOffset.toNat + length.toNat ≤ size.toNat → step < b.geometry.pageOf length →
    Makes b (.mapRange start length mapping) (b.entryAt mapping caps step)
  /-- The entry of a page that is taken from its range. -/
  | unmapped {start length : UInt32} : Makes b (.unmapRange start length) .unmapped
  /-- The entry of a page under a layer. -/
  | placed {name : String} {mapping : LayerMapping} {p : Placement} {page : Nat} :
    Placement.ofMapping b.geometry b.arena mapping = .ok p → p.covers page = true →
    Makes b (.setLayerMapping name mapping) (p.entryFor page)

theorem Makes.fits {operation : Operation σ} {entry : PageEntry}
    (made : b.Makes operation entry) : entry.Fits b.arena b.geometry.pageBytes := by
  cases made with
  | range found le lt => exact fits_entryAt found le lt
  | unmapped => exact PageEntry.fits_unmapped _ _
  | placed ok covers => exact Placement.fits_entryFor ok covers

/-- What holds of all entries of the map before an operation holds of those after it, if it
holds of those that the operation makes. -/
theorem holds_perform {P : PageEntry → Prop} (h : b.map.Holds P) {operation : Operation σ}
    (new : ∀ entry, b.Makes operation entry → P entry) : (b.perform operation).map.Holds P := by
  cases operation with
  | mapRange start length mapping =>
    rw [perform]
    rcases b.mapRange_cases start length mapping with
      ⟨first, count, size, range, found, le, eq⟩ | ⟨e, eq⟩ <;> rw [eq]
    · obtain ⟨-, rfl, -⟩ := b.pageRange_eq_ok range
      exact holds_setBases h _ fun step lt => new _ (.range found le lt)
    · exact h
  | unmapRange start length =>
    rw [perform]
    rcases b.unmapRange_cases start length with ⟨first, count, -, eq⟩ | ⟨e, eq⟩ <;> rw [eq]
    · exact holds_setBases h first fun _ _ => new _ .unmapped
    · exact h
  | setLayerMapping name mapping =>
    rw [perform, setLayerMapping]
    split
    · exact h
    · exact h.setMapping _ _ mapping fun p page ok covers => new _ (.placed ok covers)
  | addTarget name target => rwa [perform, addTarget_map]
  | createLayer name priority => exact h.createLayer name priority
  | saveBase first count => exact h.saveBase first count
  | activate id => exact h.activate id
  | deactivate id => exact h.deactivate id
  | activateNamed name =>
    rw [perform, activateNamed]
    split
    · exact h
    · exact h.activate _
  | deactivateNamed name =>
    rw [perform, deactivateNamed]
    split
    · exact h
    · exact h.deactivate _
  | enableTrace capacity => rwa [perform, enableTrace_map]
  | disableTrace | drainNotices => exact h
  | transfer t =>
    refine transfer_induction (P := fun b' => b'.map.Holds P) (fun b' x h' => ?_) h t
    rw [transact_map]
    exact h'.commands _

/-- Every entry of the map fits its target. -/
def Sound (b : Bus σ) : Prop := b.map.Holds (PageEntry.Fits b.arena b.geometry.pageBytes)

variable (steady : DeviceModel.Keeps (DeviceModel.size : σ → UInt32))

include steady

/-- Every operation keeps all entries within their targets. -/
theorem Sound.perform (h : b.Sound) (operation : Operation σ) :
    (b.perform operation).Sound := by
  have space : (b.perform operation).geometry = b.geometry :=
    (b.perform_follows operation).geometry_eq
  rw [Sound, space]
  -- What fits the targets before fits those after.
  exact (holds_perform h fun _ made => made.fits).mono fun entry fits =>
    fits.extends (perform_extends steady b operation)

theorem Reachable.sound (h : b.Reachable) : b.Sound := by
  induction h with
  | empty geometry => exact .empty geometry (PageEntry.fits_unmapped _ _)
  | perform operation _ ih => exact Sound.perform steady ih operation

/-- Every mapped entry that a reachable bus holds, in its table, among the saved
base entries or in a layer, fits its target for good, whatever is done later.
So the offset of an address never wraps, an aligned access of any width stays
within the page's part of the target, and where only splits lie between the
target and its leaves, every address of the page leads, for reads and for writes,
to a leaf that is large enough. -/
theorem held_entry_in_bounds (h : b.Reachable) {entry : PageEntry} (held : b.map.Held entry)
    {id : TargetId} (mapped : entry.target = some id) (later : List (Operation σ)) :
    let arena := (b.run later).arena
    ∃ size, (∃ t, arena.get? id = some t) ∧ arena.sizeOf id = .ok size ∧
      entry.physicalBase.toNat + b.geometry.pageBytes ≤ size.toNat ∧
      ∀ address : UInt32,
        let offset := entry.physicalBase + b.geometry.pageOffset address
        (∀ found, b.map.table.lookup address = some (entry, found) → found = offset) ∧
        offset.toNat = entry.physicalBase.toNat + address.toNat % b.geometry.pageBytes ∧
        (∀ width : Width, address.toNat % width.bytes = 0 →
          offset.toNat + width.bytes ≤ entry.physicalBase.toNat + b.geometry.pageBytes) ∧
        (b.arena.SplitsOnly id → ∀ direction, ∃ leaf,
          arena.route direction ⟨id, offset⟩ = .ok leaf ∧ leaf.offset = offset ∧
            arena.Backs leaf) := by
  intro arena
  have grown : b.arena.SizesExtend arena := run_extends steady b later
  obtain ⟨size, found, le⟩ := (h.sound steady).entries entry held id mapped
  have measured := Arena.measured_of_sizeWithin found
  refine ⟨size, (measured.extends grown).get?, grown.sizeOf found, le, ?_⟩
  intro address offset
  have inside : address.toNat % b.geometry.pageBytes < b.geometry.pageBytes :=
    Nat.mod_lt _ b.geometry.pageBytes_pos
  have exact_sum :
      offset.toNat = entry.physicalBase.toNat + address.toNat % b.geometry.pageBytes := by
    have size_lt := size.toNat_lt
    rw [UInt32.toNat_add, b.geometry.pageOffset_toNat address]
    exact Nat.mod_eq_of_lt (by omega)
  refine ⟨?_, exact_sum, ?_, ?_⟩
  · intro sum looked
    simp only [PageTable.lookup, Option.bind_eq_bind, Option.bind_eq_some_iff, Option.pure_def,
      Option.some.injEq, Prod.mk.injEq] at looked
    obtain ⟨-, -, -, -, rfl, rfl⟩ := looked
    rfl
  · intro width aligned
    have fits := b.geometry.aligned_fits aligned
    omega
  · intro only direction
    have lt : offset < size := by
      rw [UInt32.lt_iff_toNat_lt, exact_sum]
      omega
    obtain ⟨leaf, route, same, backs⟩ := measured.routeWithin only lt direction
    exact ⟨leaf, grown.routeWithin route, same, backs.extends grown⟩

end Bus

/-! ## A split that refers forward -/

namespace SwitchBank

/-- Switches keep their table, and with it their size. -/
theorem keeps_size : DeviceModel.Keeps (DeviceModel.size : SwitchBank → UInt32) := by
  have fire_table {α : Type} (s : SwitchBank) (action : SwitchAction) (value : SwitchBank → α) :
      (s.fire action value).state.table = s.table := by
    cases action <;> rfl
  have write_size (s : SwitchBank) (offset : UInt32) (value : UInt8) (context : DeviceContext) :
      DeviceModel.size (DeviceModel.write s offset value context).state = DeviceModel.size s := by
    simp only [DeviceModel.write, DeviceModel.size]
    split
    · rw [fire_table]
    · rfl
  intro state next step
  cases step with
  | read offset context =>
    simp only [DeviceModel.read, DeviceModel.size]
    split
    · rw [fire_table]
    · rfl
  | write offset value context => exact write_size state offset value context
  | writeWide offset value bytes context =>
    exact writeInTurn_keeps (fun s o v => write_size s o v context) state _
  | poke offset value => rfl

/-- Pages 0 and 1 show a split that was added before the switches that it writes
to. -/
def divided : Bus SwitchBank :=
  (Bus.empty smallSpace).run
    [.addTarget "ram" (.ram (.filled 16 0)), .addTarget "split" (.split ⟨0⟩ ⟨2⟩),
     .addTarget "switches" (.device { table := .ofSize 8 }),
     .mapRange 0 8 { target := ⟨1⟩, perms := .all, region := .ram }]

theorem held_entry_in_bounds_divided :
    let entry : PageEntry := ⟨some ⟨1⟩, .all, ⟨9⟩, .ram, 4, 0⟩
    let later : List (Operation SwitchBank) :=
      [.addTarget "late" (.window (.empty 4)), .unmapRange 4 4, .transfer (.read (.read 1))]
    DeviceModel.Keeps (DeviceModel.size : SwitchBank → UInt32) ∧ divided.Reachable ∧
      divided.map.Held entry ∧ divided.arena.SplitsOnly ⟨1⟩ ∧
      ∃ leaf, (divided.run later).arena.route .write ⟨⟨1⟩, 7⟩ = .ok leaf ∧
        leaf.offset = 7 ∧ (divided.run later).arena.Backs leaf := by
  intro entry later
  have reachable : divided.Reachable := (Bus.Reachable.empty smallSpace).run _
  have live : divided.map.table.get? 1 = some entry := by decide_cbv
  have kinds : divided.arena.slots.toList.map (·.target.kindName) = ["ram", "split", "device"] := by
    decide_cbv
  have only : divided.arena.SplitsOnly ⟨1⟩ := by
    apply Arena.splitsOnly_of_noWindow
    intro slot hs w eq
    have kind := List.mem_map_of_mem (f := (·.target.kindName)) (Array.mem_toList_iff.mpr hs)
    rw [kinds, eq] at kind
    change "composite" ∈ ["ram", "split", "device"] at kind
    exact absurd kind (by decide)
  obtain ⟨-, -, -, -, at_address⟩ :=
    Bus.held_entry_in_bounds keeps_size reachable (.live live) rfl later
  obtain ⟨-, -, -, routes⟩ := at_address 7
  have sum : entry.physicalBase + divided.geometry.pageOffset 7 = 7 := by decide_cbv
  rw [sum] at routes
  exact ⟨keeps_size, reachable, .live live, only, routes only .write⟩

end SwitchBank
end Backplane
