import Backplane.Proofs.Bus.Bounds
import Backplane.Proofs.Bus.Byte
import Backplane.Proofs.Profile.WellFormed

/-!
# Faithful population

Of the bus that is built from a profile, every page shows what the profile says
(`ofProfile_faithful`): pages of a region lead to the target of its name, at their
distance from the start of the region, and behind each address lies the byte that
the backing begins with. Regions may be listed in any order.
-/

namespace Backplane

variable {σ : Type}

/-! ## What a profile says -/

/-- The addresses of a page. -/
def Geometry.addressesOf (g : Geometry) (page : ℕ) : Set ℕ :=
  Set.Ico (page * g.pageBytes) ((page + 1) * g.pageBytes)

/-- The page lies in the region. -/
def RegionSpec.HasPage (r : RegionSpec) (g : Geometry) (page : ℕ) : Prop :=
  g.addressesOf page ⊆ r.addresses

/-- What an address leads to, for reads and for writes: a byte of memory, or a
place that nothing backs. -/
inductive Bus.Behind (b : Bus σ) (address : UInt32) : Option UInt8 → Prop
  /-- A byte of memory. -/
  | byte {cell : Cell} {value : UInt8} :
    (∀ direction, b.route? direction address = some (.ok cell)) →
    b.arena.byte? cell = some value → Behind b address (some value)
  /-- Nothing. -/
  | nothing : (∀ direction, b.route? direction address = some (.error .unbacked)) →
    Behind b address none

/-! ## Pages of regions -/

namespace RegionSpec

variable {r : RegionSpec} {g : Geometry}

theorem pageOf_start (placed : r.Placed g.addressBits g.pageShift) :
    g.pageOf r.start * g.pageBytes = r.start.toNat := by
  refine Nat.div_mul_cancel ?_
  rw [Geometry.pageBytes, Nat.one_shiftLeft]
  exact placed.start_aligned

theorem pageOf_size (placed : r.Placed g.addressBits g.pageShift) :
    g.pageOf r.size * g.pageBytes = r.size.toNat := by
  refine Nat.div_mul_cancel ?_
  rw [Geometry.pageBytes, Nat.one_shiftLeft]
  exact placed.size_aligned

/-- The pages of a region follow one another. -/
theorem hasPage_iff (placed : r.Placed g.addressBits g.pageShift) {page : ℕ} :
    r.HasPage g page ↔
      g.pageOf r.start ≤ page ∧ page < g.pageOf r.start + g.pageOf r.size := by
  have pos := g.pageBytes_pos
  have nonempty : page * g.pageBytes < (page + 1) * g.pageBytes :=
    Nat.mul_lt_mul_of_pos_right (Nat.lt_succ_self page) pos
  rw [HasPage, Geometry.addressesOf, addresses, Set.Ico_subset_Ico_iff nonempty,
    ← pageOf_start placed, ← pageOf_size placed, ← Nat.add_mul,
    Nat.mul_le_mul_right_iff pos, Nat.mul_le_mul_right_iff pos, Nat.succ_le_iff]

theorem pages_le (placed : r.Placed g.addressBits g.pageShift) :
    g.pageOf r.start + g.pageOf r.size ≤ g.pageCount := by
  refine Nat.le_of_mul_le_mul_right ?_ g.pageBytes_pos
  rw [Nat.add_mul, pageOf_start placed, pageOf_size placed, g.pageCount_mul_pageBytes,
    Geometry.spaceSize, Nat.one_shiftLeft]
  exact placed.stop_le

/-- No page lies in two regions that are disjoint. -/
theorem HasPage.not_disjoint {s : RegionSpec} {page : ℕ} (h : r.HasPage g page)
    (h' : s.HasPage g page) : ¬Disjoint r.addresses s.addresses := by
  have first : page * g.pageBytes ∈ g.addressesOf page :=
    ⟨Nat.le_refl _, Nat.mul_lt_mul_of_pos_right (Nat.lt_succ_self page) g.pageBytes_pos⟩
  exact fun disjoint => Set.disjoint_left.mp disjoint (h first) (h' first)

/-- The entry of a page of the region, mapped to the target with this id. -/
def entry (r : RegionSpec) (g : Geometry) (caps : Caps) (id : TargetId) (page : ℕ) : PageEntry :=
  ⟨some id, r.perms, r.caps.getD caps, r.region, g.pageBase page - r.start, r.deviceId⟩

/-- The first address of a page of the region does not wrap. -/
theorem pageBase_toNat (placed : r.Placed g.addressBits g.pageShift) {page : ℕ}
    (lt : page < g.pageOf r.start + g.pageOf r.size) :
    (g.pageBase page).toNat = page * g.pageBytes :=
  g.pageBase_toNat (Nat.lt_of_lt_of_le lt (pages_le placed))

/-- The entries of a range begin at the start of the region. -/
theorem steps_eq_distance (placed : r.Placed g.addressBits g.pageShift) {page : ℕ}
    (h : r.HasPage g page) :
    (0 : UInt32) + (page - g.pageOf r.start).toUInt32 * g.pageSize = g.pageBase page - r.start := by
  obtain ⟨from_first, to_last⟩ := (hasPage_iff placed).mp h
  obtain ⟨step, rfl⟩ := Nat.exists_eq_add_of_le from_first
  have base := pageBase_toNat placed to_last
  rw [Nat.add_mul, pageOf_start placed] at base
  have lt := (g.pageBase (g.pageOf r.start + step)).toNat_lt
  have pos := g.pageBytes_pos
  have step_le : step ≤ step * g.pageBytes := Nat.le_mul_of_pos_right _ pos
  have word : step.toUInt32.toNat = step := Nat.mod_eq_of_lt (by omega)
  have le : r.start ≤ g.pageBase (g.pageOf r.start + step) := by
    rw [UInt32.le_iff_toNat_le]
    omega
  apply UInt32.toNat_inj.mp
  rw [Nat.add_sub_cancel_left, UInt32.zero_add, UInt32.toNat_mul, UInt32.toNat_sub_of_le _ _ le,
    word, g.pageSize_toNat, base, Nat.add_sub_cancel_left]
  exact Nat.mod_eq_of_lt (by omega)

end RegionSpec

namespace Bus

variable {m : AddressMap}

/-- Entries of a map without saved ones are set in the table. -/
theorem setBases_get? (unsaved : ∀ page, m.savedBase? page = none) {first count : ℕ}
    (inside : first + count ≤ m.geometry.pageCount) (entry : ℕ → PageEntry) (page : ℕ) :
    (setBases m first count entry).savedBase? page = none ∧
      (setBases m first count entry).table.get? page =
        if first ≤ page ∧ page < first + count then some (entry (page - first))
        else m.table.get? page := by
  induction count generalizing page with
  | zero =>
    refine ⟨unsaved page, ?_⟩
    rw [if_neg (by omega)]
    rfl
  | succ count ih =>
    have before (p : ℕ) := ih (by omega) p
    have space : (setBases m first count entry).geometry = m.geometry :=
      (setBases_follows m first count entry).geometry_eq
    rw [setBases_succ, AddressMap.setBase_savedBase?, AddressMap.setBase_get?, space,
      (before page).1, (before page).2, (before (first + count)).1]
    constructor
    · exact if_neg fun saved => Bool.noConfusion saved.2
    · by_cases last : first + count = page
      · rw [if_pos ⟨last, by omega, .inl rfl⟩, if_pos (by omega), ← last, Nat.add_sub_cancel_left]
      · have same : (first ≤ page ∧ page < first + (count + 1)) ↔
            first ≤ page ∧ page < first + count := by omega
        rw [if_neg fun here => last here.1]
        simp only [same]

variable {b b' : Bus σ} {g : Geometry} {r : RegionSpec} {done regions : List RegionSpec}

/-- The region is there: its target under its name, and its pages mapped to it. -/
structure Shows (b : Bus σ) (r : RegionSpec) (id : TargetId) : Prop where
  found : b.arena.find? r.name = some id
  name : b.arena.name? id = some r.name
  built : r.kind.Built b.arena r.size id
  pages : ∀ page, r.HasPage b.geometry page →
    b.map.table.get? page = some (r.entry b.geometry .memory id page)

/-- The bus is populated with these regions and nothing else. -/
structure Populated (b : Bus σ) (regions : List RegionSpec) : Prop where
  unsaved : ∀ page, b.map.savedBase? page = none
  names : b.arena.names = regions.flatMap RegionSpec.targetNames
  mapped : ∀ r ∈ regions, r.kind ≠ .unmapped → ∃ id, b.Shows r id
  others : ∀ page < b.geometry.pageCount,
    (∀ r ∈ regions, r.kind ≠ .unmapped → ¬r.HasPage b.geometry page) →
      b.map.table.get? page = some .unmapped

/-! ## Addresses -/

theorem route?_of_get? {address : UInt32} {entry : PageEntry} {id : TargetId}
    (inside : address.toNat < b.geometry.spaceSize)
    (here : b.map.table.get? (b.geometry.pageOf address) = some entry)
    (mapped : entry.target = some id) (direction : Direction) :
    b.route? direction address =
      some (b.arena.route direction
        ⟨id, entry.physicalBase + b.geometry.pageOffset address⟩) := by
  have index : b.map.table.geometry.pageIndex address = some (b.geometry.pageOf address) :=
    if_pos (decide_eq_true inside)
  have looked : b.map.table.lookup address =
      some (entry, entry.physicalBase + b.geometry.pageOffset address) := by
    rw [PageTable.get?] at here
    rw [PageTable.lookup, index]
    simp only [Option.bind_eq_bind, Option.bind_some, here]
    rfl
  rw [route?, looked]
  simp only [mapped]

/-- The page base and the offset on the page add up to the distance from the start
of the region. -/
theorem distance_eq {g : Geometry} (placed : r.Placed g.addressBits g.pageShift)
    {address : UInt32} (inside : address.toNat ∈ r.addresses) :
    r.HasPage g (g.pageOf address) ∧
      g.pageBase (g.pageOf address) - r.start + g.pageOffset address = address - r.start := by
  obtain ⟨from_start, to_stop⟩ := inside
  have here : g.pageOf r.start ≤ g.pageOf address ∧
      g.pageOf address < g.pageOf r.start + g.pageOf r.size := by
    refine ⟨Nat.div_le_div_right from_start, (Nat.div_lt_iff_lt_mul g.pageBytes_pos).mpr ?_⟩
    rwa [Nat.add_mul, RegionSpec.pageOf_start placed, RegionSpec.pageOf_size placed]
  refine ⟨(RegionSpec.hasPage_iff placed).mpr here, ?_⟩
  rw [UInt32.sub_eq_add_neg, UInt32.add_assoc, UInt32.add_comm (-r.start), ← UInt32.add_assoc,
    g.pageBase_add_pageOffset, ← UInt32.sub_eq_add_neg]

/-- Behind the addresses of a region lies what it begins with. -/
theorem Shows.behind {id : TargetId} (h : b.Shows r id)
    (placed : r.Placed b.geometry.addressBits b.geometry.pageShift) {address : UInt32}
    (inside : address.toNat ∈ r.addresses) {byte : Option UInt8}
    (initial : r.kind.Initial (address.toNat - r.start.toNat) byte) : b.Behind address byte := by
  obtain ⟨here, distance⟩ := distance_eq placed inside
  obtain ⟨from_start, to_stop⟩ := inside
  have below : address.toNat < b.geometry.spaceSize := by
    rw [Geometry.spaceSize, Nat.one_shiftLeft]
    exact Nat.lt_of_lt_of_le to_stop placed.stop_le
  have offset : (address - r.start).toNat = address.toNat - r.start.toNat :=
    UInt32.toNat_sub_of_le _ _ (UInt32.le_iff_toNat_le.mpr from_start)
  have lt : address - r.start < r.size := by
    rw [UInt32.lt_iff_toNat_lt, offset]
    omega
  have routes (direction : Direction) :
      b.route? direction address = some (b.arena.route direction ⟨id, address - r.start⟩) := by
    rw [route?_of_get? below (h.pages _ here) rfl, RegionSpec.entry, distance]
  have route := h.built.route lt (offset.symm ▸ initial)
  cases byte with
  | some value =>
    obtain ⟨cell, leads, holds⟩ := route
    exact .byte (fun direction => (routes direction).trans (congrArg some (leads direction))) holds
  | none =>
    exact .nothing fun direction => (routes direction).trans (congrArg some (route direction))

/-! ## Populating -/

theorem populated_empty (g : Geometry) : (empty g : Bus σ).Populated [] where
  unsaved page := by
    change ((Array.replicate g.pageCount none)[page]?).join = none
    rw [Array.getElem?_replicate]
    split <;> rfl
  names := rfl
  mapped r hr := absurd hr List.not_mem_nil
  others page lt _ := by
    change (Array.replicate g.pageCount PageEntry.unmapped)[page]? = _
    rw [Array.getElem?_replicate]
    exact if_pos lt

variable [DeviceModel σ]

/-- The pages of the region are mapped anew, and no others. -/
theorem populated_get? (unsaved : ∀ page, b.map.savedBase? page = none)
    (placed : r.Placed b.geometry.addressBits b.geometry.pageShift) (page : ℕ) :
    (r.HasPage b.geometry page → (r.populated b).map.table.get? page =
        some (r.entries b (page - b.geometry.pageOf r.start))) ∧
      (¬r.HasPage b.geometry page →
        (r.populated b).map.table.get? page = b.map.table.get? page) := by
  have set := (setBases_get? unsaved (RegionSpec.pages_le placed) (r.entries b) page).2
  rw [RegionSpec.hasPage_iff placed, RegionSpec.populated]
  exact ⟨fun here => set.trans (if_pos here), fun elsewhere => set.trans (if_neg elsewhere)⟩

/-- Populating one region keeps the others. -/
theorem Shows.populated {id : TargetId} (h : b.Shows r id) {s : RegionSpec}
    (unsaved : ∀ page, b.map.savedBase? page = none)
    (placed : s.Placed b.geometry.addressBits b.geometry.pageShift)
    (apart : Disjoint r.addresses s.addresses) : (s.populated b).Shows r id where
  found := Arena.find?_adding h.found
  name := Arena.name?_adding h.name
  built := h.built.adding _
  pages page here := by
    rw [RegionSpec.geometry_populated] at here ⊢
    have elsewhere : ¬s.HasPage b.geometry page := fun there => here.not_disjoint there apart
    rw [(populated_get? unsaved placed page).2 elsewhere]
    exact h.pages page here

/-- Populating a region shows it. -/
theorem shows_populated (unsaved : ∀ page, b.map.savedBase? page = none)
    (placed : r.Placed b.geometry.addressBits b.geometry.pageShift)
    (divides : r.kind.Divides r.size) (nodup : (b.arena.names ++ r.targetNames).Nodup)
    (room : b.arena.size + r.targetNames.length ≤ 2 ^ 32) (mapped : r.kind ≠ .unmapped) :
    (r.populated b).Shows r (r.targetId b.arena.size) := by
  have built := RegionSpec.built divides mapped room
  obtain ⟨t, made⟩ := RegionSpec.target?_of_mapped (σ := σ) mapped b.arena.size
  have slot := RegionSpec.slots_targetId made
  refine ⟨?_, ?_, built, ?_⟩
  · rw [← RegionSpec.names_populated] at nodup
    exact Arena.find?_of_slot nodup slot
  · rw [RegionSpec.arena_populated, RegionSpec.targetId,
      Arena.name?_ofIndex (RegionSpec.room_target mapped room), slot, Option.map_some]
  · intro page here
    rw [RegionSpec.geometry_populated] at here ⊢
    rw [(populated_get? unsaved placed page).1 here, RegionSpec.entries_of_mapped mapped,
      built.capsOf, entryAt, RegionSpec.entry, ← RegionSpec.steps_eq_distance placed here]
    rfl

/-- Populating a region adds it to those that were there. -/
theorem Populated.step (h : b.Populated done) (populates : r.populate b = .ok b')
    (nodup : b.arena.names.Nodup) (apart : ∀ s ∈ done, Disjoint s.addresses r.addresses)
    (room : b.arena.size + r.targetNames.length ≤ 2 ^ 32) : b'.Populated (done ++ [r]) := by
  obtain ⟨-, divides, placed, new, -, rfl⟩ := (RegionSpec.populate_eq_ok_iff nodup).mp populates
  constructor
  · exact fun page =>
      (setBases_get? h.unsaved (RegionSpec.pages_le placed) (r.entries b) page).1
  · rw [RegionSpec.names_populated, h.names, List.flatMap_append, List.flatMap_singleton]
  · intro s hs mapped
    rcases List.mem_append.mp hs with hs | hs
    · obtain ⟨id, shows⟩ := h.mapped s hs mapped
      exact ⟨id, shows.populated h.unsaved placed (apart s hs)⟩
    · rw [List.mem_singleton] at hs
      subst hs
      exact ⟨_, shows_populated h.unsaved placed divides new room mapped⟩
  · intro page lt free
    rw [RegionSpec.geometry_populated] at lt free
    by_cases here : r.HasPage b.geometry page
    · rw [(populated_get? h.unsaved placed page).1 here]
      have unmapped : r.kind = .unmapped := by
        by_contra mapped
        exact free r (List.mem_append_right _ List.mem_cons_self) mapped here
      rw [RegionSpec.entries, unmapped]
    · rw [(populated_get? h.unsaved placed page).2 here]
      exact h.others page lt fun s hs => free s (List.mem_append_left _ hs)

/-- Populating regions in turn adds them all. -/
theorem Populated.run (h : b.Populated done)
    (populates : regions.foldlM (fun b r => r.populate b) b = .ok b')
    (nodup : ((done ++ regions).flatMap RegionSpec.targetNames).Nodup)
    (apart : (done ++ regions).Pairwise fun r s => Disjoint r.addresses s.addresses)
    (room : ((done ++ regions).flatMap RegionSpec.targetNames).length ≤ 2 ^ 32) :
    b'.Populated (done ++ regions) ∧ b'.geometry = b.geometry := by
  induction regions generalizing b done with
  | nil =>
    cases populates
    rw [List.append_nil]
    exact ⟨h, rfl⟩
  | cons r regions ih =>
    rw [List.foldlM_cons, bind_eq_ok_iff] at populates
    obtain ⟨b₁, first, rest⟩ := populates
    have size : b.arena.size = (done.flatMap RegionSpec.targetNames).length := by
      rw [← h.names, Arena.length_names]
    have names : b.arena.names.Nodup := by
      rw [List.flatMap_append] at nodup
      rw [h.names]
      exact nodup.of_append_left
    have stepped : b₁.Populated (done ++ [r]) := by
      refine h.step first names (fun s hs => ?_) ?_
      · exact (List.pairwise_append.mp apart).2.2 s hs r List.mem_cons_self
      · rw [List.flatMap_append, List.flatMap_cons, List.length_append, List.length_append] at room
        omega
    have geometry : b₁.geometry = b.geometry := by
      obtain ⟨-, -, -, -, -, rfl⟩ := (RegionSpec.populate_eq_ok_iff names).mp first
      exact RegionSpec.geometry_populated
    rw [← geometry, List.append_cons done r regions]
    rw [List.append_cons done r regions] at nodup apart room
    exact ih stepped rest nodup apart room

end Bus

/-- The bus that is built from a profile is what the profile says, and nothing else:
a page of a region shows the region, at its distance from the start, and lies in
that region alone; behind its addresses lies what the region begins with; all other
pages are not mapped. -/
theorem ofProfile_faithful [DeviceModel σ] {p : MachineProfile} {b : Bus σ}
    (accepted : Bus.ofProfile p = .ok b)
    (few : p.addressBits.toNat < 32 ∨ p.targetNames.length ≤ 2 ^ 32) :
    (b.geometry.addressBits = p.addressBits.toNat ∧ b.geometry.pageShift = p.pageShift.toNat) ∧
    (∀ r ∈ p.regions, r.kind ≠ .unmapped →
      ∃ id, b.arena.find? r.name = some id ∧ b.arena.name? id = some r.name ∧
        (∀ page, r.HasPage b.geometry page →
          (∀ s ∈ p.regions, s.HasPage b.geometry page → s = r) ∧
          b.map.table.get? page =
            some {
              target := some id
              perms := r.perms
              caps := r.caps.getD (b.arena.capsOf id)
              region := r.region
              physicalBase := b.geometry.pageBase page - r.start
              deviceId := r.deviceId }) ∧
        ∀ address : UInt32, address.toNat ∈ r.addresses →
          ∀ byte, r.kind.Initial (address.toNat - r.start.toNat) byte → b.Behind address byte) ∧
    ∀ page < b.geometry.pageCount,
      (∀ r ∈ p.regions, r.kind ≠ .unmapped → ¬r.HasPage b.geometry page) →
        b.map.table.get? page = some .unmapped := by
  have h := wellFormed_of_ofProfile accepted
  obtain ⟨g, bits, apart, populates⟩ := ofProfile_eq_ok_iff.mp accepted
  obtain ⟨populated, geometry⟩ := (Bus.populated_empty g).run populates h.names h.disjoint
    (h.room few)
  change b.geometry = g at geometry
  subst geometry
  refine ⟨bits, ?_, populated.others⟩
  intro r hr mapped
  obtain ⟨id, shows⟩ := populated.mapped r hr mapped
  have placed : r.Placed b.geometry.addressBits b.geometry.pageShift := by
    rw [bits.1, bits.2]
    exact h.placed r hr
  refine ⟨id, shows.found, shows.name, ?_, ?_⟩
  · intro page here
    constructor
    · intro s hs there
      by_contra other
      have symmetric : Std.Symm fun r s : RegionSpec => Disjoint r.addresses s.addresses :=
        ⟨fun _ _ apart => apart.symm⟩
      exact here.not_disjoint there (h.disjoint.forall hr hs (Ne.symm other))
    · rw [shows.pages page here, RegionSpec.entry, shows.built.capsOf]
  · exact fun address inside byte initial => shows.behind placed inside initial

namespace MachineProfile

theorem ofProfile_faithful_small :
    ∃ b : Bus SwitchBank, Bus.ofProfile small = .ok b ∧ small.addressBits.toNat < 32 ∧
      (∃ id, b.arena.find? "io" = some id ∧ b.map.table.get? 5 =
        some ⟨some id, .readWrite, b.arena.capsOf id, .composite, 0x10, 7⟩) ∧
      b.Behind 0x41 (some 2) ∧ b.Behind 0x47 (some 0xff) ∧ b.Behind 0x48 none ∧
      b.Behind 0x5f (some 0xbb) ∧ b.map.table.get? 2 = some .unmapped := by
  have well : small.WellFormed := by decide_cbv
  obtain ⟨b, accepted⟩ := ofProfile_of_wellFormed (σ := SwitchBank) well (.inl (by decide))
  obtain ⟨⟨bits, shift⟩, shown, others⟩ := ofProfile_faithful accepted (.inl (by decide))
  have pageBytes : b.geometry.pageBytes = 16 := by
    rw [Geometry.pageBytes, shift]
    rfl
  have pageCount : b.geometry.pageCount = 16 := by
    rw [Geometry.pageCount, bits, shift]
    rfl
  obtain ⟨id, found, -, pages, behind⟩ := shown _ List.mem_cons_self (fun h => by cases h)
  have sixth : b.geometry.addressesOf 5 ⊆ Set.Ico 0x40 0x60 := by
    rw [Geometry.addressesOf, pageBytes]
    exact Set.Ico_subset_Ico (by decide) (by decide)
  have base : b.geometry.pageBase 5 - 0x40 = 0x10 := by
    rw [Geometry.pageBase, pageBytes]
    rfl
  have entry := (pages 5 sixth).2
  dsimp only at entry
  rw [base] at entry
  refine ⟨b, accepted, by decide, ⟨id, found, entry⟩, ?_, ?_, ?_, ?_, ?_⟩
  · exact behind 0x41 ⟨by decide, by decide⟩ _
      (.part (List.mem_cons_of_mem _ List.mem_cons_self) ⟨by decide, by decide⟩)
  · exact behind 0x47 ⟨by decide, by decide⟩ _
      (.part (List.mem_cons_of_mem _ List.mem_cons_self) ⟨by decide, by decide⟩)
  · refine behind 0x48 ⟨by decide, by decide⟩ _ (.gap ?_)
    refine List.forall_mem_cons.mpr ⟨fun inside => absurd inside.1 (by decide), ?_⟩
    exact List.forall_mem_singleton.mpr fun inside => absurd inside.2 (by decide)
  · exact behind 0x5f ⟨by decide, by decide⟩ _
      (.part List.mem_cons_self ⟨by decide, by decide⟩)
  · have third : 0x20 ∈ b.geometry.addressesOf 2 := by
      rw [Geometry.addressesOf, pageBytes]
      exact ⟨by decide, by decide⟩
    refine others 2 (by rw [pageCount]; decide) ?_
    refine List.forall_mem_cons.mpr ⟨fun _ page => absurd (page third).1 (by decide), ?_⟩
    refine List.forall_mem_cons.mpr ⟨fun _ page => absurd (page third).1 (by decide), ?_⟩
    refine List.forall_mem_cons.mpr ⟨fun mapped => absurd rfl mapped, ?_⟩
    exact List.forall_mem_singleton.mpr fun _ page => absurd (page third).2 (by decide)

end MachineProfile

end Backplane
