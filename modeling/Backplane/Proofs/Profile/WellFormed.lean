import Backplane.Device.Switch
import Backplane.Proofs.Bus.Follows
import Backplane.Proofs.Profile.Targets

/-!
# Well-formed profiles

`MachineProfile.WellFormed` says what a profile must be like for a bus to be built
from it, and `ofProfile_isOk_iff` that nothing else matters: not the order of the
regions, nor that of the checks, which are made in part before and in part while
the bus is populated.

Ids count targets in 32 bits. A well-formed profile has at most twice as many
targets as addresses, so ids can only run out in a space of 32 address bits, and
there only with more than `2 ^ 32` targets.
-/

namespace Backplane

variable {σ : Type}

/-- The names of all targets. -/
def MachineProfile.targetNames (p : MachineProfile) : List String :=
  p.regions.flatMap RegionSpec.targetNames

/-- A profile from which a bus can be built. -/
structure MachineProfile.WellFormed (p : MachineProfile) : Prop where
  /-- A page has at least 4 bytes and at most `2 ^ 31`. -/
  pageShift : 2 ≤ p.pageShift.toNat ∧ p.pageShift.toNat ≤ 31
  /-- The space holds a page, and has at most 32 address bits. -/
  addressBits : p.pageShift.toNat ≤ p.addressBits.toNat ∧ p.addressBits.toNat ≤ 32
  /-- The space has at most `2 ^ 20` pages. -/
  pageBits : p.addressBits.toNat - p.pageShift.toNat ≤ 20
  /-- Regions are made of pages of the space. -/
  placed : ∀ r ∈ p.regions, r.Placed p.addressBits.toNat p.pageShift.toNat
  /-- No two regions have an address in common. -/
  disjoint : p.regions.Pairwise fun r s => Disjoint r.addresses s.addresses
  /-- No image is longer than what it is for. -/
  imagesFit : ∀ r ∈ p.regions, r.kind.ImagesFit r.size
  /-- The parts of each region divide it. -/
  divides : ∀ r ∈ p.regions, r.kind.Divides r.size
  /-- No two targets have a name in common. -/
  names : p.targetNames.Nodup

/-! ## Decidability -/

instance (size : UInt32) (backing : Backing) : Decidable (backing.Fits size) :=
  match backing with
  | .ram _ => inferInstanceAs (Decidable True)
  | .rom image _ => inferInstanceAs (Decidable (image.length ≤ size.toNat))

instance (s t : SubRegionSpec) : Decidable (Disjoint s.offsets t.offsets) :=
  decidable_of_iff _ Set.Ico_disjoint_Ico.symm

instance (r s : RegionSpec) : Decidable (Disjoint r.addresses s.addresses) :=
  decidable_of_iff _ Set.Ico_disjoint_Ico.symm

instance (size : UInt32) (kind : RegionKind) : Decidable (kind.ImagesFit size) :=
  match kind with
  | .memory backing => inferInstanceAs (Decidable (backing.Fits size))
  | .composite subs => inferInstanceAs (Decidable (∀ s ∈ subs, s.backing.Fits s.size))
  | .unmapped => inferInstanceAs (Decidable True)

instance (size : UInt32) (kind : RegionKind) : Decidable (kind.Divides size) :=
  match kind with
  | .composite subs =>
    inferInstanceAs (Decidable
      ((∀ s ∈ subs, s.size ≠ 0 ∧ s.offset.toNat + s.size.toNat ≤ size.toNat) ∧
        subs.Pairwise fun s t => Disjoint s.offsets t.offsets))
  | .memory _ | .unmapped => inferInstanceAs (Decidable True)

instance (r : RegionSpec) (addressBits pageShift : ℕ) :
    Decidable (r.Placed addressBits pageShift) :=
  decidable_of_iff
    (r.size ≠ 0 ∧ 2 ^ pageShift ∣ r.start.toNat ∧ 2 ^ pageShift ∣ r.size.toNat ∧
      r.start.toNat + r.size.toNat ≤ 2 ^ addressBits)
    ⟨fun ⟨h₁, h₂, h₃, h₄⟩ => ⟨h₁, h₂, h₃, h₄⟩, fun ⟨h₁, h₂, h₃, h₄⟩ => ⟨h₁, h₂, h₃, h₄⟩⟩

instance : DecidablePred MachineProfile.WellFormed := fun p =>
  decidable_of_iff
    ((2 ≤ p.pageShift.toNat ∧ p.pageShift.toNat ≤ 31) ∧
      (p.pageShift.toNat ≤ p.addressBits.toNat ∧ p.addressBits.toNat ≤ 32) ∧
      p.addressBits.toNat - p.pageShift.toNat ≤ 20 ∧
      (∀ r ∈ p.regions, r.Placed p.addressBits.toNat p.pageShift.toNat) ∧
      p.regions.Pairwise (fun r s => Disjoint r.addresses s.addresses) ∧
      (∀ r ∈ p.regions, r.kind.ImagesFit r.size) ∧
      (∀ r ∈ p.regions, r.kind.Divides r.size) ∧ p.targetNames.Nodup)
    ⟨fun ⟨h₁, h₂, h₃, h₄, h₅, h₆, h₇, h₈⟩ => ⟨h₁, h₂, h₃, h₄, h₅, h₆, h₇, h₈⟩,
      fun ⟨h₁, h₂, h₃, h₄, h₅, h₆, h₇, h₈⟩ => ⟨h₁, h₂, h₃, h₄, h₅, h₆, h₇, h₈⟩⟩

/-! ## Geometry -/

theorem Geometry.ofBits_eq_ok_iff {addressBits pageShift : UInt8} {g : Geometry} :
    ofBits addressBits pageShift = .ok g ↔
      g.addressBits = addressBits.toNat ∧ g.pageShift = pageShift.toNat := by
  unfold ofBits
  split
  · rename_i possible
    rw [Except.ok.injEq]
    constructor
    · rintro rfl
      exact ⟨rfl, rfl⟩
    · obtain ⟨bits, shift, h₁, h₂, h₃, h₄, h₅⟩ := g
      rintro ⟨same_bits, same_shift⟩
      dsimp only at same_bits same_shift
      subst same_bits same_shift
      rfl
  · rename_i impossible
    refine iff_of_false nofun ?_
    rintro ⟨same_bits, same_shift⟩
    rw [← same_bits, ← same_shift] at impossible
    exact impossible ⟨g.addressBits_le, g.two_le_pageShift, g.pageShift_lt, g.pageShift_le,
      g.pageBits_le⟩

/-! ## Regions in turn -/

namespace RegionSpec

variable [DeviceModel σ] {r : RegionSpec} {b b' : Bus σ}

@[simp] theorem arena_populated : (r.populated b).arena = b.arena.adding (r.slots b.arena.size) :=
  rfl

@[simp] theorem geometry_populated : (r.populated b).geometry = b.geometry :=
  (Bus.setBases_follows b.map _ _ (r.entries b)).geometry_eq

theorem names_populated (r : RegionSpec) (b : Bus σ) :
    (r.populated b).arena.names = b.arena.names ++ r.targetNames := by
  rw [arena_populated, Arena.names_adding, map_name_slots]

/-- The regions that are populated in turn are those that could be populated
alone, if all names differ. -/
theorem conditions_of_populates {regions : List RegionSpec} (nodup : b.arena.names.Nodup)
    (populates : regions.foldlM (fun b r => r.populate b) b = .ok b') :
    (∀ r ∈ regions, r.kind.ImagesFit r.size ∧ r.kind.Divides r.size ∧
        r.Placed b.geometry.addressBits b.geometry.pageShift) ∧
      (b.arena.names ++ regions.flatMap targetNames).Nodup := by
  induction regions generalizing b with
  | nil => exact ⟨nofun, by rwa [List.flatMap_nil, List.append_nil]⟩
  | cons r regions ih =>
    rw [List.foldlM_cons, bind_eq_ok_iff] at populates
    obtain ⟨_, first, rest⟩ := populates
    obtain ⟨fits, divides, placed, new, -, rfl⟩ := (populate_eq_ok_iff nodup).mp first
    obtain ⟨each, all_new⟩ := ih (names_populated r b ▸ new) rest
    rw [geometry_populated] at each
    rw [names_populated, List.append_assoc, ← List.flatMap_cons] at all_new
    exact ⟨List.forall_mem_cons.mpr ⟨⟨fits, divides, placed⟩, each⟩, all_new⟩

theorem populates_of_conditions {regions : List RegionSpec}
    (each : ∀ r ∈ regions, r.kind.ImagesFit r.size ∧ r.kind.Divides r.size ∧
      r.Placed b.geometry.addressBits b.geometry.pageShift)
    (new : (b.arena.names ++ regions.flatMap targetNames).Nodup)
    (room : b.arena.size + (regions.flatMap targetNames).length ≤ 2 ^ 32) :
    ∃ b', regions.foldlM (fun b r => r.populate b) b = .ok b' := by
  induction regions generalizing b with
  | nil => exact ⟨b, rfl⟩
  | cons r regions ih =>
    rw [List.flatMap_cons, ← List.append_assoc, ← names_populated] at new
    rw [List.flatMap_cons, List.length_append] at room
    obtain ⟨⟨fits, divides, placed⟩, each⟩ := List.forall_mem_cons.mp each
    have new_here : (b.arena.names ++ r.targetNames).Nodup := by
      rw [← names_populated]
      exact new.of_append_left
    have first : r.populate b = .ok (r.populated b) :=
      (populate_eq_ok_iff new_here.of_append_left).mpr
        ⟨fits, divides, placed, new_here, reaches divides (by omega), rfl⟩
    have size : (r.populated b).arena.size = b.arena.size + r.targetNames.length := by
      rw [← Arena.length_names, names_populated, List.length_append, Arena.length_names]
    obtain ⟨b', rest⟩ := ih (by rwa [geometry_populated]) new (by omega)
    refine ⟨b', ?_⟩
    rw [List.foldlM_cons, bind_eq_ok_iff]
    exact ⟨_, first, rest⟩

end RegionSpec

/-! ## The number of targets -/

namespace RegionSpec

variable {r : RegionSpec} {addressBits pageShift : ℕ}

/-- A number for each target of the region: the first address of the region, and
for a part its first address past the end of the space. -/
def marks (r : RegionSpec) (space : ℕ) : List ℕ :=
  match r.kind with
  | .unmapped => []
  | .memory _ => [r.start.toNat]
  | .composite subs =>
    subs.map (fun s => space + (r.start.toNat + s.offset.toNat)) ++ [r.start.toNat]

theorem length_marks (r : RegionSpec) (space : ℕ) :
    (r.marks space).length = r.targetNames.length := by
  unfold marks targetNames subNames
  cases r.kind with
  | unmapped | memory => rfl
  | composite subs => simp

/-- Every mark stands for an address of the region. -/
theorem address_of_mark (placed : r.Placed addressBits pageShift)
    (divides : r.kind.Divides r.size) {space mark : ℕ} (mem : mark ∈ r.marks space) :
    ∃ address ∈ r.addresses, mark = address ∨ mark = space + address := by
  have first := start_mem placed.size_ne_zero
  unfold marks at mem
  cases kind : r.kind with
  | unmapped =>
    rw [kind] at mem
    cases mem
  | memory backing =>
    rw [kind] at mem
    exact ⟨_, first, .inl (List.mem_singleton.mp mem)⟩
  | composite subs =>
    rw [kind] at mem divides
    rcases List.mem_append.mp mem with part | own
    · obtain ⟨s, hs, rfl⟩ := List.mem_map.mp part
      obtain ⟨nonempty, inside⟩ := divides.1 s hs
      have positive := toNat_pos_of_ne_zero nonempty
      exact ⟨_, ⟨Nat.le_add_right _ _, by omega⟩, .inr rfl⟩
    · exact ⟨_, first, .inl (List.mem_singleton.mp own)⟩

theorem nodup_marks {space : ℕ} (inside : r.start.toNat < space)
    (divides : r.kind.Divides r.size) : (r.marks space).Nodup := by
  unfold marks
  cases kind : r.kind with
  | unmapped => exact .nil
  | memory backing => exact List.nodup_singleton _
  | composite subs =>
    rw [kind] at divides
    obtain ⟨nonempty, apart⟩ := divides
    dsimp only
    rw [← List.concat_eq_append, List.nodup_concat]
    refine ⟨?_, ?_⟩
    · intro clash
      obtain ⟨s, -, eq⟩ := List.mem_map.mp clash
      omega
    · refine List.pairwise_map.mpr (apart.imp_of_mem ?_)
      intro s t hs ht disjoint eq
      have same : s.offset.toNat = t.offset.toNat := by omega
      have start := SubRegionSpec.offset_mem (nonempty s hs).1
      have start' := SubRegionSpec.offset_mem (nonempty t ht).1
      exact Set.disjoint_left.mp disjoint start (same ▸ start')

end RegionSpec

namespace MachineProfile

variable {p : MachineProfile}

/-- There are at most twice as many targets as addresses. -/
theorem WellFormed.length_targetNames_le (h : p.WellFormed) :
    p.targetNames.length ≤ 2 * 2 ^ p.addressBits.toNat := by
  generalize space : 2 ^ p.addressBits.toNat = n
  have below : ∀ r ∈ p.regions, ∀ address ∈ r.addresses, address < n := by
    intro r hr address mem
    exact Nat.lt_of_lt_of_le mem.2 (space ▸ (h.placed r hr).stop_le)
  have mark_lt : p.regions.flatMap (·.marks n) ⊆ List.range (2 * n) := by
    intro mark mem
    obtain ⟨r, hr, mem⟩ := List.mem_flatMap.mp mem
    obtain ⟨address, inside, eq⟩ :=
      RegionSpec.address_of_mark (h.placed r hr) (h.divides r hr) mem
    have lt := below r hr address inside
    exact List.mem_range.mpr (by omega)
  have nodup : (p.regions.flatMap (·.marks n)).Nodup := by
    refine List.nodup_flatMap.mpr ⟨fun r hr => ?_, ?_⟩
    · have start := RegionSpec.start_mem (h.placed r hr).size_ne_zero
      exact RegionSpec.nodup_marks (below r hr _ start) (h.divides r hr)
    · refine h.disjoint.imp_of_mem ?_
      intro r s hr hs disjoint mark mem mem'
      obtain ⟨address, inside, eq⟩ :=
        RegionSpec.address_of_mark (h.placed r hr) (h.divides r hr) mem
      obtain ⟨address', inside', eq'⟩ :=
        RegionSpec.address_of_mark (h.placed s hs) (h.divides s hs) mem'
      have lt := below r hr address inside
      have lt' := below s hs address' inside'
      have same : address = address' := by omega
      exact Set.disjoint_left.mp disjoint inside (same ▸ inside')
  have count := (List.subperm_of_subset nodup mark_lt).length_le
  simp only [List.length_flatMap, RegionSpec.length_marks, List.length_range] at count
  rwa [targetNames, List.length_flatMap]

/-- Ids suffice for the targets of a well-formed profile, unless the space has 32
address bits. -/
theorem WellFormed.room (h : p.WellFormed)
    (few : p.addressBits.toNat < 32 ∨ p.targetNames.length ≤ 2 ^ 32) :
    p.targetNames.length ≤ 2 ^ 32 := by
  rcases few with narrow | few
  · have space : 2 ^ p.addressBits.toNat ≤ 2 ^ 31 :=
      Nat.pow_le_pow_right (by omega) (Nat.le_of_lt_succ narrow)
    exact Nat.le_trans h.length_targetNames_le (by omega)
  · exact few

end MachineProfile

/-! ## Profiles -/

variable [DeviceModel σ] {p : MachineProfile} {b : Bus σ}

/-- What building a bus consists of. -/
theorem ofProfile_eq_ok_iff :
    Bus.ofProfile p = .ok b ↔
      ∃ g, (g.addressBits = p.addressBits.toNat ∧ g.pageShift = p.pageShift.toNat) ∧
        p.checkOverlaps = .ok () ∧
        p.regions.foldlM (fun b r => r.populate b) (Bus.empty g) = .ok b := by
  have checked {g : Geometry} :
      (Geometry.ofBits p.addressBits p.pageShift).mapError ProfileError.bus = .ok g ↔
      g.addressBits = p.addressBits.toNat ∧ g.pageShift = p.pageShift.toNat := by
    rw [← Geometry.ofBits_eq_ok_iff]
    cases Geometry.ofBits p.addressBits p.pageShift with
    | error e => exact iff_of_false (fun found => by cases found) (fun found => by cases found)
    | ok g' =>
      constructor
      · rintro ⟨⟩
        rfl
      · rintro ⟨⟩
        rfl
  rw [Bus.ofProfile, bind_eq_ok_iff]
  simp only [bind_eq_ok_iff, checked]
  constructor
  · rintro ⟨g, geometry, ⟨⟩, apart, populates⟩
    exact ⟨g, geometry, apart, populates⟩
  · rintro ⟨g, geometry, apart, populates⟩
    exact ⟨g, geometry, (), apart, populates⟩

theorem wellFormed_of_ofProfile (accepted : Bus.ofProfile p = .ok b) : p.WellFormed := by
  obtain ⟨g, ⟨bits, shift⟩, apart, populates⟩ := ofProfile_eq_ok_iff.mp accepted
  have unnamed : (Bus.empty g : Bus σ).arena.names.Nodup := List.nodup_nil
  obtain ⟨each, names⟩ := RegionSpec.conditions_of_populates unnamed populates
  have placed : ∀ r ∈ p.regions, r.Placed p.addressBits.toNat p.pageShift.toNat := by
    intro r hr
    rw [← bits, ← shift]
    exact (each r hr).2.2
  exact {
    pageShift := by
      rw [← shift]
      exact ⟨g.two_le_pageShift, Nat.le_of_lt_succ g.pageShift_lt⟩
    addressBits := by
      rw [← bits, ← shift]
      exact ⟨g.pageShift_le, g.addressBits_le⟩
    pageBits := by
      rw [← bits, ← shift]
      exact g.pageBits_le
    placed := placed
    disjoint := (MachineProfile.checkOverlaps_eq_ok_iff fun r hr =>
      (placed r hr).size_ne_zero).mp apart
    imagesFit := fun r hr => (each r hr).1
    divides := fun r hr => (each r hr).2.1
    names := names }

theorem ofProfile_of_wellFormed (h : p.WellFormed)
    (few : p.addressBits.toNat < 32 ∨ p.targetNames.length ≤ 2 ^ 32) :
    ∃ b : Bus σ, Bus.ofProfile p = .ok b := by
  let g : Geometry :=
    ⟨p.addressBits.toNat, p.pageShift.toNat, h.addressBits.2, h.pageShift.1,
      Nat.lt_succ_of_le h.pageShift.2, h.addressBits.1, h.pageBits⟩
  have apart : p.checkOverlaps = .ok () :=
    (MachineProfile.checkOverlaps_eq_ok_iff fun r hr =>
      (h.placed r hr).size_ne_zero).mpr h.disjoint
  have room : (Bus.empty g : Bus σ).arena.size + p.targetNames.length ≤ 2 ^ 32 := by
    change 0 + p.targetNames.length ≤ 2 ^ 32
    rw [Nat.zero_add]
    exact h.room few
  obtain ⟨b, populates⟩ := RegionSpec.populates_of_conditions (b := Bus.empty g)
    (fun r hr => ⟨h.imagesFit r hr, h.divides r hr, h.placed r hr⟩) h.names room
  exact ⟨b, ofProfile_eq_ok_iff.mpr ⟨g, ⟨rfl, rfl⟩, apart, populates⟩⟩

/-- A bus can be built from a profile exactly if the profile is well-formed. The
32 bits of target ids must suffice, which they always do below 32 address bits; a
well-formed profile is what every accepted one is, however many targets it has
(`wellFormed_of_ofProfile`). -/
theorem ofProfile_isOk_iff (p : MachineProfile)
    (few : p.addressBits.toNat < 32 ∨ p.targetNames.length ≤ 2 ^ 32) :
    (∃ b : Bus σ, Bus.ofProfile p = .ok b) ↔ p.WellFormed := by
  constructor
  · rintro ⟨b, accepted⟩
    exact wellFormed_of_ofProfile accepted
  · exact fun h => ofProfile_of_wellFormed h few

namespace MachineProfile

/-- Sixteen pages of 16 bytes, with a window of two parts and a gap; the regions
are not listed in the order of their addresses. -/
def small : MachineProfile where
  name := "small"
  addressBits := 8
  pageShift := 4
  regions :=
    [{ name := "io", start := 0x40, size := 0x20, perms := .readWrite, region := .composite,
       deviceId := 7,
       kind := .composite
        [⟨0x10, 0x10, "b", .ram, .ram 0xbb⟩, ⟨0, 8, "a", .rom, .rom [1, 2] 0xff⟩] },
     { name := "rom", start := 0xf0, size := 0x10, perms := .readExecute, region := .rom,
       kind := .memory (.rom [0xa9, 1] 0xea) },
     { name := "hole", start := 0x20, size := 0x10, perms := .none, region := .invalid,
       kind := .unmapped },
     { name := "ram", start := 0, size := 0x20, perms := .all, region := .ram,
       kind := .memory (.ram 0) }]

/-- The same, with another region that reaches into the window. -/
def crowded : MachineProfile :=
  { small with
    regions := small.regions ++
      [{ name := "late", start := 0x30, size := 0x20, perms := .all, region := .ram,
         kind := .memory (.ram 0) }] }

theorem ofProfile_isOk_iff_small :
    small.addressBits.toNat < 32 ∧ (∃ b : Bus SwitchBank, Bus.ofProfile small = .ok b) ∧
      ¬∃ b : Bus SwitchBank, Bus.ofProfile crowded = .ok b := by
  refine ⟨by decide, (ofProfile_isOk_iff small (.inl (by decide))).mpr (by decide_cbv), ?_⟩
  rw [ofProfile_isOk_iff crowded (.inl (by decide))]
  decide_cbv

end MachineProfile

end Backplane
