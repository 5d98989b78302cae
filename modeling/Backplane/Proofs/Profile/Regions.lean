import Backplane.Proofs.Bus.Operations
import Backplane.Proofs.Profile.Overlap
import Backplane.Proofs.Target.Names
import Backplane.Proofs.Target.Parts

/-!
# Populating a bus with one region

A region adds its targets at the end of the arena, first those of its parts, and
then maps its pages. `populate_eq_ok_iff` says when all steps succeed, and what
the bus is then: `RegionSpec.populated`.
-/

namespace Backplane

namespace Bus

variable {σ : Type}

/-- The bus with more targets in its arena. -/
def adding (b : Bus σ) (slots : List (Slot σ)) : Bus σ :=
  { b with fabric := { b.fabric with arena := b.arena.adding slots } }

variable (b : Bus σ) (slots : List (Slot σ))

@[simp] theorem adding_nil : b.adding [] = b := by
  rw [adding, Arena.adding_nil]
  rfl

@[simp] theorem arena_adding : (b.adding slots).arena = b.arena.adding slots := rfl

theorem adding_append (more : List (Slot σ)) :
    b.adding (slots ++ more) = (b.adding slots).adding more := by
  simp only [adding, Arena.adding_append, arena]

/-- A target is added to a bus if its name is new. -/
theorem addTarget_eq (name : String) (target : Target σ) :
    b.addTarget name target =
      if name ∈ b.arena.names then (b, .error (.duplicateTarget name))
      else (b.adding [⟨name, target⟩], .ok (.ofIndex b.arena.size)) := by
  rw [addTarget, Arena.insert_eq]
  by_cases taken : name ∈ b.arena.names
  · rw [if_pos taken, if_pos taken]
  · rw [if_neg taken, if_neg taken]
    rfl

end Bus

/-! ## Backings -/

namespace Backing

variable {σ : Type}

/-- The image is no longer than the memory that it is for. -/
def Fits (size : UInt32) : Backing → Prop
  | .ram _ => True
  | .rom image _ => image.length ≤ size.toNat

/-- The memory that a backing stands for. -/
def target (size : UInt32) : Backing → Target σ
  | .ram fill => .ram (.filled size.toNat fill)
  | .rom image fill => .rom (.ofImage size.toNat image.toArray fill)

theorem build_eq_ok_iff {name : String} {size : UInt32} {backing : Backing} {t : Target σ} :
    backing.build name size = .ok t ↔ backing.Fits size ∧ t = backing.target size := by
  cases backing with
  | ram fill =>
    simp only [build, Fits, target, true_and, Except.ok.injEq]
    exact eq_comm
  | rom image fill =>
    simp only [build, Fits, target]
    split
    · rename_i large
      simp only [reduceCtorEq, false_iff]
      exact fun fits => Nat.not_le.mpr large fits.1
    · rename_i fits
      simp only [Nat.not_lt.mp fits, true_and, Except.ok.injEq]
      exact eq_comm

end Backing

/-! ## Parts -/

namespace SubRegionSpec

/-- The offsets of a part. -/
def offsets (s : SubRegionSpec) : Set ℕ := Set.Ico s.offset.toNat (s.offset.toNat + s.size.toNat)

theorem offset_mem {s : SubRegionSpec} (nonempty : s.size ≠ 0) : s.offset.toNat ∈ s.offsets :=
  ⟨Nat.le_refl _, Nat.lt_add_of_pos_right (toNat_pos_of_ne_zero nonempty)⟩

/-- The part, backed by the target at position `i`. -/
def part (s : SubRegionSpec) (i : ℕ) : SubRegion :=
  ⟨s.offset, s.size, s.label, s.region, .ofIndex i, 0⟩

/-- The parts, backed by the targets from position `n` on. -/
def parts (n : ℕ) : List SubRegionSpec → List SubRegion
  | [] => []
  | s :: subs => s.part n :: parts (n + 1) subs

theorem forall_mem_parts {P : SubRegion → Prop} {Q : SubRegionSpec → Prop}
    (same : ∀ s i, P (part s i) ↔ Q s) (n : ℕ) (subs : List SubRegionSpec) :
    (∀ part ∈ parts n subs, P part) ↔ ∀ s ∈ subs, Q s := by
  induction subs generalizing n with
  | nil => exact iff_of_true nofun nofun
  | cons s subs ih => rw [parts, List.forall_mem_cons, List.forall_mem_cons, same, ih]

theorem pairwise_parts (n : ℕ) (subs : List SubRegionSpec) :
    (parts n subs).Pairwise (fun s t => Disjoint s.offsets t.offsets) ↔
      subs.Pairwise fun s t => Disjoint s.offsets t.offsets := by
  induction subs generalizing n with
  | nil => exact iff_of_true .nil .nil
  | cons s subs ih =>
    have first : (∀ part ∈ parts (n + 1) subs, Disjoint (s.part n).offsets part.offsets) ↔
        ∀ t ∈ subs, Disjoint s.offsets t.offsets :=
      forall_mem_parts (fun t i => Iff.rfl) (n + 1) subs
    rw [parts, List.pairwise_cons, List.pairwise_cons, first, ih]

end SubRegionSpec

namespace RegionKind

/-- No image is longer than what it is for. -/
def ImagesFit (size : UInt32) : RegionKind → Prop
  | .memory backing => backing.Fits size
  | .composite subs => ∀ s ∈ subs, s.backing.Fits s.size
  | .unmapped => True

/-- The parts hold bytes, lie within `size` bytes and have no offset in common. -/
def Divides (size : UInt32) : RegionKind → Prop
  | .composite subs =>
    (∀ s ∈ subs, s.size ≠ 0 ∧ s.offset.toNat + s.size.toNat ≤ size.toNat) ∧
      subs.Pairwise fun s t => Disjoint s.offsets t.offsets
  | .memory _ | .unmapped => True

end RegionKind

namespace RegionSpec

variable {σ : Type}

/-- The names of the targets of the parts. -/
def subNames (r : RegionSpec) : List String :=
  match r.kind with
  | .composite subs => subs.map r.subName
  | .memory _ | .unmapped => []

/-- The names of all targets of the region. -/
def targetNames (r : RegionSpec) : List String :=
  match r.kind with
  | .unmapped => []
  | .memory _ | .composite _ => r.subNames ++ [r.name]

/-- The target of a part under its name. -/
def subSlot (r : RegionSpec) (s : SubRegionSpec) : Slot σ :=
  ⟨r.subName s, s.backing.target s.size⟩

/-- The targets of the parts. -/
def subSlots (r : RegionSpec) : List (Slot σ) :=
  match r.kind with
  | .composite subs => subs.map r.subSlot
  | .memory _ | .unmapped => []

/-- The target of the region, if those of its parts stand from position `n` on. -/
def target? (r : RegionSpec) (n : ℕ) : Option (Target σ) :=
  match r.kind with
  | .memory backing => some (backing.target r.size)
  | .composite subs =>
    some (.window ((SubRegionSpec.parts n subs).foldl Window.withPart (.empty r.size)))
  | .unmapped => none

variable {r : RegionSpec} {b b' : Bus σ} {w : Window}

@[simp] theorem map_name_subSlots : (r.subSlots (σ := σ)).map Slot.name = r.subNames := by
  unfold subSlots subNames
  cases r.kind with
  | memory | unmapped => rfl
  | composite subs =>
    rw [List.map_map]
    rfl

@[simp] theorem wrap_eq_ok_iff {α : Type} {x : Except BusError α} {value : α} :
    r.wrap x = .ok value ↔ x = .ok value := by
  cases x <;> simp [wrap]

theorem length_subSlots : (r.subSlots (σ := σ)).length = r.subNames.length := by
  rw [← map_name_subSlots (σ := σ), List.length_map]

theorem addSub_eq_ok_iff (h : w.Divided) {s : SubRegionSpec} {state : Bus σ × Window} :
    r.addSub (b, w) s = .ok state ↔
      s.backing.Fits s.size ∧ r.subName s ∉ b.arena.names ∧ w.Admits (s.part b.arena.size) ∧
        state = (b.adding [r.subSlot s], w.withPart (s.part b.arena.size)) := by
  unfold addSub
  rw [bind_eq_ok_iff]
  simp only [Backing.build_eq_ok_iff, Bus.addTarget_eq, and_assoc, exists_and_left]
  refine and_congr_right fun _ => ?_
  rw [exists_eq_left]
  by_cases taken : r.subName s ∈ b.arena.names
  · rw [if_pos taken]
    simp only [bind_eq_ok_iff, wrap_eq_ok_iff, reduceCtorEq, false_and, exists_false, taken,
      not_true_eq_false]
  · rw [if_neg taken]
    simp only [bind_eq_ok_iff, wrap_eq_ok_iff, Except.ok.injEq, exists_eq_left',
      Window.add_eq_ok_iff h, taken, not_false_eq_true, true_and, and_assoc, exists_and_left,
      exists_eq_left, pure, Except.pure]
    exact and_congr_right fun _ => eq_comm

/-- The parts of a region are added in turn. Whether an image fits, a name is new
and the window has room are matters of their own. -/
theorem addSubs_eq_ok_iff (h : w.Divided) (nodup : b.arena.names.Nodup)
    {subs : List SubRegionSpec} {state : Bus σ × Window} :
    subs.foldlM r.addSub (b, w) = .ok state ↔
      (∀ s ∈ subs, s.backing.Fits s.size) ∧
      (b.arena.names ++ subs.map r.subName).Nodup ∧
      w.addAll (SubRegionSpec.parts b.arena.size subs) = .ok state.2 ∧
      state.1 = b.adding (subs.map r.subSlot) := by
  induction subs generalizing b w with
  | nil =>
    simp only [List.foldlM_nil, pure, Except.pure, SubRegionSpec.parts, Window.addAll,
      List.map_nil, List.append_nil, Bus.adding_nil, Except.ok.injEq]
    refine ⟨?_, ?_⟩
    · rintro rfl
      exact ⟨fun _ hs => absurd hs List.not_mem_nil, nodup, rfl, rfl⟩
    · rintro ⟨-, -, same_window, same_bus⟩
      exact Prod.ext same_bus.symm same_window
  | cons s subs ih =>
    have new_iff : (b.arena.names ++ (s :: subs).map r.subName).Nodup ↔
        r.subName s ∉ b.arena.names ∧
          ((b.adding [r.subSlot s]).arena.names ++ subs.map r.subName).Nodup := by
      have same : (b.adding [r.subSlot s]).arena.names ++ subs.map r.subName =
          b.arena.names ++ (s :: subs).map r.subName := by
        simp [subSlot]
      rw [same, iff_and_self]
      intro all known
      exact (List.nodup_append.mp all).2.2 _ known _ List.mem_cons_self rfl
    have size : (b.adding [r.subSlot s]).arena.size = b.arena.size + 1 := by simp
    have later : b.adding ((s :: subs).map r.subSlot) =
        (b.adding [r.subSlot s]).adding (subs.map r.subSlot) := by
      rw [← Bus.adding_append]
      rfl
    rw [List.foldlM_cons, bind_eq_ok_iff, List.forall_mem_cons, new_iff, SubRegionSpec.parts,
      Window.addAll_cons, bind_eq_ok_iff, later]
    simp only [addSub_eq_ok_iff h, Window.add_eq_ok_iff h]
    constructor
    · rintro ⟨_, ⟨fits, new, admits, rfl⟩, rest⟩
      have nodup' : (b.adding [r.subSlot s]).arena.names.Nodup := by
        rw [Bus.arena_adding, Arena.names_adding]
        exact (List.concat_eq_append ▸ nodup.concat new :)
      obtain ⟨rest_fit, rest_new, rest_added, same_bus⟩ := (ih (h.withPart admits) nodup').mp rest
      rw [size] at rest_added
      exact ⟨⟨fits, rest_fit⟩, ⟨new, rest_new⟩, ⟨_, ⟨admits, rfl⟩, rest_added⟩, same_bus⟩
    · rintro ⟨⟨fits, rest_fit⟩, ⟨new, rest_new⟩, ⟨_, ⟨admits, rfl⟩, rest_added⟩, same_bus⟩
      refine ⟨_, ⟨fits, new, admits, rfl⟩, ?_⟩
      rw [← size] at rest_added
      exact (ih (h.withPart admits) rest_new.of_append_left).mpr
        ⟨rest_fit, rest_new, rest_added, same_bus⟩

theorem admits_empty_iff {size : UInt32} (s : SubRegionSpec) (i : ℕ) :
    (Window.empty size).Admits (s.part i) ↔
      s.size ≠ 0 ∧ s.offset.toNat + s.size.toNat ≤ size.toNat :=
  ⟨fun h => ⟨h.size_ne_zero, h.stop_le⟩, fun h => ⟨h.1, h.2, nofun⟩⟩

theorem buildTarget_eq_ok_iff (nodup : b.arena.names.Nodup) {built : Bus σ × Option (Target σ)} :
    r.buildTarget b = .ok built ↔
      r.kind.ImagesFit r.size ∧ r.kind.Divides r.size ∧
        (b.arena.names ++ r.subNames).Nodup ∧
        built = (b.adding r.subSlots, r.target? b.arena.size) := by
  unfold buildTarget subNames subSlots target?
  cases r.kind with
  | unmapped =>
    simp only [RegionKind.ImagesFit, RegionKind.Divides, List.append_nil, nodup, Bus.adding_nil,
      true_and, Except.ok.injEq]
    exact eq_comm
  | memory backing =>
    simp only [RegionKind.ImagesFit, RegionKind.Divides, List.append_nil, nodup, Bus.adding_nil,
      true_and, bind_eq_ok_iff, Backing.build_eq_ok_iff, and_assoc, exists_and_left,
      exists_eq_left, pure, Except.pure, Except.ok.injEq]
    exact and_congr_right fun _ => eq_comm
  | composite subs =>
    simp only [RegionKind.ImagesFit, RegionKind.Divides, bind_eq_ok_iff,
      addSubs_eq_ok_iff (Window.divided_empty r.size) nodup,
      Window.addAll_eq_ok_iff (Window.divided_empty r.size),
      SubRegionSpec.forall_mem_parts admits_empty_iff, SubRegionSpec.pairwise_parts,
      pure, Except.pure, Except.ok.injEq]
    constructor
    · rintro ⟨⟨_, _⟩, ⟨fits, new, ⟨inside, apart, rfl⟩, rfl⟩, rfl⟩
      exact ⟨fits, ⟨inside, apart⟩, new, rfl⟩
    · rintro ⟨fits, ⟨inside, apart⟩, new, rfl⟩
      exact ⟨(_, _), ⟨fits, new, ⟨inside, apart, rfl⟩, rfl⟩, rfl⟩

end RegionSpec

/-! ## Pages -/

theorem Geometry.isAligned_iff {g : Geometry} {value : UInt32} :
    g.isAligned value = true ↔ 2 ^ g.pageShift ∣ value.toNat := by
  rw [isAligned, decide_eq_true_eq, pageBytes, Nat.one_shiftLeft, Nat.dvd_iff_mod_eq_zero]

namespace RegionSpec

variable {σ : Type} {r : RegionSpec} {b b' : Bus σ}

/-- The region is made of whole pages of the space, at least one. -/
structure Placed (r : RegionSpec) (addressBits pageShift : ℕ) : Prop where
  size_ne_zero : r.size ≠ 0
  start_aligned : 2 ^ pageShift ∣ r.start.toNat
  size_aligned : 2 ^ pageShift ∣ r.size.toNat
  stop_le : r.start.toNat + r.size.toNat ≤ 2 ^ addressBits

theorem pageRange_eq_ok_iff {range : ℕ × ℕ} :
    b.pageRange r.start r.size = .ok range ↔
      r.Placed b.geometry.addressBits b.geometry.pageShift ∧
        range = (b.geometry.pageOf r.start, b.geometry.pageOf r.size) := by
  have space : b.geometry.spaceSize = 2 ^ b.geometry.addressBits := Nat.one_shiftLeft _
  rw [Bus.pageRange, space]
  split
  · rename_i refused
    simp only [Bool.or_eq_true, decide_eq_true_eq, Bool.not_eq_true', Bool.eq_false_iff, ne_eq,
      Geometry.isAligned_iff] at refused
    refine iff_of_false (fun found => by cases found) ?_
    rintro ⟨placed, -⟩
    rcases refused with (empty | start) | size
    · exact placed.size_ne_zero empty
    · exact start placed.start_aligned
    · exact size placed.size_aligned
  · rename_i accepted
    simp only [Bool.or_eq_true, decide_eq_true_eq, Bool.not_eq_true', Bool.eq_false_iff, ne_eq,
      Geometry.isAligned_iff, not_or, not_not] at accepted
    obtain ⟨⟨nonempty, start⟩, size⟩ := accepted
    split
    · rename_i outside
      refine iff_of_false (fun found => by cases found) ?_
      rintro ⟨placed, -⟩
      exact Nat.not_le.mpr outside placed.stop_le
    · rename_i inside
      rw [Except.ok.injEq]
      constructor
      · rintro rfl
        exact ⟨⟨nonempty, start, size, Nat.not_lt.mp inside⟩, rfl⟩
      · rintro ⟨-, rfl⟩
        rfl

/-- The targets that the region adds to an arena of `n` targets. -/
def slots (r : RegionSpec) (n : ℕ) : List (Slot σ) :=
  r.subSlots ++ (r.target? n).toList.map (Slot.mk r.name)

/-- The id of the target of the region, if those of its parts stand from position
`n` on. -/
def targetId (r : RegionSpec) (n : ℕ) : TargetId := .ofIndex (n + r.subNames.length)

/-- How the pages of the region are mapped to its target. -/
def mapping (r : RegionSpec) (n : ℕ) : RangeMapping where
  target := r.targetId n
  perms := r.perms
  region := r.region
  deviceId := r.deviceId
  caps := r.caps

theorem targetNames_of_mapped (mapped : r.kind ≠ .unmapped) :
    r.targetNames = r.subNames ++ [r.name] := by
  unfold targetNames
  cases kind : r.kind with
  | unmapped => exact absurd kind mapped
  | memory | composite => rfl

theorem target?_of_mapped (mapped : r.kind ≠ .unmapped) (n : ℕ) :
    ∃ t : Target σ, r.target? n = some t := by
  unfold target?
  cases kind : r.kind with
  | unmapped => exact absurd kind mapped
  | memory | composite => exact ⟨_, rfl⟩

@[simp] theorem map_name_slots (n : ℕ) : (r.slots (σ := σ) n).map Slot.name = r.targetNames := by
  rw [slots, List.map_append, map_name_subSlots]
  by_cases unmapped : r.kind = .unmapped
  · rw [target?, targetNames, subNames, unmapped]
    rfl
  · obtain ⟨t, made⟩ := target?_of_mapped (σ := σ) unmapped n
    rw [made, targetNames_of_mapped unmapped]
    rfl

theorem unmapRange_eq_ok_iff :
    b.unmapRange r.start r.size = (b', .ok ()) ↔
      r.Placed b.geometry.addressBits b.geometry.pageShift ∧
        b' = { b with
          map := Bus.setBases b.map (b.geometry.pageOf r.start) (b.geometry.pageOf r.size)
            fun _ => .unmapped } := by
  rw [Bus.unmapRange]
  cases found : b.pageRange r.start r.size with
  | error e =>
    refine iff_of_false nofun ?_
    rintro ⟨placed, -⟩
    rw [pageRange_eq_ok_iff.mpr ⟨placed, rfl⟩] at found
    cases found
  | ok pages =>
    obtain ⟨placed, rfl⟩ := pageRange_eq_ok_iff.mp found
    simp only [Prod.mk.injEq, and_true, placed, true_and]
    exact eq_comm

theorem mapRange_eq_ok_iff [DeviceModel σ] {mapping : RangeMapping}
    (from_zero : mapping.targetOffset = 0) :
    b.mapRange r.start r.size mapping = (b', .ok ()) ↔
      r.Placed b.geometry.addressBits b.geometry.pageShift ∧
        (∃ size, b.arena.sizeOf mapping.target = .ok size ∧ r.size.toNat ≤ size.toNat) ∧
        b' = { b with
          map := Bus.setBases b.map (b.geometry.pageOf r.start) (b.geometry.pageOf r.size)
            (b.entryAt mapping (mapping.caps.getD (b.arena.capsOf mapping.target))) } := by
  rw [Bus.mapRange]
  cases found : b.pageRange r.start r.size with
  | error e =>
    refine iff_of_false nofun ?_
    rintro ⟨placed, -⟩
    rw [pageRange_eq_ok_iff.mpr ⟨placed, rfl⟩] at found
    cases found
  | ok pages =>
    obtain ⟨placed, rfl⟩ := pageRange_eq_ok_iff.mp found
    cases measured : b.arena.sizeOf mapping.target with
    | error e => simp
    | ok size =>
      have start : mapping.targetOffset.toNat = 0 := by rw [from_zero]; rfl
      simp only [start, Nat.zero_add, placed, true_and, Except.ok.injEq, exists_eq_left']
      split
      · rename_i short
        refine iff_of_false ?_ fun reaches => Nat.not_le.mpr short reaches.1
        simp
      · rename_i reaches
        simp only [Prod.mk.injEq, and_true, Nat.not_lt.mp reaches, true_and]
        exact eq_comm

/-- An operation on the bus that succeeds is the last step of populating. -/
theorem last_eq_ok_iff {x : Bus σ × Except BusError Unit} :
    (r.wrap x.2 >>= fun _ => (pure x.1 : Except ProfileError (Bus σ))) = .ok b' ↔
      x = (b', .ok ()) := by
  obtain ⟨after, result⟩ := x
  simp only [bind_eq_ok_iff, wrap_eq_ok_iff, pure, Except.pure, Except.ok.injEq, Prod.mk.injEq]
  constructor
  · rintro ⟨⟨⟩, rfl, rfl⟩
    exact ⟨rfl, rfl⟩
  · rintro ⟨rfl, rfl⟩
    exact ⟨(), rfl, rfl⟩

/-- What the pages of the region are mapped to, by their distance from the first,
if the region is populated on `b`. -/
def entries [DeviceModel σ] (r : RegionSpec) (b : Bus σ) : ℕ → PageEntry :=
  match r.kind with
  | .unmapped => fun _ => .unmapped
  | .memory _ | .composite _ =>
    let arena := b.arena.adding (r.slots b.arena.size)
    b.entryAt (r.mapping b.arena.size) (r.caps.getD (arena.capsOf (r.targetId b.arena.size)))

/-- The bus with the targets of the region, and its pages mapped. -/
def populated [DeviceModel σ] (r : RegionSpec) (b : Bus σ) : Bus σ :=
  { b.adding (r.slots b.arena.size) with
    map := Bus.setBases b.map (b.geometry.pageOf r.start) (b.geometry.pageOf r.size)
      (r.entries b) }

/-- The target of the region, once it is there, is as large as the region. -/
def Reaches [DeviceModel σ] (r : RegionSpec) (a : Arena σ) : Prop :=
  r.kind ≠ .unmapped → ∃ size,
    (a.adding (r.slots a.size)).sizeOf (r.targetId a.size) = .ok size ∧ r.size.toNat ≤ size.toNat

variable [DeviceModel σ]

theorem entries_of_mapped (mapped : r.kind ≠ .unmapped) (b : Bus σ) :
    r.entries b = b.entryAt (r.mapping b.arena.size)
      (r.caps.getD ((b.arena.adding (r.slots b.arena.size)).capsOf (r.targetId b.arena.size))) := by
  unfold entries
  cases kind : r.kind with
  | unmapped => exact absurd kind mapped
  | memory | composite => rfl

/-- An unmapped region has no targets, and takes its pages from whatever was there. -/
theorem populate_unmapped_eq_ok_iff (nodup : b.arena.names.Nodup) (unmapped : r.kind = .unmapped) :
    r.populate b = .ok b' ↔
      r.Placed b.geometry.addressBits b.geometry.pageShift ∧ b' = r.populated b := by
  have noSlots : r.subSlots (σ := σ) = [] := by rw [subSlots, unmapped]
  have noTarget : r.target? (σ := σ) b.arena.size = none := by rw [target?, unmapped]
  have noNames : r.subNames = [] := by rw [subNames, unmapped]
  have same : r.populated b = { b with
      map := Bus.setBases b.map (b.geometry.pageOf r.start) (b.geometry.pageOf r.size)
        fun _ => .unmapped } := by
    rw [populated, slots, noSlots, noTarget, entries, unmapped, Option.toList_none, List.map_nil,
      List.append_nil, Bus.adding_nil]
  rw [populate, bind_eq_ok_iff, same]
  simp only [buildTarget_eq_ok_iff nodup, noSlots, noTarget, noNames, Bus.adding_nil,
    List.append_nil]
  constructor
  · rintro ⟨_, ⟨-, -, -, rfl⟩, rest⟩
    exact unmapRange_eq_ok_iff.mp (last_eq_ok_iff.mp rest)
  · intro after
    refine ⟨_, ⟨?_, ?_, nodup, rfl⟩, last_eq_ok_iff.mpr (unmapRange_eq_ok_iff.mpr after)⟩
    · rw [unmapped]
      trivial
    · rw [unmapped]
      trivial

/-- Any other region adds its targets, the last under its own name, and maps its
pages to that one. -/
theorem populate_mapped_eq_ok_iff (nodup : b.arena.names.Nodup) (mapped : r.kind ≠ .unmapped)
    {t : Target σ} (made : r.target? b.arena.size = some t) :
    r.populate b = .ok b' ↔
      r.kind.ImagesFit r.size ∧ r.kind.Divides r.size ∧
        ((b.arena.names ++ r.subNames).Nodup ∧ r.name ∉ b.arena.names ++ r.subNames) ∧
        r.Placed b.geometry.addressBits b.geometry.pageShift ∧ r.Reaches b.arena ∧
        b' = r.populated b := by
  have id : .ofIndex (b.adding r.subSlots).arena.size = r.targetId b.arena.size := by
    rw [targetId, Bus.arena_adding, Arena.size_adding, length_subSlots]
  have grown : (b.adding r.subSlots).adding [⟨r.name, t⟩] = b.adding (r.slots b.arena.size) := by
    rw [← Bus.adding_append, slots, made]
    rfl
  have names : (b.adding r.subSlots).arena.names = b.arena.names ++ r.subNames := by
    rw [Bus.arena_adding, Arena.names_adding, map_name_subSlots]
  -- The last step, once the name is new.
  have last : (b.adding (r.slots b.arena.size)).mapRange r.start r.size
        (r.mapping b.arena.size) = (b', .ok ()) ↔
      r.Placed b.geometry.addressBits b.geometry.pageShift ∧ r.Reaches b.arena ∧
        b' = r.populated b := by
    rw [mapRange_eq_ok_iff rfl, populated, entries_of_mapped mapped]
    refine and_congr_right fun _ => and_congr_left fun _ => ?_
    exact ⟨fun found _ => found, fun reaches => reaches mapped⟩
  rw [populate, bind_eq_ok_iff]
  simp only [buildTarget_eq_ok_iff nodup, made]
  constructor
  · rintro ⟨_, ⟨fits, divides, new, rfl⟩, rest⟩
    dsimp only at rest
    rw [Bus.addTarget_eq, names] at rest
    split at rest
    · cases rest
    · rename_i fresh
      rw [grown, id] at rest
      exact ⟨fits, divides, ⟨new, fresh⟩, last.mp (last_eq_ok_iff.mp rest)⟩
  · rintro ⟨fits, divides, ⟨new, fresh⟩, after⟩
    refine ⟨_, ⟨fits, divides, new, rfl⟩, ?_⟩
    dsimp only
    rw [Bus.addTarget_eq, names, if_neg fresh, grown, id]
    exact last_eq_ok_iff.mpr (last.mpr after)

/-- When a region can be populated, and what the bus is then. -/
theorem populate_eq_ok_iff (nodup : b.arena.names.Nodup) :
    r.populate b = .ok b' ↔
      r.kind.ImagesFit r.size ∧ r.kind.Divides r.size ∧
        r.Placed b.geometry.addressBits b.geometry.pageShift ∧
        (b.arena.names ++ r.targetNames).Nodup ∧ r.Reaches b.arena ∧ b' = r.populated b := by
  by_cases unmapped : r.kind = .unmapped
  · have noNames : r.targetNames = [] := by rw [targetNames, unmapped]
    have fits : r.kind.ImagesFit r.size := by
      rw [unmapped]
      trivial
    have divides : r.kind.Divides r.size := by
      rw [unmapped]
      trivial
    have reaches : r.Reaches b.arena := fun mapped => absurd unmapped mapped
    rw [populate_unmapped_eq_ok_iff nodup unmapped, noNames, List.append_nil]
    tauto
  · obtain ⟨t, made⟩ := target?_of_mapped (σ := σ) unmapped b.arena.size
    have new_iff : (b.arena.names ++ r.targetNames).Nodup ↔
        (b.arena.names ++ r.subNames).Nodup ∧ r.name ∉ b.arena.names ++ r.subNames := by
      rw [targetNames_of_mapped unmapped, ← List.append_assoc, ← List.concat_eq_append,
        List.nodup_concat]
      exact and_comm
    rw [populate_mapped_eq_ok_iff nodup unmapped made, new_iff]
    tauto

end RegionSpec
end Backplane
