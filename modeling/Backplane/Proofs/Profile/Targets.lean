import Backplane.Proofs.Profile.Regions
import Backplane.Proofs.Target.Contents
import Backplane.Proofs.Target.Reach

/-!
# The targets of a region

What a region is made of is in the arena once the region is populated: memory that
begins with the bytes of its backing, or a window with such memory behind each of
its parts (`RegionSpec.built`). Every offset then leads to what lies there in the
region, to a byte or into a gap (`RegionKind.Built.route`).
-/

namespace Backplane

variable {σ : Type}

/-! ## What lies in a region -/

/-- The byte at an offset of memory, before anything is stored: of the image, or
past its end the byte that fills the rest. -/
def Backing.byteAt (k : ℕ) : Backing → UInt8
  | .ram fill => fill
  | .rom image fill => image.getD k fill

/-- What lies at an offset of a region before anything is stored: a byte, or
nothing in a gap between parts. -/
inductive RegionKind.Initial : RegionKind → ℕ → Option UInt8 → Prop
  /-- Memory holds its bytes. -/
  | memory (backing : Backing) (k : ℕ) : Initial (.memory backing) k (some (backing.byteAt k))
  /-- A part holds its bytes from its own beginning. -/
  | part {subs : List SubRegionSpec} {s : SubRegionSpec} {k : ℕ} : s ∈ subs → k ∈ s.offsets →
    Initial (.composite subs) k (some (s.backing.byteAt (k - s.offset.toNat)))
  /-- Between parts lies nothing. -/
  | gap {subs : List SubRegionSpec} {k : ℕ} : (∀ s ∈ subs, k ∉ s.offsets) →
    Initial (.composite subs) k none

/-! ## Memory -/

namespace Backing

theorem memory?_target (backing : Backing) (size : UInt32) :
    ∃ m, (backing.target size : Target σ).memory? = some m ∧
      ∀ k < size.toNat, m.get? k = some (backing.byteAt k) := by
  cases backing with
  | ram fill =>
    refine ⟨_, rfl, fun k lt => ?_⟩
    rw [Memory.get?_filled, if_pos lt]
    rfl
  | rom image fill =>
    refine ⟨_, rfl, fun k lt => ?_⟩
    rw [Memory.get?, Memory.ofImage, if_pos lt, byteAt]
    simp

variable {a : Arena σ} {backing : Backing} {size : UInt32} {id : TargetId}

/-- A route ends at memory, and finds the byte there. -/
theorem byte_of_target (here : a.get? id = some (backing.target size)) {offset : UInt32}
    (lt : offset < size) (direction : Direction) (steps : ℕ) :
    a.routeWithin direction (steps + 1) ⟨id, offset⟩ = .ok ⟨id, offset⟩ ∧
      a.byte? ⟨id, offset⟩ = some (backing.byteAt offset.toNat) := by
  obtain ⟨m, memory, bytes⟩ := backing.memory?_target (σ := σ) size
  constructor
  · cases backing <;> simp only [Arena.routeWithin, here, target]
  · rw [Arena.byte?_of_memory here memory]
    exact bytes _ (UInt32.lt_iff_toNat_lt.mp lt)

theorem capsWithin_of_target [DeviceModel σ] (here : a.get? id = some (backing.target size))
    (depth : ℕ) : a.capsWithin (depth + 1) id = .memory := by
  cases backing <;> simp only [Arena.capsWithin, here, target]

end Backing

/-- A whole made of memory is as capable as memory. -/
theorem Caps.ofParts_memory {parts : List Caps} (all : ∀ c ∈ parts, c = memory) :
    ofParts parts = memory := by
  have shared : parts.foldl inter memory = memory := by
    induction parts with
    | nil => rfl
    | cons c parts ih =>
      obtain ⟨rfl, rest⟩ := List.forall_mem_cons.mp all
      exact ih rest
  have spread : parts.foldl
      (fun any c => any.union (c.inter (sideEffects.union timing))) none = none := by
    clear shared
    induction parts with
    | nil => rfl
    | cons c parts ih =>
      obtain ⟨rfl, rest⟩ := List.forall_mem_cons.mp all
      exact ih rest
  rw [ofParts, shared, spread]
  rfl

/-! ## Targets of regions -/

/-- The arena holds what the region is made of, at this id. -/
inductive RegionKind.Built (a : Arena σ) (size : UInt32) (id : TargetId) : RegionKind → Prop
  /-- Memory. -/
  | memory {backing : Backing} : a.get? id = some (backing.target size) →
    Built a size id (.memory backing)
  /-- A window, and behind each part of it the memory of that part. -/
  | composite {subs : List SubRegionSpec} {w : Window} : a.get? id = some (.window w) →
    w.size = size → w.Divided →
    (∀ s ∈ subs, ∃ i, s.part i ∈ w.subs ∧
      a.get? (.ofIndex i) = some (s.backing.target s.size)) →
    (∀ part ∈ w.subs, ∃ s ∈ subs, ∃ i, part = s.part i ∧
      a.get? (.ofIndex i) = some (s.backing.target s.size)) →
    Built a size id (.composite subs)

namespace RegionKind

variable {a : Arena σ} {size : UInt32} {id : TargetId} {kind : RegionKind}

theorem Built.adding (h : kind.Built a size id) (slots : List (Slot σ)) :
    kind.Built (a.adding slots) size id := by
  cases h with
  | memory here => exact .memory (Arena.get?_adding here)
  | composite here same divided each all =>
    refine .composite (Arena.get?_adding here) same divided ?_ ?_
    · intro s hs
      obtain ⟨i, mem, behind⟩ := each s hs
      exact ⟨i, mem, Arena.get?_adding behind⟩
    · intro part hp
      obtain ⟨s, hs, i, eq, behind⟩ := all part hp
      exact ⟨s, hs, i, eq, Arena.get?_adding behind⟩

/-- Whatever is built for a region is as capable as memory. -/
theorem Built.capsOf [DeviceModel σ] (h : kind.Built a size id) : a.capsOf id = .memory := by
  cases h with
  | memory here => exact Backing.capsWithin_of_target here _
  | @composite subs w here same divided each all =>
    simp only [Arena.capsOf, Arena.capsWithin, here]
    refine Caps.ofParts_memory fun c hc => ?_
    obtain ⟨part, hp, rfl⟩ := List.mem_map.mp hc
    obtain ⟨s, hs, i, rfl, behind⟩ := all part hp
    exact Backing.capsWithin_of_target behind _

/-- Whatever is built for a region is as large as the region. -/
theorem Built.sizeOf [DeviceModel σ] (h : kind.Built a size id) : a.sizeOf id = .ok size := by
  cases h with
  | @memory backing here =>
    have word : size.toNat.toUInt32 = size := UInt32.ofNat_toNat
    have measured : a.Measured maxNesting id size.toNat.toUInt32 := by
      cases backing with
      | ram fill => exact .memory here rfl
      | rom image fill => exact .memory here rfl
    rw [word] at measured
    exact measured.sizeWithin
  | composite here same =>
    subst same
    exact Arena.Measured.sizeWithin (.window here)

/-- Offsets of a region lead to what lies there. -/
theorem Built.route (h : kind.Built a size id) {k : UInt32} (lt : k < size) {byte : Option UInt8}
    (initial : kind.Initial k.toNat byte) :
    match byte with
    | some value => ∃ cell, (∀ direction, a.route direction ⟨id, k⟩ = .ok cell) ∧
        a.byte? cell = some value
    | none => ∀ direction, a.route direction ⟨id, k⟩ = .error .unbacked := by
  cases h with
  | @memory backing here =>
    cases initial
    have route direction := Backing.byte_of_target here lt direction maxNesting
    exact ⟨⟨id, k⟩, fun direction => (route direction).1, (route .read).2⟩
  | @composite subs w here same divided each all =>
    cases initial with
    | @part _ s _ hs inside =>
      obtain ⟨i, mem, behind⟩ := each s hs
      have from_start : s.offset ≤ k := UInt32.le_iff_toNat_le.mpr inside.1
      have distance : (k - s.offset).toNat = k.toNat - s.offset.toNat :=
        UInt32.toNat_sub_of_le k s.offset from_start
      have lt_size : k - s.offset < s.size := by
        have to_stop : k.toNat < s.offset.toNat + s.size.toNat := inside.2
        have from_start : s.offset.toNat ≤ k.toNat := inside.1
        rw [UInt32.lt_iff_toNat_lt, distance]
        omega
      have next := divided.route_eq_some mem (show k.toNat ∈ (s.part i).offsets from inside)
      have route direction := Backing.byte_of_target behind lt_size direction (maxNesting - 1)
      refine ⟨⟨.ofIndex i, k - s.offset⟩, fun direction => ?_, ?_⟩
      · have zero : (s.part i).targetOffset + (k - (s.part i).offset) = k - s.offset :=
          UInt32.zero_add _
        rw [Arena.route, Arena.routeWithin, here]
        dsimp only
        rw [next, zero]
        exact (route direction).1
      · rw [← distance]
        exact (route .read).2
    | gap outside =>
      intro direction
      have none : w.route k = none := Window.route_eq_none fun part hp inside => by
        obtain ⟨s, hs, i, rfl, -⟩ := all part hp
        exact outside s hs inside
      simp only [Arena.route, Arena.routeWithin, here, none]

end RegionKind

theorem SubRegionSpec.mem_parts {n : ℕ} {subs : List SubRegionSpec} {part : SubRegion} :
    part ∈ parts n subs ↔
      ∃ i, ∃ s : SubRegionSpec, subs[i]? = some s ∧ part = s.part (n + i) := by
  induction subs generalizing n with
  | nil => simp [parts]
  | cons t subs ih =>
    rw [parts, List.mem_cons, ih]
    constructor
    · rintro (rfl | ⟨i, s, at_index, rfl⟩)
      · exact ⟨0, t, rfl, rfl⟩
      · exact ⟨i + 1, s, at_index, by rw [Nat.add_right_comm, Nat.add_assoc]⟩
    · rintro ⟨i, s, at_index, rfl⟩
      cases i with
      | zero =>
        cases at_index
        exact .inl rfl
      | succ i => exact .inr ⟨i, s, at_index, by rw [Nat.add_right_comm, Nat.add_assoc]⟩

namespace RegionSpec

variable {r : RegionSpec} {a : Arena σ}

/-- The target of a region stands after those of its parts. -/
theorem slots_targetId {t : Target σ} (made : r.target? a.size = some t) :
    (a.adding (r.slots a.size)).slots[a.size + r.subNames.length]? = some ⟨r.name, t⟩ := by
  rw [Arena.slots_adding, slots, made, List.getElem?_append_right (by rw [length_subSlots]),
    length_subSlots, Nat.sub_self]
  rfl

/-- The id of the target of a region leads to it, as long as ids do not run out. -/
theorem get?_targetId {t : Target σ} (made : r.target? a.size = some t)
    (room : a.size + r.subNames.length < 2 ^ 32) :
    (a.adding (r.slots a.size)).get? (r.targetId a.size) = some t := by
  rw [targetId, Arena.get?_ofIndex room, slots_targetId made, Option.map_some]

/-- The id of the target of a part leads to it, as long as ids do not run out. -/
theorem get?_part {subs : List SubRegionSpec} (kind : r.kind = .composite subs) {i : ℕ}
    {s : SubRegionSpec} (at_index : subs[i]? = some s)
    (room : a.size + r.targetNames.length ≤ 2 ^ 32) :
    (a.adding (r.slots a.size)).get? (.ofIndex (a.size + i)) =
      some (s.backing.target s.size) := by
  obtain ⟨lt, -⟩ := List.getElem?_eq_some_iff.mp at_index
  have count : r.targetNames.length = subs.length + 1 := by
    rw [targetNames, subNames, kind]
    simp
  have slots : r.subSlots (σ := σ) = subs.map r.subSlot := by rw [subSlots, kind]
  rw [Arena.get?_ofIndex (by omega), Arena.slots_adding, RegionSpec.slots, slots,
    List.getElem?_append_left (by rwa [List.length_map]), List.getElem?_map, at_index]
  rfl

theorem room_target {n : ℕ} (mapped : r.kind ≠ .unmapped)
    (room : n + r.targetNames.length ≤ 2 ^ 32) : n + r.subNames.length < 2 ^ 32 := by
  rw [targetNames_of_mapped mapped, List.length_append, List.length_singleton] at room
  omega

/-- Populating builds what the region is made of. -/
theorem built (divides : r.kind.Divides r.size) (mapped : r.kind ≠ .unmapped)
    (room : a.size + r.targetNames.length ≤ 2 ^ 32) :
    r.kind.Built (a.adding (r.slots a.size)) r.size (r.targetId a.size) := by
  have room_here := room_target mapped room
  cases kind : r.kind with
  | unmapped => exact absurd kind mapped
  | memory backing =>
    exact .memory (get?_targetId (by rw [target?, kind]) room_here)
  | composite subs =>
    rw [kind] at divides
    have added : (Window.empty r.size).addAll (SubRegionSpec.parts a.size subs) =
        .ok ((SubRegionSpec.parts a.size subs).foldl Window.withPart (.empty r.size)) := by
      refine (Window.addAll_eq_ok_iff (Window.divided_empty r.size)).mpr ⟨?_, ?_, rfl⟩
      · exact (SubRegionSpec.forall_mem_parts admits_empty_iff _ _).mpr divides.1
      · exact (SubRegionSpec.pairwise_parts _ _).mpr divides.2
    have members {part : SubRegion} :
        part ∈ ((SubRegionSpec.parts a.size subs).foldl Window.withPart (.empty r.size)).subs ↔
          ∃ i, ∃ s : SubRegionSpec, subs[i]? = some s ∧ part = s.part (a.size + i) := by
      rw [Window.mem_foldl_withPart, SubRegionSpec.mem_parts]
      exact or_iff_left List.not_mem_nil
    refine .composite (get?_targetId (by rw [target?, kind]) room_here)
      (Window.foldl_withPart_size _ _) ((Window.divided_empty r.size).addAll added) ?_ ?_
    · intro s hs
      obtain ⟨i, at_index⟩ := List.mem_iff_getElem?.mp hs
      exact ⟨a.size + i, members.mpr ⟨i, s, at_index, rfl⟩, get?_part kind at_index room⟩
    · intro part hp
      obtain ⟨i, s, at_index, rfl⟩ := members.mp hp
      exact ⟨s, List.mem_of_getElem? at_index, a.size + i, rfl, get?_part kind at_index room⟩

/-- The range of a region does not leave the target that was built for it. -/
theorem reaches [DeviceModel σ] (divides : r.kind.Divides r.size)
    (room : a.size + r.targetNames.length ≤ 2 ^ 32) : r.Reaches a :=
  fun mapped => ⟨r.size, (built divides mapped room).sizeOf, Nat.le_refl _⟩

end RegionSpec

end Backplane
