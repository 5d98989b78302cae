import Mathlib
import Backplane.Bus.Overflow
import Backplane.Device.Probe
import Backplane.Proofs.Bus.Bounds
import Backplane.Proofs.Target.Contents

/-!
# Address sums fit in 32 bits

The bounds that keep sums of offsets below `2 ^ 32` are set where things are configured,
far from where the sums are formed. A page is mapped only if it ends within its target, and
sizes have 32 bits, so no byte of the page lies at the last offset there is, whatever becomes
of the target later (`PageEntry.Roomy`). A window does not ask where in its target a part
begins. If no part reaches the end of the 32 bits (`WithinReach`), its offsets too have room
for one more, so a cell keeps room for one more byte on every route, and a span of a device
keeps room for the byte after each that was found.

The main statement is `sums_exact`. Without `WithinReach` a sum may overflow, and
`overflow_in_window` shows a peek that stops at one.
-/

namespace Backplane

/-! ## Sums and cells -/

/-- All sums fit in 32 bits. -/
def OffsetSum.AllExact (sums : List OffsetSum) : Prop := ∀ s ∈ sums, s.isExact = true

namespace OffsetSum

@[simp] theorem allExact_nil : AllExact [] := fun _ mem => nomatch mem

@[simp] theorem allExact_cons {s : OffsetSum} {sums : List OffsetSum} :
    AllExact (s :: sums) ↔ s.isExact = true ∧ AllExact sums := List.forall_mem_cons

@[simp] theorem allExact_append {sums sums' : List OffsetSum} :
    AllExact (sums ++ sums') ↔ AllExact sums ∧ AllExact sums' := List.forall_mem_append

end OffsetSum

open OffsetSum (AllExact)

/-- The offsets of `bytes` bytes after that of the cell fit in 32 bits. -/
def Cell.HasRoom (cell : Cell) (bytes : Nat) : Prop := cell.offset.toNat + bytes < 2 ^ 32

namespace Cell

variable {cell : Cell} {lane bytes : Nat}

theorem hasRoom_zero (cell : Cell) : cell.HasRoom 0 := cell.offset.toNat_lt

theorem HasRoom.mono (room : cell.HasRoom bytes) (le : lane ≤ bytes) : cell.HasRoom lane :=
  Nat.lt_of_le_of_lt (Nat.add_le_add_left le _) room

theorem HasRoom.toNat_lane (room : cell.HasRoom lane) : lane.toUInt32.toNat = lane :=
  Nat.mod_eq_of_lt (Nat.lt_of_le_of_lt (Nat.le_add_left _ _) room)

theorem HasRoom.laneSum (room : cell.HasRoom lane) : (cell.laneSum lane).isExact = true := by
  rw [Cell.laneSum, OffsetSum.isExact, room.toNat_lane]
  exact decide_eq_true room

theorem HasRoom.toNat_advance (room : cell.HasRoom lane) :
    (cell.advance lane).offset.toNat = cell.offset.toNat + lane := by
  rw [advance, UInt32.toNat_add, room.toNat_lane]
  exact Nat.mod_eq_of_lt room

/-- The cell at distance `lane` has the room that is left. -/
theorem HasRoom.advance_iff (room : cell.HasRoom lane) :
    (cell.advance lane).HasRoom bytes ↔ cell.HasRoom (lane + bytes) := by
  rw [HasRoom, HasRoom, room.toNat_advance, Nat.add_assoc]

end Cell

/-! ## Routes -/

namespace SubRegion

variable {s : SubRegion} {offset : UInt32}

theorem offset_le (h : s.contains offset = true) : s.offset ≤ offset := by
  rw [contains, Bool.and_eq_true] at h
  exact of_decide_eq_true h.1

/-- From an offset that a part covers, some of the part is left. -/
theorem toNat_sub_lt (h : s.contains offset = true) :
    (offset - s.offset).toNat < s.size.toNat := by
  have le := UInt32.le_iff_toNat_le.mp (offset_le h)
  rw [UInt32.toNat_sub_of_le _ _ (offset_le h)]
  rw [contains, Bool.and_eq_true, decide_eq_true_eq, decide_eq_true_eq, stop] at h
  omega

end SubRegion

namespace Arena

variable {σ α : Type} {measure : σ → α} {a a' : Arena σ} {direction : Direction} {cell leaf : Cell}

/-- Every part of a window ends before the last of 32 bits in its target. -/
def WithinReach (a : Arena σ) : Prop :=
  ∀ id parts, a.subRegions? id = some parts →
    ∀ s ∈ parts, s.targetOffset.toNat + s.size.toNat < 2 ^ 32

theorem WithinReach.of_matches (reach : a.WithinReach) (same : a.Matches measure a') :
    a'.WithinReach := by
  intro id parts here
  unfold subRegions? at here
  split at here
  · rename_i w window
    cases here
    exact reach id w.subs (by rw [subRegions?, same.window_iff.mp window])
  · cases here

theorem withinReach_of_slots (bound : ∀ slot ∈ a.slots, ∀ w, slot.target = .window w →
    ∀ s ∈ w.subs, s.targetOffset.toNat + s.size.toNat < 2 ^ 32) : a.WithinReach := by
  intro id parts here
  unfold subRegions? at here
  split at here
  · rename_i w shown
    cases here
    obtain ⟨slot, mem, eq⟩ := Option.map_eq_some_iff.mp shown
    exact bound slot (Array.mem_of_getElem? mem) w eq
  · cases here

/-- A part leads to an offset that is not the last of 32 bits. -/
theorem WithinReach.part (reach : a.WithinReach) {id : TargetId} {w : Window}
    (here : a.get? id = some (.window w)) {offset : UInt32} {s : SubRegion}
    (part : w.part? offset = some s) :
    s.targetOffset.toNat + (offset - s.offset).toNat + 1 < 2 ^ 32 := by
  obtain ⟨mem, covers⟩ := Window.part?_eq_some part
  have parts : a.subRegions? id = some w.subs := by rw [subRegions?, here]
  have bound := reach id w.subs parts s mem
  have inside := SubRegion.toNat_sub_lt covers
  omega

/-- A window leads to the exact offset in the target of a part. -/
theorem WithinReach.route (reach : a.WithinReach) {id : TargetId} {w : Window}
    (here : a.get? id = some (.window w)) {offset : UInt32} {next : TargetId × UInt32}
    (route : w.route offset = some next) :
    ∃ s ∈ w.subs, s.contains offset = true ∧ next.1 = s.target ∧
      next.2.toNat = s.targetOffset.toNat + (offset.toNat - s.offset.toNat) := by
  rw [Window.route_eq_map, Option.map_eq_some_iff] at route
  obtain ⟨s, part, rfl⟩ := route
  obtain ⟨mem, covers⟩ := Window.part?_eq_some part
  have sum := reach.part here part
  refine ⟨s, mem, covers, rfl, ?_⟩
  rw [UInt32.toNat_add, Nat.mod_eq_of_lt (by omega),
    UInt32.toNat_sub_of_le _ _ (SubRegion.offset_le covers)]

section Reach

variable (reach : a.WithinReach)

include reach

theorem routeSumsWithin_exact (steps : Nat) (cell : Cell) :
    AllExact (a.routeSumsWithin direction steps cell) := by
  induction steps generalizing cell with
  | zero => simp [routeSumsWithin]
  | succ steps ih =>
    unfold routeSumsWithin
    split
    · simp
    · simp
    · simp
    · simp
    · exact ih _
    · rename_i w here
      split
      · simp
      · rename_i s part
        have sum := reach.part here part
        exact OffsetSum.allExact_cons.mpr ⟨decide_eq_true (Nat.lt_of_succ_lt sum), ih _⟩

theorem routeSums_exact (cell : Cell) : AllExact (a.routeSums direction cell) :=
  routeSumsWithin_exact reach _ cell

theorem laneSums_exact {lane : Nat} (room : cell.HasRoom lane) :
    AllExact (a.laneSums direction cell lane) :=
  OffsetSum.allExact_cons.mpr ⟨room.laneSum, routeSums_exact reach _⟩

/-- Where one more offset fits at the start of a route, one more fits at its end. -/
theorem routeWithin_hasRoom {steps : Nat} (room : cell.HasRoom 1)
    (route : a.routeWithin direction steps cell = .ok leaf) : leaf.HasRoom 1 := by
  induction steps generalizing cell with
  | zero => cases route
  | succ steps ih =>
    unfold routeWithin at route
    split at route
    · cases route
    · cases route
      exact room
    · cases route
      exact room
    · cases route
      exact room
    · -- Either side is read or written at the same offset.
      exact ih (by exact room) route
    · rename_i w here
      rw [Window.route_eq_map] at route
      cases part : w.part? cell.offset with
      | none =>
        rw [part] at route
        cases route
      | some s =>
        rw [part] at route
        have sum := reach.part here part
        have onward :
            Cell.HasRoom ⟨s.target, s.targetOffset + (cell.offset - s.offset)⟩ 1 := by
          rw [Cell.HasRoom, UInt32.toNat_add, Nat.mod_eq_of_lt (by omega)]
          exact sum
        exact ih onward route

/-- If the byte at distance `lane` of a cell is found at the same distance of the leaf, the
leaf has room for the byte after it. -/
theorem HasRoom.next_lane {lane : Nat} (room : cell.HasRoom (lane + 1)) (before : leaf.HasRoom lane)
    (route : a.route direction (cell.advance lane) = .ok (leaf.advance lane)) :
    leaf.HasRoom (lane + 1) := by
  have here : (cell.advance lane).HasRoom 1 :=
    (room.mono (Nat.le_succ lane)).advance_iff.mpr room
  exact before.advance_iff.mp (routeWithin_hasRoom reach here route)

/-- A leaf has room for the bytes of a span that begins at it. -/
theorem hasRoom_of_span {bytes : Nat} (room : cell.HasRoom bytes)
    (span : ∀ i < bytes, a.route direction (cell.advance i) = .ok (leaf.advance i)) :
    leaf.HasRoom bytes := by
  induction bytes with
  | zero => exact leaf.hasRoom_zero
  | succ bytes ih =>
    have before := ih (room.mono (Nat.le_succ bytes)) fun i lt => span i (Nat.lt_succ_of_lt lt)
    exact HasRoom.next_lane reach room before (span bytes (Nat.lt_succ_self bytes))

/-- The comparison with a device goes on only where the byte before was found, so the leaf
has room for the next. -/
theorem spanSumsFrom_exact {lane count : Nat} (room : cell.HasRoom (lane + count))
    (before : leaf.HasRoom lane) :
    AllExact (a.spanSumsFrom cell leaf (List.range' lane count)) := by
  induction count generalizing lane with
  | zero => simp [spanSumsFrom]
  | succ count ih =>
    have here : cell.HasRoom lane := room.mono (by omega)
    rw [List.range'_succ, spanSumsFrom, OffsetSum.allExact_append, OffsetSum.allExact_cons]
    refine ⟨laneSums_exact reach here, before.laneSum, ?_⟩
    split
    · simp
    · rename_i next route
      split
      · rename_i found
        rw [found] at route
        have more := HasRoom.next_lane reach (room.mono (by omega)) before route
        exact ih (by rwa [Nat.add_assoc, Nat.add_comm 1]) more
      · simp

theorem spanSums_exact {bytes : Nat} (pos : 0 < bytes) (room : cell.HasRoom bytes) :
    AllExact (a.spanSums cell bytes) := by
  rw [spanSums, OffsetSum.allExact_append]
  refine ⟨routeSums_exact reach cell, ?_⟩
  split
  · simp
  · rename_i leaf route
    split
    · have first := routeWithin_hasRoom reach (room.mono pos) route
      exact spanSumsFrom_exact reach (room.mono (by omega)) first
    · simp

end Reach
end Arena

/-! ## Pages -/

/-- The page of an entry ends before the last of 32 bits in its target. -/
def PageEntry.Roomy (pageBytes : Nat) (entry : PageEntry) : Prop :=
  entry.isMapped = true → entry.physicalBase.toNat + pageBytes < 2 ^ 32

variable {σ : Type} [DeviceModel σ]

theorem PageEntry.Fits.roomy {arena : Arena σ} {pageBytes : Nat} {entry : PageEntry}
    (fits : entry.Fits arena pageBytes) : entry.Roomy pageBytes := by
  intro mapped
  obtain ⟨id, target⟩ := Option.isSome_iff_exists.mp mapped
  obtain ⟨size, -, le⟩ := fits id target
  exact Nat.lt_of_le_of_lt le size.toNat_lt

namespace Bus

variable {b : Bus σ}

/-- All pages of the map end before the last of 32 bits in their targets. -/
def Roomy (b : Bus σ) : Prop := b.map.Holds (PageEntry.Roomy b.geometry.pageBytes)

theorem Roomy.transact (h : b.Roomy) (x : Transaction) : (b.transact x).Roomy := by
  have space : (b.transact x).geometry = b.geometry := by
    rw [geometry, transact_map]
    exact (b.map.commands_follows _).geometry_eq
  rw [Roomy, space, transact_map]
  exact h.commands _

theorem Reachable.roomy (h : b.Reachable) : b.Roomy := by
  induction h with
  | empty geometry => exact .empty geometry fun mapped => nomatch mapped
  | @perform b operation _ ih =>
    have space : (b.perform operation).geometry = b.geometry :=
      (b.perform_follows operation).geometry_eq
    rw [Roomy, space]
    exact holds_perform ih fun _ made => made.fits.roomy

omit [DeviceModel σ] in
/-- Past the page checks there is room for all bytes of an access. -/
theorem Roomy.resolve (h : b.Roomy) {a : Access} {r : Resolved} (resolved : b.resolve a = .ok r) :
    r.cell.HasRoom a.width.bytes := by
  obtain ⟨looked, target, -, -⟩ := resolve_eq_ok_iff.mp resolved
  have room := h.entries r.entry (AddressMap.held_of_lookup looked)
    (Option.isSome_iff_exists.mpr ⟨_, target⟩)
  obtain ⟨-, -, -, sum⟩ := PageTable.lookup_eq_some_iff.mp looked
  have fits := b.geometry.aligned_fits (aligned_of_resolve resolved)
  have offset := b.geometry.pageOffset_toNat a.address
  change r.entry.physicalBase + b.geometry.pageOffset a.address = r.cell.offset at sum
  rw [Cell.HasRoom, ← sum, UInt32.toNat_add, offset, Nat.mod_eq_of_lt (by omega)]
  omega

/-! ## Transactions -/

section Transactions

variable {f : Fabric σ} {a : Access} {r : Resolved} {lanes : List Nat}

/-- Serving a byte keeps all parts of windows within reach. -/
theorem reach_of_touches {arena arena' : Arena σ} (h : arena.Touches arena')
    (reach : arena.WithinReach) : arena'.WithinReach :=
  reach.of_matches h.matches

omit [DeviceModel σ] in
theorem checkSums_exact {arena : Arena σ} {cell : Cell} {bypass : Bool}
    (reach : arena.WithinReach) (room : ∀ lane ∈ lanes, cell.HasRoom lane) :
    AllExact (checkSums arena cell bypass lanes) := by
  induction lanes with
  | nil => simp [checkSums]
  | cons lane lanes ih =>
    obtain ⟨first, rest⟩ := List.forall_mem_cons.mp room
    rw [checkSums, OffsetSum.allExact_append]
    refine ⟨Arena.laneSums_exact reach first, ?_⟩
    split
    · simp
    · split
      · simp
      · exact ih rest

theorem readSums_exact (reach : f.arena.WithinReach) (room : ∀ lane ∈ lanes, r.cell.HasRoom lane) :
    AllExact (readSums a r f lanes) := by
  induction lanes generalizing f with
  | nil => simp [readSums]
  | cons lane lanes ih =>
    obtain ⟨first, rest⟩ := List.forall_mem_cons.mp room
    have kept := reach_of_touches
      (readByte_touches f a r.entry (r.cell.advance lane)) reach
    rw [readSums, OffsetSum.allExact_append]
    refine ⟨Arena.laneSums_exact reach first, ?_⟩
    split
    · simp
    · rename_i g _ served
      rw [served] at kept
      exact ih kept rest

theorem writeSums_exact (reach : f.arena.WithinReach) (room : ∀ lane ∈ lanes, r.cell.HasRoom lane) :
    AllExact (writeSums a r f lanes) := by
  induction lanes generalizing f with
  | nil => simp [writeSums]
  | cons lane lanes ih =>
    obtain ⟨first, rest⟩ := List.forall_mem_cons.mp room
    have kept := reach_of_touches (writeByte_touches f a r.entry (r.cell.advance lane)
      (Access.valueByte a.value lane)) reach
    rw [writeSums, OffsetSum.allExact_append]
    refine ⟨Arena.laneSums_exact reach first, ?_⟩
    split
    · simp
    · rename_i g served
      rw [served] at kept
      exact ih kept rest

theorem resolvedSums_exact (reach : f.arena.WithinReach) (room : r.cell.HasRoom a.width.bytes) :
    AllExact (resolvedSums f a r) := by
  have lanes : ∀ lane ∈ List.range a.width.bytes, r.cell.HasRoom lane := fun lane mem =>
    room.mono (Nat.le_of_lt (List.mem_range.mp mem))
  have bytes := a.width.bytes_pos
  unfold resolvedSums
  dsimp only
  split
  · exact writeSums_exact reach lanes
  rw [OffsetSum.allExact_append]
  refine ⟨checkSums_exact reach lanes, ?_⟩
  split
  · simp
  split
  · exact writeSums_exact reach lanes
  rw [OffsetSum.allExact_append]
  refine ⟨Arena.spanSums_exact reach bytes room, ?_⟩
  split
  · rename_i leaf span
    obtain ⟨-, -, found⟩ := Arena.deviceSpan?_eq_some span
    have leafRoom := Arena.hasRoom_of_span reach room found
    simpa using (leafRoom.mono (Nat.sub_le _ 1)).laneSum
  · exact writeSums_exact reach lanes

/-- All sums of a transaction fit in 32 bits if pages and windows leave room. -/
theorem Roomy.sums (h : b.Roomy) (reach : b.arena.WithinReach) (x : Transaction) :
    AllExact (b.sums x) := by
  unfold Bus.sums
  split
  · simp
  rename_i r resolved
  have room := h.resolve resolved
  cases x with
  | read a =>
    exact readSums_exact reach fun lane mem =>
      room.mono (Nat.le_of_lt (List.mem_range.mp mem))
  | write a => exact resolvedSums_exact reach room

end Transactions

/-- No series of transactions stops at a sum. -/
theorem Roomy.overflow? (h : b.Roomy) (reach : b.arena.WithinReach) (xs : List Transaction) :
    b.overflow? xs = none := by
  induction xs generalizing b with
  | nil => rfl
  | cons x xs ih =>
    have exact_sums : (b.sums x).all OffsetSum.isExact = true :=
      List.all_eq_true.mpr (h.sums reach x)
    have shape : DeviceModel.Keeps fun _ : σ => () := fun _ _ _ => rfl
    have kept : (b.transact x).arena.WithinReach := by
      rw [transact_arena]
      exact reach.of_matches (b.served_matches shape x)
    rw [Bus.overflow?, if_pos exact_sums]
    exact ih (h.transact x) kept

/-- On every bus that is reached, the sums that lead to the bytes of an access past the page
checks fit in 32 bits, so the byte at distance `lane` lies `lane` offsets on. If every part of a
window ends before the last of 32 bits in its target, a window leads to the exact offset in the
target of a part, and all other sums of all transactions fit too, in whatever order they are
made and whatever layer commands they issue: no transfer stops at an overflow. -/
theorem sums_exact (reachable : b.Reachable) :
    (∀ a r, b.resolve a = .ok r → ∀ lane < a.width.bytes, (r.cell.laneSum lane).isExact = true ∧
      (r.cell.advance lane).offset.toNat = r.cell.offset.toNat + lane) ∧
    (b.arena.WithinReach →
      (∀ id w offset next, b.arena.get? id = some (.window w) → w.route offset = some next →
        ∃ s ∈ w.subs, s.contains offset = true ∧ next.1 = s.target ∧
          next.2.toNat = s.targetOffset.toNat + (offset.toNat - s.offset.toNat)) ∧
      (∀ x, ∀ s ∈ b.sums x, s.left.toNat + s.right.toNat < 2 ^ 32) ∧
      ∀ t : Transfer, b.overflow? t.transactions = none) := by
  have roomy := reachable.roomy
  refine ⟨fun a r resolved lane lt => ?_, fun reach =>
    ⟨fun id w offset next here route => ?_, fun x s mem => ?_, fun t => ?_⟩⟩
  · have room := (roomy.resolve resolved).mono (Nat.le_of_lt lt)
    exact ⟨room.laneSum, room.toNat_advance⟩
  · exact reach.route here route
  · exact of_decide_eq_true (roomy.sums reach x s mem)
  · exact roomy.overflow? reach t.transactions

end Bus

/-! ## A window over the end of the offsets -/

namespace Probe

/-- A part of four bytes that begins at offset `base` of target 0. -/
def partFrom (base : UInt32) : SubRegion := ⟨0, 4, "part", .ram, ⟨0⟩, base⟩

/-- Page 0 shows a window that is that part of the target `t`. -/
def windowed (t : Target Probe) (base : UInt32) : Bus Probe :=
  (Bus.empty smallSpace).run
    [.addTarget "backing" t, .addTarget "window" (.window ⟨4, [partFrom base]⟩),
     .mapRange 0 4 { target := ⟨1⟩, perms := .all, region := .composite }]

theorem windowed_reachable (t : Target Probe) (base : UInt32) : (windowed t base).Reachable :=
  (Bus.Reachable.empty smallSpace).run _

/-- A probe of sixteen cells that supports wide accesses. -/
def wideProbe : Target Probe := .device ⟨⟨15⟩, false, Array.replicate 16 0, [], []⟩

/-- Four cells of the probe behind the window. -/
def centred : Bus Probe := windowed wideProbe 4

/-- Two bytes at the end of the page, written as one. -/
def lastHalf : Access := { address := 2, value := 0xBEEF, width := .half, intent := .dataWrite }

/-- A window over the probe is within reach if its parts are. -/
theorem withinReach_of_backing {a : Arena Probe} {w : Window}
    (slots : a.slots = #[⟨"backing", wideProbe⟩, ⟨"window", .window w⟩])
    (bound : ∀ s ∈ w.subs, s.targetOffset.toNat + s.size.toNat < 2 ^ 32) : a.WithinReach := by
  apply Arena.withinReach_of_slots
  rw [slots]
  rintro slot mem w eq
  rcases List.mem_pair.mp (Array.mem_toList_iff.mpr mem) with rfl | rfl
  · cases eq
  · cases eq
    exact bound

theorem centred_withinReach : centred.arena.WithinReach := by
  have slots : centred.arena.slots =
      #[⟨"backing", wideProbe⟩, ⟨"window", .window ⟨4, [partFrom 4]⟩⟩] := by
    cbv
  exact withinReach_of_backing slots (by decide)

theorem sums_exact_centred :
    centred.Reachable ∧ centred.arena.WithinReach ∧
      (∃ r, centred.resolve lastHalf = .ok r ∧ (r.cell.laneSum 1).isExact = true ∧
        (r.cell.advance 1).offset.toNat = r.cell.offset.toNat + 1) ∧
      (∃ s ∈ [partFrom 4], (7 : UInt32).toNat = s.targetOffset.toNat + (3 - s.offset.toNat)) ∧
      (⟨6, 1⟩ ∈ centred.sums (.write lastHalf) ∧
        (6 : UInt32).toNat + (1 : UInt32).toNat < 2 ^ 32) ∧
      centred.overflow? (Transfer.write lastHalf).transactions = none := by
  have reachable : centred.Reachable := windowed_reachable _ _
  have resolved : centred.resolve lastHalf =
      .ok ⟨⟨⟨1⟩, 2⟩, ⟨some ⟨1⟩, .all, ⟨15⟩, .composite, 0, 0⟩⟩ := by
    cbv
  have window : centred.arena.get? ⟨1⟩ = some (.window ⟨4, [partFrom 4]⟩) := by cbv
  have last : ⟨6, 1⟩ ∈ centred.sums (.write lastHalf) := by decide_cbv
  obtain ⟨lanes, whole⟩ := Bus.sums_exact reachable
  obtain ⟨routes, sums, transfers⟩ := whole centred_withinReach
  obtain ⟨s, mem, -, -, offset⟩ := routes ⟨1⟩ _ 3 (⟨0⟩, 7) window (by decide_cbv)
  exact ⟨reachable, centred_withinReach, ⟨_, resolved, lanes lastHalf _ resolved 1 (by decide)⟩,
    ⟨s, mem, offset⟩, ⟨last, sums _ _ last⟩, transfers _⟩

/-- The third byte of the window lies past the last offset there is. -/
def overshot : Bus Probe := windowed (.ram (.filled 16 5)) 4294967294

/-- A window may have a part that runs past the end of the offsets: it is accepted and mapped,
and a peek through it stops at a sum that has more than 32 bits. -/
theorem overflow_in_window :
    (Window.empty 4).addAll [partFrom 4294967294] = .ok ⟨4, [partFrom 4294967294]⟩ ∧
      (overshot.overflow? (Transfer.peekByte 2).transactions).isSome = true ∧
      ¬∀ b : Bus Probe, b.Reachable →
        ∀ x, ∀ s ∈ b.sums x, s.left.toNat + s.right.toNat < 2 ^ 32 := by
  have sum : ⟨4294967294, 2⟩ ∈ overshot.sums (.read (.debugRead 2)) := by decide_cbv
  refine ⟨by decide_cbv, by decide_cbv, fun exact_sums => ?_⟩
  exact absurd (exact_sums overshot (windowed_reachable _ _) _ _ sum) (by decide)

end Probe
end Backplane
