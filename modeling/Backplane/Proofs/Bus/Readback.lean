import Mathlib
import Backplane.Proofs.Bus.Bytewise
import Backplane.Proofs.Bus.Coherence
import Backplane.Proofs.Bus.Log

/-!
# What a write leaves to be read

A decomposed write stores the bytes of its value where they lead, the lowest first. If
reads of the same addresses lead to the same bytes of memory (`ReadsBack`), then a read of
the same width puts together what was stored. Of bytes that lead to one cell the last one
stays, so this is the value that was written, cut down to the width, just if bytes that
lead to one cell are equal.

The main statement is `read_of_write`.
-/

namespace Backplane

/-! ## Values cut down -/

namespace ByteReads

theorem toNat_assemble {bytes : List UInt8} (le : bytes.length ≤ 4) :
    (assemble bytes).toNat = bytes.foldr (fun byte n => byte.toNat + 256 * n) 0 := by
  induction bytes with
  | nil => rfl
  | cons byte bytes ih =>
    have few : bytes.length ≤ 3 := Nat.le_of_succ_le_succ le
    have short : (assemble bytes).toNat < 2 ^ 24 :=
      Nat.lt_of_lt_of_le (toNat_assemble_lt (Nat.le_succ_of_le few))
        (Nat.pow_le_pow_right (by decide) (by omega))
    rw [toNat_assemble_cons byte short, ih (Nat.le_succ_of_le few), List.foldr_cons]

theorem length_lanes_le (width : Width) (byte : Nat → UInt8) :
    ((List.range width.bytes).map byte).length ≤ 4 := by
  rw [List.length_map, List.length_range]
  exact width.bytes_le

/-- The bytes of a value are put together to the value, cut down to the width. -/
theorem assemble_valueBytes (value : UInt32) (width : Width) :
    assemble ((List.range width.bytes).map (Access.valueByte value)) = value &&& width.mask := by
  have digit (i : Nat) : (Access.valueByte value i).toNat = value.toNat / 2 ^ (8 * i) % 256 := by
    rw [Access.valueByte, Nat.shiftRight_eq_div_pow]
    exact UInt8.toNat_ofNat'
  have bound := value.toNat_lt
  apply UInt32.toNat_inj.mp
  rw [toNat_assemble (length_lanes_le width _), UInt32.toNat_and, width.toNat_mask,
    Nat.and_two_pow_sub_one_eq_mod]
  cases width
  all_goals
    simp only [Width.bytes, List.range_succ, List.range_zero, List.nil_append, List.cons_append,
      List.map_cons, List.map_nil, List.foldr_cons, List.foldr_nil, digit]
    omega

variable {value : UInt32} {width : Width} {byte : Nat → UInt8}

theorem assemble_eq_and_mask (own : ∀ i < width.bytes, byte i = Access.valueByte value i) :
    assemble ((List.range width.bytes).map byte) = value &&& width.mask := by
  rw [← assemble_valueBytes]
  exact congrArg _ (List.map_congr_left fun i mem => own i (List.mem_range.mp mem))

/-- What bytes are put together to is a value just if it fits the width and they are its
bytes. -/
theorem assemble_eq_iff : assemble ((List.range width.bytes).map byte) = value ↔
    value &&& width.mask = value ∧ ∀ i < width.bytes, byte i = Access.valueByte value i := by
  have few := length_lanes_le width byte
  constructor
  · rintro rfl
    refine ⟨?_, fun i lt => (valueByte_assemble few ?_).symm⟩
    · have lt := toNat_assemble_lt few
      rw [List.length_map, List.length_range] at lt
      apply UInt32.toNat_inj.mp
      rw [UInt32.toNat_and, width.toNat_mask, Nat.and_two_pow_sub_one_of_lt_two_pow lt]
    · rw [List.getElem?_map, List.getElem?_range lt, Option.map_some]
  · rintro ⟨narrow, own⟩
    exact (assemble_eq_and_mask own).trans narrow

end ByteReads

variable {σ : Type}

namespace Bus

/-- Writes of the address and reads of it lead to this byte of RAM, and its page lets the
processor read. -/
structure ReadsBack (b : Bus σ) (address : UInt32) (cell : Cell) : Prop where
  write : b.route? .write address = some (.ok cell)
  read : b.route? .read address = some (.ok cell)
  memory : ∃ m, b.arena.get? cell.target = some (.ram m)
  granted : ∃ entry offset, b.map.table.lookup address = some (entry, offset) ∧
    checkPermission entry.perms .dataRead = .ok ()

variable {b c : Bus σ} {a : Access} {cell : Cell} {cells : Nat → Cell}

theorem readsBack_iff {address : UInt32} :
    b.ReadsBack address cell ↔ b.route? .write address = some (.ok cell) ∧
      b.route? .read address = some (.ok cell) ∧
      (b.arena.get? cell.target).map Target.kindName = some "ram" ∧
      (b.map.table.lookup address).map (fun found => checkPermission found.1.perms .dataRead) =
        some (.ok ()) := by
  constructor
  · rintro ⟨write, read, ⟨m, memory⟩, entry, offset, looked, granted⟩
    rw [memory, looked]
    exact ⟨write, read, rfl, congrArg some granted⟩
  · rintro ⟨write, read, memory, granted⟩
    obtain ⟨t, here, kind⟩ := Option.map_eq_some_iff.mp memory
    obtain ⟨⟨entry, offset⟩, looked, granted⟩ := Option.map_eq_some_iff.mp granted
    refine ⟨write, read, ?_, entry, offset, looked, granted⟩
    cases t with
    | ram m => exact ⟨m, here⟩
    | rom | window | split | device => simp [Target.kindName] at kind

instance {address : UInt32} : Decidable (b.ReadsBack address cell) :=
  decidable_of_iff _ readsBack_iff.symm

theorem ReadsBack.not_device {address : UInt32} (h : b.ReadsBack address cell) (state : σ) :
    b.arena.get? cell.target ≠ some (.device state) := by
  obtain ⟨m, here⟩ := h.memory
  rw [here]
  exact nofun

section Lanes

variable {address : UInt32} {count : Nat}
  (each : ∀ i < count, b.ReadsBack (address + i.toUInt32) (cells i))

include each

theorem avoidsDevices_of_readsBack (direction : Direction) :
    b.AvoidsDevices direction address count := by
  intro i lt leaf led state
  have back := each i lt
  cases direction with
  | read =>
    obtain rfl : cells i = leaf := Except.ok.inj (Option.some.inj (back.read.symm.trans led))
    exact back.not_device state
  | write =>
    obtain rfl : cells i = leaf := Except.ok.inj (Option.some.inj (back.write.symm.trans led))
    exact back.not_device state

end Lanes

variable [DeviceModel σ]

/-- A byte that would be stored on its own lies within its memory. -/
theorem inside_of_written {m : Memory} (byte : a.width = .byte)
    (written : (b.servedWrite a).2 = .ok ()) (lands : b.route? .write a.address = some (.ok cell))
    (here : b.arena.get? cell.target = some (.ram m)) : cell.offset.toNat < m.size := by
  cases resolved : b.resolve a with
  | error fault =>
    rw [servedWrite_refused resolved] at written
    cases written
  | ok r =>
    have led := route?_of_resolve byte resolved .write
    rw [lands, Option.some.injEq] at led
    exact (servedWrite_memory byte resolved led.symm here rfl written).1

/-- The bytes are stored one after the other, and each cell holds one that leads to it. -/
theorem foldl_keep_lanes {count : Nat}
    (each : ∀ i < count, b.ReadsBack (a.address + i.toUInt32) (cells i)) {byte : Nat → UInt8}
    (written : ∀ i < count, (b.write (a.alone (byte i, i))).2 = .ok ()) :
    let arena := ((List.range count).map fun i => (byte i, i)).foldl (b.keep a) b.arena
    b.arena.Matches (fun _ => ()) arena ∧
      ∀ i < count, ∃ j < count, cells j = cells i ∧ arena.byte? (cells i) = some (byte j) := by
  induction count with
  | zero => exact ⟨.refl b.arena, fun i lt => absurd lt (Nat.not_lt_zero i)⟩
  | succ n ih =>
    have last := each n (Nat.lt_succ_self n)
    have stored := written n (Nat.lt_succ_self n)
    obtain ⟨same, before⟩ := ih (fun i lt => each i (Nat.lt_succ_of_lt lt))
      fun i lt => written i (Nat.lt_succ_of_lt lt)
    rw [List.range_succ, List.map_append, List.foldl_append]
    generalize ((List.range n).map fun i => (byte i, i)).foldl (b.keep a) b.arena = arena
      at same before ⊢
    have kept : b.keep a arena (byte n, n) =
        arena.modify (cells n).target (.store (cells n).offset (byte n)) := by
      have lands : b.route? .write (a.alone (byte n, n)).address = some (.ok (cells n)) :=
        last.write
      rw [keep, stored, lands]
    obtain ⟨m, here⟩ := last.memory
    have inside : (cells n).offset.toNat < m.size := by
      rw [b.write_snd_byte rfl] at stored
      exact inside_of_written (a := a.alone (byte n, n)) rfl stored last.write here
    -- The memory has grown neither larger nor smaller.
    obtain ⟨t, there, alike⟩ := same.extends _ _ here
    cases alike with
    | @ram m m' size =>
      rw [← size] at inside
      refine ⟨same.trans (b.keep_matches a arena (byte n, n)), fun i lt => ?_⟩
      rw [List.map_singleton, List.foldl_cons, List.foldl_nil, kept,
        Arena.byte?_store there rfl inside]
      by_cases hit : cells n = cells i
      · exact ⟨n, Nat.lt_succ_self n, hit, if_pos hit⟩
      · have lt' : i < n := by
          refine Nat.lt_of_le_of_ne (Nat.le_of_lt_succ lt) ?_
          rintro rfl
          exact hit rfl
        obtain ⟨j, lt_j, same_cell, holds⟩ := before i lt'
        exact ⟨j, Nat.lt_succ_of_lt lt_j, same_cell, (if_neg hit).trans holds⟩

omit [DeviceModel σ] in
/-- What is stored changes nothing of where bytes are stored and read. -/
theorem ReadsBack.rewritten {address : UInt32} (h : b.ReadsBack address cell)
    (after : Rewritten b c) : c.ReadsBack address cell := by
  have same (direction : Direction) : c.route? direction address = b.route? direction address := by
    unfold route?
    rw [after.map]
    split
    · rfl
    · split
      · rfl
      · rw [after.matching.route]
  obtain ⟨m, here⟩ := h.memory
  obtain ⟨t, there, alike⟩ := after.matching.extends _ _ here
  refine ⟨(same .write).trans h.write, (same .read).trans h.read, ?_, after.map ▸ h.granted⟩
  cases alike with
  | ram size => exact ⟨_, there⟩

omit [DeviceModel σ] in
/-- A page that lets the processor read leads on to the byte of memory. -/
theorem ReadsBack.resolve {address : UInt32} (h : b.ReadsBack address cell)
    (at_address : a.address = address) (byte : a.width = .byte) (plain : a.intent = .dataRead) :
    ∃ r, b.resolve a = .ok r ∧ b.arena.route .read r.cell = .ok cell := by
  obtain ⟨entry, offset, looked, granted⟩ := h.granted
  have led := h.read
  unfold route? at led
  rw [looked] at led
  dsimp only at led
  cases mapped : entry.target with
  | none =>
    rw [mapped] at led
    cases led
  | some target =>
    rw [mapped] at led
    refine ⟨⟨⟨target, offset⟩, entry⟩, (resolve_byte_eq_ok byte).mpr ⟨?_, mapped, ?_⟩,
      Option.some.inj led⟩
    · rw [at_address, looked]
    · rw [plain, granted]

/-- A read puts together what the cells hold. -/
theorem read_of_bytes (idle : b.fabric.commands = []) (decomposed : a.mode = .decomposed)
    (plain : a.intent = .dataRead)
    (each : ∀ i < a.width.bytes, b.ReadsBack (a.address + i.toUInt32) (cells i))
    {byte : Nat → UInt8} (holds : ∀ i < a.width.bytes, b.arena.byte? (cells i) = some (byte i)) :
    (b.read a).2 = .ok (ByteReads.assemble ((List.range a.width.bytes).map byte)) := by
  have avoids := avoidsDevices_of_readsBack each .read
  have answers := (b.readMany_passive idle fun i lt r resolved =>
    avoids.passive (a := a.lane i) lt rfl rfl resolved).2
  have told : (b.readMany a a.width.bytes).2.bytes =
      (List.range a.width.bytes).map fun i => .ok (byte i) := by
    refine answers.trans (List.map_congr_left fun i mem => ?_)
    have lt := List.mem_range.mp mem
    obtain ⟨m, here⟩ := (each i lt).memory
    obtain ⟨r, resolved, route⟩ := (each i lt).resolve (a := a.lane i) rfl rfl plain
    have held := holds i lt
    rw [Arena.byte?_of_memory here rfl] at held
    have peeked : (b.fabric.peek r.cell).2 = .ok (byte i) := by
      rw [Fabric.peek_of_memory route here rfl, Fabric.byteAt, held]
    rw [resolved]
    dsimp only
    rw [peeked]
    rfl
  rw [read, decomposed]
  refine (ByteReads.value_of_answers told).trans ?_
  rw [List.take_of_length_le (ByteReads.length_lanes_le a.width byte)]

/-- A write leaves in each cell a byte of its value that leads there. -/
theorem write_leaves (idle : b.fabric.commands = []) (decomposed : a.mode = .decomposed)
    (each : ∀ i < a.width.bytes, b.ReadsBack (a.address + i.toUInt32) (cells i))
    (written : (b.write a).2 = .ok ()) :
    Rewritten b (b.write a).1 ∧ ∀ i < a.width.bytes, ∃ j < a.width.bytes, cells j = cells i ∧
      (b.write a).1.arena.byte? (cells i) = some (Access.valueByte a.value j) := by
  have avoids := avoidsDevices_of_readsBack each .write
  have alone := (write_alone idle avoids decomposed).1.mp written
  obtain ⟨-, stored⟩ := foldl_keep_lanes each alone
  have count : ((List.range a.width.bytes).map (Access.valueByte a.value)).length =
      a.width.bytes := by
    rw [List.length_map, List.length_range]
  obtain ⟨-, rewritten, arena⟩ := writeMany_alone (a := a) idle (count.symm ▸ avoids)
  have after : (b.write a).1 =
      (b.writeMany a ((List.range a.width.bytes).map (Access.valueByte a.value))).1 := by
    rw [write, decomposed]
  rw [zipIdx_lanes] at arena
  rw [after]
  exact ⟨rewritten, arena ▸ stored⟩

/-- A read after a write of the same bytes finds the value that was written, if this is no
wider than the access and bytes of it that lead to one cell are equal, and for no other
value. If no two of them lead to one cell, it finds the value cut down to the width. -/
theorem read_of_write (idle : b.fabric.commands = []) {w r : Access}
    (each : ∀ i < w.width.bytes, b.ReadsBack (w.address + i.toUInt32) (cells i))
    (decomposed : w.mode = .decomposed) (written : (b.write w).2 = .ok ())
    (address : r.address = w.address) (width : r.width = w.width)
    (decomposed' : r.mode = .decomposed) (plain : r.intent = .dataRead) :
    ∃ value, ((b.write w).1.read r).2 = .ok value ∧
      (value = w.value ↔ w.value &&& w.width.mask = w.value ∧
        ∀ i < w.width.bytes, ∀ j < w.width.bytes, cells i = cells j →
          Access.valueByte w.value i = Access.valueByte w.value j) ∧
      ((∀ i < w.width.bytes, ∀ j < w.width.bytes, cells i = cells j → i = j) →
        value = w.value &&& w.width.mask) := by
  obtain ⟨rewritten, stored⟩ := write_leaves idle decomposed each written
  generalize (b.write w).1 = c at rewritten stored
  have idle' : c.fabric.commands = [] := by rw [rewritten.fabric]; exact idle
  have back : ∀ i < r.width.bytes, c.ReadsBack (r.address + i.toUInt32) (cells i) := by
    rw [width, address]
    exact fun i lt => (each i lt).rewritten rewritten
  -- What each cell holds is a byte that leads to it.
  let byte (i : Nat) : UInt8 := (c.arena.byte? (cells i)).getD 0
  have source : ∀ i < w.width.bytes, ∃ j < w.width.bytes,
      cells j = cells i ∧ byte i = Access.valueByte w.value j := by
    intro i lt
    obtain ⟨j, lt', same, holds⟩ := stored i lt
    exact ⟨j, lt', same, congrArg (Option.getD · 0) holds⟩
  have holds : ∀ i < r.width.bytes, c.arena.byte? (cells i) = some (byte i) := by
    intro i lt
    obtain ⟨j, -, -, here⟩ := stored i (width ▸ lt)
    exact here.trans (congrArg some (congrArg (Option.getD · 0) here).symm)
  have found := read_of_bytes idle' decomposed' plain back holds
  rw [width] at found
  refine ⟨_, found, ?_, fun apart => ByteReads.assemble_eq_and_mask fun i lt => ?_⟩
  · rw [ByteReads.assemble_eq_iff]
    refine and_congr_right fun _ => ⟨fun own => ?_, fun equal => ?_⟩
    · intro i lt j lt' clash
      rw [← own i lt, ← own j lt']
      exact congrArg (fun cell => (c.arena.byte? cell).getD 0) clash
    · intro i lt
      obtain ⟨j, lt', same, from_j⟩ := source i lt
      exact from_j.trans (equal j lt' i lt same)
  · obtain ⟨j, lt', same, from_j⟩ := source i lt
    rw [from_j, apart j lt' i lt same]

end Bus
end Backplane
