import Mathlib
import Backplane.Proofs.Bus.Modes

/-!
# Bytes of decomposed accesses

A decomposed access goes on past the bytes that are refused. Where no byte leads to a
device, the bytes do not disturb each other: a stored byte changes no shape, so whether the
next one can be stored does not hang on it, and a refused byte leaves nothing behind. So
each byte is answered as if it were alone on the bus as it was (`Access.alone`), and the
targets take in the bytes that succeed, in order (`Bus.keep`). Bytes may lead to one cell;
then the last one stays.

The value of a decomposed write's outcome and of a processor's read is put together from
these answers. The main statement is `bytes_stand_alone`.
-/

namespace Backplane

/-! ## Values -/

namespace ByteReads

/-- Bytes are put together as digits to the base 256. -/
theorem toNat_assemble_cons (byte : UInt8) {bytes : List UInt8}
    (lt : (assemble bytes).toNat < 2 ^ 24) :
    (assemble (byte :: bytes)).toNat = byte.toNat + 256 * (assemble bytes).toNat := by
  have low : byte.toNat < 2 ^ 8 := byte.toNat_lt
  have shift : ((8 : UInt32).toNat % 32) = 8 := rfl
  rw [assemble, UInt32.toNat_or, UInt32.toNat_shiftLeft, shift, UInt8.toNat_toUInt32,
    Nat.mod_eq_of_lt (by rw [Nat.shiftLeft_eq]; omega), Nat.or_comm,
    ← Nat.shiftLeft_add_eq_or_of_lt low, Nat.shiftLeft_eq]
  omega

theorem toNat_assemble_lt {bytes : List UInt8} (le : bytes.length ≤ 4) :
    (assemble bytes).toNat < 2 ^ (8 * bytes.length) := by
  induction bytes with
  | nil => decide
  | cons byte bytes ih =>
    have few : bytes.length ≤ 3 := Nat.le_of_succ_le_succ le
    have rest := ih (Nat.le_succ_of_le few)
    have bound : (assemble bytes).toNat < 2 ^ 24 :=
      Nat.lt_of_lt_of_le rest (Nat.pow_le_pow_right (by decide) (by omega))
    have low : byte.toNat < 2 ^ 8 := byte.toNat_lt
    rw [toNat_assemble_cons byte bound, List.length_cons, Nat.mul_succ, Nat.pow_add]
    omega

/-- The bytes of a value are those that it was put together from. -/
theorem valueByte_assemble {bytes : List UInt8} (le : bytes.length ≤ 4) {i : Nat} {byte : UInt8}
    (here : bytes[i]? = some byte) : Access.valueByte (assemble bytes) i = byte := by
  induction bytes generalizing i with
  | nil => cases here
  | cons first bytes ih =>
    have few : bytes.length ≤ 3 := Nat.le_of_succ_le_succ le
    have bound : (assemble bytes).toNat < 2 ^ 24 :=
      Nat.lt_of_lt_of_le (toNat_assemble_lt (Nat.le_succ_of_le few))
        (Nat.pow_le_pow_right (by decide) (by omega))
    have digits := toNat_assemble_cons first bound
    cases i with
    | zero =>
      obtain rfl : first = byte := Option.some.inj here
      have low : (first.toNat + 256 * (assemble bytes).toNat) % 2 ^ 8 = first.toNat := by
        have := first.toNat_lt
        omega
      rw [Access.valueByte, digits, Nat.mul_zero, Nat.shiftRight_zero, ← UInt8.toNat_inj]
      exact low
    | succ i =>
      have high : (first.toNat + 256 * (assemble bytes).toNat) / 2 ^ 8 =
          (assemble bytes).toNat := by
        have := first.toNat_lt
        omega
      have down : (assemble (first :: bytes)).toNat >>> (8 * (i + 1)) =
          (assemble bytes).toNat >>> (8 * i) := by
        rw [digits, Nat.mul_succ, Nat.add_comm (8 * i), Nat.shiftRight_add,
          Nat.shiftRight_eq_div_pow _ 8, high]
      rw [Access.valueByte, down]
      exact ih (Nat.le_succ_of_le few) here

end ByteReads

/-- The first byte that is refused tells the outcome. -/
theorem ByteWrites.outcome_of_refusal {w : ByteWrites} {i : Nat} {fault : Fault}
    (refused : w.results[i]? = some (.error fault))
    (before : ∀ j < i, w.results[j]? = some (.ok ())) : w.outcome = .error fault := by
  obtain ⟨lt, here⟩ := List.getElem?_eq_some_iff.mp refused
  have sound : (w.results.take i).filterMap faultOf = [] := by
    refine List.filterMap_eq_nil_iff.mpr fun x mem => ?_
    obtain ⟨j, at_j⟩ := List.mem_iff_getElem?.mp mem
    rw [List.getElem?_take] at at_j
    split at at_j
    · rename_i lt'
      rw [before j lt'] at at_j
      cases at_j
      rfl
    · cases at_j
  have split : w.results = w.results.take i ++ .error fault :: w.results.drop (i + 1) := by
    rw [← here, ← List.drop_eq_getElem_cons lt, List.take_append_drop]
  rw [outcome, faults, split, List.filterMap_append, sound]
  rfl

variable {σ : Type} [DeviceModel σ]

/-! ## One byte -/

/-- What comes of a write of one byte that does not lead to a device: it is stored where its
route ends, or refused without a trace. -/
inductive MemoryWrite (f : Fabric σ) (cell : Cell) (value : UInt8) :
    Fabric σ × Except Reject Unit → Prop where
  /-- The byte is stored. -/
  | stored {leaf : Cell} : f.arena.route .write cell = .ok leaf →
    MemoryWrite f cell value
      ({ f with arena := f.arena.modify leaf.target (.store leaf.offset value) }, .ok ())
  /-- The byte is refused. -/
  | refused (reason : Reject) : MemoryWrite f cell value (f, .error reason)

namespace Bus

variable {f g : Fabric σ} {cell : Cell} {entry : PageEntry} {a : Access} {value : UInt8}

omit [DeviceModel σ] in
theorem memoryWrite_storeByte {leaf : Cell} (route : f.arena.route .write cell = .ok leaf)
    (size : Nat) : MemoryWrite f cell value (f.storeByte leaf value size) := by
  unfold Fabric.storeByte
  split
  · exact .stored route
  · exact .refused _

theorem writeByte_memoryWrite (passive : f.arena.Passive .write cell) (a : Access)
    (entry : PageEntry) (value : UInt8) :
    MemoryWrite f cell value (writeByte f a entry cell value) := by
  unfold writeByte Fabric.write Fabric.poke
  cases route : f.arena.route .write cell with
  | error reason => split <;> exact .refused reason
  | ok leaf =>
    obtain ⟨t, m, here, memory⟩ := passive leaf route
    dsimp only
    rw [here]
    cases t with
    | ram => split <;> exact memoryWrite_storeByte route _
    | rom =>
      dsimp only
      split
      · split
        · exact memoryWrite_storeByte route _
        · exact .refused _
      · exact .refused _
    | window | split | device => cases memory

omit [DeviceModel σ] in
/-- Whether a byte fits does not hang on what else is stored. -/
theorem storeByte_congr (f g : Fabric σ) (leaf : Cell) (value : UInt8) (size : Nat) :
    (g.storeByte leaf value size).2 = (f.storeByte leaf value size).2 := by
  unfold Fabric.storeByte
  split <;> rfl

/-- Nor does the answer to a byte of memory. -/
theorem writeByte_congr (same : f.arena.Matches (fun _ => ()) g.arena)
    (passive : f.arena.Passive .write cell) :
    (writeByte g a entry cell value).2 = (writeByte f a entry cell value).2 := by
  unfold writeByte Fabric.write Fabric.poke
  rw [same.route]
  cases route : f.arena.route .write cell with
  | error reason => split <;> rfl
  | ok leaf =>
    obtain ⟨t, m, here, memory⟩ := passive leaf route
    obtain ⟨t', there, alike⟩ := same.extends _ _ here
    dsimp only
    rw [here, there]
    cases alike with
    | ram size =>
      dsimp only
      rw [size]
      split <;> exact storeByte_congr f g _ _ _
    | rom size =>
      dsimp only
      rw [size]
      split
      · split
        · exact storeByte_congr f g _ _ _
        · rfl
      · rfl
    | window | split | device => cases memory

end Bus

/-! ## Bytes on their own -/

/-- The access to the byte at a distance from the address of `a`, on its own, with a value. -/
def Access.alone (a : Access) (byte : UInt8 × Nat) : Access :=
  { a with
    address := a.address + byte.2.toUInt32
    value := byte.1.toUInt32
    width := .byte }

namespace Bus

variable {b c : Bus σ} {a : Access}

/-- No route of `count` bytes from an address ends in a device. -/
def AvoidsDevices (b : Bus σ) (direction : Direction) (address : UInt32) (count : Nat) : Prop :=
  ∀ i < count, ∀ leaf, b.route? direction (address + i.toUInt32) = some (.ok leaf) →
    ∀ state, b.arena.get? leaf.target ≠ some (.device state)

omit [DeviceModel σ] in
theorem AvoidsDevices.passive {direction : Direction} {address : UInt32} {count i : Nat}
    (avoids : b.AvoidsDevices direction address count) (lt : i < count)
    (at_i : a.address = address + i.toUInt32) (byte : a.width = .byte) {r : Resolved}
    (resolved : b.resolve a = .ok r) : b.arena.Passive direction r.cell := by
  intro leaf route
  have led := route?_of_resolve byte resolved direction
  rw [at_i, route] at led
  rcases Arena.routeWithin_leaf route with ⟨m, here⟩ | ⟨m, here⟩ | ⟨state, here⟩
  · exact ⟨_, m, here, rfl⟩
  · exact ⟨_, m, here, rfl⟩
  · exact absurd here (avoids i lt leaf led state)

/-- A write of one byte gets the same answer in either mode. -/
theorem write_snd_byte (b : Bus σ) (byte : a.width = .byte) :
    (b.write a).2 = (b.servedWrite a).2 := by
  cases mode : a.mode with
  | atomic =>
    rw [write, mode]
    exact congrArg Prod.snd (b.writeAtomic_eq a)
  | decomposed =>
    have one : List.range a.width.bytes = [0] := by rw [byte]; rfl
    have lane : { a.lane 0 with value := (Access.valueByte a.value 0).toUInt32 } =
        { a with value := (Access.valueByte a.value 0).toUInt32 } := by
      have address : a.address + Nat.toUInt32 0 = a.address := UInt32.add_zero _
      rw [Access.lane, address, ← byte]
    have same : (b.servedWrite { a with value := (Access.valueByte a.value 0).toUInt32 }).2 =
        (b.servedWrite a).2 := by
      cases resolved : b.resolve a with
      | error fault =>
        rw [servedWrite_refused resolved]
        exact congrArg Prod.snd (servedWrite_refused resolved)
      | ok r =>
        have there : b.resolve { a with value := (Access.valueByte a.value 0).toUInt32 } =
            .ok r := resolved
        have low := servedWrite_byte
          (a := { a with value := (Access.valueByte a.value 0).toUInt32 }) byte there
        rw [Access.valueByte_toUInt32_zero] at low
        rw [servedWrite_byte byte resolved]
        exact congrArg Prod.snd low
    simp only [write, mode, one, writeMany, List.map_cons, List.map_nil, List.zipIdx_cons,
      List.zipIdx_nil, inTurn_cons, inTurn_nil, writeAtomic_eq]
    rw [lane, same]
    generalize (b.servedWrite a).2 = result
    cases result <;> rfl

/-- The targets after a byte of a decomposed write is stored, if on its own it would be. -/
def keep (b : Bus σ) (a : Access) (arena : Arena σ) (byte : UInt8 × Nat) : Arena σ :=
  match (b.write (a.alone byte)).2, b.route? .write (a.alone byte).address with
  | .ok (), some (.ok leaf) => arena.modify leaf.target (.store leaf.offset byte.1)
  | _, _ => arena

theorem keep_matches (b : Bus σ) (a : Access) (arena : Arena σ) (byte : UInt8 × Nat) :
    arena.Matches (fun _ => ()) (b.keep a arena byte) := by
  unfold keep
  split
  · exact arena.matches_store _ _ _ _
  · exact .refl arena

/-- A bus that differs from `b` in the bytes of memory and in the trace alone. -/
structure Rewritten (b c : Bus σ) : Prop where
  map : c.map = b.map
  fabric : c.fabric = { b.fabric with arena := c.arena }
  matching : b.arena.Matches (fun _ => ()) c.arena

omit [DeviceModel σ] in
theorem Rewritten.refl (b : Bus σ) : Rewritten b b := ⟨rfl, rfl, .refl b.arena⟩

section Alone

variable {byte : UInt8 × Nat}
  (passive : ∀ r, b.resolve (a.alone byte) = .ok r → b.arena.Passive .write r.cell)

include passive

/-- After other bytes were stored, a byte is answered as on the bus as it was, and stored if
it would be stored there. -/
theorem Rewritten.servedWrite (h : Rewritten b c) :
    c.servedWrite (a.alone byte) =
      ({ c.fabric with arena := b.keep a c.arena byte }, (b.write (a.alone byte)).2) := by
  have lone := b.write_snd_byte (a := a.alone byte) rfl
  have same := resolve_congr h.map (a.alone byte)
  rw [keep, lone]
  cases resolved : b.resolve (a.alone byte) with
  | error fault =>
    rw [servedWrite_refused resolved, servedWrite_refused (same.trans resolved)]
    rfl
  | ok r =>
    have here := passive r resolved
    have led := route?_of_resolve (a := a.alone byte) rfl resolved .write
    have value : Access.valueByte (a.alone byte).value 0 = byte.1 :=
      Access.valueByte_toUInt32_zero byte.1
    have written := writeByte_memoryWrite (here.matches h.matching) (a.alone byte) r.entry byte.1
    have answer : (writeByte c.fabric (a.alone byte) r.entry r.cell byte.1).2 =
        (writeByte b.fabric (a.alone byte) r.entry r.cell byte.1).2 :=
      writeByte_congr h.matching here
    rw [servedWrite_byte rfl resolved, servedWrite_byte rfl (same.trans resolved), led, value]
    dsimp only
    rw [← answer]
    generalize writeByte c.fabric (a.alone byte) r.entry r.cell byte.1 = outcome at written ⊢
    cases written with
    | refused reason => rfl
    | stored route =>
      rw [(h.matching.route .write r.cell).symm.trans route]
      rfl

theorem Rewritten.transact (h : Rewritten b c) (idle : b.fabric.commands = []) :
    Rewritten b (c.transact (.write (a.alone byte))) ∧
      (c.transact (.write (a.alone byte))).arena = b.keep a c.arena byte := by
  have served : c.served (.write (a.alone byte)) =
      { c.fabric with arena := b.keep a c.arena byte } :=
    congrArg Prod.fst (h.servedWrite passive)
  have after : (c.transact (.write (a.alone byte))).arena = b.keep a c.arena byte := by
    rw [transact_arena, served]
  refine ⟨⟨?_, ?_, ?_⟩, after⟩
  · rw [transact_map, served, h.fabric]
    change b.fabric.commands.foldl AddressMap.command c.map = b.map
    rw [idle, List.foldl_nil, h.map]
  · rw [after, transact_fabric, served, h.fabric, ← idle]
  · rw [after]
    exact h.matching.trans (b.keep_matches a c.arena byte)

end Alone

/-! ## All bytes -/

section Lists

variable {bytes : List (UInt8 × Nat)} (passive : ∀ byte ∈ bytes, ∀ r,
  b.resolve (a.alone byte) = .ok r → b.arena.Passive .write r.cell)
  (idle : b.fabric.commands = [])

include passive idle

theorem Rewritten.transactions (h : Rewritten b c) :
    let after := (bytes.map fun byte => Transaction.write (a.alone byte)).foldl Bus.transact c
    Rewritten b after ∧ after.arena = bytes.foldl (b.keep a) c.arena := by
  induction bytes generalizing c with
  | nil => exact ⟨h, rfl⟩
  | cons byte bytes ih =>
    obtain ⟨first, rest⟩ := List.forall_mem_cons.mp passive
    obtain ⟨next, kept⟩ := h.transact first idle
    obtain ⟨last, after⟩ := ih rest next
    refine ⟨last, ?_⟩
    rw [kept] at after
    exact after

/-- The bytes of a decomposed write are answered as if each were on its own. -/
theorem results_alone :
    (inTurn (fun c byte => c.writeAtomic (a.alone byte)) b bytes).2 =
      bytes.map fun byte => (b.write (a.alone byte)).2 := by
  refine (inTurn_of_keeps (P := Rewritten b) (fun c h byte mem => ⟨?_, ?_⟩) (.refl b)).2
  · exact (h.transact (passive byte mem) idle).1
  · rw [writeAtomic_eq]
    change (c.servedWrite (a.alone byte)).2 = _
    rw [h.servedWrite (passive byte mem)]

end Lists

section Transfers

variable (idle : b.fabric.commands = [])

include idle

/-- The bytes of a decomposed write stand alone. -/
theorem writeMany_alone {bytes : List UInt8}
    (avoids : b.AvoidsDevices .write a.address bytes.length) :
    (b.writeMany a bytes).2.results = bytes.zipIdx.map (fun byte => (b.write (a.alone byte)).2) ∧
      Rewritten b (b.writeMany a bytes).1 ∧
        (b.writeMany a bytes).1.arena = bytes.zipIdx.foldl (b.keep a) b.arena := by
  have passive : ∀ byte ∈ bytes.zipIdx, ∀ r,
      b.resolve (a.alone byte) = .ok r → b.arena.Passive .write r.cell := by
    intro byte mem r resolved
    have lt : byte.2 < bytes.length := (List.mem_zipIdx' mem).1
    exact avoids.passive lt rfl rfl resolved
  refine ⟨results_alone passive idle, ?_⟩
  rw [writeMany_fst]
  exact (Rewritten.refl b).transactions passive idle

/-- What a decomposed write of a value tells of each of its bytes. -/
theorem writeMany_alone_lane (avoids : b.AvoidsDevices .write a.address a.width.bytes) {i : Nat}
    (lt : i < a.width.bytes) :
    (b.writeMany a ((List.range a.width.bytes).map (Access.valueByte a.value))).2.results[i]? =
      some (b.write (a.alone (Access.valueByte a.value i, i))).2 := by
  have count : ((List.range a.width.bytes).map (Access.valueByte a.value)).length =
      a.width.bytes := by
    rw [List.length_map, List.length_range]
  rw [(writeMany_alone idle (count.symm ▸ avoids)).1, List.getElem?_map, List.getElem?_zipIdx,
    List.getElem?_map, List.getElem?_range lt, Nat.zero_add]
  rfl

/-- A decomposed write succeeds if each of its bytes does on its own; otherwise it gets the
fault of the lowest that does not. -/
theorem write_alone (avoids : b.AvoidsDevices .write a.address a.width.bytes)
    (decomposed : a.mode = .decomposed) :
    ((b.write a).2 = .ok () ↔ ∀ i < a.width.bytes,
      (b.write (a.alone (Access.valueByte a.value i, i))).2 = .ok ()) ∧
    ∀ i < a.width.bytes, ∀ fault,
      (b.write (a.alone (Access.valueByte a.value i, i))).2 = .error fault →
      (∀ j < i, (b.write (a.alone (Access.valueByte a.value j, j))).2 = .ok ()) →
        (b.write a).2 = .error fault := by
  have told {i : Nat} (lt : i < a.width.bytes) := writeMany_alone_lane idle avoids lt
  have whole : (b.write a).2 =
      (b.writeMany a ((List.range a.width.bytes).map (Access.valueByte a.value))).2.outcome := by
    rw [write, decomposed]
  rw [whole]
  constructor
  · rw [ByteWrites.outcome_eq_ok_iff]
    constructor
    · intro all i lt
      exact all _ (List.mem_of_getElem? (told lt))
    · intro all x mem
      obtain ⟨i, here⟩ := List.mem_iff_getElem?.mp mem
      have lt : i < a.width.bytes := by
        have lt := (List.getElem?_eq_some_iff.mp here).1
        rwa [length_writeMany, List.length_map, List.length_range] at lt
      rw [told lt, all i lt] at here
      exact (Option.some.inj here).symm
  · intro i lt fault refused before
    refine ByteWrites.outcome_of_refusal ((told lt).trans (by rw [refused])) fun j lt' => ?_
    rw [told (Nat.lt_trans lt' lt), before j lt']

/-- What a decomposed read by the processor tells of each of its bytes, and that it leaves all
but the trace as it was. -/
theorem readMany_alone (avoids : b.AvoidsDevices .read a.address a.width.bytes)
    (plain : a.intent = .dataRead) :
    ((b.readMany a a.width.bytes).1.map = b.map ∧
      (b.readMany a a.width.bytes).1.fabric = b.fabric) ∧
    (b.readMany a a.width.bytes).2.bytes = (List.range a.width.bytes).map fun i =>
      (b.read (.read (a.address + i.toUInt32))).2.map UInt32.toUInt8 := by
  have passive (i : Nat) (lt : i < a.width.bytes) (r : Resolved)
      (resolved : b.resolve (a.lane i) = .ok r) : b.arena.Passive .read r.cell :=
    avoids.passive lt rfl rfl resolved
  obtain ⟨left, answers⟩ := b.readMany_passive idle passive
  refine ⟨left, answers.trans (List.map_congr_left fun i mem => ?_)⟩
  have same : b.resolve (.read (a.address + i.toUInt32)) = b.resolve (a.lane i) := by
    rw [resolve, resolve, Access.lane, plain]
    rfl
  have lone := b.readAtomic_passive (a := .read (a.address + i.toUInt32)) idle rfl
    fun r resolved => passive i (List.mem_range.mp mem) r (same ▸ resolved)
  rw [same] at lone
  exact lone.2.symm

/-- The bytes of a processor's read stand alone, and the read leaves all but the trace as it
was. -/
theorem readCpu_alone {address : UInt32} {bits : UInt8} {width : Width}
    (known : Width.ofBits bits = .ok width)
    (avoids : b.AvoidsDevices .read address width.bytes) :
    ∃ value, (b.readCpu address bits).2 = .ok value ∧
      value.toNat < 2 ^ (8 * width.bytes) ∧
      (∀ i < width.bytes, Access.valueByte value i =
        match (b.read (.read (address + i.toUInt32))).2 with
        | .ok byte => byte.toUInt8
        | .error _ => 0xFF) ∧
      (b.readCpu address bits).1.map = b.map ∧ (b.readCpu address bits).1.fabric = b.fabric := by
  let a : Access :=
    { address := address, intent := .dataRead, width := width, mode := .decomposed }
  have read : b.readCpu address bits =
      ((b.readMany a width.bytes).1, .ok (b.readMany a width.bytes).2.openBusValue) := by
    rw [readCpu, known]
  obtain ⟨left, told⟩ := readMany_alone (a := a) idle avoids rfl
  change (b.readMany a width.bytes).2.bytes = _ at told
  have few : width.bytes ≤ 4 := by cases width <;> decide
  have bytes : (((b.readMany a width.bytes).2.bytes).take 4).map ByteReads.byteOrOpen =
      (List.range width.bytes).map fun i =>
        match (b.read (.read (address + i.toUInt32))).2 with
        | .ok byte => byte.toUInt8
        | .error _ => 0xFF := by
    have all : (b.readMany a width.bytes).2.bytes.length ≤ 4 := by
      rwa [length_readMany]
    rw [List.take_of_length_le all, told, List.map_map]
    refine List.map_congr_left fun i _ => ?_
    rw [Function.comp_apply]
    cases (b.read (.read (a.address + i.toUInt32))).2 <;> rfl
  rw [read]
  refine ⟨_, rfl, ?_, fun i lt => ?_, left⟩
  · rw [ByteReads.openBusValue, bytes]
    refine Nat.lt_of_lt_of_eq (ByteReads.toNat_assemble_lt ?_) ?_ <;>
      rw [List.length_map, List.length_range]
    exact few
  · rw [ByteReads.openBusValue, bytes]
    refine ByteReads.valueByte_assemble ?_ ?_
    · rwa [List.length_map, List.length_range]
    · rw [List.getElem?_map, List.getElem?_range lt]
      rfl

end Transfers

/-- Bytes of a decomposed access that lead to no device stand alone. Each byte of a write is
answered as it would be on its own, and the targets take in those that succeed, in order,
while all else stays as it is but the trace. A write of a value reports success if all its
bytes have it, and else the fault of the lowest that does not. A processor's read holds in
each byte lane what a read of that byte alone finds, and 0xFF where it faults. -/
theorem bytes_stand_alone (reachable : b.Reachable) :
    (∀ (a : Access) (bytes : List UInt8), b.AvoidsDevices .write a.address bytes.length →
      let after := b.writeMany a bytes
      after.2.results = bytes.zipIdx.map (fun byte => (b.write (a.alone byte)).2) ∧
        after.1.fabric = { b.fabric with arena := bytes.zipIdx.foldl (b.keep a) b.arena } ∧
          after.1.map = b.map) ∧
    (∀ a : Access, a.mode = .decomposed → b.AvoidsDevices .write a.address a.width.bytes →
      let lone (i : Nat) := (b.write (a.alone (Access.valueByte a.value i, i))).2
      ((b.write a).2 = .ok () ↔ ∀ i < a.width.bytes, lone i = .ok ()) ∧
        ∀ i < a.width.bytes, ∀ fault, lone i = .error fault → (∀ j < i, lone j = .ok ()) →
          (b.write a).2 = .error fault) ∧
    ∀ (address : UInt32) (bits : UInt8) (width : Width), Width.ofBits bits = .ok width →
      b.AvoidsDevices .read address width.bytes →
      ∃ value, (b.readCpu address bits).2 = .ok value ∧
        value.toNat < 2 ^ (8 * width.bytes) ∧
        (∀ i < width.bytes, Access.valueByte value i =
          match (b.read (.read (address + i.toUInt32))).2 with
          | .ok byte => byte.toUInt8
          | .error _ => 0xFF) ∧
        (b.readCpu address bits).1.map = b.map ∧
          (b.readCpu address bits).1.fabric = b.fabric := by
  have idle := reachable.commands_eq_nil
  refine ⟨fun a bytes avoids => ?_, fun a decomposed avoids => write_alone idle avoids decomposed,
    fun address bits width known avoids => readCpu_alone idle known avoids⟩
  obtain ⟨results, rewritten, arena⟩ := writeMany_alone idle avoids
  exact ⟨results, arena ▸ rewritten.fabric, rewritten.map⟩

/-- All that `doubled` leads to is memory. -/
theorem doubled_avoidsDevices (direction : Direction) (address : UInt32) (count : Nat) :
    doubled.AvoidsDevices direction address count := by
  intro i _ leaf _ state device
  have kinds : doubled.arena.slots.toList.map (·.target.kindName) = ["ram", "composite"] := by
    decide_cbv
  obtain ⟨slot, here, eq⟩ := Option.map_eq_some_iff.mp device
  have kind := List.mem_map_of_mem (f := (·.target.kindName))
    (Array.mem_toList_iff.mpr (Array.mem_of_getElem? here))
  rw [kinds, eq] at kind
  change "device" ∈ ["ram", "composite"] at kind
  exact absurd kind (by decide)

/-- Five bytes from address 0: memory holds the third and the fourth where it held the first
two, and the fifth is past the page. A read of the last byte of the page and the next. -/
theorem bytes_stand_alone_doubled :
    let a : Access := { address := 0, intent := .dataWrite }
    let bytes : List UInt8 := [1, 2, 3, 4, 5]
    doubled.Reachable ∧ doubled.AvoidsDevices .write a.address bytes.length ∧
      (doubled.writeMany a bytes).2.results =
        [.ok (), .ok (), .ok (), .ok (), .error ⟨.unmapped, .invalid, 4⟩] ∧
      [0, 1].map (fun offset => (doubled.writeMany a bytes).1.arena.byte? ⟨⟨0⟩, offset⟩) =
        [some 3, some 4] ∧
      (doubled.write { a with width := .word, mode := .decomposed }).2 = .ok () ∧
      ∃ value, (doubled.readCpu 3 16).2 = .ok value ∧ Access.valueByte value 0 = 17 ∧
        Access.valueByte value 1 = 0xFF := by
  intro a bytes
  have reachable : doubled.Reachable := (Reachable.empty smallSpace).run _
  obtain ⟨writeMany, write, read⟩ := bytes_stand_alone reachable
  obtain ⟨results, fabric, -⟩ := writeMany a bytes (doubled_avoidsDevices _ _ _)
  obtain ⟨whole, -⟩ := write { a with width := .word, mode := .decomposed } rfl
    (doubled_avoidsDevices _ _ _)
  obtain ⟨value, answer, -, lanes, -⟩ := read 3 16 .half rfl (doubled_avoidsDevices _ _ _)
  refine ⟨reachable, doubled_avoidsDevices _ _ _, results.trans ?_, ?_, whole.mpr ?_, value,
    answer, (lanes 0 (by decide)).trans ?_, (lanes 1 (by decide)).trans ?_⟩
  · cbv
  · rw [arena, fabric]
    decide_cbv
  · intro i lt
    change i < 4 at lt
    interval_cases i <;> cbv
  · cbv
  · cbv

end Bus
end Backplane
