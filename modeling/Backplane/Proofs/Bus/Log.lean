import Mathlib
import Backplane.Device.Switch
import Backplane.Proofs.Bus.Byte

/-!
# The trace as a log

An `Event` is a transaction together with the answer that it was given. What the
caller of a transfer is told follows from the events of its transactions
(`told_events`), so events are what there is to be logged.

Every transaction writes one record if it is traced and none if it is not
(`transact_trace`). The records of a run are then those of its traced events, one for
each and in their order (`trace_faithful`).
-/

namespace Backplane

/-- A transaction and the answer to it. -/
inductive Event where
  /-- A read. -/
  | read (a : Access) (answer : Except Fault UInt32)
  /-- A write. -/
  | write (a : Access) (answer : Except Fault Unit)

namespace Event

/-- What was answered. -/
def transaction : Event → Transaction
  | read a _ => .read a
  | write a _ => .write a

/-- The access that was made. -/
def access (e : Event) : Access := e.transaction.access

/-- Whether the flags of the access leave it in the trace. -/
def isTraced (e : Event) : Bool := !e.access.flags.contains .noTrace

/-- The value that was read, zero for a fault, or the value that was to be written,
cut to the width. -/
def value : Event → UInt32
  | read _ answer => Bus.valueOf answer
  | write a _ => a.value &&& a.width.mask

/-- The fault that was the answer, if it was one. -/
def fault : Event → Option Fault
  | read _ answer => faultOf answer
  | write _ answer => faultOf answer

/-- The answer to a read. -/
def readAnswer? : Event → Option (Except Fault UInt32)
  | read _ answer => some answer
  | write _ _ => none

/-- The answer to a write. -/
def writeAnswer? : Event → Option (Except Fault Unit)
  | read _ _ => none
  | write _ answer => some answer

/-- The bytes that were read, in order. -/
def bytes (events : List Event) : List (Except Fault UInt8) :=
  (events.filterMap readAnswer?).map fun answer => answer.map UInt32.toUInt8

/-- The answers to writes, in order. -/
def results (events : List Event) : List (Except Fault Unit) := events.filterMap writeAnswer?

/-- A record says of an event who made which access and when, and what came of it. -/
structure IsLoggedAs (e : Event) (r : TraceRecord) : Prop where
  cycle : r.cycle = e.access.cycle
  address : r.address = e.access.address
  value : r.value = e.value
  widthBits : r.widthBits = e.access.width.bits
  intent : r.intent = e.access.intent
  flags : r.flags = e.access.flags
  source : r.source = e.access.source
  fault : r.fault = e.fault.map Fault.kind

end Event

/-! ## What callers are told -/

/-- What a caller is told, by the events that the transfer is made of. -/
def Transfer.told (events : List Event) : Transfer → Option Reply
  | read a =>
    match a.mode with
    | .atomic => (events.filterMap Event.readAnswer?).head?.map .value
    | .decomposed => some (.value (ByteReads.value ⟨a.address, Event.bytes events⟩))
  | write a =>
    match a.mode with
    | .atomic => (Event.results events).head?.map .stored
    | .decomposed => some (.stored (ByteWrites.outcome ⟨a.address, Event.results events⟩))
  | readMany _ _ | capture _ _ _ => some (.bytes (Event.bytes events))
  | writeMany _ _ => some (.results (Event.results events))
  | readCpuByte _ =>
    (Event.bytes events).head?.map fun answer => .openByte (ByteReads.byteOrOpen answer)
  | writeCpuByte _ _ => some (.done (.ok ()))
  | readCpu address bits =>
    some (.openValue ((Width.ofBits bits).map fun _ =>
      ByteReads.openBusValue ⟨address, Event.bytes events⟩))
  | writeCpu _ bits _ => some (.done ((Width.ofBits bits).map fun _ => ()))
  | peekByte _ => (Event.bytes events).head?.map .byte
  | pokeByte _ _ => (Event.results events).head?.map .stored

namespace Bus

variable {σ : Type} [DeviceModel σ] (b : Bus σ)

/-- A transaction with the answer of the bus. -/
def event : Transaction → Event
  | .read a => .read a (b.readAtomic a).2
  | .write a => .write a (b.writeAtomic a).2

/-- Transactions in order, each with the answer of the bus that those before it
leave. -/
def events (b : Bus σ) : List Transaction → List Event
  | [] => []
  | x :: xs => b.event x :: (b.transact x).events xs

@[simp] theorem transaction_event (x : Transaction) : (b.event x).transaction = x := by
  cases x <;> rfl

theorem transaction_events (xs : List Transaction) :
    (b.events xs).map Event.transaction = xs := by
  induction xs generalizing b with
  | nil => rfl
  | cons x xs ih => rw [events, List.map_cons, transaction_event, ih]

theorem events_append (xs ys : List Transaction) :
    b.events (xs ++ ys) = b.events xs ++ (xs.foldl transact b).events ys := by
  induction xs generalizing b with
  | nil => rfl
  | cons x xs ih => rw [List.cons_append, events, ih, List.foldl_cons, events, List.cons_append]

theorem bytes_events_reads (a : Access) (count : Nat) :
    Event.bytes (b.events (Transaction.reads a count)) = (b.readMany a count).2.bytes := by
  rw [Transaction.reads, readMany]
  generalize List.range count = lanes
  induction lanes generalizing b with
  | nil => rfl
  | cons lane lanes ih =>
    rw [List.map_cons, events, inTurn_cons]
    exact congrArg (_ :: ·) (ih (b.transact (.read (a.lane lane))))

theorem results_events_writes (a : Access) (bytes : List UInt8) :
    Event.results (b.events (Transaction.writes a bytes)) = (b.writeMany a bytes).2.results := by
  rw [Transaction.writes, writeMany]
  generalize bytes.zipIdx = lanes
  induction lanes generalizing b with
  | nil => rfl
  | cons lane lanes ih =>
    rw [List.map_cons, events, inTurn_cons]
    exact congrArg (_ :: ·)
      (ih (b.transact (.write { a.lane lane.2 with value := lane.1.toUInt32 })))

/-- The events of a transfer settle what its caller is told. -/
theorem told_events (t : Transfer) : t.told (b.events t.transactions) = some (b.reply t) := by
  cases t with
  | read a =>
    simp only [Transfer.told, Transfer.transactions, Transfer.transactionsOfRead, reply, read]
    cases a.mode with
    | atomic => rfl
    | decomposed => simp only [bytes_events_reads]; rfl
  | write a =>
    simp only [Transfer.told, Transfer.transactions, Transfer.transactionsOfWrite, reply, write]
    cases a.mode with
    | atomic => rfl
    | decomposed => simp only [results_events_writes]; rfl
  | readMany a count => exact congrArg (some ∘ Reply.bytes) (b.bytes_events_reads a count)
  | capture start length intent =>
    exact congrArg (some ∘ Reply.bytes) (b.bytes_events_reads _ length)
  | writeMany a bytes => exact congrArg (some ∘ Reply.results) (b.results_events_writes a bytes)
  | readCpuByte address =>
    simp only [Transfer.told, Transfer.transactions, events, event, reply, readCpuByte]
    cases b.readAtomic (.read address) with
    | mk c answer => cases answer <;> rfl
  | writeCpuByte address value => rfl
  | readCpu address bits =>
    simp only [Transfer.told, Transfer.transactions, reply, readCpu]
    cases Width.ofBits bits with
    | error e => rfl
    | ok width => simp only [bytes_events_reads]; rfl
  | writeCpu address bits value =>
    simp only [Transfer.told, reply, writeCpu]
    cases Width.ofBits bits <;> rfl
  | peekByte address => rfl
  | pokeByte address value => rfl

end Bus

/-! ## Values that were read -/

theorem Width.bytes_le (width : Width) : width.bytes ≤ 4 := by
  cases width <;> decide

theorem Width.toNat_mask (width : Width) : width.mask.toNat = 2 ^ (8 * width.bytes) - 1 := by
  cases width <;> rfl

namespace Bus

variable {σ : Type} [DeviceModel σ] (b : Bus σ)

omit [DeviceModel σ] in
theorem shifted_byte_lt (byte : UInt8) {lane bytes : Nat} (lt : lane < bytes) (le : bytes ≤ 4) :
    (byte.toUInt32 <<< (8 * lane).toUInt32).toNat < 2 ^ (8 * bytes) := by
  have fits : byte.toNat < 2 ^ 8 := byte.toNat_lt
  have shift : (8 * lane).toUInt32.toNat % 32 = 8 * lane := by
    rw [Nat.toUInt32, UInt32.toNat_ofNat']
    omega
  rw [UInt32.toNat_shiftLeft, shift, UInt8.toNat_toUInt32, Nat.shiftLeft_eq]
  calc byte.toNat * 2 ^ (8 * lane) % 2 ^ 32
      ≤ byte.toNat * 2 ^ (8 * lane) := Nat.mod_le _ _
    _ < 2 ^ 8 * 2 ^ (8 * lane) := Nat.mul_lt_mul_of_pos_right fits (Nat.two_pow_pos _)
    _ = 2 ^ (8 * (lane + 1)) := by rw [← Nat.pow_add, Nat.mul_succ, Nat.add_comm]
    _ ≤ 2 ^ (8 * bytes) := Nat.pow_le_pow_right (by omega) (Nat.mul_le_mul_left 8 lt)

theorem readBytes_lt (a : Access) (r : Resolved) {bytes : Nat} (le : bytes ≤ 4) (f : Fabric σ)
    {lanes : List Nat} (lt : ∀ lane ∈ lanes, lane < bytes) {value : UInt32}
    (read : (readBytes a r f lanes).2 = .ok value) : value.toNat < 2 ^ (8 * bytes) := by
  induction lanes generalizing f value with
  | nil =>
    cases read
    exact Nat.two_pow_pos _
  | cons lane lanes ih =>
    obtain ⟨first, others⟩ := List.forall_mem_cons.mp lt
    rw [readBytes] at read
    split at read
    · cases read
    · split at read
      · cases read
      · rename_i rest tail
        cases read
        have rest_lt := ih _ others (congrArg Prod.snd tail)
        rw [UInt32.toNat_or]
        exact Nat.or_lt_two_pow (shifted_byte_lt _ first le) rest_lt

/-- A read answers with no more bits than it is wide. -/
theorem readAtomic_masked (a : Access) {value : UInt32} (h : (b.readAtomic a).2 = .ok value) :
    value &&& a.width.mask = value := by
  have lt : value.toNat < 2 ^ (8 * a.width.bytes) := by
    rw [readAtomic_eq, servedRead] at h
    split at h
    · cases h
    · rename_i r _
      cases answer : (readBytes a r b.fabric (List.range a.width.bytes)).2 with
      | error reason => simp only [answer, Except.mapError, reduceCtorEq] at h
      | ok read =>
        simp only [answer, Except.mapError, Except.ok.injEq] at h
        subst h
        exact readBytes_lt a r a.width.bytes_le b.fabric (fun _ => List.mem_range.mp) answer
  apply UInt32.toNat_inj.mp
  rw [UInt32.toNat_and, a.width.toNat_mask, Nat.and_two_pow_sub_one_of_lt_two_pow lt]

/-! ## What is traced -/

/-- The record of a transaction, unless its flags keep it out of the trace. -/
def record? (x : Transaction) : Option TraceRecord :=
  let e := b.event x
  if e.isTraced then
    some ((b.transact x).recordOf e.access e.value (e.fault.map Fault.kind))
  else none

/-- The records of transactions in order. -/
def records (b : Bus σ) : List Transaction → List TraceRecord
  | [] => []
  | x :: xs => (b.record? x).toList ++ (b.transact x).records xs

omit [DeviceModel σ] in
theorem recordOf_congr {b c : Bus σ} (map : b.map = c.map) : b.recordOf = c.recordOf := by
  funext a value fault
  rw [recordOf, recordOf, map]

omit [DeviceModel σ] in
theorem settle_trace : b.settle.trace = b.trace := by
  unfold settle
  split <;> rfl

omit [DeviceModel σ] in
theorem record_trace (a : Access) (value : UInt32) (fault : Option FaultKind) :
    (b.record a value fault).trace =
      if a.flags.contains .noTrace then b.trace
      else b.trace.map fun ring => ring.emit (b.recordOf a value fault) := by
  unfold record
  split
  · rfl
  · cases h : b.trace with
    | none => exact h
    | some ring => rfl

/-- A transaction is its service and its end, which takes note of its event. -/
theorem transact_eq_finish (x : Transaction) :
    b.transact x = b.finish x.access (b.served x) (b.event x).value
      ((b.event x).fault.map Fault.kind) := by
  cases x with
  | read a =>
    rw [transact, event, readAtomic_eq]
    rfl
  | write a =>
    rw [transact, event, writeAtomic_eq]
    rfl

@[simp] theorem access_event (x : Transaction) : (b.event x).access = x.access := by
  rw [Event.access, transaction_event]

/-- A transaction writes the one record that is made of it, or none. -/
theorem transact_trace (x : Transaction) :
    (b.transact x).trace = b.trace.map fun ring => (b.record? x).toList.foldl .emit ring := by
  have page :
      (b.transact x).recordOf = ({ b with fabric := b.served x } : Bus σ).settle.recordOf := by
    apply recordOf_congr
    rw [transact_eq_finish, finish, record_map]
  rw [record?, page, transact_eq_finish, finish, record_trace, settle_trace, access_event]
  unfold Event.isTraced
  rw [access_event]
  cases x.access.flags.contains .noTrace with
  | true => cases b.trace <;> rfl
  | false => rfl

theorem transactions_trace (xs : List Transaction) :
    (xs.foldl transact b).trace = b.trace.map fun ring => (b.records xs).foldl .emit ring := by
  induction xs generalizing b with
  | nil => exact Option.map_id'.symm
  | cons x xs ih =>
    rw [List.foldl_cons, ih, transact_trace, Option.map_map, records]
    congr 1
    funext ring
    exact (List.foldl_append ..).symm

/-- One record for each event that is traced. -/
theorem records_logged (xs : List Transaction) :
    List.Forall₂ Event.IsLoggedAs ((b.events xs).filter Event.isTraced) (b.records xs) := by
  induction xs generalizing b with
  | nil => exact .nil
  | cons x xs ih =>
    rw [events, records, List.filter_cons, record?]
    by_cases traced : (b.event x).isTraced
    · rw [if_pos traced, if_pos traced]
      refine .cons ?_ (ih (b.transact x))
      constructor <;> rfl
    · rw [if_neg traced, if_neg traced]
      exact ih (b.transact x)

theorem masked_of_mem_events {xs : List Transaction} {a : Access} {value : UInt32}
    (h : .read a (.ok value) ∈ b.events xs) : value &&& a.width.mask = value := by
  induction xs generalizing b with
  | nil => cases h
  | cons x xs ih =>
    rcases List.mem_cons.mp h with here | later
    · cases x with
      | read a' =>
        obtain ⟨rfl, answer⟩ := Event.read.inj here
        exact b.readAtomic_masked a answer.symm
      | write a' => cases here
    · exact ih (b.transact x) later

/-- A run of accesses on a bus that is traced writes one record for each transaction
whose flags do not forbid it, in order and whether it faults or not. The record tells
the access and its outcome. The transactions of the run are those that the requests
ask for; each transfer is answered by the events of its own transactions, whose values
fit their widths. -/
theorem trace_faithful {ring : TraceRing} (tracing : b.trace = some ring) (ts : List Transfer) :
    let events := b.events (ts.flatMap Transfer.transactions)
    (∃ records : List TraceRecord,
      (ts.foldl transfer b).trace = some (records.foldl .emit ring) ∧
        List.Forall₂ Event.IsLoggedAs (events.filter Event.isTraced) records) ∧
    events.map Event.transaction = ts.flatMap Transfer.transactions ∧
    (∀ a value, .read a (.ok value) ∈ events → value &&& a.width.mask = value) ∧
    ∀ before t after, ts = before ++ t :: after →
      let c := before.foldl transfer b
      events = b.events (before.flatMap Transfer.transactions) ++ c.events t.transactions ++
        (c.transfer t).events (after.flatMap Transfer.transactions) ∧
      t.told (c.events t.transactions) = some (c.reply t) := by
  intro events
  refine ⟨?_, b.transaction_events _, ?_, ?_⟩
  · refine ⟨b.records (ts.flatMap Transfer.transactions), ?_, b.records_logged _⟩
    rw [transfers_eq_foldl, transactions_trace, tracing]
    rfl
  · intro a value h
    exact b.masked_of_mem_events h
  · rintro before t after rfl
    intro c
    constructor
    · have here : c = (before.flatMap Transfer.transactions).foldl transact b :=
        b.transfers_eq_foldl before
      rw [transfer_eq_foldl, here, List.append_assoc, ← events_append, ← events_append,
        ← List.flatMap_cons, ← List.flatMap_append]
    · exact c.told_events t

/-- Half of the space is memory, and accesses are traced. -/
def halfMapped : Bus SwitchBank :=
  (Bus.empty smallSpace).run
    [.addTarget "ram" (.ram (.filled 8 0x11)),
     .mapRange 0 8 { target := ⟨0⟩, perms := .all, region := .ram }, .enableTrace 4]

/-- A wide write, one that is misaligned, a read byte by byte that leaves the memory
halfway, and a read that is not traced. -/
theorem trace_faithful_halfway :
    let ts : List Transfer :=
      [.write { address := 4, value := 0xABCD1234, width := .half, intent := .dataWrite },
       .write { address := 5, value := 0xABCD, width := .half, intent := .dataWrite },
       .read { address := 6, width := .word, mode := .decomposed, intent := .dataRead },
       .read { address := 4, width := .half, intent := .dataRead, flags := .noTrace }]
    ∃ ring, halfMapped.trace = some ring ∧ ∃ records : List TraceRecord,
      (ts.foldl transfer halfMapped).trace = some (records.foldl .emit ring) ∧
      records.map (fun r => (r.address, r.value, r.fault)) =
        [(4, 0x1234, none), (5, 0xABCD, some .misaligned), (6, 0x11, none), (7, 0x11, none),
          (8, 0, some .unmapped), (9, 0, some .unmapped)] := by
  intro ts
  have on : halfMapped.trace.isSome = true := by decide_cbv
  obtain ⟨ring, tracing⟩ := Option.isSome_iff_exists.mp on
  obtain ⟨⟨records, emitted, logged⟩, -⟩ := trace_faithful halfMapped tracing ts
  refine ⟨ring, tracing, records, emitted, ?_⟩
  have outcomes : records.map (fun r => (r.address, r.value, r.fault)) =
      ((halfMapped.events (ts.flatMap Transfer.transactions)).filter Event.isTraced).map
        fun e => (e.access.address, e.value, e.fault.map Fault.kind) := by
    rw [← List.forall₂_eq_eq_eq, List.forall₂_map_left_iff, List.forall₂_map_right_iff]
    refine logged.flip.imp ?_
    intro r e agrees
    rw [agrees.address, agrees.value, agrees.fault]
  rw [outcomes]
  decide_cbv

end Bus
end Backplane
