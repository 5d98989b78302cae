import Mathlib
import Backplane.Device.Probe
import Backplane.Proofs.Bus.Coherence
import Backplane.Proofs.Bus.Isolation
import Backplane.Proofs.Bus.Modes

/-!
# Dumps

A dump asks for its bytes one after the other. As long as it has no side effects, no byte changes
what the next one is answered from, so each is answered as a peek at it on the bus as it was.

The faults among the answers are told as runs. A run takes in a fault of its kind at the address
right after its last, in 32 bits, so it may go round their end; any other fault begins a run.
A dump has fewer bytes than there are addresses, so no run comes round to its own beginning, and
its first and last address still say how many faults it stands for (`expand_grown`). Hence the
runs say of each address that faulted how it did, and of no other (`flatMap_faultRuns`).

The main statement is `capture_pointwise`.
-/

namespace Backplane

/-! ## Runs -/

/-- Where a fault was, and of what kind. -/
def Fault.place (fault : Fault) : UInt32 × FaultKind := (fault.address, fault.kind)

namespace FaultRun

/-- The addresses from the first of a run to its last, in 32 bits. -/
def addresses (run : FaultRun) : List UInt32 :=
  (List.range ((run.last - run.first).toNat + 1)).map fun i => run.first + i.toUInt32

/-- A run, address by address. -/
def expand (run : FaultRun) : List (UInt32 × FaultKind) := run.addresses.map (·, run.kind)

@[simp] theorem length_expand (run : FaultRun) :
    run.expand.length = (run.last - run.first).toNat + 1 := by
  rw [expand, addresses, List.length_map, List.length_map, List.length_range]

theorem expand_single (fault : Fault) :
    expand ⟨fault.address, fault.address, fault.kind⟩ = [fault.place] := by
  simp [expand, addresses, Fault.place]

/-- A run that has not gone round takes in the address after its last. -/
theorem expand_grown {run : FaultRun} (short : run.expand.length < 2 ^ 32) :
    expand { run with last := run.last + 1 } = run.expand ++ [(run.last + 1, run.kind)] := by
  rw [length_expand] at short
  have next : run.last + 1 - run.first = run.last - run.first + 1 := by grind
  have longer : (run.last + 1 - run.first).toNat = (run.last - run.first).toNat + 1 := by
    rw [next, UInt32.toNat_add]
    exact Nat.mod_eq_of_lt short
  have end_at : run.first + ((run.last - run.first).toNat + 1).toUInt32 = run.last + 1 := by
    rw [← longer]
    change run.first + UInt32.ofNat _ = _
    rw [UInt32.ofNat_toNat]
    grind
  rw [expand, addresses]
  dsimp only
  rw [longer, List.range_succ, List.map_append, List.map_append, List.map_singleton,
    List.map_singleton, end_at]
  rfl

/-- The runs that go on from a run stand for its addresses and those of the faults that
follow. -/
theorem flatMap_extend {faults : List Fault} {run : FaultRun}
    (few : run.expand.length + faults.length ≤ 2 ^ 32) :
    (extend run faults).flatMap expand = run.expand ++ faults.map Fault.place := by
  induction faults generalizing run with
  | nil => simp [extend]
  | cons fault faults ih =>
    rw [List.length_cons] at few
    rw [extend, List.map_cons]
    split
    · rename_i on
      simp only [continues, Bool.and_eq_true, decide_eq_true_eq] at on
      obtain ⟨kind, next⟩ := on
      have short : run.expand.length < 2 ^ 32 := by omega
      have grown := expand_grown short
      rw [next] at grown
      rw [ih, grown, List.append_assoc, Fault.place, ← kind]
      · rfl
      · rw [grown, List.length_append, List.length_singleton]
        omega
    · have alone := expand_single fault
      rw [List.flatMap_cons, ih, alone]
      · rfl
      · rw [alone, List.length_singleton]
        omega

theorem flatMap_ofFaults {faults : List Fault} (few : faults.length ≤ 2 ^ 32) :
    (ofFaults faults).flatMap expand = faults.map Fault.place := by
  cases faults with
  | nil => rfl
  | cons fault faults =>
    have alone := expand_single fault
    rw [ofFaults, flatMap_extend, alone]
    · rfl
    · rw [alone, List.length_singleton, Nat.add_comm]
      exact few

/-- Two runs of one kind, of which the later begins right after the earlier. -/
def Joins (run next : FaultRun) : Prop := run.kind = next.kind ∧ run.last + 1 = next.first

/-- The first run that goes on from a run begins where it does. -/
theorem exists_extend_eq_cons (run : FaultRun) (faults : List Fault) :
    ∃ last runs, extend run faults = { run with last := last } :: runs := by
  induction faults generalizing run with
  | nil => exact ⟨run.last, [], rfl⟩
  | cons fault faults ih =>
    rw [extend]
    split
    · exact ih { run with last := fault.address }
    · exact ⟨run.last, _, rfl⟩

theorem isChain_extend (run : FaultRun) (faults : List Fault) :
    (extend run faults).IsChain fun run next => ¬run.Joins next := by
  induction faults generalizing run with
  | nil => exact .singleton _
  | cons fault faults ih =>
    rw [extend]
    split
    · exact ih _
    · rename_i off
      have later := ih ⟨fault.address, fault.address, fault.kind⟩
      obtain ⟨last, runs, eq⟩ :=
        exists_extend_eq_cons ⟨fault.address, fault.address, fault.kind⟩ faults
      rw [eq] at later ⊢
      refine List.isChain_cons_cons.mpr ⟨fun joins => off ?_, later⟩
      simp only [continues, Bool.and_eq_true, decide_eq_true_eq]
      exact joins

theorem isChain_ofFaults (faults : List Fault) :
    (ofFaults faults).IsChain fun run next => ¬run.Joins next := by
  cases faults with
  | nil => exact .nil
  | cons fault faults => exact isChain_extend _ faults

end FaultRun

namespace Dump

/-- The addresses of a dump that faulted, each with the kind of its fault, in order. -/
def faulted (d : Dump) : List (UInt32 × FaultKind) :=
  d.bytes.zipIdx.filterMap fun byte =>
    (faultOf byte.1).map fun fault => (d.start + byte.2.toUInt32, fault.kind)

/-- Where every fault tells the address of its byte, the runs of a dump stand for the addresses
that faulted. -/
theorem flatMap_faultRuns {d : Dump} (few : d.bytes.length ≤ 2 ^ 32)
    (placed : ∀ (i : Nat) fault, d.bytes[i]? = some (.error fault) →
      fault.address = d.start + i.toUInt32) :
    d.faultRuns.flatMap FaultRun.expand = d.faulted := by
  have fewer := Nat.le_trans (List.length_filterMap_le faultOf d.bytes) few
  have bytes : d.bytes = d.bytes.zipIdx.map Prod.fst := (List.zipIdx_map_fst 0 d.bytes).symm
  rw [faultRuns, FaultRun.flatMap_ofFaults fewer, faulted, List.map_filterMap]
  conv_lhs => rw [bytes, List.filterMap_map]
  refine List.filterMap_congr fun byte mem => ?_
  obtain ⟨answer, i⟩ := byte
  have here := List.mem_zipIdx_iff_getElem?.mp mem
  cases answer with
  | ok value => rfl
  | error fault =>
    change some (fault.address, fault.kind) = some (d.start + i.toUInt32, fault.kind)
    rw [placed i fault here]

end Dump

/-! ## Answers -/

namespace Bus

variable {σ : Type} {b c : Bus σ} {a : Access}

/-- The fault of a page is told at the address of the access. -/
theorem address_of_resolve {fault : Fault} (refused : b.resolve a = .error fault) :
    fault.address = a.address := by
  unfold resolve at refused
  repeat' split at refused
  all_goals cases refused
  all_goals rfl

variable [DeviceModel σ]

/-- So is every other fault of a read. -/
theorem address_of_readAtomic {fault : Fault} (refused : (b.readAtomic a).2 = .error fault) :
    fault.address = a.address := by
  rw [readAtomic_eq] at refused
  dsimp only at refused
  unfold servedRead at refused
  split at refused
  · rename_i page
    cases refused
    exact address_of_resolve page
  · rename_i r _
    dsimp only at refused
    generalize (readBytes a r b.fabric (List.range a.width.bytes)).2 = answer at refused
    cases answer with
    | ok value => cases refused
    | error reason =>
      cases refused
      rfl

/-- The answer to the byte at a distance from the start of a dump. -/
theorem address_of_readMany {count i : Nat} {fault : Fault}
    (refused : (b.readMany a count).2.bytes[i]? = some (.error fault)) :
    fault.address = a.address + i.toUInt32 := by
  have lt : i < count := by
    have lt := (List.getElem?_eq_some_iff.mp refused).1
    rwa [length_readMany] at lt
  rw [b.readMany_getElem? a lt, Option.some.injEq] at refused
  generalize answered : (((Transaction.reads a i).foldl transact b).readAtomic (a.lane i)).2 =
    answer at refused
  cases answer with
  | ok value => cases refused
  | error found =>
    cases refused
    exact address_of_readAtomic answered

/-! ## What is dumped -/

/-- The runs of a dump, of whatever intent, stand for the addresses that faulted, and no two that
follow each other could be one. -/
theorem capture_faultRuns (b : Bus σ) (start length : UInt32) (intent : Intent) :
    let dump := (Dump.capture b start length.toNat intent).2
    dump.faultRuns.flatMap FaultRun.expand = dump.faulted ∧
      dump.faultRuns.IsChain fun run next => ¬run.Joins next := by
  refine ⟨Dump.flatMap_faultRuns ?_ fun i fault => address_of_readMany,
    FaultRun.isChain_ofFaults _⟩
  rw [Dump.capture]
  dsimp only
  rw [length_readMany]
  exact Nat.le_of_lt length.toNat_lt

/-- Two buses with one map and the same targets tell a tool the same. -/
theorem readAtomic_lane (map : c.map = b.map) (arena : c.arena = b.arena) (start : UInt32)
    (i : Nat) :
    (c.readAtomic ((Dump.access start .debugRead).lane i)).2.map UInt32.toUInt8 =
      (b.peekByte (start + i.toUInt32)).2 := by
  have same : c.resolve ((Dump.access start .debugRead).lane i) =
      b.resolve (.debugRead (start + i.toUInt32)) := by
    rw [resolve, resolve, map]
    rfl
  rw [peekByte_snd, c.readAtomic_quiet rfl rfl, same]
  split
  · rfl
  · rename_i r resolved
    have arena : c.fabric.arena = b.fabric.arena := arena
    rw [Fabric.peek_congr (f := b.fabric) (by rw [arena]) fun _ _ => by rw [arena]]
    rfl

/-- The bytes of a dump without side effects are told as peeks at them on the bus as it was. -/
theorem readMany_quiet (b : Bus σ) (idle : b.fabric.commands = []) (start : UInt32)
    (count : Nat) :
    let after := b.readMany (Dump.access start .debugRead) count
    (after.1.map = b.map ∧ b.fabric.Quiet after.1.fabric ∧ after.1.arena = b.arena) ∧
      after.2.bytes = (List.range count).map fun i => (b.peekByte (start + i.toUInt32)).2 := by
  refine inTurn_of_keeps
    (P := fun c => c.map = b.map ∧ b.fabric.Quiet c.fabric ∧ c.arena = b.arena) ?_
    ⟨rfl, .refl _, rfl⟩
  rintro c ⟨map, quiet, arena⟩ i -
  obtain ⟨map', quiet', arena'⟩ := transact_quiet (b := c)
    (x := .read ((Dump.access start .debugRead).lane i)) (quiet.commands_eq.trans idle) rfl
  exact ⟨⟨map'.trans map, quiet.trans quiet', (arena' rfl).trans arena⟩,
    readAtomic_lane map arena start i⟩

/-- A dump that a tool takes of a bus that is reached tells of each of its bytes what a peek at it
would tell, at addresses that go round the end of the 32 bits, and leaves all but the trace as it
was: of the handlers of devices at most those for peeks are called. Its runs, taken address by
address, are the addresses that faulted with the kinds of their faults, in order, and no two that
follow each other are of one kind and adjacent. -/
theorem capture_pointwise (reachable : b.Reachable) (start length : UInt32) :
    let after := Dump.capture b start length.toNat .debugRead
    after.2.bytes = (List.range length.toNat).map (fun i =>
      (b.peekByte (start + i.toUInt32)).2) ∧
    (after.1.map = b.map ∧ after.1.arena = b.arena ∧
      after.1.fabric.notices = b.fabric.notices ∧
      after.1.fabric.commands = b.fabric.commands ∧
      ∃ calls, after.1.fabric.calls.toList = b.fabric.calls.toList ++ calls ∧
        ∀ call ∈ calls, call.isQuiet = true) ∧
    after.2.faultRuns.flatMap FaultRun.expand = after.2.faulted ∧
    after.2.faultRuns.IsChain (fun run next => ¬run.Joins next) := by
  obtain ⟨⟨map, quiet, arena⟩, answers⟩ :=
    b.readMany_quiet reachable.commands_eq_nil start length.toNat
  exact ⟨answers, ⟨map, arena, quiet.notices_eq, quiet.commands_eq, quiet.calls_eq⟩,
    b.capture_faultRuns start length .debugRead⟩

/-- Memory on page 1 that only reads and on page 2 that only writes, and on page 3 a probe that
refuses to tell of its second cell. -/
def patchy : Bus Probe :=
  (Bus.empty smallSpace).run
    [.addTarget "ram" (.ram (.filled 4 17)),
     .addTarget "probe" (.device
       { caps := ⟨15⟩, full := true, cells := #[5, 6, 7, 8], noRead := [1], noWrite := [] }),
     .mapRange 4 4 { target := ⟨0⟩, perms := .read, region := .ram },
     .mapRange 8 4 { target := ⟨0⟩, perms := .write, region := .ram },
     .mapRange 12 4 { target := ⟨1⟩, perms := .readWrite, region := .io }]

/-- A dump goes round the end of the addresses, and so does its first run. -/
theorem capture_pointwise_patchy :
    let after := Dump.capture patchy 0xFFFFFFFE (18 : UInt32).toNat .debugRead
    patchy.Reachable ∧
      after.2.faultRuns =
        [⟨0xFFFFFFFE, 3, .unmapped⟩, ⟨8, 11, .permission⟩, ⟨13, 13, .deviceFault⟩] ∧
      after.2.faultRuns.flatMap FaultRun.expand = after.2.faulted ∧
      after.2.bytes[6]? = some (.ok 17) ∧ after.1.arena = patchy.arena := by
  have told : (Dump.capture patchy 0xFFFFFFFE (18 : UInt32).toNat .debugRead).2.faultRuns =
      [⟨0xFFFFFFFE, 3, .unmapped⟩, ⟨8, 11, .permission⟩, ⟨13, 13, .deviceFault⟩] := by cbv
  have reachable : patchy.Reachable := (Reachable.empty smallSpace).run _
  obtain ⟨bytes, ⟨-, arena, -⟩, runs, -⟩ := capture_pointwise reachable 0xFFFFFFFE 18
  have peeked : (patchy.peekByte (0xFFFFFFFE + (6 : Nat).toUInt32)).2 = .ok 17 := by cbv
  refine ⟨reachable, told, runs, ?_, arena⟩
  rw [bytes, List.getElem?_map, List.getElem?_range (by decide), Option.map_some, peeked]

end Bus
end Backplane
