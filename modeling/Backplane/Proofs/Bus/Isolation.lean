import Mathlib
import Backplane.Device.Switch
import Backplane.Proofs.Bus.Served

/-!
# Accesses without side effects

A tool may look at a machine, and patch it, without the machine taking notice:
of the handlers of devices only those for peeks and pokes are called, no notice
is posted, and no layer command is issued. Since no command waits between two
operations either, the map does not change, and a read leaves the targets as
they are.

The decision to suppress side effects is made for each byte and again before a
wide write. `Fabric.Quiet` is what one byte keeps, and it holds over any number
of them. The main statement is `suppressed_isolated`.
-/

namespace Backplane

/-! ## Requests -/

namespace Transfer

/-- The access that a transfer asks for. -/
def request : Transfer → Access
  | read a | write a | readMany a _ | writeMany a _ => a
  | readCpuByte address => .read address
  | readCpu address _ => { address := address, intent := .dataRead, mode := .decomposed }
  | writeCpuByte address value => .write address value
  | writeCpu address _ _ => { address := address, intent := .dataWrite, mode := .decomposed }
  | peekByte address => .debugRead address
  | pokeByte address value => .debugWrite address value
  | capture start _ intent => Dump.access start intent

/-- Whether the transfer asks for bytes. -/
def isRead : Transfer → Bool
  | read _ | readMany _ _ | readCpuByte _ | readCpu _ _ | peekByte _ | capture _ _ _ => true
  | write _ | writeMany _ _ | writeCpuByte _ _ | writeCpu _ _ _ | pokeByte _ _ => false

end Transfer

namespace Transaction

/-- Whether a transaction asks for bytes. -/
def isRead : Transaction → Bool
  | read _ => true
  | write _ => false

/-- A transaction is part of the service of a request: it has its intent, its
flags and its direction. -/
structure Serves (x : Transaction) (a : Access) (read : Bool) : Prop where
  intent_eq : x.access.intent = a.intent
  flags_eq : x.access.flags = a.flags
  isRead_eq : x.isRead = read

theorem serves_of_mem_reads {a : Access} {count : Nat} {x : Transaction}
    (h : x ∈ reads a count) : x.Serves a true := by
  obtain ⟨lane, -, rfl⟩ := List.mem_map.mp h
  exact ⟨rfl, rfl, rfl⟩

theorem serves_of_mem_writes {a : Access} {bytes : List UInt8} {x : Transaction}
    (h : x ∈ writes a bytes) : x.Serves a false := by
  obtain ⟨byte, -, rfl⟩ := List.mem_map.mp h
  exact ⟨rfl, rfl, rfl⟩

/-- The side effects of a transaction are suppressed when those of its request
are. -/
theorem Serves.suppresses {x : Transaction} {a : Access} {read : Bool}
    (h : x.Serves a read) : x.access.suppressesSideEffects = a.suppressesSideEffects := by
  rw [Access.suppressesSideEffects, Access.suppressesSideEffects, h.intent_eq, h.flags_eq]

end Transaction

namespace Transfer

theorem serves_of_mem_transactionsOfRead {a : Access} {x : Transaction}
    (h : x ∈ transactionsOfRead a) : x.Serves a true := by
  unfold transactionsOfRead at h
  split at h
  · obtain rfl := List.mem_singleton.mp h
    exact ⟨rfl, rfl, rfl⟩
  · exact Transaction.serves_of_mem_reads h

theorem serves_of_mem_transactionsOfWrite {a : Access} {x : Transaction}
    (h : x ∈ transactionsOfWrite a) : x.Serves a false := by
  unfold transactionsOfWrite at h
  split at h
  · obtain rfl := List.mem_singleton.mp h
    exact ⟨rfl, rfl, rfl⟩
  · exact Transaction.serves_of_mem_writes h

theorem serves_of_mem {t : Transfer} {x : Transaction} (h : x ∈ t.transactions) :
    x.Serves t.request t.isRead := by
  cases t with
  | read a => exact serves_of_mem_transactionsOfRead h
  | write a => exact serves_of_mem_transactionsOfWrite h
  | readMany a count => exact Transaction.serves_of_mem_reads h
  | writeMany a bytes => exact Transaction.serves_of_mem_writes h
  | readCpuByte address => exact serves_of_mem_transactionsOfRead (a := .read address) h
  | writeCpuByte address value =>
    exact serves_of_mem_transactionsOfWrite (a := .write address value) h
  | readCpu address bits =>
    rw [transactions] at h
    split at h
    · cases h
    · obtain ⟨intent, flags, isRead⟩ := Transaction.serves_of_mem_reads h
      exact ⟨intent, flags, isRead⟩
  | writeCpu address bits value =>
    rw [transactions] at h
    split at h
    · cases h
    · obtain ⟨intent, flags, isRead⟩ := serves_of_mem_transactionsOfWrite h
      exact ⟨intent, flags, isRead⟩
  | peekByte address => exact serves_of_mem_transactionsOfRead (a := .debugRead address) h
  | pokeByte address value =>
    exact serves_of_mem_transactionsOfWrite (a := .debugWrite address value) h
  | capture start length intent => exact Transaction.serves_of_mem_reads h

end Transfer

/-! ## Quiet service -/

/-- The fabric may have become `g` without a side effect: handlers were called
for peeks and pokes only, and left nothing behind. -/
structure Fabric.Quiet {σ : Type} (f g : Fabric σ) : Prop where
  notices_eq : g.notices = f.notices
  commands_eq : g.commands = f.commands
  calls_eq : ∃ calls, g.calls.toList = f.calls.toList ++ calls ∧
    ∀ call ∈ calls, call.isQuiet = true

namespace Fabric

variable {σ : Type} {f g h : Fabric σ}

theorem Quiet.refl (f : Fabric σ) : f.Quiet f :=
  ⟨rfl, rfl, [], (List.append_nil _).symm, fun _ hc => by cases hc⟩

theorem Quiet.trans (first : f.Quiet g) (second : g.Quiet h) : f.Quiet h := by
  obtain ⟨notices, commands, calls, hcalls, quiet⟩ := first
  obtain ⟨notices', commands', calls', hcalls', quiet'⟩ := second
  refine ⟨notices'.trans notices, commands'.trans commands, calls ++ calls', ?_, ?_⟩
  · rw [hcalls', hcalls, List.append_assoc]
  · intro call hc
    rcases List.mem_append.mp hc with hc | hc
    · exact quiet call hc
    · exact quiet' call hc

theorem Quiet.call {f : Fabric σ} {call : DeviceCall} (quiet : call.isQuiet = true)
    (arena : Arena σ) : f.Quiet { f with arena := arena, calls := f.calls.push call } := by
  refine ⟨rfl, rfl, [call], Array.toList_push, ?_⟩
  intro c hc
  rw [List.mem_singleton.mp hc]
  exact quiet

theorem Quiet.store {f : Fabric σ} (arena : Arena σ) : f.Quiet { f with arena := arena } :=
  ⟨rfl, rfl, [], (List.append_nil _).symm, fun _ hc => by cases hc⟩

theorem storeByte_quiet (f : Fabric σ) (cell : Cell) (value : UInt8) (size : Nat) :
    f.Quiet (f.storeByte cell value size).1 := by
  unfold storeByte
  split
  · exact .store _
  · exact .refl f

variable [DeviceModel σ]

theorem peek_quiet (f : Fabric σ) (cell : Cell) :
    f.Quiet (f.peek cell).1 ∧ (f.peek cell).1.arena = f.arena := by
  unfold peek
  repeat' split
  all_goals first | exact ⟨.refl f, rfl⟩ | exact ⟨.call rfl f.arena, rfl⟩

theorem poke_quiet (f : Fabric σ) (cell : Cell) (value : UInt8) (bypass : Bool) :
    f.Quiet (f.poke cell value bypass).1 := by
  unfold poke
  repeat' split
  all_goals first | exact .refl f | exact f.storeByte_quiet _ _ _ | exact .call rfl _

end Fabric

namespace Bus

variable {σ : Type} [DeviceModel σ] {b : Bus σ}

/-- The fabric serves a suppressed transaction quietly, and a read without a
change of a target. -/
theorem served_quiet (b : Bus σ) {x : Transaction}
    (suppressed : x.access.suppressesSideEffects = true) :
    b.fabric.Quiet (b.served x) ∧ (x.isRead = true → (b.served x).arena = b.arena) := by
  cases x with
  | read a =>
    change a.suppressesSideEffects = true at suppressed
    have byte (f : Fabric σ) (entry : PageEntry) (cell : Cell) :
        f.Quiet (readByte f a entry cell).1 ∧ (readByte f a entry cell).1.arena = f.arena := by
      rw [readByte, if_pos suppressed]
      exact f.peek_quiet cell
    have both := servedRead_rel (a := a)
      (R := fun f g => f.Quiet g ∧ g.arena = f.arena)
      (fun f => ⟨.refl f, rfl⟩)
      (fun first second => ⟨first.1.trans second.1, second.2.trans first.2⟩) byte b
    exact ⟨both.1, fun _ => both.2⟩
  | write a =>
    change a.suppressesSideEffects = true at suppressed
    have byte (f : Fabric σ) (entry : PageEntry) (cell : Cell) (value : UInt8) :
        f.Quiet (writeByte f a entry cell value).1 := by
      rw [writeByte, if_pos suppressed]
      exact f.poke_quiet cell value _
    have loud : a.suppressesSideEffects = false → ∀ (f : Fabric σ) leaf value bytes context,
        f.Quiet (f.writeWide leaf value bytes context).1 :=
      fun loud => absurd (suppressed.symm.trans loud) (by decide)
    exact ⟨servedWrite_rel .refl .trans byte loud b, fun read => by cases read⟩

theorem transact_quiet (idle : b.fabric.commands = []) {x : Transaction}
    (suppressed : x.access.suppressesSideEffects = true) :
    (b.transact x).map = b.map ∧ b.fabric.Quiet (b.transact x).fabric ∧
      (x.isRead = true → (b.transact x).arena = b.arena) := by
  obtain ⟨quiet, kept⟩ := b.served_quiet suppressed
  have commands : (b.served x).commands = [] := quiet.commands_eq.trans idle
  refine ⟨?_, ?_, ?_⟩
  · rw [transact_map, commands, List.foldl_nil]
  · rw [transact_fabric]
    exact ⟨quiet.notices_eq, idle.symm, quiet.calls_eq⟩
  · intro read
    rw [transact_arena]
    exact kept read

theorem transactions_quiet (idle : b.fabric.commands = []) {xs : List Transaction}
    (suppressed : ∀ x ∈ xs, x.access.suppressesSideEffects = true) :
    (xs.foldl transact b).map = b.map ∧ b.fabric.Quiet (xs.foldl transact b).fabric ∧
      ((∀ x ∈ xs, x.isRead = true) → (xs.foldl transact b).arena = b.arena) := by
  induction xs generalizing b with
  | nil => exact ⟨rfl, .refl _, fun _ => rfl⟩
  | cons x xs ih =>
    obtain ⟨map, quiet, kept⟩ := transact_quiet idle (suppressed x List.mem_cons_self)
    obtain ⟨map', quiet', kept'⟩ :=
      ih (quiet.commands_eq.trans idle) fun y hy => suppressed y (List.mem_cons_of_mem _ hy)
    refine ⟨map'.trans map, quiet.trans quiet', ?_⟩
    intro reads
    exact (kept' fun y hy => reads y (List.mem_cons_of_mem _ hy)).trans
      (kept (reads x List.mem_cons_self))

/-- A debug access, or one that forbids side effects, is isolated from the
machine, whatever its width, mode and length: no handler but those for peeks and
pokes is called, notices, layer commands, layers, saved base entries and live
entries are as before, and so are all targets if it is a read. -/
theorem suppressed_isolated (h : b.Reachable) (t : Transfer)
    (quiet : t.request.intent = .debugRead ∨ t.request.intent = .debugWrite ∨
      t.request.flags.contains .noSideEffects = true) :
    (∃ calls, (b.transfer t).fabric.calls.toList = b.fabric.calls.toList ++ calls ∧
      ∀ call ∈ calls, call.isQuiet = true) ∧
    (b.transfer t).fabric.notices = b.fabric.notices ∧
    (b.transfer t).fabric.commands = b.fabric.commands ∧
    (b.transfer t).map = b.map ∧
    (t.isRead = true → (b.transfer t).arena = b.arena) := by
  have suppressed : t.request.suppressesSideEffects = true := by
    rw [Access.suppressesSideEffects, Bool.or_eq_true]
    rcases quiet with intent | intent | flags
    · exact .inl (by rw [intent]; rfl)
    · exact .inl (by rw [intent]; rfl)
    · exact .inr flags
  rw [transfer_eq_foldl]
  have each (x : Transaction) (hx : x ∈ t.transactions) :
      x.access.suppressesSideEffects = true :=
    (Transfer.serves_of_mem hx).suppresses.trans suppressed
  obtain ⟨map, kept, targets⟩ := transactions_quiet h.commands_eq_nil each
  refine ⟨kept.calls_eq, kept.notices_eq, kept.commands_eq, map, ?_⟩
  intro read
  apply targets
  intro x hx
  rw [(Transfer.serves_of_mem hx).isRead_eq, read]

/-- A bank of switches on page 0, which posts a notice when offset 0 is read and
hides a layer when offset 1 is. Offset 0 has been read. -/
def latched : Bus SwitchBank :=
  (Bus.empty smallSpace).run
    [.addTarget "switch"
      (.device { table := ⟨#[{ read := .latch 5 }, { read := .deactivate ⟨0⟩ }, {}, {}]⟩ }),
     .mapRange 0 4 { target := ⟨0⟩, perms := .all, region := .io },
     .transfer (.read (.read 0))]

theorem suppressed_isolated_latched :
    let t := Transfer.read { address := 0, width := .word, mode := .decomposed
                             intent := .dataRead, flags := .noSideEffects }
    latched.Reachable ∧ t.request.flags.contains .noSideEffects = true ∧
      latched.fabric.notices.pending = [⟨0, 0, .modeChanged 5⟩] ∧
      (latched.transfer t).fabric.notices = latched.fabric.notices ∧
      (latched.transfer t).map = latched.map ∧ (latched.transfer t).arena = latched.arena := by
  intro t
  have reachable : latched.Reachable := (Reachable.empty smallSpace).run _
  have flags : t.request.flags.contains .noSideEffects = true := by decide
  obtain ⟨-, notices, -, map, targets⟩ :=
    suppressed_isolated reachable t (.inr (.inr flags))
  exact ⟨reachable, flags, by decide_cbv, notices, map, targets rfl⟩

end Bus
end Backplane
