import Mathlib
import Backplane.Proofs.Bus.Isolation
import Backplane.Proofs.Bus.Log

/-!
# Notes are never asked

A bus notes its transactions in the trace, and the fabric the calls of handlers. No
access asks for either: two buses that differ in nothing else give the same answers,
and after any transfer they still differ in nothing else.

Both buses are followed side by side, one byte at a time. What is followed is a pair
of a fabric and an answer, so `Fabric.Twins` relates such pairs. The main statements
are `transfer_sameButNotes` and `reply_sameButNotes`.
-/

namespace Backplane

variable {σ : Type}

/-! ## Fabrics -/

/-- Two fabrics differ at most in the calls that they have noted. -/
def Fabric.SameButNotes (f g : Fabric σ) : Prop := ∃ calls, g = { f with calls := calls }

namespace Fabric

variable {f g h : Fabric σ}

theorem SameButNotes.refl (f : Fabric σ) : f.SameButNotes f := ⟨f.calls, rfl⟩

theorem SameButNotes.symm (same : f.SameButNotes g) : g.SameButNotes f := by
  obtain ⟨calls, rfl⟩ := same
  exact ⟨f.calls, rfl⟩

theorem SameButNotes.trans (first : f.SameButNotes g) (second : g.SameButNotes h) :
    f.SameButNotes h := by
  obtain ⟨calls, rfl⟩ := first
  obtain ⟨calls', rfl⟩ := second
  exact ⟨calls', rfl⟩

theorem SameButNotes.arena_eq (same : f.SameButNotes g) : g.arena = f.arena := by
  obtain ⟨calls, rfl⟩ := same
  rfl

/-- Quiet service that leaves the targets as they are leaves nothing but notes. -/
theorem Quiet.sameButNotes (quiet : f.Quiet g) (arena : g.arena = f.arena) :
    f.SameButNotes g := by
  obtain ⟨notices, commands, -⟩ := quiet
  refine ⟨g.calls, ?_⟩
  rw [← arena, ← notices, ← commands]

/-- Two fabrics gave the same answer and were left the same but for notes. -/
structure Twins {α : Type} (x y : Fabric σ × α) : Prop where
  answer : y.2 = x.2
  left : x.1.SameButNotes y.1

theorem Twins.mapError {α ε ε' : Type} {x y : Fabric σ × Except ε α} (twins : Twins x y)
    (e : ε → ε') : Twins (x.1, x.2.mapError e) (y.1, y.2.mapError e) :=
  ⟨congrArg (Except.mapError e) twins.answer, twins.left⟩

/-- Twins have both been refused, or both not. -/
theorem Twins.cases {α ε : Type} {x y : Fabric σ × Except ε α} (twins : Twins x y) :
    (∃ f g reason, x = (f, .error reason) ∧ y = (g, .error reason) ∧ f.SameButNotes g) ∨
      ∃ f g value, x = (f, .ok value) ∧ y = (g, .ok value) ∧ f.SameButNotes g := by
  obtain ⟨f, result⟩ := x
  obtain ⟨g, result'⟩ := y
  obtain ⟨answer, left⟩ := twins
  obtain rfl : result' = result := answer
  cases result' with
  | error reason => exact .inl ⟨f, g, reason, rfl, rfl, left⟩
  | ok value => exact .inr ⟨f, g, value, rfl, rfl, left⟩

theorem Twins.absorb {α : Type} (same : f.SameButNotes g) (context : DeviceContext)
    (call : DeviceCall) (reply : DeviceReply σ α) :
    Twins (f.absorb context call reply) (g.absorb context call reply) := by
  obtain ⟨calls, rfl⟩ := same
  exact ⟨rfl, _, rfl⟩

theorem Twins.storeByte (same : f.SameButNotes g) (cell : Cell) (value : UInt8) (size : Nat) :
    Twins (f.storeByte cell value size) (g.storeByte cell value size) := by
  obtain ⟨calls, rfl⟩ := same
  unfold Fabric.storeByte
  split
  · exact ⟨rfl, _, rfl⟩
  · exact ⟨rfl, _, rfl⟩

variable [DeviceModel σ]

theorem Twins.read (same : f.SameButNotes g) (cell : Cell) (context : DeviceContext) :
    Twins (f.read cell context) (g.read cell context) := by
  unfold Fabric.read
  rw [same.arena_eq]
  cases f.arena.route .read cell with
  | error reason => exact ⟨rfl, same⟩
  | ok leaf =>
    dsimp only
    rcases f.arena.get? leaf.target with _ | (memory | memory | window | ⟨read, write⟩ | state)
    case some.device =>
      dsimp only
      split
      · exact .absorb same context _ _
      · exact ⟨rfl, same⟩
    all_goals exact ⟨rfl, same⟩

theorem Twins.peek (same : f.SameButNotes g) (cell : Cell) : Twins (f.peek cell) (g.peek cell) := by
  unfold Fabric.peek
  rw [same.arena_eq]
  cases f.arena.route .read cell with
  | error reason => exact ⟨rfl, same⟩
  | ok leaf =>
    dsimp only
    rcases f.arena.get? leaf.target with _ | (memory | memory | window | ⟨read, write⟩ | state)
    case some.device =>
      dsimp only
      obtain ⟨calls, rfl⟩ := same
      split
      · split
        · exact ⟨rfl, _, rfl⟩
        · exact ⟨rfl, _, rfl⟩
      · exact ⟨rfl, _, rfl⟩
    all_goals exact ⟨rfl, same⟩

theorem Twins.write (same : f.SameButNotes g) (cell : Cell) (value : UInt8)
    (context : DeviceContext) :
    Twins (f.write cell value context) (g.write cell value context) := by
  unfold Fabric.write
  rw [same.arena_eq]
  cases f.arena.route .write cell with
  | error reason => exact ⟨rfl, same⟩
  | ok leaf =>
    dsimp only
    rcases f.arena.get? leaf.target with _ | (memory | memory | window | ⟨read, write⟩ | state)
    case some.ram => exact .storeByte same leaf value _
    case some.device =>
      dsimp only
      split
      · exact .absorb same context _ _
      · exact ⟨rfl, same⟩
    all_goals exact ⟨rfl, same⟩

theorem Twins.writeWide (same : f.SameButNotes g) (leaf : Cell) (value : UInt32) (bytes : Nat)
    (context : DeviceContext) :
    Twins (f.writeWide leaf value bytes context) (g.writeWide leaf value bytes context) := by
  unfold Fabric.writeWide
  rw [same.arena_eq]
  rcases f.arena.get? leaf.target with _ | (memory | memory | window | ⟨read, write⟩ | state)
  case some.device =>
    dsimp only
    split
    · exact .absorb same context _ _
    · exact ⟨rfl, same⟩
  all_goals exact ⟨rfl, same⟩

theorem Twins.poke (same : f.SameButNotes g) (cell : Cell) (value : UInt8) (bypass : Bool) :
    Twins (f.poke cell value bypass) (g.poke cell value bypass) := by
  unfold Fabric.poke
  rw [same.arena_eq]
  cases f.arena.route .write cell with
  | error reason => exact ⟨rfl, same⟩
  | ok leaf =>
    dsimp only
    rcases f.arena.get? leaf.target with _ | (memory | memory | window | ⟨read, write⟩ | state)
    case some.ram => exact .storeByte same leaf value _
    case some.rom =>
      dsimp only
      split
      · exact .storeByte same leaf value _
      · exact ⟨rfl, same⟩
    case some.device =>
      dsimp only
      obtain ⟨calls, rfl⟩ := same
      split
      · split
        · exact ⟨rfl, _, rfl⟩
        · exact ⟨rfl, _, rfl⟩
      · exact ⟨rfl, _, rfl⟩
    all_goals exact ⟨rfl, same⟩

end Fabric

/-! ## Transactions -/

namespace Bus

open Fabric (SameButNotes Twins)

variable [DeviceModel σ] {f g : Fabric σ} {a : Access}

theorem readByte_twins (same : f.SameButNotes g) (a : Access) (entry : PageEntry) (cell : Cell) :
    Twins (readByte f a entry cell) (readByte g a entry cell) := by
  unfold readByte
  split
  · exact .peek same cell
  · exact .read same cell _

theorem writeByte_twins (same : f.SameButNotes g) (a : Access) (entry : PageEntry) (cell : Cell)
    (value : UInt8) : Twins (writeByte f a entry cell value) (writeByte g a entry cell value) := by
  unfold writeByte
  split
  · exact .poke same cell value _
  · exact .write same cell value _

theorem readBytes_twins (same : f.SameButNotes g) (a : Access) (r : Resolved) (lanes : List Nat) :
    Twins (readBytes a r f lanes) (readBytes a r g lanes) := by
  induction lanes generalizing f g with
  | nil => exact ⟨rfl, same⟩
  | cons lane lanes ih =>
    rcases (readByte_twins same a r.entry (r.cell.advance lane)).cases with
      ⟨f', g', reason, hf, hg, left⟩ | ⟨f', g', byte, hf, hg, left⟩
    · simp only [readBytes, hf, hg]
      exact ⟨rfl, left⟩
    · rcases (ih left).cases with
        ⟨f'', g'', reason, hf', hg', left'⟩ | ⟨f'', g'', rest, hf', hg', left'⟩
      all_goals
        simp only [readBytes, hf, hg, hf', hg']
        exact ⟨rfl, left'⟩

theorem writeBytes_twins (same : f.SameButNotes g) (a : Access) (r : Resolved)
    (lanes : List Nat) : Twins (writeBytes a r f lanes) (writeBytes a r g lanes) := by
  induction lanes generalizing f g with
  | nil => exact ⟨rfl, same⟩
  | cons lane lanes ih =>
    rcases (writeByte_twins same a r.entry (r.cell.advance lane)
      (Access.valueByte a.value lane)).cases with
      ⟨f', g', reason, hf, hg, left⟩ | ⟨f', g', _, hf, hg, left⟩
    · simp only [writeBytes, hf, hg]
      exact ⟨rfl, left⟩
    · simp only [writeBytes, hf, hg]
      exact ih left

theorem writeResolved_twins (same : f.SameButNotes g) (a : Access) (r : Resolved) :
    Twins (writeResolved f a r) (writeResolved g a r) := by
  have lanes := writeBytes_twins same a r (List.range a.width.bytes)
  unfold writeResolved
  rw [same.arena_eq]
  dsimp only
  by_cases byte : a.width = .byte
  · rwa [if_pos byte, if_pos byte]
  rw [if_neg byte, if_neg byte]
  cases checkLanes f.arena r.cell (a.intent = .debugWrite) (List.range a.width.bytes) with
  | error reason => exact ⟨rfl, same⟩
  | ok _ =>
    dsimp only
    by_cases quiet : a.suppressesSideEffects = true
    · rwa [if_pos quiet, if_pos quiet]
    rw [if_neg quiet, if_neg quiet]
    cases f.arena.deviceSpan? r.cell a.width.bytes with
    | none => exact lanes
    | some leaf => exact .writeWide same _ _ _ _

end Bus

/-! ## Buses -/

/-- Two buses differ at most in what they have noted: in the trace, and in the calls
of handlers. -/
structure Bus.SameButNotes (b c : Bus σ) : Prop where
  map : c.map = b.map
  fabric : b.fabric.SameButNotes c.fabric

namespace Bus

variable {b c d : Bus σ}

theorem SameButNotes.refl (b : Bus σ) : b.SameButNotes b := ⟨rfl, .refl _⟩

theorem SameButNotes.symm (same : b.SameButNotes c) : c.SameButNotes b :=
  ⟨same.map.symm, same.fabric.symm⟩

theorem SameButNotes.trans (first : b.SameButNotes c) (second : c.SameButNotes d) :
    b.SameButNotes d :=
  ⟨second.map.trans first.map, first.fabric.trans second.fabric⟩

variable [DeviceModel σ]

theorem servedRead_twins (same : b.SameButNotes c) (a : Access) :
    Fabric.Twins (b.servedRead a) (c.servedRead a) := by
  unfold servedRead
  rw [resolve_congr same.map]
  cases b.resolve a with
  | error fault => exact ⟨rfl, same.fabric⟩
  | ok r => exact (readBytes_twins same.fabric a r _).mapError _

theorem servedWrite_twins (same : b.SameButNotes c) (a : Access) :
    Fabric.Twins (b.servedWrite a) (c.servedWrite a) := by
  unfold servedWrite
  rw [resolve_congr same.map]
  cases b.resolve a with
  | error fault => exact ⟨rfl, same.fabric⟩
  | ok r => exact (writeResolved_twins same.fabric a r).mapError _

theorem served_sameButNotes (same : b.SameButNotes c) (x : Transaction) :
    (b.served x).SameButNotes (c.served x) := by
  cases x with
  | read a => exact (servedRead_twins same a).left
  | write a => exact (servedWrite_twins same a).left

/-- A transaction is answered as on the other bus. -/
theorem event_sameButNotes (same : b.SameButNotes c) (x : Transaction) :
    c.event x = b.event x := by
  cases x with
  | read a =>
    rw [event, event, readAtomic_eq, readAtomic_eq]
    exact congrArg (Event.read a) (servedRead_twins same a).answer
  | write a =>
    rw [event, event, writeAtomic_eq, writeAtomic_eq]
    exact congrArg (Event.write a) (servedWrite_twins same a).answer

theorem transact_sameButNotes (same : b.SameButNotes c) (x : Transaction) :
    (b.transact x).SameButNotes (c.transact x) := by
  obtain ⟨calls, served⟩ := served_sameButNotes same x
  refine ⟨?_, calls, ?_⟩
  · rw [transact_map, transact_map, served, same.map]
  · rw [transact_fabric, transact_fabric, served]

theorem transactions_sameButNotes (same : b.SameButNotes c) (xs : List Transaction) :
    (xs.foldl transact b).SameButNotes (xs.foldl transact c) := by
  induction xs generalizing b c with
  | nil => exact same
  | cons x xs ih => exact ih (transact_sameButNotes same x)

theorem events_sameButNotes (same : b.SameButNotes c) (xs : List Transaction) :
    c.events xs = b.events xs := by
  induction xs generalizing b c with
  | nil => rfl
  | cons x xs ih =>
    rw [events, events, event_sameButNotes same x, ih (transact_sameButNotes same x)]

/-- What a transfer leaves does not hang on notes. -/
theorem transfer_sameButNotes (same : b.SameButNotes c) (t : Transfer) :
    (b.transfer t).SameButNotes (c.transfer t) := by
  rw [transfer_eq_foldl, transfer_eq_foldl]
  exact transactions_sameButNotes same t.transactions

/-- What the caller of a transfer is told does not hang on notes. -/
theorem reply_sameButNotes (same : b.SameButNotes c) (t : Transfer) : c.reply t = b.reply t := by
  have told := c.told_events t
  rw [events_sameButNotes same, told_events] at told
  exact (Option.some.inj told).symm

/-- A transfer without side effects that reads leaves nothing but notes. -/
theorem transfer_noted (idle : b.fabric.commands = []) {t : Transfer} (read : t.isRead = true)
    (suppressed : t.request.suppressesSideEffects = true) :
    b.SameButNotes (b.transfer t) := by
  rw [transfer_eq_foldl]
  have each (x : Transaction) (hx : x ∈ t.transactions) :
      x.access.suppressesSideEffects = true :=
    (Transfer.serves_of_mem hx).suppresses.trans suppressed
  obtain ⟨map, quiet, arena⟩ := transactions_quiet idle each
  refine ⟨map, quiet.sameButNotes (arena fun x hx => ?_)⟩
  exact (Transfer.serves_of_mem hx).isRead_eq.trans read

end Bus

end Backplane
