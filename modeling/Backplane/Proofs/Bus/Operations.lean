import Backplane.Bus.Transactions

/-!
# Runs of a bus

Everything a user of a bus can do to it is an `Operation`: the configuration
calls, the trace and notice calls, and the transfers of bytes through one of the
entry points. A bus is `Reachable` if operations lead to it from a bus without
mappings.

A transfer is cut into transactions by its request alone, whatever the bus
answers (`transfer_eq_foldl`). So a property of buses that every transaction
keeps is kept by every transfer, and what follows speaks of one transaction at a
time.
-/

namespace Backplane

/-! ## Transfers -/

namespace Bus

variable {σ : Type} [DeviceModel σ] (b : Bus σ)

omit [DeviceModel σ] in
theorem inTurn_fst {α β : Type} (step : Bus σ → α → Bus σ × β) (b : Bus σ) (xs : List α) :
    (inTurn step b xs).1 = xs.foldl (fun b x => (step b x).1) b := by
  induction xs generalizing b with
  | nil => rfl
  | cons x xs ih => rw [inTurn_cons, List.foldl_cons, ih]

omit [DeviceModel σ] in
/-- An item that is dealt with in turn finds the bus that those before it leave. -/
theorem inTurn_getElem? {α β : Type} (step : Bus σ → α → Bus σ × β) (b : Bus σ) (xs : List α)
    (i : Nat) :
    (inTurn step b xs).2[i]? =
      xs[i]?.map fun x => (step ((xs.take i).foldl (fun b x => (step b x).1) b) x).2 := by
  induction xs generalizing b i with
  | nil => rfl
  | cons x xs ih =>
    rw [inTurn_cons]
    cases i with
    | zero => rfl
    | succ i => exact ih _ i

omit [DeviceModel σ] in
theorem length_inTurn {α β : Type} (step : Bus σ → α → Bus σ × β) (b : Bus σ) (xs : List α) :
    (inTurn step b xs).2.length = xs.length := by
  induction xs generalizing b with
  | nil => rfl
  | cons x xs ih => rw [inTurn_cons, List.length_cons, ih, List.length_cons]

theorem readMany_fst (a : Access) (count : Nat) :
    (b.readMany a count).1 = (Transaction.reads a count).foldl transact b := by
  rw [Transaction.reads, List.foldl_map]
  exact inTurn_fst _ b _

theorem writeMany_fst (a : Access) (bytes : List UInt8) :
    (b.writeMany a bytes).1 = (Transaction.writes a bytes).foldl transact b := by
  rw [Transaction.writes, List.foldl_map]
  exact inTurn_fst _ b _

theorem length_readMany (a : Access) (count : Nat) :
    (b.readMany a count).2.bytes.length = count :=
  (length_inTurn _ b _).trans List.length_range

theorem length_writeMany (a : Access) (bytes : List UInt8) :
    (b.writeMany a bytes).2.results.length = bytes.length :=
  (length_inTurn _ b _).trans List.length_zipIdx

/-- Byte `lane` of a decomposed read is answered by the bus that the bytes before it
leave. -/
theorem readMany_getElem? (a : Access) {count lane : Nat} (lt : lane < count) :
    (b.readMany a count).2.bytes[lane]? =
      some ((((Transaction.reads a lane).foldl transact b).readAtomic (a.lane lane)).2.map
        UInt32.toUInt8) := by
  have before : (List.range count).take lane = List.range lane := by
    rw [List.take_range, Nat.min_eq_left (Nat.le_of_lt lt)]
  rw [Transaction.reads, List.foldl_map, readMany]
  refine (inTurn_getElem? _ b _ lane).trans ?_
  rw [List.getElem?_range lt, before]
  rfl

/-- Byte `lane` of a decomposed write is answered by the bus that the bytes before it
leave. -/
theorem writeMany_getElem? (a : Access) (bytes : List UInt8) (lane : Nat) :
    (b.writeMany a bytes).2.results[lane]? =
      bytes[lane]?.map fun byte =>
        (((Transaction.writes a (bytes.take lane)).foldl transact b).writeAtomic
          { a.lane lane with value := byte.toUInt32 }).2 := by
  have before : bytes.zipIdx.take lane = (bytes.take lane).zipIdx := by
    refine List.ext_getElem? fun i => ?_
    simp only [List.getElem?_take, List.getElem?_zipIdx]
    split <;> rfl
  rw [Transaction.writes, List.foldl_map, writeMany]
  refine (inTurn_getElem? _ b _ lane).trans ?_
  rw [List.getElem?_zipIdx, Option.map_map, before]
  simp only [Nat.zero_add]
  rfl

theorem read_fst (a : Access) :
    (b.read a).1 = (Transfer.transactionsOfRead a).foldl transact b := by
  unfold read Transfer.transactionsOfRead
  cases a.mode with
  | atomic => rfl
  | decomposed => exact b.readMany_fst a _

theorem write_fst (a : Access) :
    (b.write a).1 = (Transfer.transactionsOfWrite a).foldl transact b := by
  unfold write Transfer.transactionsOfWrite
  cases a.mode with
  | atomic => rfl
  | decomposed => exact b.writeMany_fst a _

/-- A transfer is the sequence of its transactions, which the request alone
fixes: no answer of the bus adds one or leaves one out. -/
theorem transfer_eq_foldl (t : Transfer) : b.transfer t = t.transactions.foldl transact b := by
  cases t with
  | read a => exact b.read_fst a
  | write a => exact b.write_fst a
  | readMany a count => exact b.readMany_fst a count
  | writeMany a bytes => exact b.writeMany_fst a bytes
  | readCpuByte address =>
    simp only [transfer, readCpuByte, Transfer.transactions, List.foldl_cons, List.foldl_nil,
      transact]
    split <;> simp_all
  | writeCpuByte address value => rfl
  | readCpu address bits =>
    simp only [transfer, readCpu, Transfer.transactions]
    cases Width.ofBits bits with
    | error e => rfl
    | ok width => exact b.readMany_fst _ _
  | writeCpu address bits value =>
    simp only [transfer, writeCpu, Transfer.transactions]
    cases Width.ofBits bits with
    | error e => rfl
    | ok width => exact b.write_fst _
  | peekByte address => rfl
  | pokeByte address value => rfl
  | capture start length intent => exact b.readMany_fst _ _

theorem transfers_eq_foldl (ts : List Transfer) :
    ts.foldl transfer b = (ts.flatMap Transfer.transactions).foldl transact b := by
  induction ts generalizing b with
  | nil => rfl
  | cons t ts ih =>
    rw [List.foldl_cons, ih, transfer_eq_foldl, List.flatMap_cons, List.foldl_append]

end Bus

/-! ## What configuration leaves alone -/

namespace Bus

variable {σ : Type} (b : Bus σ)

@[simp] theorem addTarget_map (name : String) (target : Target σ) :
    (b.addTarget name target).1.map = b.map := by
  unfold addTarget
  split <;> rfl

@[simp] theorem addTarget_commands (name : String) (target : Target σ) :
    (b.addTarget name target).1.fabric.commands = b.fabric.commands := by
  unfold addTarget
  split <;> rfl

@[simp] theorem mapRange_fabric [DeviceModel σ] (start length : UInt32) (mapping : RangeMapping) :
    (b.mapRange start length mapping).1.fabric = b.fabric := by
  unfold mapRange
  repeat' split
  all_goals rfl

@[simp] theorem unmapRange_fabric (start length : UInt32) :
    (b.unmapRange start length).1.fabric = b.fabric := by
  unfold unmapRange
  split <;> rfl

@[simp] theorem createLayer_fabric (name : String) (priority : Int32) :
    (b.createLayer name priority).1.fabric = b.fabric := rfl

@[simp] theorem saveBase_fabric (first count : Nat) :
    (b.saveBase first count).1.fabric = b.fabric := rfl

@[simp] theorem activate_fabric (id : LayerId) : (b.activate id).1.fabric = b.fabric := rfl

@[simp] theorem deactivate_fabric (id : LayerId) : (b.deactivate id).1.fabric = b.fabric := rfl

@[simp] theorem activateNamed_fabric (name : String) :
    (b.activateNamed name).1.fabric = b.fabric := by
  unfold activateNamed
  split <;> rfl

@[simp] theorem deactivateNamed_fabric (name : String) :
    (b.deactivateNamed name).1.fabric = b.fabric := by
  unfold deactivateNamed
  split <;> rfl

@[simp] theorem setLayerMapping_fabric [DeviceModel σ] (name : String) (mapping : LayerMapping) :
    (b.setLayerMapping name mapping).1.fabric = b.fabric := by
  unfold setLayerMapping
  split <;> rfl

@[simp] theorem enableTrace_fabric (capacity : Nat) :
    (b.enableTrace capacity).1.fabric = b.fabric := by
  unfold enableTrace
  split <;> rfl

@[simp] theorem enableTrace_map (capacity : Nat) : (b.enableTrace capacity).1.map = b.map := by
  unfold enableTrace
  split <;> rfl

@[simp] theorem disableTrace_fabric : b.disableTrace.1.fabric = b.fabric := rfl

@[simp] theorem drainNotices_commands : b.drainNotices.1.fabric.commands = b.fabric.commands := rfl

end Bus

/-! ## Ranges -/

namespace Bus

variable {σ : Type} (b : Bus σ)

/-- A range of pages holds a page, begins and ends between pages, and stays in
the space. -/
theorem pageRange_eq_ok {start length : UInt32} {first count : Nat}
    (h : b.pageRange start length = .ok (first, count)) :
    first = b.geometry.pageOf start ∧ count = b.geometry.pageOf length ∧
      b.geometry.isAligned start = true ∧ b.geometry.isAligned length = true ∧
      start.toNat + length.toNat ≤ b.geometry.spaceSize := by
  unfold pageRange at h
  split at h
  · cases h
  · rename_i aligned
    simp only [Bool.or_eq_true, decide_eq_true_eq, Bool.not_eq_true', not_or,
      Bool.not_eq_false] at aligned
    split at h
    · cases h
    · rename_i inside
      cases h
      exact ⟨rfl, rfl, aligned.1.2, aligned.2, Nat.le_of_not_lt inside⟩

/-- What mapping a range comes to. -/
theorem mapRange_cases [DeviceModel σ] (start length : UInt32) (mapping : RangeMapping) :
    (∃ first count size, b.pageRange start length = .ok (first, count) ∧
      b.arena.sizeOf mapping.target = .ok size ∧
      mapping.targetOffset.toNat + length.toNat ≤ size.toNat ∧
      b.mapRange start length mapping =
        ({ b with
            map := setBases b.map first count
              (b.entryAt mapping (mapping.caps.getD (b.arena.capsOf mapping.target))) },
          .ok ())) ∨
    ∃ e, b.mapRange start length mapping = (b, .error e) := by
  unfold mapRange
  cases range : b.pageRange start length with
  | error e => exact .inr ⟨e, rfl⟩
  | ok pages =>
    obtain ⟨first, count⟩ := pages
    cases found : b.arena.sizeOf mapping.target with
    | error e => exact .inr ⟨e, rfl⟩
    | ok size =>
      by_cases outside : size.toNat < mapping.targetOffset.toNat + length.toNat
      · exact .inr ⟨.outOfBounds mapping.targetOffset length, by simp only [if_pos outside]⟩
      · exact .inl ⟨first, count, size, rfl, rfl, Nat.le_of_not_lt outside,
          by simp only [if_neg outside]⟩

/-- What unmapping a range comes to. -/
theorem unmapRange_cases (start length : UInt32) :
    (∃ first count, b.pageRange start length = .ok (first, count) ∧
      b.unmapRange start length =
        ({ b with map := setBases b.map first count fun _ => .unmapped }, .ok ())) ∨
    ∃ e, b.unmapRange start length = (b, .error e) := by
  unfold unmapRange
  cases range : b.pageRange start length with
  | error e => exact .inr ⟨e, rfl⟩
  | ok pages => exact .inl ⟨pages.1, pages.2, rfl, rfl⟩

end Bus

/-! ## Operations -/

/-- Anything that a user of a bus can do to it. -/
inductive Operation (σ : Type) where
  /-- `Bus.addTarget` -/
  | addTarget (name : String) (target : Target σ)
  /-- `Bus.mapRange` -/
  | mapRange (start length : UInt32) (mapping : RangeMapping)
  /-- `Bus.unmapRange` -/
  | unmapRange (start length : UInt32)
  /-- `Bus.createLayer` -/
  | createLayer (name : String) (priority : Int32)
  /-- `Bus.saveBase` -/
  | saveBase (first count : Nat)
  /-- `Bus.activate` -/
  | activate (id : LayerId)
  /-- `Bus.deactivate` -/
  | deactivate (id : LayerId)
  /-- `Bus.activateNamed` -/
  | activateNamed (name : String)
  /-- `Bus.deactivateNamed` -/
  | deactivateNamed (name : String)
  /-- `Bus.setLayerMapping` -/
  | setLayerMapping (name : String) (mapping : LayerMapping)
  /-- `Bus.enableTrace` -/
  | enableTrace (capacity : Nat)
  /-- `Bus.disableTrace` -/
  | disableTrace
  /-- `Bus.drainNotices` -/
  | drainNotices
  /-- A transfer of bytes. -/
  | transfer (t : Transfer)

/-- The operation neither adds a target nor transfers bytes, and shows only such targets,
from their first byte on. -/
def Operation.Shows {σ : Type} (shown : TargetId → Prop) : Operation σ → Prop
  | .addTarget _ _ | .transfer _ => False
  | .mapRange _ _ mapping => mapping.targetOffset = 0 ∧ shown mapping.target
  | .setLayerMapping _ mapping => mapping.targetOffset = 0 ∧ shown mapping.target
  | _ => True

theorem Operation.Shows.imp {σ : Type} {shown shown' : TargetId → Prop} {o : Operation σ}
    (h : o.Shows shown) (all : ∀ id, shown id → shown' id) : o.Shows shown' := by
  cases o with
  | addTarget | transfer => exact h
  | mapRange | setLayerMapping => exact ⟨h.1, all _ h.2⟩
  | _ => trivial

namespace Bus

variable {σ : Type} [DeviceModel σ]

/-- The bus after an operation, whether it succeeds or fails. -/
def perform (b : Bus σ) : Operation σ → Bus σ
  | .addTarget name target => (b.addTarget name target).1
  | .mapRange start length mapping => (b.mapRange start length mapping).1
  | .unmapRange start length => (b.unmapRange start length).1
  | .createLayer name priority => (b.createLayer name priority).1
  | .saveBase first count => (b.saveBase first count).1
  | .activate id => (b.activate id).1
  | .deactivate id => (b.deactivate id).1
  | .activateNamed name => (b.activateNamed name).1
  | .deactivateNamed name => (b.deactivateNamed name).1
  | .setLayerMapping name mapping => (b.setLayerMapping name mapping).1
  | .enableTrace capacity => (b.enableTrace capacity).1
  | .disableTrace => b.disableTrace.1
  | .drainNotices => b.drainNotices.1
  | .transfer t => b.transfer t

/-- What operations other than transfers make of the map of a bus. -/
inductive Remaps (b : Bus σ) : AddressMap → Prop where
  /-- It stays as it is. -/
  | none : Remaps b b.map
  /-- A range of pages is mapped to a target that is large enough. -/
  | map {start length : UInt32} {mapping : RangeMapping} {first count : Nat} {size : UInt32} :
    b.pageRange start length = .ok (first, count) → b.arena.sizeOf mapping.target = .ok size →
    mapping.targetOffset.toNat + length.toNat ≤ size.toNat → ∀ caps,
    Remaps b (setBases b.map first count (b.entryAt mapping caps))
  /-- A range of pages is unmapped. -/
  | unmap (first count : Nat) : Remaps b (setBases b.map first count fun _ => .unmapped)
  /-- A layer is created. -/
  | create (name : String) (priority : Int32) : Remaps b (b.map.createLayer name priority).1
  /-- Base entries are saved. -/
  | save (first count : Nat) : Remaps b (b.map.saveBase first count).1
  /-- A layer is shown. -/
  | activate (id : LayerId) : Remaps b (b.map.activate id).1
  /-- A layer is hidden. -/
  | deactivate (id : LayerId) : Remaps b (b.map.deactivate id).1
  /-- A layer is placed elsewhere. -/
  | place (id : LayerId) (mapping : LayerMapping) :
    Remaps b (b.map.setMapping b.arena id mapping).1

/-- An operation is a transfer, or does to the map one of a few things. -/
theorem perform_map_cases (b : Bus σ) (operation : Operation σ) :
    (∃ t, operation = .transfer t) ∨ b.Remaps (b.perform operation).map := by
  cases operation with
  | transfer t => exact .inl ⟨t, rfl⟩
  | addTarget name target =>
    right
    rw [perform, addTarget_map]
    exact .none
  | mapRange start length mapping =>
    right
    rw [perform]
    rcases b.mapRange_cases start length mapping with
      ⟨first, count, size, range, found, le, eq⟩ | ⟨e, eq⟩ <;> rw [eq]
    · exact .map range found le _
    · exact .none
  | unmapRange start length =>
    right
    rw [perform]
    rcases b.unmapRange_cases start length with ⟨first, count, -, eq⟩ | ⟨e, eq⟩ <;> rw [eq]
    · exact .unmap first count
    · exact .none
  | createLayer name priority => exact .inr (.create name priority)
  | saveBase first count => exact .inr (.save first count)
  | activate id => exact .inr (.activate id)
  | deactivate id => exact .inr (.deactivate id)
  | activateNamed name =>
    right
    rw [perform, activateNamed]
    split
    · exact .none
    · exact .activate _
  | deactivateNamed name =>
    right
    rw [perform, deactivateNamed]
    split
    · exact .none
    · exact .deactivate _
  | setLayerMapping name mapping =>
    right
    rw [perform, setLayerMapping]
    split
    · exact .none
    · exact .place _ mapping
  | enableTrace capacity =>
    right
    rw [perform, enableTrace_map]
    exact .none
  | disableTrace | drainNotices => exact .inr .none

/-- An operation is a transfer, or adds a target, or leaves the targets as they were. -/
theorem perform_arena_cases (b : Bus σ) (operation : Operation σ) :
    (∃ t, operation = .transfer t) ∨ (∃ name target, operation = .addTarget name target) ∨
      (b.perform operation).arena = b.arena := by
  cases operation with
  | transfer t => exact .inl ⟨t, rfl⟩
  | addTarget name target => exact .inr (.inl ⟨name, target, rfl⟩)
  | drainNotices => exact .inr (.inr rfl)
  | _ =>
    right
    right
    simp only [perform, arena, mapRange_fabric, unmapRange_fabric, createLayer_fabric,
      saveBase_fabric, activate_fabric, deactivate_fabric, activateNamed_fabric,
      deactivateNamed_fabric, setLayerMapping_fabric, enableTrace_fabric, disableTrace_fabric]

theorem arena_perform_of_shows {b : Bus σ} {shown : TargetId → Prop} {o : Operation σ}
    (shows : o.Shows shown) : (b.perform o).arena = b.arena := by
  rcases b.perform_arena_cases o with ⟨t, rfl⟩ | ⟨name, target, rfl⟩ | same
  · exact shows.elim
  · exact shows.elim
  · exact same

/-- The bus after operations in order. -/
def run (b : Bus σ) (operations : List (Operation σ)) : Bus σ := operations.foldl perform b

/-- Whether operations lead to a bus from one without mappings. -/
inductive Reachable : Bus σ → Prop where
  /-- A bus without mappings is reachable. -/
  | empty (geometry : Geometry) : Reachable (.empty geometry)
  /-- An operation leads from one reachable bus to another. -/
  | perform {b : Bus σ} (o : Operation σ) : Reachable b → Reachable (b.perform o)

theorem Reachable.run {b : Bus σ} (h : b.Reachable) (os : List (Operation σ)) :
    (b.run os).Reachable := by
  induction os generalizing b with
  | nil => exact h
  | cons o os ih => exact ih (h.perform o)

theorem arena_run_of_shows {b : Bus σ} {shown : TargetId → Prop} {os : List (Operation σ)}
    (shows : ∀ o ∈ os, o.Shows shown) : (b.run os).arena = b.arena := by
  induction os generalizing b with
  | nil => rfl
  | cons o os ih =>
    obtain ⟨first, rest⟩ := List.forall_mem_cons.mp shows
    exact (ih rest).trans (arena_perform_of_shows first)

/-- What every transaction keeps, every transfer keeps. -/
theorem transfer_induction {P : Bus σ → Prop}
    (step : ∀ (b : Bus σ) (x : Transaction), P b → P (b.transact x))
    {b : Bus σ} (h : P b) (t : Transfer) : P (b.transfer t) := by
  rw [transfer_eq_foldl]
  induction t.transactions generalizing b with
  | nil => exact h
  | cons x xs ih => exact ih (step b x h)

end Bus

/-- Four pages of four bytes, the space of the examples. -/
def smallSpace : Geometry := ⟨4, 2, by omega, by omega, by omega, by omega, by omega⟩

end Backplane
