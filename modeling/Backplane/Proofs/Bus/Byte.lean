import Backplane.Proofs.Bus.Served
import Backplane.Proofs.Target.Shape

/-!
# Transactions of one byte

Of a transaction of one byte the page asks for the permission and for nothing
else, and the fabric is asked once. Every transaction of a decomposed transfer is
of this kind.
-/

namespace Backplane

@[simp] theorem Cell.advance_zero (cell : Cell) : cell.advance 0 = cell := by
  simp [advance]

/-! ## Requests -/

namespace Transaction

/-- Whether one byte is transferred. -/
def IsByte (x : Transaction) : Prop := x.access.width = .byte

/-- The way in which the data of a transaction flows. -/
def direction : Transaction → Direction
  | read _ => .read
  | write _ => .write

theorem isByte_of_mem_reads {a : Access} {count : Nat} {x : Transaction}
    (h : x ∈ reads a count) : x.IsByte := by
  obtain ⟨lane, -, rfl⟩ := List.mem_map.mp h
  rfl

theorem isByte_of_mem_writes {a : Access} {bytes : List UInt8} {x : Transaction}
    (h : x ∈ writes a bytes) : x.IsByte := by
  obtain ⟨byte, -, rfl⟩ := List.mem_map.mp h
  rfl

end Transaction

namespace Access

@[simp] theorem valueByte_toUInt32_zero (value : UInt8) :
    valueByte value.toUInt32 0 = value := by
  simp [valueByte]

@[simp] theorem debugRead_address (address : UInt32) : (debugRead address).address = address :=
  rfl

end Access

namespace Bus

variable {σ : Type} {b : Bus σ} {a : Access} {r : Resolved}

/-- Where `address` leads: through the entry of its page to a target, and on
through windows and splits; nothing if its page is not mapped. -/
def route? (b : Bus σ) (direction : Direction) (address : UInt32) : Option (Except Reject Cell) :=
  match b.map.table.lookup address with
  | none => none
  | some (entry, offset) =>
    match entry.target with
    | none => none
    | some target => some (b.arena.route direction ⟨target, offset⟩)

/-! ## Page checks -/

theorem resolve_congr {b' : Bus σ} (map : b'.map = b.map) (a : Access) :
    b'.resolve a = b.resolve a := by
  rw [resolve, resolve, map]

theorem resolve_byte_eq_ok (byte : a.width = .byte) :
    b.resolve a = .ok r ↔
      b.map.table.lookup a.address = some (r.entry, r.cell.offset) ∧
        r.entry.target = some r.cell.target ∧
        checkPermission r.entry.perms a.intent = .ok () := by
  rw [resolve_eq_ok_iff]
  simp [byte]

/-- A byte that passes the page checks is led on from the cell that they find. -/
theorem route?_of_resolve (byte : a.width = .byte) (resolved : b.resolve a = .ok r)
    (direction : Direction) :
    b.route? direction a.address = some (b.arena.route direction r.cell) := by
  obtain ⟨looked, mapped, -⟩ := (resolve_byte_eq_ok byte).mp resolved
  simp only [route?, looked, mapped]

variable [DeviceModel σ]

/-! ## Service -/

theorem servedRead_byte (byte : a.width = .byte) (resolved : b.resolve a = .ok r) :
    b.servedRead a =
      ((readByte b.fabric a r.entry r.cell).1,
        ((readByte b.fabric a r.entry r.cell).2.map UInt8.toUInt32).mapError
          (faultFor a r.entry)) := by
  have one : List.range a.width.bytes = [0] := by rw [byte]; rfl
  simp only [servedRead, resolved, one, readBytes, Cell.advance_zero]
  obtain ⟨f, result⟩ := readByte b.fabric a r.entry r.cell
  cases result with
  | error reason => rfl
  | ok value =>
    have word : value.toUInt32 <<< (8 * 0).toUInt32 ||| 0 = value.toUInt32 := by simp
    exact Prod.ext rfl (congrArg Except.ok word)

theorem servedWrite_byte (byte : a.width = .byte) (resolved : b.resolve a = .ok r) :
    b.servedWrite a =
      ((writeByte b.fabric a r.entry r.cell (Access.valueByte a.value 0)).1,
        (writeByte b.fabric a r.entry r.cell (Access.valueByte a.value 0)).2.mapError
          (faultFor a r.entry)) := by
  have one : List.range a.width.bytes = [0] := by rw [byte]; rfl
  simp only [servedWrite, resolved, writeResolved, if_pos byte, one, writeBytes,
    Cell.advance_zero]
  obtain ⟨f, result⟩ := writeByte b.fabric a r.entry r.cell (Access.valueByte a.value 0)
  cases result <;> rfl

theorem servedRead_refused {fault : Fault} (refused : b.resolve a = .error fault) :
    b.servedRead a = (b.fabric, .error fault) := by
  simp only [servedRead, refused]

theorem servedWrite_refused {fault : Fault} (refused : b.resolve a = .error fault) :
    b.servedWrite a = (b.fabric, .error fault) := by
  simp only [servedWrite, refused]

/-- A write of one byte is one transaction, whichever way it is carried out. -/
theorem write_byte (b : Bus σ) (byte : a.width = .byte) :
    ∃ a', a'.address = a.address ∧ a'.width = .byte ∧
      Access.valueByte a'.value 0 = Access.valueByte a.value 0 ∧
      (b.write a).1 = b.transact (.write a') ∧
      ((b.write a).2 = .ok () ↔ (b.servedWrite a').2 = .ok ()) := by
  cases mode : a.mode with
  | atomic =>
    refine ⟨a, rfl, byte, rfl, ?_, ?_⟩
    · simp only [write, mode, transact]
    · simp only [write, mode, writeAtomic_eq]
  | decomposed =>
    have one : List.range a.width.bytes = [0] := by rw [byte]; rfl
    refine ⟨{ a.lane 0 with value := (Access.valueByte a.value 0).toUInt32 }, ?_, rfl, ?_, ?_, ?_⟩
    · simp [Access.lane]
    · simp
    · rw [write_fst, Transfer.transactionsOfWrite, mode, one]
      rfl
    · simp only [write, mode, one, writeMany, List.map_cons, List.map_nil, List.zipIdx_cons,
        List.zipIdx_nil, inTurn_cons, inTurn_nil, writeAtomic_eq]
      generalize (b.servedWrite _).2 = result
      cases result with
      | error fault => simp [ByteWrites.outcome, ByteWrites.faults, faultOf]
      | ok _ => exact iff_of_true rfl rfl

end Bus
end Backplane
