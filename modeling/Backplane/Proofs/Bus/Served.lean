import Backplane.Proofs.Bus.Operations

/-!
# Serving a transaction

A transaction has two parts. First the fabric serves it, with the address map as
it is; then the layer commands that devices issued change the map, and the trace
is written. `served` is the fabric after the first part, and `transact_map` and
`transact_fabric` say what the second part makes of it.

The bytes of a transaction are served one after the other, so a relation between
fabrics that holds over each byte, and over each write that a device takes as a
whole, holds over the transaction (`servedRead_rel`, `servedWrite_rel`).
-/

namespace Backplane
namespace Bus

variable {σ : Type}

/-! ## Page checks -/

/-- What the page checks ask: that the page is mapped and grants what the intent
requires, and of a wide access also that it is aligned and that the target takes
wide accesses. -/
theorem resolve_eq_ok_iff {b : Bus σ} {a : Access} {r : Resolved} :
    b.resolve a = .ok r ↔
      b.map.table.lookup a.address = some (r.entry, r.cell.offset) ∧
        r.entry.target = some r.cell.target ∧
        checkPermission r.entry.perms a.intent = .ok () ∧
        (a.width ≠ .byte →
          checkAlignment a.address a.width = .ok () ∧ r.entry.caps.contains .wide = true) := by
  obtain ⟨⟨target, offset⟩, entry⟩ := r
  constructor
  · intro h
    unfold resolve at h
    split at h
    · cases h
    rename_i looked
    split at h
    · cases h
    rename_i mapped
    split at h
    · cases h
    rename_i granted
    split at h
    · rename_i byte
      cases h
      exact ⟨looked, mapped, granted, fun wide => absurd byte wide⟩
    split at h
    · cases h
    rename_i aligned
    split at h
    · rename_i capable
      cases h
      exact ⟨looked, mapped, granted, fun _ => ⟨aligned, capable⟩⟩
    · cases h
  · rintro ⟨looked, mapped, granted, wide⟩
    simp only at looked mapped granted wide
    simp only [resolve, looked, mapped, granted]
    by_cases byte : a.width = .byte
    · rw [if_pos byte]
    · obtain ⟨aligned, capable⟩ := wide byte
      simp only [if_neg byte, aligned, if_pos capable]

/-- An access that passes is aligned. -/
theorem aligned_of_resolve {b : Bus σ} {a : Access} {r : Resolved} (h : b.resolve a = .ok r) :
    a.address.toNat % a.width.bytes = 0 := by
  by_cases byte : a.width = .byte
  · rw [byte]
    exact Nat.mod_one _
  · have passed := ((resolve_eq_ok_iff.mp h).2.2.2 byte).1
    unfold checkAlignment at passed
    split at passed
    · assumption
    · cases passed

/-! ## The end of a transaction -/

/-- The bus after the fabric has become `f` in serving `a`. -/
def finish (b : Bus σ) (a : Access) (f : Fabric σ) (value : UInt32) (fault : Option FaultKind) :
    Bus σ :=
  ({ b with fabric := f }).settle.record a value fault

theorem settle_map (b : Bus σ) :
    b.settle.map = b.fabric.commands.foldl AddressMap.command b.map := by
  unfold settle
  split <;> simp_all

theorem settle_fabric (b : Bus σ) : b.settle.fabric = { b.fabric with commands := [] } := by
  unfold settle
  split
  · rename_i h
    rw [← h]
  · rfl

theorem record_map (b : Bus σ) (a : Access) (value : UInt32) (fault : Option FaultKind) :
    (b.record a value fault).map = b.map := by
  unfold record
  repeat' split
  all_goals rfl

theorem record_fabric (b : Bus σ) (a : Access) (value : UInt32) (fault : Option FaultKind) :
    (b.record a value fault).fabric = b.fabric := by
  unfold record
  repeat' split
  all_goals rfl

@[simp] theorem finish_map (b : Bus σ) (a : Access) (f : Fabric σ) (value : UInt32)
    (fault : Option FaultKind) :
    (b.finish a f value fault).map = f.commands.foldl AddressMap.command b.map := by
  rw [finish, record_map, settle_map]

@[simp] theorem finish_fabric (b : Bus σ) (a : Access) (f : Fabric σ) (value : UInt32)
    (fault : Option FaultKind) :
    (b.finish a f value fault).fabric = { f with commands := [] } := by
  rw [finish, record_fabric, settle_fabric]

variable [DeviceModel σ]

/-! ## What the fabric does -/

/-- The fabric after it served the read `a`, and the answer. -/
def servedRead (b : Bus σ) (a : Access) : Fabric σ × Except Fault UInt32 :=
  match b.resolve a with
  | .error fault => (b.fabric, .error fault)
  | .ok r =>
    let served := readBytes a r b.fabric (List.range a.width.bytes)
    (served.1, served.2.mapError (faultFor a r.entry))

/-- The fabric after it served the write `a`, and the answer. -/
def servedWrite (b : Bus σ) (a : Access) : Fabric σ × Except Fault Unit :=
  match b.resolve a with
  | .error fault => (b.fabric, .error fault)
  | .ok r =>
    let served := writeResolved b.fabric a r
    (served.1, served.2.mapError (faultFor a r.entry))

/-- The value of an answer, zero for a fault. -/
def valueOf : Except Fault UInt32 → UInt32
  | .ok value => value
  | .error _ => 0

theorem readAtomic_eq (b : Bus σ) (a : Access) :
    b.readAtomic a =
      (b.finish a (b.servedRead a).1 (valueOf (b.servedRead a).2)
        ((faultOf (b.servedRead a).2).map Fault.kind), (b.servedRead a).2) := by
  unfold readAtomic servedRead finish
  cases b.resolve a with
  | error fault => rfl
  | ok r =>
    dsimp only
    obtain ⟨f, result⟩ := readBytes a r b.fabric (List.range a.width.bytes)
    cases result <;> rfl

theorem writeAtomic_eq (b : Bus σ) (a : Access) :
    b.writeAtomic a =
      (b.finish a (b.servedWrite a).1 (a.value &&& a.width.mask)
        ((faultOf (b.servedWrite a).2).map Fault.kind), (b.servedWrite a).2) := by
  unfold writeAtomic servedWrite finish
  cases b.resolve a with
  | error fault => rfl
  | ok r =>
    dsimp only
    obtain ⟨f, result⟩ := writeResolved b.fabric a r
    cases result <;> rfl

/-- The fabric after it served a transaction; the layer commands that devices
issued wait still. -/
def served (b : Bus σ) : Transaction → Fabric σ
  | .read a => (b.servedRead a).1
  | .write a => (b.servedWrite a).1

theorem transact_map (b : Bus σ) (x : Transaction) :
    (b.transact x).map = (b.served x).commands.foldl AddressMap.command b.map := by
  cases x with
  | read a => rw [transact, readAtomic_eq, finish_map, served]
  | write a => rw [transact, writeAtomic_eq, finish_map, served]

theorem transact_fabric (b : Bus σ) (x : Transaction) :
    (b.transact x).fabric = { b.served x with commands := [] } := by
  cases x with
  | read a => rw [transact, readAtomic_eq, finish_fabric, served]
  | write a => rw [transact, writeAtomic_eq, finish_fabric, served]

theorem transact_arena (b : Bus σ) (x : Transaction) :
    (b.transact x).arena = (b.served x).arena := by
  rw [arena, transact_fabric]

/-- No layer command waits between two operations on a bus. -/
theorem Reachable.commands_eq_nil {b : Bus σ} (h : b.Reachable) : b.fabric.commands = [] := by
  induction h with
  | empty geometry => rfl
  | @perform b o _ ih =>
    cases o with
    | transfer t =>
      exact transfer_induction (P := fun b => b.fabric.commands = [])
        (fun b x _ => by rw [transact_fabric]) ih t
    | _ => simpa [Bus.perform] using ih

/-- The ways in which a write is served: byte by byte, not at all because its
check refuses it, or by one call of a device. -/
inductive WritePlan (f : Fabric σ) (a : Access) (r : Resolved) :
    Fabric σ × Except Reject Unit → Prop where
  /-- One byte is stored without a check. -/
  | byte : a.width = .byte → WritePlan f a r (writeBytes a r f (List.range a.width.bytes))
  /-- The check finds a byte that cannot be stored. -/
  | refused {reason : Reject} : a.width ≠ .byte →
      checkLanes f.arena r.cell (a.intent = .debugWrite) (List.range a.width.bytes) =
        .error reason →
      WritePlan f a r (f, .error reason)
  /-- One device takes the value as a whole. -/
  | whole {leaf : Cell} : a.width ≠ .byte →
      checkLanes f.arena r.cell (a.intent = .debugWrite) (List.range a.width.bytes) = .ok () →
      a.suppressesSideEffects = false → f.arena.deviceSpan? r.cell a.width.bytes = some leaf →
      WritePlan f a r
        (f.writeWide leaf (a.value &&& a.width.mask) a.width.bytes (contextOf a r.entry))
  /-- The bytes are stored one after the other. -/
  | lanes : a.width ≠ .byte →
      checkLanes f.arena r.cell (a.intent = .debugWrite) (List.range a.width.bytes) = .ok () →
      (a.suppressesSideEffects = true ∨ f.arena.deviceSpan? r.cell a.width.bytes = none) →
      WritePlan f a r (writeBytes a r f (List.range a.width.bytes))

theorem writeResolved_plan (f : Fabric σ) (a : Access) (r : Resolved) :
    WritePlan f a r (writeResolved f a r) := by
  unfold writeResolved
  by_cases byte : a.width = .byte
  · rw [if_pos byte]
    exact .byte byte
  rw [if_neg byte]
  cases check : checkLanes f.arena r.cell (a.intent = .debugWrite) (List.range a.width.bytes) with
  | error reason => exact .refused byte check
  | ok _ =>
    cases quiet : a.suppressesSideEffects with
    | true => exact .lanes byte check (.inl quiet)
    | false =>
      cases span : f.arena.deviceSpan? r.cell a.width.bytes with
      | none => exact .lanes byte check (.inr span)
      | some leaf => exact .whole byte check quiet span

/-! ## Relations that hold over every byte -/

section Relations

variable {R : Fabric σ → Fabric σ → Prop} (refl : ∀ f, R f f)
  (trans : ∀ {f g h}, R f g → R g h → R f h) {a : Access}

include refl trans

theorem readBytes_rel_at {r : Resolved}
    (byte : ∀ f lane, R f (readByte f a r.entry (r.cell.advance lane)).1)
    (f : Fabric σ) (lanes : List Nat) : R f (readBytes a r f lanes).1 := by
  induction lanes generalizing f with
  | nil => exact refl f
  | cons lane lanes ih =>
    have first := byte f lane
    unfold readBytes
    split
    · rename_i h
      rwa [h] at first
    · rename_i g _ h
      rw [h] at first
      have rest := trans first (ih g)
      split <;> rename_i h' <;> rwa [h'] at rest

theorem readBytes_rel (byte : ∀ f entry cell, R f (readByte f a entry cell).1) (r : Resolved)
    (f : Fabric σ) (lanes : List Nat) : R f (readBytes a r f lanes).1 :=
  readBytes_rel_at refl trans (fun f _ => byte f _ _) f lanes

theorem writeBytes_rel_at {r : Resolved}
    (byte : ∀ f lane value, R f (writeByte f a r.entry (r.cell.advance lane) value).1)
    (f : Fabric σ) (lanes : List Nat) : R f (writeBytes a r f lanes).1 := by
  induction lanes generalizing f with
  | nil => exact refl f
  | cons lane lanes ih =>
    have first := byte f lane (Access.valueByte a.value lane)
    unfold writeBytes
    split
    · rename_i h
      rwa [h] at first
    · rename_i g h
      rw [h] at first
      exact trans first (ih g)

theorem writeBytes_rel (byte : ∀ f entry cell value, R f (writeByte f a entry cell value).1)
    (r : Resolved) (f : Fabric σ) (lanes : List Nat) : R f (writeBytes a r f lanes).1 :=
  writeBytes_rel_at refl trans (fun f _ value => byte f _ _ value) f lanes

theorem writeResolved_rel (byte : ∀ f entry cell value, R f (writeByte f a entry cell value).1)
    (whole : a.suppressesSideEffects = false →
      ∀ f leaf value bytes context, R f (f.writeWide leaf value bytes context).1)
    (f : Fabric σ) (r : Resolved) : R f (writeResolved f a r).1 := by
  have plan := writeResolved_plan f a r
  generalize writeResolved f a r = served at plan ⊢
  cases plan with
  | byte | lanes => exact writeBytes_rel refl trans byte r f _
  | refused => exact refl f
  | whole _ _ quiet _ => exact whole quiet f _ _ _ _

theorem servedRead_rel (byte : ∀ f entry cell, R f (readByte f a entry cell).1) (b : Bus σ) :
    R b.fabric (b.servedRead a).1 := by
  unfold servedRead
  split
  · exact refl b.fabric
  · exact readBytes_rel refl trans byte _ b.fabric _

theorem servedWrite_rel (byte : ∀ f entry cell value, R f (writeByte f a entry cell value).1)
    (whole : a.suppressesSideEffects = false →
      ∀ f leaf value bytes context, R f (f.writeWide leaf value bytes context).1)
    (b : Bus σ) : R b.fabric (b.servedWrite a).1 := by
  unfold servedWrite
  split
  · exact refl b.fabric
  · exact writeResolved_rel refl trans byte whole b.fabric _

end Relations

end Bus
end Backplane
