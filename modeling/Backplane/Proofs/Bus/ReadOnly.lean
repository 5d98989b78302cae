import Mathlib
import Backplane.Device.Switch
import Backplane.Proofs.Bus.Isolation
import Backplane.Proofs.Profile.Regions

/-!
# Read-only memory

Read-only memory is at the end of four ways to write: a byte stored, a byte
poked, a wide write handed to a device, and the bytes of a wide write one after
the other. Windows, splits and the permissions of pages may lead any of them
there. All but a poke with a bypass stop in front of it, and only an access with
the intent of a debug write asks for the bypass.

`Arena.KeepsRoms` is what one byte does to read-only memory; it holds over any
number of bytes, and over all that is done to a bus. The main statement is
`roms_kept`.
-/

namespace Backplane

variable {σ : Type}

/-! ## Arenas -/

namespace Arena

variable {a a' a'' : Arena σ}

/-- Every target of `a` that is read-only memory has the same place, name and
bytes in `a'`. -/
def KeepsRoms (a a' : Arena σ) : Prop :=
  ∀ (i : Nat) (name : String) (m : Memory),
    a.slots[i]? = some ⟨name, .rom m⟩ → a'.slots[i]? = some ⟨name, .rom m⟩

theorem KeepsRoms.refl (a : Arena σ) : a.KeepsRoms a := fun _ _ _ here => here

theorem KeepsRoms.trans (first : a.KeepsRoms a') (second : a'.KeepsRoms a'') :
    a.KeepsRoms a'' :=
  fun i name m here => second i name m (first i name m here)

theorem keepsRoms_adding (a : Arena σ) (slots : List (Slot σ)) : a.KeepsRoms (a.adding slots) :=
  fun _ _ _ here => slots_adding_of_eq_some here

/-- A change of a target that is not read-only memory keeps all that are. -/
theorem keepsRoms_modify {id : TargetId} (writable : ∀ m, a.get? id ≠ some (.rom m))
    (f : Target σ → Target σ) : a.KeepsRoms (a.modify id f) := by
  intro i name m here
  rw [modify, Array.getElem?_modify]
  by_cases eq : id.index = i
  · refine absurd ?_ (writable m)
    rw [get?, eq, here]
    rfl
  · rw [if_neg eq, here]

end Arena

/-! ## One byte -/

namespace Fabric

variable (f : Fabric σ)

theorem storeByte_keepsRoms {leaf : Cell} {memory : Memory}
    (ram : f.arena.get? leaf.target = some (.ram memory)) (value : UInt8) (size : Nat) :
    f.arena.KeepsRoms (f.storeByte leaf value size).1.arena := by
  unfold storeByte
  split
  · exact Arena.keepsRoms_modify (by simp [ram]) _
  · exact .refl _

theorem absorb_keepsRoms {α : Type} (context : DeviceContext) {call : DeviceCall} {state : σ}
    (device : f.arena.get? call.cell.target = some (.device state)) (reply : DeviceReply σ α) :
    f.arena.KeepsRoms (f.absorb context call reply).1.arena :=
  Arena.keepsRoms_modify (by simp [device]) _

variable [DeviceModel σ]

theorem read_keepsRoms (cell : Cell) (context : DeviceContext) :
    f.arena.KeepsRoms (f.read cell context).1.arena := by
  unfold read
  repeat' split
  all_goals first | exact .refl _ | exact f.absorb_keepsRoms context ‹_› _

theorem write_keepsRoms (cell : Cell) (value : UInt8) (context : DeviceContext) :
    f.arena.KeepsRoms (f.write cell value context).1.arena := by
  unfold write
  repeat' split
  all_goals
    first
    | exact .refl _
    | exact f.storeByte_keepsRoms ‹_› _ _
    | exact f.absorb_keepsRoms context ‹_› _

theorem writeWide_keepsRoms (leaf : Cell) (value : UInt32) (bytes : Nat)
    (context : DeviceContext) :
    f.arena.KeepsRoms (f.writeWide leaf value bytes context).1.arena := by
  unfold writeWide
  repeat' split
  all_goals first | exact .refl _ | exact f.absorb_keepsRoms context ‹_› _

/-- A poke keeps read-only memory unless it bypasses the protection. -/
theorem poke_keepsRoms (cell : Cell) (value : UInt8) :
    f.arena.KeepsRoms (f.poke cell value false).1.arena := by
  unfold poke
  cases f.arena.route .write cell with
  | error reason => exact .refl _
  | ok leaf =>
    dsimp only
    split
    · exact f.storeByte_keepsRoms ‹_› _ _
    · exact .refl _
    · rename_i device
      split
      · split
        · exact Arena.keepsRoms_modify (by simp [device]) _
        · exact .refl _
      · exact .refl _
    all_goals exact .refl _

end Fabric

/-! ## Buses -/

namespace Transaction

/-- Whether a transaction may change read-only memory: it is a write with the
intent of a debug write. -/
def mayPatch (x : Transaction) : Prop := x.isRead = false ∧ x.access.intent = .debugWrite

end Transaction

namespace Bus

variable [DeviceModel σ] {b : Bus σ}

theorem served_keepsRoms (b : Bus σ) {x : Transaction} (harmless : ¬x.mayPatch) :
    b.arena.KeepsRoms (b.served x).arena := by
  have refl (f : Fabric σ) : f.arena.KeepsRoms f.arena := .refl _
  cases x with
  | read a =>
    refine servedRead_rel (R := fun f g => f.arena.KeepsRoms g.arena) refl .trans ?_ b
    intro f entry cell
    unfold readByte
    split
    · rw [(f.peek_quiet cell).2]
      exact .refl _
    · exact f.read_keepsRoms cell _
  | write a =>
    have intent : a.intent ≠ .debugWrite := fun debug => harmless ⟨rfl, debug⟩
    refine servedWrite_rel (R := fun f g => f.arena.KeepsRoms g.arena) refl .trans ?_ ?_ b
    · intro f entry cell value
      rw [writeByte, decide_eq_false intent]
      split
      · exact f.poke_keepsRoms cell value
      · exact f.write_keepsRoms cell value _
    · intro _ f leaf value bytes context
      exact f.writeWide_keepsRoms leaf value bytes context

theorem transact_keepsRoms (b : Bus σ) {x : Transaction} (harmless : ¬x.mayPatch) :
    b.arena.KeepsRoms (b.transact x).arena := by
  rw [transact_arena]
  exact b.served_keepsRoms harmless

theorem transactions_keepsRoms {xs : List Transaction} (harmless : ∀ x ∈ xs, ¬x.mayPatch) :
    b.arena.KeepsRoms (xs.foldl transact b).arena := by
  induction xs generalizing b with
  | nil => exact .refl _
  | cons x xs ih =>
    exact (b.transact_keepsRoms (harmless x List.mem_cons_self)).trans
      (ih fun y hy => harmless y (List.mem_cons_of_mem _ hy))

theorem transfer_keepsRoms (b : Bus σ) {t : Transfer}
    (harmless : t.isRead = false → t.request.intent ≠ .debugWrite) :
    b.arena.KeepsRoms (b.transfer t).arena := by
  rw [transfer_eq_foldl]
  refine transactions_keepsRoms ?_
  rintro x hx ⟨write, debug⟩
  have serves := Transfer.serves_of_mem hx
  exact harmless (serves.isRead_eq.symm.trans write) (serves.intent_eq.symm.trans debug)

/-- Operations other than transfers do not write at all. -/
theorem perform_keepsRoms (b : Bus σ) {o : Operation σ}
    (harmless : ∀ t, o = .transfer t → t.isRead = false → t.request.intent ≠ .debugWrite) :
    b.arena.KeepsRoms (b.perform o).arena := by
  rcases b.perform_arena_cases o with ⟨t, rfl⟩ | ⟨name, target, rfl⟩ | same
  · exact b.transfer_keepsRoms (harmless t rfl)
  · rw [perform, addTarget_eq]
    split
    · exact .refl _
    · exact b.arena.keepsRoms_adding _
  · rw [same]
    exact .refl b.arena

/-- Nothing but a debug write changes read-only memory: not a byte of it changes
in a run without one, however its pages are mapped, whatever stands before it,
whatever flags, widths and modes the writes have, and whatever devices and
layers do meanwhile. -/
theorem roms_kept (b : Bus σ) (os : List (Operation σ))
    (harmless : ∀ t, Operation.transfer t ∈ os → t.isRead = false →
      t.request.intent ≠ .debugWrite) :
    b.arena.KeepsRoms (b.run os).arena := by
  induction os generalizing b with
  | nil => exact .refl _
  | cons o os ih =>
    refine (b.perform_keepsRoms ?_).trans (ih _ ?_)
    · rintro t rfl
      exact harmless t List.mem_cons_self
    · exact fun t ht => harmless t (List.mem_cons_of_mem _ ht)

/-- Read-only memory with all permissions on page 0, on page 1 behind a window
and a split, and on page 3 while layer 0 shows, which a switch on page 2 makes it
do. -/
def shielded : Bus SwitchBank :=
  (Bus.empty smallSpace).run
    [.addTarget "rom" (.rom (.filled 16 7)),
     .addTarget "split" (.split ⟨0⟩ ⟨0⟩),
     .addTarget "window" (.window ⟨4, [⟨0, 4, "all", .rom, ⟨1⟩, 4⟩]⟩),
     .addTarget "switch" (.device { table := ⟨#[{ write := .activate ⟨0⟩ }, {}, {}, {}]⟩ }),
     .mapRange 0 4 { target := ⟨0⟩, perms := .all, region := .rom },
     .mapRange 4 4 { target := ⟨2⟩, perms := .all, region := .rom },
     .mapRange 8 4 { target := ⟨3⟩, perms := .all, region := .io },
     .createLayer "shadow" 0,
     .setLayerMapping "shadow" { base := 12, target := ⟨0⟩, perms := .all, length := some 4 },
     .saveBase 3 1]

/-- Attempts to write on every page, and reads with the intent of a debug
write. -/
def attempts : List Transfer :=
  [.write { address := 0, value := 0xAABBCCDD, width := .word, intent := .dataWrite },
   .write { address := 4, value := 0xBEEF, width := .half, mode := .decomposed
            intent := .dmaWrite, flags := .noSideEffects },
   .writeCpuByte 8 1,
   .writeCpu 12 32 0x01020304,
   .writeMany { address := 0, intent := .debugRead } [1, 2, 3],
   .read { address := 4, value := 9, intent := .debugWrite },
   .capture 0 16 .debugWrite]

theorem roms_kept_shielded :
    shielded.Reachable ∧ (∀ t ∈ attempts, t.isRead = false → t.request.intent ≠ .debugWrite) ∧
      shielded.arena.slots[0]? = some ⟨"rom", .rom (.filled 16 7)⟩ ∧
      (shielded.run (attempts.map .transfer)).arena.slots[0]? =
        some ⟨"rom", .rom (.filled 16 7)⟩ ∧
      ((shielded.run (attempts.map .transfer)).map.layer? ⟨0⟩).map Layer.active = some true := by
  have harmless : ∀ t ∈ attempts, t.isRead = false → t.request.intent ≠ .debugWrite := by
    simp [attempts, Transfer.isRead, Transfer.request, Access.write]
  have rom : shielded.arena.slots[0]? = some ⟨"rom", .rom (.filled 16 7)⟩ := by cbv
  refine ⟨(Reachable.empty smallSpace).run _, harmless, rom, ?_, by decide_cbv⟩
  refine roms_kept shielded (attempts.map .transfer) ?_ 0 "rom" _ rom
  intro t ht
  obtain ⟨u, hu, same⟩ := List.mem_map.mp ht
  cases same
  exact harmless t hu

end Bus
end Backplane
