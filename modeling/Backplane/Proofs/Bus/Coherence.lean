import Mathlib
import Backplane.Device.Switch
import Backplane.Proofs.Bus.Byte
import Backplane.Proofs.Target.Contents

/-!
# The bus as memory

Addresses are names of cells. Several may name the same cell, through mirrors,
windows and layers, and a split may give one address a cell to read and another
to write. A byte that is written to a cell of memory is what every address that
reads this cell answers with from then on, as far as its page lets it answer at
all; all else is as it was.

The main statement is `write_coherent`.
-/

namespace Backplane

variable {σ : Type}

/-! ## Peeks and stores -/

namespace Fabric

variable {f g : Fabric σ} {c cell : Cell} {t : Target σ} {m : Memory} {value : UInt8}

variable [DeviceModel σ]

/-- What a peek answers depends on the route and on the leaf. -/
theorem peek_congr (route : g.arena.route .read c = f.arena.route .read c)
    (leaf : ∀ leaf, f.arena.route .read c = .ok leaf →
      g.arena.get? leaf.target = f.arena.get? leaf.target) : (g.peek c).2 = (f.peek c).2 := by
  unfold peek
  rw [route]
  split
  · rfl
  · rename_i leaf' found
    rw [leaf leaf' found]
    repeat' split
    all_goals rfl

theorem peek_of_memory (route : f.arena.route .read c = .ok cell)
    (here : f.arena.get? cell.target = some t) (memory : t.memory? = some m) :
    (f.peek c).2 = byteAt m cell.offset := by
  cases t with
  | ram | rom =>
    cases memory
    simp only [peek, route, here]
  | _ => cases memory

variable (stored : g.arena = f.arena.modify cell.target (.store cell.offset value))
  (here : f.arena.get? cell.target = some t) (memory : t.memory? = some m)

include stored

omit [DeviceModel σ] in
/-- Storing a byte changes no route. -/
theorem route_of_stored (direction : Direction) (c : Cell) :
    g.arena.route direction c = f.arena.route direction c := by
  rw [stored]
  exact (f.arena.matches_store (fun _ => ()) _ _ _).route direction c

include here memory

/-- A peek that leads to the cell finds the byte stored there. -/
theorem peek_stored (inside : cell.offset.toNat < m.size)
    (route : f.arena.route .read c = .ok cell) : (g.peek c).2 = .ok value := by
  have here' : g.arena.get? cell.target = some (t.store cell.offset value) := by
    rw [stored, Arena.get?_modify, if_pos rfl, here, Option.map_some]
  rw [peek_of_memory ((route_of_stored stored .read c).trans route) here'
    (Arena.memory?_store memory _ _), byteAt, Memory.get?_set, if_pos ⟨rfl, inside⟩]

/-- A peek that leads elsewhere finds what it found before. -/
theorem peek_elsewhere (route : f.arena.route .read c ≠ .ok cell) :
    (g.peek c).2 = (f.peek c).2 := by
  have same := route_of_stored stored .read c
  by_cases away : ∀ leaf, f.arena.route .read c = .ok leaf → leaf.target ≠ cell.target
  · refine peek_congr same fun leaf found => ?_
    rw [stored, Arena.get?_modify, if_neg (Ne.symm (away leaf found))]
  -- The peek leads to another byte of the same memory.
  push Not at away
  obtain ⟨⟨target, offset⟩, found, rfl⟩ := away
  have apart : cell.offset.toNat ≠ offset.toNat := by
    intro eq
    exact route (found.trans (by rw [← UInt32.toNat_inj.mp eq]))
  have here' : g.arena.get? cell.target = some (t.store cell.offset value) := by
    rw [stored, Arena.get?_modify, if_pos rfl, here, Option.map_some]
  rw [peek_of_memory (same.trans found) here' (Arena.memory?_store memory _ _),
    peek_of_memory found here memory, byteAt, byteAt, Memory.get?_set,
    if_neg fun hit => apart hit.1]

end Fabric

namespace Bus

variable [DeviceModel σ] {b : Bus σ} {a : Access} {r : Resolved} {cell : Cell} {t : Target σ}
  {m : Memory}

/-- What is told of a byte that is read without side effects: the fault of its page, or what the
fabric says. -/
theorem readAtomic_quiet (b : Bus σ) (byte : a.width = .byte)
    (quiet : a.suppressesSideEffects = true) :
    (b.readAtomic a).2.map UInt32.toUInt8 =
      match b.resolve a with
      | .error fault => .error fault
      | .ok r => (b.fabric.peek r.cell).2.mapError (faultFor a r.entry) := by
  rw [readAtomic_eq]
  dsimp only
  split
  · rename_i fault refused
    rw [servedRead_refused refused]
    rfl
  · rename_i r resolved
    rw [servedRead_byte byte resolved, readByte, if_pos quiet]
    cases (b.fabric.peek r.cell).2 with
    | error reason => rfl
    | ok byte => exact congrArg Except.ok byte.toUInt8_toUInt32

/-- What a tool is told of a byte. -/
theorem peekByte_snd (b : Bus σ) (address : UInt32) :
    (b.peekByte address).2 =
      match b.resolve (.debugRead address) with
      | .error fault => .error fault
      | .ok r => (b.fabric.peek r.cell).2.mapError (faultFor (.debugRead address) r.entry) :=
  b.readAtomic_quiet rfl rfl

/-- A byte that is written where memory is gets stored, and nothing else
happens. -/
theorem servedWrite_memory (byte : a.width = .byte) (resolved : b.resolve a = .ok r)
    (lands : b.arena.route .write r.cell = .ok cell) (here : b.arena.get? cell.target = some t)
    (memory : t.memory? = some m) (written : (b.servedWrite a).2 = .ok ()) :
    cell.offset.toNat < m.size ∧
      (b.servedWrite a).1 =
        { b.fabric with
          arena := b.arena.modify cell.target
            (.store cell.offset (Access.valueByte a.value 0)) } := by
  have served := servedWrite_byte byte resolved
  rw [served] at written ⊢
  generalize Access.valueByte a.value 0 = value at written ⊢
  have stores (g : Fabric σ × Except Reject Unit)
      (eq : g = b.fabric.storeByte cell value m.size) (ok : g.2 = .ok ()) :
      cell.offset.toNat < m.size ∧
        g.1 = { b.fabric with arena := b.arena.modify cell.target (.store cell.offset value) } := by
    subst eq
    unfold Fabric.storeByte at ok ⊢
    split
    · rename_i inside
      exact ⟨inside, rfl⟩
    · rename_i outside
      rw [if_neg outside] at ok
      cases ok
  have accepted : (writeByte b.fabric a r.entry r.cell value).2 = .ok () := by
    generalize (writeByte b.fabric a r.entry r.cell value).2 = result at written ⊢
    cases result with
    | error reason => cases written
    | ok _ => rfl
  refine stores _ ?_ accepted
  change b.fabric.arena.route .write r.cell = .ok cell at lands
  change b.fabric.arena.get? cell.target = some t at here
  cases t with
  | ram =>
    cases memory
    simp only [writeByte, Fabric.poke, Fabric.write, lands, here, ite_self]
  | rom =>
    cases memory
    -- Read-only memory takes the byte from a tool alone.
    simp only [writeByte, Fabric.poke, Fabric.write, lands, here] at accepted ⊢
    split at accepted
    · split at accepted
      · rename_i quiet bypass
        rw [if_pos quiet, if_pos bypass]
      · cases accepted
    · cases accepted
  | _ => cases memory

/-- A write of one byte that succeeds and leads to memory, by whatever route,
changes one cell. Every address that reads this cell, and is allowed to, answers
with the byte from then on; every other address answers as before. No page,
layer, notice, device or other byte changes. -/
theorem write_coherent (h : b.Reachable) (byte : a.width = .byte)
    (written : (b.write a).2 = .ok ()) (lands : b.route? .write a.address = some (.ok cell))
    (here : b.arena.get? cell.target = some t) (memory : t.memory? = some m) :
    let b' := (b.write a).1
    let value := Access.valueByte a.value 0
    (∀ address old, (b.peekByte address).2 = .ok old →
      b.route? .read address = some (.ok cell) → (b'.peekByte address).2 = .ok value) ∧
    (∀ address, ¬((∃ old, (b.peekByte address).2 = .ok old) ∧
        b.route? .read address = some (.ok cell)) →
      (b'.peekByte address).2 = (b.peekByte address).2) ∧
    b'.map = b.map ∧ b'.fabric.notices = b.fabric.notices ∧
    b'.fabric.commands = b.fabric.commands ∧ b'.fabric.calls = b.fabric.calls ∧
    (∀ other, b'.arena.byte? other = if cell = other then some value else b.arena.byte? other) ∧
    (∀ id, id ≠ cell.target → b'.arena.get? id = b.arena.get? id) ∧
    (∀ id, b'.arena.name? id = b.arena.name? id) := by
  intro b' value
  obtain ⟨a', address_eq, byte', value_eq, after, ok_iff⟩ := b.write_byte byte
  rw [ok_iff] at written
  obtain ⟨r, resolved⟩ : ∃ r, b.resolve a' = .ok r := by
    cases resolved : b.resolve a' with
    | error fault =>
      rw [servedWrite_refused resolved] at written
      cases written
    | ok r => exact ⟨r, rfl⟩
  have route : b.arena.route .write r.cell = .ok cell := by
    have := route?_of_resolve byte' resolved .write
    rw [address_eq, lands, Option.some.injEq] at this
    exact this.symm
  obtain ⟨inside, served⟩ := servedWrite_memory byte' resolved route here memory written
  rw [value_eq] at served
  have idle := h.commands_eq_nil
  have map : b'.map = b.map := by
    show (b.write a).1.map = b.map
    rw [after, transact_map, Bus.served, served, idle, List.foldl_nil]
  have fabric : b'.fabric =
      { b.fabric with arena := b.arena.modify cell.target (.store cell.offset value) } := by
    show (b.write a).1.fabric = _
    rw [after, transact_fabric, Bus.served, served, Fabric.mk.injEq]
    exact ⟨rfl, rfl, idle.symm, rfl⟩
  have stored : b'.fabric.arena = b.fabric.arena.modify cell.target (.store cell.offset value) := by
    rw [fabric]
    rfl
  have peek (address : UInt32) : (b'.peekByte address).2 =
      match b.resolve (.debugRead address) with
      | .error fault => .error fault
      | .ok r => (b'.fabric.peek r.cell).2.mapError (faultFor (.debugRead address) r.entry) := by
    rw [peekByte_snd, resolve_congr map]
  refine ⟨?_, ?_, map, by rw [fabric], by rw [fabric], by rw [fabric], ?_, ?_, ?_⟩
  · intro address old answered leads
    rw [peekByte_snd] at answered
    rw [peek]
    cases found : b.resolve (.debugRead address) with
    | error fault =>
      rw [found] at answered
      cases answered
    | ok r' =>
      have route' := route?_of_resolve rfl found .read
      rw [Access.debugRead_address, leads, Option.some.injEq] at route'
      dsimp only
      rw [Fabric.peek_stored stored here memory inside route'.symm]
      rfl
  · intro address apart
    rw [peek, peekByte_snd]
    cases found : b.resolve (.debugRead address) with
    | error fault => rfl
    | ok r' =>
      have route' := route?_of_resolve rfl found .read
      rw [Access.debugRead_address] at route'
      dsimp only
      rw [Fabric.peek_elsewhere stored here memory]
      intro leads
      apply apart
      rw [route', peekByte_snd, found]
      dsimp only
      rw [Fabric.peek_of_memory leads here memory, Fabric.byteAt, Memory.get?, if_pos inside]
      exact ⟨⟨_, rfl⟩, congrArg some leads⟩
  · intro other
    show b'.fabric.arena.byte? other = _
    rw [stored]
    exact Arena.byte?_store here memory inside other
  · intro id other
    show b'.fabric.arena.get? id = _
    rw [stored, Arena.get?_modify, if_neg (Ne.symm other)]
    rfl
  · intro id
    show b'.fabric.arena.name? id = _
    rw [stored, Arena.name?_modify]
    rfl

/-- Four bytes of memory that page 0 shows as they are, page 1 through a split
that reads read-only memory instead, page 2 in part and shifted through a window,
and page 3 under a layer. -/
def mirrored : Bus SwitchBank :=
  (Bus.empty smallSpace).run
    [.addTarget "ram" (.ram (.filled 4 0)), .addTarget "rom" (.rom (.filled 4 0xEE)),
     .addTarget "split" (.split ⟨1⟩ ⟨0⟩),
     .addTarget "window" (.window ⟨4, [⟨0, 2, "low", .ram, ⟨0⟩, 1⟩]⟩),
     .mapRange 0 4 { target := ⟨0⟩, perms := .all, region := .ram },
     .mapRange 4 4 { target := ⟨2⟩, perms := .all, region := .ram },
     .mapRange 8 4 { target := ⟨3⟩, perms := .readExecute, region := .composite },
     .createLayer "bank" 0, .saveBase 3 1,
     .setLayerMapping "bank" { base := 12, target := ⟨0⟩, perms := .all },
     .activateNamed "bank"]

/-- A byte written through the split shows in memory, in the window and under
the layer, but not where it was written. -/
theorem write_coherent_mirrored :
    let a : Access := { address := 5, value := 0x15A, mode := .decomposed, intent := .dmaWrite }
    mirrored.Reachable ∧ (mirrored.write a).2 = .ok () ∧
      mirrored.route? .write 5 = some (.ok ⟨⟨0⟩, 1⟩) ∧
      (∀ address ∈ [1, 8, 13], ((mirrored.write a).1.peekByte address).2 = .ok 0x5A) ∧
      ((mirrored.write a).1.peekByte 5).2 = .ok 0xEE := by
  intro a
  have reachable : mirrored.Reachable := (Reachable.empty smallSpace).run _
  have written : (mirrored.write a).2 = .ok () := by cbv
  have lands : mirrored.route? .write a.address = some (.ok ⟨⟨0⟩, 1⟩) := by cbv
  have here : mirrored.arena.get? ⟨0⟩ = some (.ram (.filled 4 0)) := by cbv
  obtain ⟨same, apart, -⟩ := write_coherent reachable rfl written lands here rfl
  refine ⟨reachable, written, lands, ?_, ?_⟩
  · intro address mem
    have seen : (mirrored.peekByte address).2 = .ok 0 ∧
        mirrored.route? .read address = some (.ok ⟨⟨0⟩, 1⟩) := by
      fin_cases mem <;> exact ⟨by cbv, by cbv⟩
    have low : Access.valueByte a.value 0 = 0x5A := by decide
    rw [← low]
    exact same address 0 seen.1 seen.2
  · have elsewhere : mirrored.route? .read 5 = some (.ok ⟨⟨1⟩, 1⟩) := by cbv
    have before : (mirrored.peekByte 5).2 = .ok 0xEE := by cbv
    rw [apart 5, before]
    rintro ⟨-, leads⟩
    cases elsewhere.symm.trans leads

end Bus
end Backplane
