import Mathlib
import Backplane.Proofs.Device.Firing
import Backplane.Proofs.Monitor.Build
import Backplane.Proofs.Monitor.RefusedCommands

/-!
# Bindings of switches

A block of switches lists bindings, each for reads and for writes of an offset. A binding
sets both, also where it says nothing about one of them. So an offset does what its last
binding says, and what an earlier one has listed is lost if the last one lists nothing.

The table of a block is made by a fold over its bindings, `Binds` is what the fold keeps,
and the main statement is `build_binds`.
-/

namespace Backplane

/-! ## What is bound -/

namespace SwitchBinding

/-- What the binding lists for one way of touching its offset. -/
def op (s : SwitchBinding) : Direction → Option SwitchOp
  | .read => s.onRead
  | .write => s.onWrite

/-- The bindings of an offset, in the order in which they are listed. -/
def ofOffset (bindings : List SwitchBinding) (offset : UInt32) : List SwitchBinding :=
  bindings.filter fun s => s.offset = offset

/-- All that the bindings list for one way of touching an offset. -/
def listed (bindings : List SwitchBinding) (offset : UInt32) (d : Direction) : List SwitchOp :=
  (ofOffset bindings offset).filterMap fun s => s.op d

/-- What the last binding of an offset lists for one way of touching it. -/
def last? (bindings : List SwitchBinding) (offset : UInt32) (d : Direction) : Option SwitchOp :=
  (ofOffset bindings offset).getLast?.bind fun s => s.op d

variable {bindings : List SwitchBinding} {s : SwitchBinding} {offset : UInt32} {d : Direction}

theorem last?_concat_self : last? (bindings ++ [s]) s.offset d = s.op d := by
  have own : ofOffset [s] s.offset = [s] := List.filter_cons_of_pos (decide_eq_true rfl)
  rw [last?, ofOffset, List.filter_append, ← ofOffset, ← ofOffset, own, List.getLast?_concat,
    Option.bind_some]

theorem last?_concat_of_ne (ne : s.offset ≠ offset) :
    last? (bindings ++ [s]) offset d = last? bindings offset d := by
  have foreign : ofOffset [s] offset = [] := List.filter_cons_of_neg (by simpa using ne)
  rw [last?, ofOffset, List.filter_append, ← ofOffset, ← ofOffset, foreign, List.append_nil, last?]

/-- What is listed ends with what the last binding lists. -/
theorem exists_listed_eq (bindings : List SwitchBinding) (offset : UInt32) (d : Direction) :
    ∃ before, listed bindings offset d = before ++ (last? bindings offset d).toList := by
  rw [listed, last?]
  cases split : (ofOffset bindings offset).getLast? with
  | none =>
    rw [List.getLast?_eq_none_iff.mp split]
    exact ⟨[], rfl⟩
  | some s =>
    obtain ⟨before, all⟩ := List.getLast?_eq_some_iff.mp split
    refine ⟨before.filterMap fun s => s.op d, ?_⟩
    rw [all, List.filterMap_append, Option.bind_some]
    cases op : s.op d <;> simp [op]

/-- Of one thing listed at most, the last binding lists what is listed, unless it lists
nothing where another one does. -/
theorem head?_listed_eq_iff (single : (listed bindings offset d).length ≤ 1) :
    (listed bindings offset d).head? = last? bindings offset d ↔
      listed bindings offset d = [] ∨ last? bindings offset d ≠ none := by
  obtain ⟨before, all⟩ := exists_listed_eq bindings offset d
  cases last : last? bindings offset d with
  | none =>
    rw [List.head?_eq_none_iff]
    exact (or_iff_left fun some => some rfl).symm
  | some op =>
    rw [last] at all
    have none : before = [] := by
      rw [all, List.length_append] at single
      exact List.length_eq_zero_iff.mp (Nat.le_zero.mp (Nat.le_of_succ_le_succ single))
    rw [all, none]
    exact iff_of_true rfl (.inr (Option.some_ne_none op))

end SwitchBinding

/-- The table is as long as the block, and each of its offsets does what the last of the
bindings for it says. -/
structure SwitchTable.Binds (t : SwitchTable) (bus : Bus SwitchBank) (size : UInt32)
    (bindings : List SwitchBinding) : Prop where
  length : t.entries.size = size.toNat
  bound : ∀ offset < size, ∃ entry, t.get? offset = some entry ∧
    ∀ d, Session.actionOf bus (SwitchBinding.last? bindings offset d) = .ok (entry.on d)

namespace SwitchTable

variable {t t' : SwitchTable} {bus bus' : Bus SwitchBank} {size : UInt32}
  {bindings : List SwitchBinding}

/-- A change of one entry leaves the others as they are. -/
theorem modify_eq_ok {offset : UInt32} {f : SwitchEntry → SwitchEntry}
    (changed : t.modify offset f = .ok t') :
    t'.entries.size = t.entries.size ∧
      (∃ entry, t.get? offset = some entry ∧ t'.get? offset = some (f entry)) ∧
      ∀ other, offset ≠ other → t'.get? other = t.get? other := by
  unfold modify at changed
  split at changed
  · rename_i inside
    cases changed
    refine ⟨Array.size_modify, ⟨t.entries[offset.toNat], ?_, ?_⟩, fun other ne => ?_⟩
    · exact Array.getElem?_eq_getElem inside
    · rw [get?, Array.getElem?_modify, if_pos rfl, Array.getElem?_eq_getElem inside,
        Option.map_some]
    · have apart : offset.toNat ≠ other.toNat := fun same => ne (UInt32.toNat_inj.mp same)
      rw [get?, Array.getElem?_modify, if_neg apart, get?]
  · cases changed

theorem binds_ofSize (bus : Bus SwitchBank) (size : UInt32) : (ofSize size).Binds bus size [] where
  length := Array.size_replicate
  bound offset lt := by
    refine ⟨{}, ?_, fun d => by cases d <;> rfl⟩
    rw [get?, ofSize, Array.getElem?_replicate]
    exact if_pos lt

end SwitchTable

/-! ## Names of layers -/

namespace AddressMap

/-- Layers of the same names are found under the same ids. -/
theorem named_congr {m m' : AddressMap} (names : m'.names = m.names) (name : String) :
    m'.named name = m.named name := by
  rw [named, named, layerId?_eq, layerId?_eq, names]

theorem names_setBases (m : AddressMap) (first count : ℕ) (entry : ℕ → PageEntry) :
    (Bus.setBases m first count entry).names = m.names := by
  induction count with
  | zero => rfl
  | succ count ih => rw [Bus.setBases_succ, names, setBase_layers]; exact ih

end AddressMap

/-! ## Tables -/

namespace Session

variable {bus bus' : Bus SwitchBank} {devices devices' : Registry} {t t' : SwitchTable}

theorem tableOk_eq_ok_iff {result : Except BusError SwitchTable} :
    tableOk result = .ok t ↔ result = .ok t := by
  cases result with
  | error e => exact iff_of_false nofun nofun
  | ok table => rw [tableOk, Except.ok.injEq, Except.ok.injEq]

/-- A binding sets what reads and what writes of its offset do, whatever it lists. -/
theorem bind_eq_ok {s : SwitchBinding} (bound : bind bus t s = .ok t') :
    t'.entries.size = t.entries.size ∧
      (∃ entry, t'.get? s.offset = some entry ∧ ∀ d, actionOf bus (s.op d) = .ok (entry.on d)) ∧
      ∀ other, s.offset ≠ other → t'.get? other = t.get? other := by
  unfold bind at bound
  simp only [bind_eq_ok_iff, tableOk_eq_ok_iff] at bound
  obtain ⟨read, resolves, t₁, first, write, resolves', second⟩ := bound
  obtain ⟨size, ⟨entry, -, read_set⟩, others⟩ := SwitchTable.modify_eq_ok first
  obtain ⟨size', ⟨entry', here, write_set⟩, others'⟩ := SwitchTable.modify_eq_ok second
  obtain rfl : { entry with read := read } = entry' := Option.some.inj (read_set.symm.trans here)
  refine ⟨size'.trans size, ⟨_, write_set, ?_⟩, fun other ne => ?_⟩
  · rintro (_ | _)
    · exact resolves
    · exact resolves'
  · exact (others' other ne).trans (others other ne)

/-- The table of a block does what the last bindings of its offsets say. -/
theorem tableOf_eq_ok {s : SwitchBlock} (tabled : tableOf bus s = .ok t) :
    t.Binds bus s.size s.switches := by
  refine foldlM_keeps (I := fun done t => t.Binds bus s.size done) ?_
    (SwitchTable.binds_ofSize bus s.size) tabled
  intro done binding t t' h bound
  obtain ⟨length, ⟨entry, here, resolves⟩, others⟩ := bind_eq_ok bound
  refine ⟨length.trans h.length, fun offset lt => ?_⟩
  by_cases own : binding.offset = offset
  · subst own
    refine ⟨entry, here, fun d => ?_⟩
    rw [SwitchBinding.last?_concat_self]
    exact resolves d
  · obtain ⟨entry, there, resolves⟩ := h.bound offset lt
    refine ⟨entry, (others offset own).trans there, fun d => ?_⟩
    rw [SwitchBinding.last?_concat_of_ne own]
    exact resolves d

/-- What is listed does the same with layers of the same names. -/
theorem actionOf_congr (names : bus'.map.names = bus.map.names) (op : Option SwitchOp) :
    actionOf bus' op = actionOf bus op := by
  have same (name : String) : layerNamed bus' name = layerNamed bus name := by
    rw [layerNamed, AddressMap.named_congr names, layerNamed]
  cases op with
  | none => rfl
  | some op => cases op <;> simp only [actionOf, same]

/-- What is listed does something. -/
theorem actionOf_some_ne_none (op : SwitchOp) : actionOf bus (some op) ≠ .ok .none := by
  cases op with
  | activate layer | deactivate layer =>
    intro resolves
    simp only [actionOf, bind_eq_ok_iff, pure, Except.pure] at resolves
    obtain ⟨id, -, ⟨⟩⟩ := resolves
  | select on off =>
    intro resolves
    simp only [actionOf, bind_eq_ok_iff, pure, Except.pure] at resolves
    obtain ⟨id, -, id', -, ⟨⟩⟩ := resolves
  | latch mode =>
    intro resolves
    cases resolves

end Session

/-! ## Blocks of a session -/

theorem SwitchTable.Binds.congr {t : SwitchTable} {bus bus' : Bus SwitchBank} {size : UInt32}
    {bindings : List SwitchBinding} (h : t.Binds bus size bindings)
    (names : bus'.map.names = bus.map.names) : t.Binds bus' size bindings where
  length := h.length
  bound offset lt := by
    obtain ⟨entry, here, resolves⟩ := h.bound offset lt
    exact ⟨entry, here, fun d => (Session.actionOf_congr names _).trans (resolves d)⟩

namespace Session

variable {bus bus' : Bus SwitchBank} {devices devices' : Registry}

/-- The block is on the bus as a bank that does what its bindings say. -/
def Bound (bus : Bus SwitchBank) (s : SwitchBlock) : Prop :=
  ∃ table id caps, bus.arena.Stands (s.slot table) id caps ∧ table.Binds bus s.size s.switches

theorem Bound.mono {s : SwitchBlock} (h : Bound bus s)
    (grown : ∃ slots, bus'.arena = bus.arena.adding slots)
    (names : bus'.map.names = bus.map.names) : Bound bus' s := by
  obtain ⟨table, id, caps, stands, binds⟩ := h
  obtain ⟨slots, eq⟩ := grown
  exact ⟨table, id, caps, eq ▸ stands.adding slots, binds.congr names⟩

theorem addBlock_bound {s : SwitchBlock}
    (added : addBlock (bus, devices) s = .ok (bus', devices')) :
    (∃ slots, bus'.arena = bus.arena.adding slots) ∧ bus'.map.names = bus.map.names ∧
      Bound bus' s := by
  obtain ⟨table, device, known, tabled, unused, -, -, -, rfl⟩ := addBlock_eq_ok added
  have names := AddressMap.names_setBases bus.map (bus.geometry.pageOf s.start)
    (bus.geometry.pageOf s.size)
  exact ⟨⟨[s.slot table], rfl⟩, names _, table, _, _, Arena.stands_last trivial unused,
    (tableOf_eq_ok tabled).congr (names _)⟩

theorem addBlocks_bound {blocks : List SwitchBlock} {final : Bus SwitchBank × Registry}
    (run : blocks.foldlM addBlock (bus, devices) = .ok final) :
    ∀ s ∈ blocks, Bound final.1 s := by
  refine foldlM_keeps (I := fun done state => ∀ s ∈ done, Bound state.1 s) ?_ nofun run
  intro done s state state' h added
  obtain ⟨grown, names, bound⟩ := addBlock_bound added
  refine List.forall_mem_append.mpr ⟨fun other mem => (h other mem).mono grown names, ?_⟩
  exact List.forall_mem_singleton.mpr bound

theorem showNamed_bound {l : LayerSpec} (shown : showNamed bus l = .ok bus') {s : SwitchBlock}
    (h : Bound bus s) : Bound bus' s := by
  have after := congrArg Prod.fst (showNamed_eq_ok_iff.mp shown)
  have fabric := bus.activateNamed_fabric l.name
  have names := (bus.activateNamed_sameButShown l.name).names_eq
  rw [after] at fabric names
  refine h.mono ⟨[], ?_⟩ names
  rw [Arena.adding_nil, Bus.arena, fabric, Bus.arena]

theorem build_bound {p : MonitorProfile} {trace : Option ℕ} {s : Session}
    (built : build p trace = .ok s) : ∀ block ∈ p.blocks, Bound s.bus block := by
  obtain ⟨base, bus₁, blocked, bus₃, stages⟩ := build_stages built
  obtain ⟨devices, blocks⟩ := stages.blocks
  intro block mem
  have shown : Bound bus₃ block := foldlM_keeps (I := fun _ bus => Bound bus block)
    (fun _ _ _ _ h shown => showNamed_bound shown h) (addBlocks_bound blocks block mem)
    stages.active
  refine shown.mono ⟨[], ?_⟩ ?_
  · rw [Arena.adding_nil, Bus.arena, stages.fabric_eq, Bus.arena]
  · rw [stages.map_eq]

/-- Each block of the profile of a session is on the bus, under its name, as a bank whose
table does for every offset, by reads and by writes, what the last binding of the offset
says: this is what the bindings list, if they list one thing at most, unless one of them
lists it and the last one nothing. -/
theorem build_binds {p : MonitorProfile} {trace : Option ℕ} {s : Session}
    (built : build p trace = .ok s) {block : SwitchBlock} (mem : block ∈ p.blocks) :
    ∃ table id caps, s.bus.arena.Stands (block.slot table) id caps ∧
      table.entries.size = block.size.toNat ∧
      ∀ offset < block.size, ∃ entry, table.get? offset = some entry ∧
        ∀ d, actionOf s.bus (SwitchBinding.last? block.switches offset d) = .ok (entry.on d) ∧
          ((SwitchBinding.listed block.switches offset d).length ≤ 1 →
            (actionOf s.bus (SwitchBinding.listed block.switches offset d).head? =
                .ok (entry.on d) ↔
              SwitchBinding.listed block.switches offset d = [] ∨
                SwitchBinding.last? block.switches offset d ≠ none)) := by
  obtain ⟨table, id, caps, stands, binds⟩ := build_bound built block mem
  refine ⟨table, id, caps, stands, binds.length, fun offset lt => ?_⟩
  obtain ⟨entry, here, resolves⟩ := binds.bound offset lt
  refine ⟨entry, here, fun d => ⟨resolves d, fun single => ?_⟩⟩
  rw [← SwitchBinding.head?_listed_eq_iff single]
  constructor
  · intro claimed
    cases last : SwitchBinding.last? block.switches offset d with
    | none =>
      -- Nothing is done, so nothing can have been listed.
      have inert := resolves d
      rw [last] at inert
      cases head : (SwitchBinding.listed block.switches offset d).head? with
      | none => rfl
      | some op =>
        rw [head, ← inert] at claimed
        exact absurd claimed (actionOf_some_ne_none op)
    | some op =>
      rw [← last]
      refine (SwitchBinding.head?_listed_eq_iff single).mpr (.inr ?_)
      rw [last]
      exact Option.some_ne_none op
  · intro same
    rw [same]
    exact resolves d

/-- An offset whose reads and writes are bound one after the other. -/
def boundTwice : SwitchBlock where
  name := "switches"
  start := 0x80
  size := 0x40
  switches :=
    [{ offset := 3, onRead := some (.activate "shade") },
     { offset := 3, onWrite := some (.latch 5) }]

/-- Memory of four pages under a layer and a block of switches. -/
def shaded : MonitorProfile where
  machine := layered.machine
  layers := [{ name := "shade", start := 0, size := 0x40 }]
  blocks := [boundTwice]

theorem exists_build_shaded : ∃ s, build shaded none = .ok s := by
  have built : (build shaded none).toOption.isSome = true := by decide_cbv
  obtain ⟨s, session⟩ := Option.isSome_iff_exists.mp built
  exact ⟨s, toOption_eq_some_iff.mp session⟩

theorem build_binds_shaded :
    ∃ s, build shaded none = .ok s ∧ boundTwice ∈ shaded.blocks ∧
      ∃ table id caps, s.bus.arena.Stands (boundTwice.slot table) id caps ∧
        table.get? 3 = some { read := .none, write := .latch 5 } := by
  obtain ⟨s, built⟩ := exists_build_shaded
  have mem : boundTwice ∈ shaded.blocks := List.mem_singleton_self _
  obtain ⟨table, id, caps, stands, -, bound⟩ := build_binds built mem
  obtain ⟨entry, here, resolves⟩ := bound 3 (by decide)
  have read : SwitchBinding.last? boundTwice.switches 3 .read = none := by decide
  have write : SwitchBinding.last? boundTwice.switches 3 .write = some (.latch 5) := by decide
  have inert := (resolves .read).1
  have latches := (resolves .write).1
  rw [read] at inert
  rw [write] at latches
  refine ⟨s, built, mem, table, id, caps, stands, ?_⟩
  obtain ⟨onRead, onWrite⟩ := entry
  cases inert
  cases latches
  exact here

/-- A read is bound, by one binding, to show the layer, and reads do nothing, since another
binding of the offset says nothing about them. -/
theorem binding_erased :
    ∃ s, build shaded none = .ok s ∧ boundTwice ∈ shaded.blocks ∧
      (∀ offset d, (SwitchBinding.listed boundTwice.switches offset d).length ≤ 1) ∧
      SwitchBinding.listed boundTwice.switches 3 .read = [.activate "shade"] ∧
      ∃ table id caps entry, s.bus.arena.Stands (boundTwice.slot table) id caps ∧
        table.get? 3 = some entry ∧ entry.read = .none ∧
        actionOf s.bus (some (.activate "shade")) ≠ .ok entry.read := by
  obtain ⟨s, built⟩ := exists_build_shaded
  have mem : boundTwice ∈ shaded.blocks := List.mem_singleton_self _
  obtain ⟨table, id, caps, stands, binds⟩ := build_bound built boundTwice mem
  obtain ⟨entry, here, resolves⟩ := binds.bound 3 (by decide)
  have inert : entry.read = .none := (Except.ok.inj (resolves .read)).symm
  refine ⟨s, built, mem, fun offset d => ?_, by decide, table, id, caps, entry, stands, here, inert,
    ?_⟩
  · by_cases three : 3 = offset
    · subst three
      cases d <;> decide
    · have none : SwitchBinding.ofOffset boundTwice.switches offset = [] := by
        simp [SwitchBinding.ofOffset, boundTwice, three]
      rw [SwitchBinding.listed, none]
      exact Nat.zero_le 1
  · rw [inert]
    exact actionOf_some_ne_none _

end Session
end Backplane
