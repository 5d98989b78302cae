import Mathlib
import Backplane.Proofs.Device.Firing
import Backplane.Proofs.Overlay.Restore

/-!
# Machines that follow their switch tables

The devices of a machine may all be banks of switches. What a run of byte accesses
makes of its layers, its latches and its notices is then told by the switches that
were fired, and by these alone: `Worked` says how, and every transaction of a byte
keeps to it (`transact_worked`).

Each transaction is served through the table that the one before it left, and that
table shows the layers which the switches fired so far have left shown. The data of
a run plays no part. The main statement is `run_follows_tables`.
-/

namespace Backplane

/-! ## Transfers byte by byte -/

namespace Transfer

/-- Whether a transfer is made of transactions of one byte, by its width or because
it is decomposed. -/
def IsBytewise : Transfer → Prop
  | read a | write a => a.width = .byte ∨ a.mode = .decomposed
  | _ => True

theorem isByte_of_mem_transactionsOfWrite {a : Access}
    (bytewise : a.width = .byte ∨ a.mode = .decomposed) {x : Transaction}
    (h : x ∈ transactionsOfWrite a) : x.IsByte := by
  unfold transactionsOfWrite at h
  split at h
  · rename_i atomic
    obtain rfl := List.mem_singleton.mp h
    rcases bytewise with byte | decomposed
    · exact byte
    · cases atomic.symm.trans decomposed
  · exact Transaction.isByte_of_mem_writes h

theorem isByte_of_mem_transactionsOfRead {a : Access}
    (bytewise : a.width = .byte ∨ a.mode = .decomposed) {x : Transaction}
    (h : x ∈ transactionsOfRead a) : x.IsByte := by
  unfold transactionsOfRead at h
  split at h
  · rename_i atomic
    obtain rfl := List.mem_singleton.mp h
    rcases bytewise with byte | decomposed
    · exact byte
    · cases atomic.symm.trans decomposed
  · exact Transaction.isByte_of_mem_reads h

theorem isByte_of_mem {t : Transfer} (bytewise : t.IsBytewise) {x : Transaction}
    (h : x ∈ t.transactions) : x.IsByte := by
  cases t with
  | read a => exact isByte_of_mem_transactionsOfRead bytewise h
  | write a => exact isByte_of_mem_transactionsOfWrite bytewise h
  | readMany a count => exact Transaction.isByte_of_mem_reads h
  | writeMany a bytes => exact Transaction.isByte_of_mem_writes h
  | readCpuByte address => exact isByte_of_mem_transactionsOfRead (a := .read address) (.inl rfl) h
  | writeCpuByte address value =>
    exact isByte_of_mem_transactionsOfWrite (a := .write address value) (.inl rfl) h
  | readCpu address bits =>
    rw [transactions] at h
    split at h
    · cases h
    · exact Transaction.isByte_of_mem_reads h
  | writeCpu address bits value =>
    rw [transactions] at h
    split at h
    · cases h
    · exact isByte_of_mem_transactionsOfWrite (.inr rfl) h
  | peekByte address =>
    exact isByte_of_mem_transactionsOfRead (a := .debugRead address) (.inl rfl) h
  | pokeByte address value =>
    exact isByte_of_mem_transactionsOfWrite (a := .debugWrite address value) (.inl rfl) h
  | capture start length intent => exact Transaction.isByte_of_mem_reads h

end Transfer

/-- A transaction without the data that it carries. -/
def Transaction.withoutData : Transaction → Transaction
  | read a => read { a with value := 0 }
  | write a => write { a with value := 0 }

theorem Transaction.isByte_withoutData (x : Transaction) : x.withoutData.IsByte ↔ x.IsByte := by
  cases x <;> exact Iff.rfl

namespace Bus

/-! ## What firings make of a bus -/

/-- A bus has become another by the firings `fired`: the flags of its layers are
worked in order, each bank is in the mode that was latched on it last, and each
latch has posted one notice. -/
structure Worked (b b' : Bus SwitchBank) (fired : List Firing) : Prop where
  shown : b'.map.isShown = Firing.flags b.map.mayShow b.map.isShown fired
  sameButShown : b.map.SameButShown b'.map
  banks : ∀ id, b'.arena.bank? id =
    (b.arena.bank? id).map fun bank =>
      { bank with mode := Firing.lastMode id bank.mode fired }
  notices : b'.fabric.notices = b.fabric.notices.pushAll (fired.filterMap Firing.notice?)
  idle : b'.fabric.commands = []

variable {b b' b'' c : Bus SwitchBank} {x : Transaction}

theorem Worked.refl (idle : b.fabric.commands = []) : b.Worked b [] where
  shown := rfl
  sameButShown := .refl _
  banks id := by
    cases b.arena.bank? id <;> rfl
  notices := rfl
  idle := idle

theorem Worked.trans {fs gs : List Firing} (h : b.Worked b' fs) (h' : b'.Worked b'' gs) :
    b.Worked b'' (fs ++ gs) where
  shown := by rw [h'.shown, h.sameButShown.mayShow, h.shown, Firing.flags_append]
  sameButShown := h.sameButShown.trans h'.sameButShown
  banks id := by
    rw [h'.banks, h.banks, Option.map_map]
    congr 1
    funext bank
    simp only [Function.comp_apply, Firing.lastMode_append]
  notices := by
    rw [h'.notices, h.notices, List.filterMap_append]
    exact List.foldl_append.symm
  idle := h'.idle

/-- A transaction of a byte does what the switch that it fires does, and nothing if
it fires none. -/
theorem transact_worked (idle : b.fabric.commands = []) (byte : x.IsByte) :
    b.Worked (b.transact x) (b.firing? x).toList := by
  have sameButShown : b.map.SameButShown (b.transact x).map := by
    rw [transact_map]
    exact b.map.commands_sameButShown _
  have settled : (b.transact x).fabric.commands = [] := by rw [transact_fabric]
  have shown : (b.transact x).map.isShown =
      (b.served x).commands.foldl (fun shown c => c.flags b.map.mayShow shown) b.map.isShown := by
    rw [transact_map, AddressMap.commands_isShown]
  have posted : (b.transact x).fabric.notices = (b.served x).notices := by rw [transact_fabric]
  cases fired : b.firing? x with
  | none =>
    obtain ⟨arena, notices, commands⟩ := served_of_firing?_eq_none byte fired
    refine ⟨?_, sameButShown, ?_, posted.trans notices, settled⟩
    · rw [shown, commands, idle]
      rfl
    · intro id
      rw [transact_arena, arena.bank?]
      show b.arena.bank? id = _
      cases b.arena.bank? id <;> rfl
  | some f =>
    obtain ⟨bank, here, arena, notices, commands⟩ := served_of_firing?_eq_some byte fired
    refine ⟨?_, sameButShown, ?_, posted.trans ?_, settled⟩
    · rw [shown, commands, idle, List.nil_append, SwitchAction.foldl_commands]
      rfl
    · intro id
      rw [transact_arena, arena, Arena.bank?_setState]
      by_cases eq : f.bank = id
      · rw [if_pos eq, ← eq, here]
        simp only [Option.map_some, Firing.lastMode, Option.toList_some, List.filterMap_cons,
          List.filterMap_nil, Firing.modeOn?, if_true, SwitchBank.after]
        cases f.action.mode? <;> rfl
      · rw [if_neg eq]
        simp only [Firing.lastMode, Option.toList_some, List.filterMap_cons, List.filterMap_nil,
          Firing.modeOn?, if_neg eq]
        cases b.arena.bank? id <;> rfl
    · rw [notices]
      cases posts : f.notice? <;> simp [posts]

/-- Transactions of bytes do what the switches that they fire do. -/
theorem transactions_worked (idle : b.fabric.commands = []) {xs : List Transaction}
    (bytes : ∀ x ∈ xs, x.IsByte) : b.Worked (xs.foldl transact b) (b.firings xs) := by
  induction xs generalizing b with
  | nil => exact .refl idle
  | cons x xs ih =>
    have first := transact_worked idle (bytes x List.mem_cons_self)
    exact first.trans (ih first.idle fun y hy => bytes y (List.mem_cons_of_mem _ hy))

/-! ## The table that serves the next byte -/

theorem obey_frame {σ : Type} [DeviceModel σ] (s : Bus σ × Overlay) (xs : List Transaction) :
    (xs.foldl Overlay.obey s).2.base = s.2.base ∧
      (xs.foldl Overlay.obey s).2.kept = s.2.kept := by
  induction xs generalizing s with
  | nil => exact ⟨rfl, rfl⟩
  | cons x xs ih =>
    have first := s.2.commands_frame (s.1.served x).commands
    exact ⟨(ih _).1.trans first.1, (ih _).2.trans first.2⟩

/-- The live table shows the layers that the firings left shown, over the same base
as before. -/
theorem transactions_withShown {o : Overlay} (h : b.map.Realizes o)
    (few : b.map.layers.size ≤ maxLayers) (idle : b.fabric.commands = [])
    {xs : List Transaction} (bytes : ∀ x ∈ xs, x.IsByte) :
    (xs.foldl transact b).map.Realizes
      (o.withShown (Firing.flags b.map.mayShow b.map.isShown (b.firings xs))) := by
  have worked := transactions_worked idle bytes
  have few' : (xs.foldl transact b).map.layers.size ≤ maxLayers := by
    have same := congrArg List.length worked.sameButShown.hidden
    simp only [List.length_map, Array.length_toList] at same
    rwa [same]
  have obeyed := Overlay.transactions_realize h xs few'
  have frame := obey_frame (b, o) xs
  rw [← worked.shown]
  exact h.withShown obeyed worked.sameButShown frame.1 frame.2

/-! ## Data -/

/-- Two machines differ at most in the bytes of memory. -/
structure SameButData (b c : Bus SwitchBank) : Prop where
  map : c.map = b.map
  arena : b.arena.Matches id c.arena
  idle : b.fabric.commands = []
  idle' : c.fabric.commands = []

theorem SameButData.refl (idle : b.fabric.commands = []) : b.SameButData b :=
  ⟨rfl, .refl _, idle, idle⟩

/-- No switch asks for the data. -/
theorem firing?_withoutData (b : Bus SwitchBank) (x : Transaction) :
    b.firing? x.withoutData = b.firing? x := by
  cases x <;> rfl

theorem SameButData.firing? (h : b.SameButData c) (x : Transaction) :
    c.firing? x = b.firing? x := by
  unfold Bus.firing?
  rw [resolve_congr h.map]
  split
  · rfl
  · split
    · rfl
    · rename_i r _
      rw [h.arena.route]
      split
      · rfl
      · rename_i leaf _
        rcases h.arena.cases leaf.target with ⟨here, here'⟩ | ⟨t, t', here, here', alike⟩ <;>
          rw [here, here']
        cases alike with
        | @device bank bank' same =>
          obtain rfl : bank' = bank := same
          rfl
        | _ => rfl

theorem SameButData.transact (h : b.SameButData c) {y : Transaction} (byte : x.IsByte)
    (byte' : y.IsByte) (same : y.withoutData = x.withoutData) :
    (b.transact x).SameButData (c.transact y) := by
  have fired' : c.firing? y = b.firing? x := by
    rw [h.firing?, ← b.firing?_withoutData y, same, firing?_withoutData]
  have settled (b : Bus SwitchBank) (x : Transaction) : (b.transact x).fabric.commands = [] := by
    rw [transact_fabric]
  cases fired : b.firing? x with rw [fired] at fired'
  | none =>
    have left := served_of_firing?_eq_none byte fired
    have right := served_of_firing?_eq_none byte' fired'
    refine ⟨?_, ?_, settled b x, settled c y⟩
    · rw [transact_map, transact_map, left.commands, right.commands, h.idle, h.idle', h.map]
    · rw [transact_arena, transact_arena]
      exact left.arena.symm.trans (h.arena.trans right.arena)
  | some f =>
    obtain ⟨bank, here, arena, -, commands⟩ := served_of_firing?_eq_some byte fired
    obtain ⟨bank', here', arena', -, commands'⟩ := served_of_firing?_eq_some byte' fired'
    refine ⟨?_, ?_, settled b x, settled c y⟩
    · rw [transact_map, transact_map, commands, commands', h.idle, h.idle', h.map]
    · rw [h.arena.bank?, here, Option.some.injEq] at here'
      rw [transact_arena, transact_arena, arena, arena', ← here']
      exact h.arena.setState _ _

/-- What is fired does not hang on the data that a run carries. -/
theorem SameButData.firings (h : b.SameButData c) {xs ys : List Transaction}
    (bytes : ∀ x ∈ xs, x.IsByte)
    (same : ys.map Transaction.withoutData = xs.map Transaction.withoutData) :
    c.firings ys = b.firings xs := by
  induction xs generalizing b c ys with
  | nil =>
    rw [List.map_nil, List.map_eq_nil_iff] at same
    rw [same]
    rfl
  | cons x xs ih =>
    cases ys with
    | nil => cases same
    | cons y ys =>
      rw [List.map_cons, List.map_cons, List.cons.injEq] at same
      have byte := bytes x List.mem_cons_self
      have byte' : y.IsByte := by
        rw [← Transaction.isByte_withoutData, same.1, Transaction.isByte_withoutData]
        exact byte
      have head : c.firing? y = b.firing? x := by
        rw [h.firing?, ← b.firing?_withoutData y, same.1, firing?_withoutData]
      have tail := ih (h.transact byte byte' same.1)
        (fun z hz => bytes z (List.mem_cons_of_mem _ hz)) same.2
      rw [Bus.firings, Bus.firings, head, tail]

/-! ## Runs -/

/-- A run of byte accesses on a machine whose devices are banks of switches does what
the switches do that it fires, and nothing else: this settles which layers are shown,
the mode of every bank and the notices. Each read of a switch answers with the mode
of its bank after the action. Every byte of a decomposed access is served by the bus
that the byte before it left, and at each point of the run the live table shows the
layers that the switches fired so far left shown. The data of the run plays no
part. -/
theorem run_follows_tables (h : b.Reachable) (few : b.map.layers.size ≤ maxLayers)
    (ts : List Transfer) (bytewise : ∀ t ∈ ts, t.IsBytewise) :
    let xs := ts.flatMap Transfer.transactions
    b.Worked (ts.foldl transfer b) (b.firings xs) ∧
    (∀ before a after, xs = before ++ .read a :: after →
      ∀ f, (before.foldl transact b).firing? (.read a) = some f →
        ∃ bank, b.arena.bank? f.bank = some bank ∧
          ((before.foldl transact b).readAtomic a).2 =
            .ok (Firing.lastMode f.bank bank.mode
              (b.firings (before ++ [.read a]))).toUInt32) ∧
    (∀ a count lane, lane < count →
      (b.readMany a count).2.bytes[lane]? =
        some ((((Transaction.reads a lane).foldl transact b).readAtomic (a.lane lane)).2.map
          UInt32.toUInt8)) ∧
    (∃ o, b.map.Realizes o ∧ ∀ before, before <+: xs →
      (before.foldl transact b).map.Realizes
        (o.withShown (Firing.flags b.map.mayShow b.map.isShown (b.firings before)))) ∧
    (∀ ys : List Transaction,
      ys.map Transaction.withoutData = xs.map Transaction.withoutData →
        b.firings ys = b.firings xs) := by
  intro xs
  have idle := h.commands_eq_nil
  have bytes : ∀ x ∈ xs, x.IsByte := by
    intro x hx
    obtain ⟨t, ht, hx⟩ := List.mem_flatMap.mp hx
    exact Transfer.isByte_of_mem (bytewise t ht) hx
  refine ⟨?_, ?_, fun a count lane lt => b.readMany_getElem? a lt, ?_, ?_⟩
  · rw [transfers_eq_foldl]
    exact transactions_worked idle bytes
  · intro before a after split f fired
    have bytes' : ∀ x ∈ before, x.IsByte := by
      intro x hx
      exact bytes x (split ▸ List.mem_append_left _ hx)
    have byte : a.width = .byte := bytes (.read a) (by simp [split])
    obtain ⟨bank, here, answer⟩ := readAtomic_of_firing?_eq_some byte fired
    rw [(transactions_worked idle bytes').banks, Option.map_eq_some_iff] at here
    obtain ⟨first, there, rfl⟩ := here
    refine ⟨first, there, ?_⟩
    rw [answer, firings_append, Firing.lastMode_append, firings, firings, fired]
    simp only [Option.toList_some, List.append_nil, SwitchBank.after, Firing.lastMode,
      List.filterMap_cons, List.filterMap_nil, Firing.modeOn?, if_true]
    cases f.action.mode? <;> rfl
  · obtain ⟨o, realizes⟩ := h.realizes few
    refine ⟨o, realizes, ?_⟩
    intro before part
    exact transactions_withShown realizes few idle fun x hx => bytes x (part.subset hx)
  · intro ys same
    exact (SameButData.refl idle).firings bytes same

/-- Two banks of switches, one of them under a layer over the other. The first shows
the layer when its offset 0 is read; then offset 2 of the second hides the layer
again. Both latch modes. -/
def stacked : Bus SwitchBank :=
  (Bus.empty smallSpace).run
    [.addTarget "lower" (.device { table :=
        ⟨#[{ read := .activate ⟨0⟩ }, { read := .latch 1 }, {}, { read := .latch 4 }]⟩ }),
     .addTarget "upper" (.device { table :=
        ⟨#[{}, { read := .latch 9 }, { read := .select ⟨7⟩ ⟨0⟩ }, { read := .latch 2 }]⟩ }),
     .mapRange 0 4 { target := ⟨0⟩, perms := .all, region := .io, deviceId := 3 },
     .createLayer "cover" 0, .saveBase 0 1,
     .setLayerMapping "cover" { base := 0, target := ⟨1⟩, perms := .all, deviceId := 8 }]

/-- A decomposed read of the page meets the lower bank, then the upper one twice, and
then the lower one again. -/
theorem run_follows_tables_stacked :
    let t := Transfer.read
      { address := 0, width := .word, mode := .decomposed, intent := .dataRead, cycle := 5 }
    let fired : List Firing :=
      [⟨⟨0⟩, .activate ⟨0⟩, 3, 5⟩, ⟨⟨1⟩, .latch 9, 8, 5⟩, ⟨⟨1⟩, .select ⟨7⟩ ⟨0⟩, 8, 5⟩,
        ⟨⟨0⟩, .latch 4, 3, 5⟩]
    stacked.Reachable ∧ stacked.map.layers.size ≤ maxLayers ∧ (∀ t' ∈ [t], t'.IsBytewise) ∧
      stacked.firings t.transactions = fired ∧ stacked.Worked (stacked.transfer t) fired ∧
      (stacked.transfer t).fabric.notices.pending =
        [⟨8, 5, .modeChanged 9⟩, ⟨3, 5, .modeChanged 4⟩] := by
  intro t fired
  have reachable : stacked.Reachable := (Reachable.empty smallSpace).run _
  have few : stacked.map.layers.size ≤ maxLayers := by decide_cbv
  have bytewise : ∀ t' ∈ [t], t'.IsBytewise := by
    intro t' ht
    obtain rfl := List.mem_singleton.mp ht
    exact .inr rfl
  have firings : stacked.firings t.transactions = fired := by decide_cbv
  obtain ⟨worked, -⟩ := run_follows_tables reachable few [t] bytewise
  simp only [List.flatMap_cons, List.flatMap_nil, List.append_nil, List.foldl_cons,
    List.foldl_nil, firings] at worked
  have quiet : stacked.fabric.notices = .withCapacity NoticeQueue.standardCapacity := by
    decide_cbv
  refine ⟨reachable, few, bytewise, firings, worked, ?_⟩
  rw [worked.notices, quiet]
  decide_cbv

end Bus
end Backplane
