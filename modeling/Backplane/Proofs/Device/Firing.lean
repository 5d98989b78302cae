import Backplane.Device.Switch
import Backplane.Proofs.Bus.Byte
import Backplane.Proofs.Bus.Isolation
import Backplane.Proofs.Overlay.Shown
import Backplane.Proofs.Target.Contents

/-!
# Fired switches

A byte that is read or written fires a switch if the access may have side effects,
its page lets it pass, and it is led to an offset of a bank. `firing?` says which
switch that is.

Serving a transaction that fires a switch is one call of its bank
(`served_of_firing?_eq_some`); serving any other transaction of a byte leaves all
banks alone, and issues and posts nothing (`served_of_firing?_eq_none`).
-/

namespace Backplane

/-! ## Actions -/

namespace SwitchAction

/-- The layer commands of an action, in order. -/
def commands : SwitchAction → List LayerCommand
  | none | latch _ => []
  | activate layer => [.activate layer]
  | deactivate layer => [.deactivate layer]
  | select on off => [.deactivate off, .activate on]

/-- The mode that an action latches. -/
def mode? : SwitchAction → Option UInt8
  | latch mode => some mode
  | none | activate _ | deactivate _ | select _ _ => Option.none

/-- The flags of the layers after an action. A layer is shown only if `allowed`
lets it. -/
def flags (allowed shown : Nat → Bool) : SwitchAction → Nat → Bool
  | none | latch _ => shown
  | activate layer => showAt allowed shown layer.index
  | deactivate layer => hideAt shown layer.index
  | select on off => showAt allowed (hideAt shown off.index) on.index

theorem foldl_commands (allowed shown : Nat → Bool) (action : SwitchAction) :
    action.commands.foldl (fun shown c => c.flags allowed shown) shown =
      action.flags allowed shown := by
  cases action <;> rfl

end SwitchAction

/-- The action of an entry for one way of touching it. -/
def SwitchEntry.on (entry : SwitchEntry) : Direction → SwitchAction
  | .read => entry.read
  | .write => entry.write

namespace SwitchBank

/-- The bank after an action. -/
def after (s : SwitchBank) (action : SwitchAction) : SwitchBank :=
  { s with mode := action.mode?.getD s.mode }

theorem fire_eq {α : Type} (s : SwitchBank) (action : SwitchAction) (value : SwitchBank → α) :
    s.fire action value =
      { state := s.after action
        result := .ok (value (s.after action))
        notices := (action.mode?.map NoticeKind.modeChanged).toList
        commands := action.commands } := by
  cases action <;> rfl

/-- An offset in range of a bank has an entry. -/
theorem get?_of_lt {s : SwitchBank} {offset : UInt32} (lt : offset < DeviceModel.size s) :
    ∃ entry, s.table.get? offset = some entry := by
  have le : (DeviceModel.size s).toNat ≤ s.table.entries.size := Nat.mod_le _ _
  have inside : offset.toNat < s.table.entries.size :=
    Nat.lt_of_lt_of_le (UInt32.lt_iff_toNat_lt.mp lt) le
  exact ⟨_, Array.getElem?_eq_getElem inside⟩

/-- What the fabric takes in of an action. -/
theorem absorb_fire {α : Type} (f : Fabric SwitchBank) (context : DeviceContext)
    (call : DeviceCall) (s : SwitchBank) (action : SwitchAction) (value : SwitchBank → α) :
    f.absorb context call (s.fire action value) =
      ({ arena := f.arena.modify call.cell.target (.setState (s.after action))
         notices := f.notices.pushAll (action.mode?.map fun mode =>
           ⟨context.deviceId, context.cycle, .modeChanged mode⟩).toList
         commands := f.commands ++ action.commands
         calls := f.calls.push call },
       .ok (value (s.after action))) := by
  rw [Fabric.absorb, fire_eq]
  cases action <;> rfl

end SwitchBank

/-! ## Firings -/

/-- A switch that was fired. -/
structure Firing where
  /-- The bank of the switch. -/
  bank : TargetId
  /-- What the switch does. -/
  action : SwitchAction
  /-- The device id of the page that led to the bank. -/
  deviceId : UInt32
  /-- The time of the access. -/
  cycle : UInt64
  deriving DecidableEq, Repr

namespace Firing

/-- The notice that a firing posts. -/
def notice? (f : Firing) : Option Notice :=
  f.action.mode?.map fun mode => ⟨f.deviceId, f.cycle, .modeChanged mode⟩

/-- The mode that a firing latches on the bank `id`. -/
def modeOn? (id : TargetId) (f : Firing) : Option UInt8 :=
  if f.bank = id then f.action.mode? else none

/-- The mode of the bank `id` after firings: the one latched on it last, or else
the one it had. -/
def lastMode (id : TargetId) (mode : UInt8) (fs : List Firing) : UInt8 :=
  (fs.filterMap (modeOn? id)).getLast?.getD mode

/-- The flags of the layers after firings in order. -/
def flags (allowed shown : Nat → Bool) (fs : List Firing) : Nat → Bool :=
  fs.foldl (fun shown f => f.action.flags allowed shown) shown

theorem lastMode_append (id : TargetId) (mode : UInt8) (fs gs : List Firing) :
    lastMode id mode (fs ++ gs) = lastMode id (lastMode id mode fs) gs := by
  rw [lastMode, lastMode, lastMode, List.filterMap_append, List.getLast?_append]
  cases (gs.filterMap (modeOn? id)).getLast? <;> rfl

theorem flags_append (allowed shown : Nat → Bool) (fs gs : List Firing) :
    flags allowed shown (fs ++ gs) = flags allowed (flags allowed shown fs) gs :=
  List.foldl_append

end Firing

/-- The bank of switches with this id. -/
def Arena.bank? (a : Arena SwitchBank) (id : TargetId) : Option SwitchBank :=
  match a.get? id with
  | some (.device bank) => some bank
  | _ => none

theorem Arena.bank?_eq_some {a : Arena SwitchBank} {id : TargetId} {bank : SwitchBank} :
    a.bank? id = some bank ↔ a.get? id = some (.device bank) := by
  unfold bank?
  split
  · rename_i here
    rw [here, Option.some.injEq, Option.some.injEq, Target.device.injEq]
  · rename_i other
    simp only [reduceCtorEq, false_iff]
    exact other bank

theorem Arena.Matches.bank? {a a' : Arena SwitchBank} (h : a.Matches id a') (i : TargetId) :
    a'.bank? i = a.bank? i := by
  unfold Arena.bank?
  rcases h.cases i with ⟨here, here'⟩ | ⟨t, t', here, here', alike⟩ <;> rw [here, here']
  cases alike with
  | device same => exact congrArg some same
  | _ => rfl

theorem Arena.bank?_setState (a : Arena SwitchBank) (i j : TargetId) (bank : SwitchBank) :
    (a.modify i (.setState bank)).bank? j =
      if i = j then (a.bank? j).map fun _ => bank else a.bank? j := by
  rw [bank?, get?_modify, bank?]
  by_cases eq : i = j
  · rw [if_pos eq, if_pos eq]
    cases a.get? j with
    | none => rfl
    | some t => cases t <;> rfl
  · rw [if_neg eq, if_neg eq]

namespace Bus

/-- The switch that a transaction of a byte fires on `b`, if any. -/
def firing? (b : Bus SwitchBank) (x : Transaction) : Option Firing :=
  if x.access.suppressesSideEffects then none
  else match b.resolve x.access with
    | .error _ => none
    | .ok r =>
      match b.arena.route x.direction r.cell with
      | .error _ => none
      | .ok leaf =>
        match b.arena.get? leaf.target with
        | some (.device bank) =>
          if leaf.offset < DeviceModel.size bank then
            (bank.table.get? leaf.offset).map fun entry =>
              ⟨leaf.target, entry.on x.direction, r.entry.deviceId, x.access.cycle⟩
          else none
        | _ => none

/-- The switches that transactions fire one after the other, each on the bus that
those before it leave. -/
def firings (b : Bus SwitchBank) : List Transaction → List Firing
  | [] => []
  | x :: xs => (b.firing? x).toList ++ firings (b.transact x) xs

theorem firings_append (b : Bus SwitchBank) (xs ys : List Transaction) :
    b.firings (xs ++ ys) = b.firings xs ++ (xs.foldl transact b).firings ys := by
  induction xs generalizing b with
  | nil => rfl
  | cons x xs ih => rw [List.cons_append, firings, ih, firings, List.append_assoc, List.foldl_cons]

variable {b b' b'' : Bus SwitchBank} {x : Transaction}

/-- The transaction `x` fires `entry` of `bank`, to which `r` and `leaf` lead. -/
structure Fires (b : Bus SwitchBank) (x : Transaction) (r : Resolved) (leaf : Cell)
    (bank : SwitchBank) (entry : SwitchEntry) : Prop where
  loud : x.access.suppressesSideEffects = false
  resolved : b.resolve x.access = .ok r
  routed : b.arena.route x.direction r.cell = .ok leaf
  here : b.arena.get? leaf.target = some (.device bank)
  inside : leaf.offset < DeviceModel.size bank
  found : bank.table.get? leaf.offset = some entry

theorem Fires.firing? {r : Resolved} {leaf : Cell} {bank : SwitchBank} {entry : SwitchEntry}
    (h : b.Fires x r leaf bank entry) :
    b.firing? x = some ⟨leaf.target, entry.on x.direction, r.entry.deviceId, x.access.cycle⟩ := by
  simp only [Bus.firing?, h.loud, h.resolved, h.routed, h.here, h.inside, h.found, if_true,
    Option.map_some, Bool.false_eq_true, if_false]

theorem fires_of_firing? {f : Firing} (h : b.firing? x = some f) :
    ∃ r leaf bank entry, b.Fires x r leaf bank entry ∧
      f = ⟨leaf.target, entry.on x.direction, r.entry.deviceId, x.access.cycle⟩ := by
  unfold firing? at h
  split at h
  · cases h
  rename_i loud
  split at h
  · cases h
  rename_i r resolved
  split at h
  · cases h
  rename_i leaf routed
  split at h
  · rename_i bank here
    split at h
    · rename_i inside
      obtain ⟨entry, found, rfl⟩ := Option.map_eq_some_iff.mp h
      exact ⟨r, leaf, bank, entry,
        ⟨Bool.eq_false_iff.mpr loud, resolved, routed, here, inside, found⟩, rfl⟩
    · cases h
  · cases h

/-! ## Service -/

theorem Fires.readByte {a : Access} {r : Resolved} {leaf : Cell} {bank : SwitchBank}
    {entry : SwitchEntry} (h : b.Fires (.read a) r leaf bank entry) :
    Bus.readByte b.fabric a r.entry r.cell =
      b.fabric.absorb (contextOf a r.entry) (.read leaf)
        (bank.fire entry.read SwitchBank.mode) := by
  obtain ⟨loud, -, routed, here, inside, found⟩ := h
  change a.suppressesSideEffects = false at loud
  change b.fabric.arena.route .read r.cell = _ at routed
  change b.fabric.arena.get? leaf.target = _ at here
  simp only [Bus.readByte, loud, Bool.false_eq_true, if_false, Fabric.read, routed, here, inside,
    if_true, DeviceModel.read, found]

theorem Fires.writeByte {a : Access} {r : Resolved} {leaf : Cell} {bank : SwitchBank}
    {entry : SwitchEntry} (h : b.Fires (.write a) r leaf bank entry) (value : UInt8) :
    Bus.writeByte b.fabric a r.entry r.cell value =
      b.fabric.absorb (contextOf a r.entry) (.write leaf value)
        (bank.fire entry.write fun _ => ()) := by
  obtain ⟨loud, -, routed, here, inside, found⟩ := h
  change a.suppressesSideEffects = false at loud
  change b.fabric.arena.route .write r.cell = _ at routed
  change b.fabric.arena.get? leaf.target = _ at here
  simp only [Bus.writeByte, loud, Bool.false_eq_true, if_false, Fabric.write, routed, here,
    inside, if_true, DeviceModel.write, found]

/-- Serving a transaction that fires a switch is one call of its bank, which
carries out the action. -/
theorem served_of_firing?_eq_some (byte : x.IsByte) {f : Firing} (fired : b.firing? x = some f) :
    ∃ bank, b.arena.bank? f.bank = some bank ∧
      (b.served x).arena = b.arena.modify f.bank (.setState (bank.after f.action)) ∧
      (b.served x).notices = b.fabric.notices.pushAll f.notice?.toList ∧
      (b.served x).commands = b.fabric.commands ++ f.action.commands := by
  obtain ⟨r, leaf, bank, entry, fires, rfl⟩ := fires_of_firing? fired
  refine ⟨bank, Arena.bank?_eq_some.mpr fires.here, ?_⟩
  cases x with
  | read a =>
    rw [served, servedRead_byte (a := a) byte fires.resolved, fires.readByte,
      SwitchBank.absorb_fire]
    exact ⟨rfl, rfl, rfl⟩
  | write a =>
    rw [served, servedWrite_byte (a := a) byte fires.resolved, fires.writeByte,
      SwitchBank.absorb_fire]
    exact ⟨rfl, rfl, rfl⟩

/-- A read that fires a switch answers with the mode of its bank after the
action. -/
theorem readAtomic_of_firing?_eq_some {a : Access} (byte : a.width = .byte) {f : Firing}
    (fired : b.firing? (.read a) = some f) :
    ∃ bank, b.arena.bank? f.bank = some bank ∧
      (b.readAtomic a).2 = .ok (bank.after f.action).mode.toUInt32 := by
  obtain ⟨r, leaf, bank, entry, fires, rfl⟩ := fires_of_firing? fired
  refine ⟨bank, Arena.bank?_eq_some.mpr fires.here, ?_⟩
  rw [readAtomic_eq, servedRead_byte byte fires.resolved, fires.readByte, SwitchBank.absorb_fire]
  rfl

/-- One fabric may have become the other without a switch being fired. -/
structure Unfired (f g : Fabric SwitchBank) : Prop where
  arena : f.arena.Matches id g.arena
  notices : g.notices = f.notices
  commands : g.commands = f.commands

theorem Unfired.refl (f : Fabric SwitchBank) : Unfired f f := ⟨.refl _, rfl, rfl⟩

theorem unfired_storeByte (f : Fabric SwitchBank) (cell : Cell) (value : UInt8) (size : Nat) :
    Unfired f (f.storeByte cell value size).1 := by
  unfold Fabric.storeByte
  split
  · exact ⟨f.arena.matches_store _ _ _ _, rfl, rfl⟩
  · exact .refl f

theorem unfired_peek (f : Fabric SwitchBank) (cell : Cell) : Unfired f (f.peek cell).1 := by
  obtain ⟨quiet, arena⟩ := f.peek_quiet cell
  exact ⟨arena ▸ .refl _, quiet.notices_eq, quiet.commands_eq⟩

/-- A bank takes no pokes. -/
theorem unfired_poke (f : Fabric SwitchBank) (cell : Cell) (value : UInt8) (bypass : Bool) :
    Unfired f (f.poke cell value bypass).1 := by
  unfold Fabric.poke
  split
  · exact .refl f
  · split
    · exact unfired_storeByte f _ _ _
    · split
      · exact unfired_storeByte f _ _ _
      · exact .refl f
    · rename_i bank here
      split
      · split
        · exact ⟨Arena.matches_setState here rfl, rfl, rfl⟩
        · exact .refl f
      · exact .refl f
    all_goals exact .refl f

/-- A transaction that fires no switch leaves all banks as they are, posts no
notice and issues no layer command. -/
theorem served_of_firing?_eq_none (byte : x.IsByte) (none : b.firing? x = none) :
    Unfired b.fabric (b.served x) := by
  have unfired {r leaf bank entry} : ¬b.Fires x r leaf bank entry := by
    intro h
    cases none.symm.trans h.firing?
  cases x with
  | read a =>
    change a.width = .byte at byte
    cases resolved : b.resolve a with
    | error fault =>
      rw [Bus.served, servedRead_refused resolved]
      exact .refl _
    | ok r =>
      rw [Bus.served, servedRead_byte byte resolved, Bus.readByte]
      cases loud : a.suppressesSideEffects with
      | true => exact unfired_peek b.fabric r.cell
      | false =>
        rw [if_neg Bool.false_ne_true, Fabric.read]
        split
        · exact .refl _
        · rename_i leaf routed
          split
          · exact .refl _
          · exact .refl _
          · rename_i bank here
            split
            · rename_i inside
              obtain ⟨entry, found⟩ := SwitchBank.get?_of_lt inside
              exact absurd ⟨loud, resolved, routed, here, inside, found⟩ unfired
            · exact .refl _
          all_goals exact .refl _
  | write a =>
    change a.width = .byte at byte
    cases resolved : b.resolve a with
    | error fault =>
      rw [Bus.served, servedWrite_refused resolved]
      exact .refl _
    | ok r =>
      rw [Bus.served, servedWrite_byte byte resolved, Bus.writeByte]
      cases loud : a.suppressesSideEffects with
      | true => exact unfired_poke b.fabric r.cell _ _
      | false =>
        rw [if_neg Bool.false_ne_true, Fabric.write]
        split
        · exact .refl _
        · rename_i leaf routed
          split
          · exact unfired_storeByte b.fabric _ _ _
          · exact .refl _
          · rename_i bank here
            split
            · rename_i inside
              obtain ⟨entry, found⟩ := SwitchBank.get?_of_lt inside
              exact absurd ⟨loud, resolved, routed, here, inside, found⟩ unfired
            · exact .refl _
          all_goals exact .refl _

end Bus
end Backplane
