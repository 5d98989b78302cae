import Mathlib
import Backplane.Proofs.Bus.Notes
import Backplane.Proofs.Monitor.Run

/-!
# Inspection is invisible

Some commands of a session only look: at memory, at listings, at the trace. They may
be left out of any list of commands, and all others answer as before and leave the
machine as before; only the trace tells the difference.

The session that looks and the one that does not are followed side by side. They
differ in no more than what their buses have noted (`SameButNotes`): a command that
only looks leaves nothing but notes (`execute_inspection`), and the others do not ask
for them (`execute_sameButNotes`). The main statement is `inspection_invisible`.
-/

namespace Backplane

/-- Whether a command only looks. -/
def Command.inspects : Command → Bool
  | dump _ _ | peek _ | regions | layers | trace _ | devices | help => true
  | poke _ _ | read _ _ | write _ _ _ | layer _ _ | events => false

/-! ## Operations on both buses -/

namespace Bus

variable {σ : Type} {b c : Bus σ}

/-- An operation on either bus, with the same answer from both. -/
theorem exists_outcome {α : Type} {x y : Bus σ × α} (left : x.1.SameButNotes y.1)
    (answer : y.2 = x.2) :
    ∃ b' c' result, x = (b', result) ∧ y = (c', result) ∧ b'.SameButNotes c' :=
  ⟨x.1, y.1, x.2, rfl, Prod.ext rfl answer, left⟩

theorem setActive_sameButNotes (same : b.SameButNotes c) (name : String) (on : Bool) :
    ∃ b' c' result,
      (if on then b.activateNamed name else b.deactivateNamed name) = (b', result) ∧
      (if on then c.activateNamed name else c.deactivateNamed name) = (c', result) ∧
      b'.SameButNotes c' := by
  unfold activateNamed deactivateNamed
  rw [same.map]
  cases b.map.named name with
  | error e => cases on <;> exact ⟨b, c, _, rfl, rfl, same⟩
  | ok id =>
    dsimp only [activate, deactivate, onMap]
    rw [same.map]
    cases on <;> exact ⟨_, _, _, rfl, rfl, rfl, same.fabric⟩

theorem drainNotices_sameButNotes (same : b.SameButNotes c) :
    ∃ b' c' pending, b.drainNotices = (b', pending) ∧ c.drainNotices = (c', pending) ∧
      b'.SameButNotes c' := by
  obtain ⟨map, calls, fabric⟩ := same
  unfold drainNotices
  rw [fabric]
  exact ⟨_, _, _, rfl, rfl, map, calls, rfl⟩

variable [DeviceModel σ]

theorem read_sameButNotes (same : b.SameButNotes c) (a : Access) :
    ∃ b' c' result, b.read a = (b', result) ∧ c.read a = (c', result) ∧ b'.SameButNotes c' :=
  exists_outcome (transfer_sameButNotes same (.read a))
    (Reply.value.inj (reply_sameButNotes same (.read a)))

theorem write_sameButNotes (same : b.SameButNotes c) (a : Access) :
    ∃ b' c' result, b.write a = (b', result) ∧ c.write a = (c', result) ∧ b'.SameButNotes c' :=
  exists_outcome (transfer_sameButNotes same (.write a))
    (Reply.stored.inj (reply_sameButNotes same (.write a)))

theorem writeMany_sameButNotes (same : b.SameButNotes c) (a : Access) (bytes : List UInt8) :
    ∃ b' c' writes, b.writeMany a bytes = (b', writes) ∧ c.writeMany a bytes = (c', writes) ∧
      b'.SameButNotes c' :=
  exists_outcome (transfer_sameButNotes same (.writeMany a bytes))
    (congrArg (ByteWrites.mk a.address)
      (Reply.results.inj (reply_sameButNotes same (.writeMany a bytes))))

end Bus

/-! ## Sessions -/

namespace Session

/-- Two sessions differ at most in what their buses have noted. -/
structure SameButNotes (s t : Session) : Prop where
  bus : s.bus.SameButNotes t.bus
  devices : t.devices = s.devices
  cycle : t.cycle = s.cycle

variable {s t u : Session}

theorem SameButNotes.refl (s : Session) : s.SameButNotes s := ⟨.refl _, rfl, rfl⟩

theorem SameButNotes.symm (same : s.SameButNotes t) : t.SameButNotes s :=
  ⟨same.bus.symm, same.devices.symm, same.cycle.symm⟩

theorem SameButNotes.trans (first : s.SameButNotes t) (second : t.SameButNotes u) :
    s.SameButNotes u :=
  ⟨first.bus.trans second.bus, second.devices.trans first.devices,
    second.cycle.trans first.cycle⟩

/-! ## One command -/

/-- The operation of a command that only looks is a read without side effects. -/
theorem operation?_of_inspects {c : Command} (inspects : c.inspects = true)
    {o : Operation SwitchBank} (h : s.operation? c = some o) :
    ∃ t, o = .transfer t ∧ t.isRead = true ∧ t.request.suppressesSideEffects = true := by
  cases c with
  | dump start length =>
    simp only [operation?] at h
    split at h
    · cases h
    · cases h
      exact ⟨_, rfl, rfl, rfl⟩
  | peek address =>
    cases h
    exact ⟨_, rfl, rfl, rfl⟩
  | regions | layers | trace | devices | help => cases h
  | poke | read | write | layer | events => cases inspects

theorem cycle_of_inspects {c : Command} (inspects : c.inspects = true) :
    (s.execute c).1.cycle = s.cycle := by
  cases c with
  | dump start length =>
    simp only [execute, dump]
    split <;> rfl
  | peek address =>
    simp only [execute, peek]
    split <;> rfl
  | regions | layers | trace | devices | help => rfl
  | poke | read | write | layer | events => cases inspects

/-- A command that only looks leaves nothing but notes. -/
theorem execute_inspection (h : s.bus.Reachable) {c : Command} (inspects : c.inspects = true) :
    s.SameButNotes (s.execute c).1 := by
  obtain ⟨bus, devices⟩ := s.execute_bus c
  refine ⟨?_, devices, cycle_of_inspects inspects⟩
  rw [bus]
  cases operation : s.operation? c with
  | none => exact .refl _
  | some o =>
    obtain ⟨t, rfl, read, suppressed⟩ := operation?_of_inspects inspects operation
    exact Bus.transfer_noted h.commands_eq_nil read suppressed

theorem poke_sameButNotes (same : s.SameButNotes t) (address : UInt32) (bytes : List UInt8) :
    (s.poke address bytes).1.SameButNotes (t.poke address bytes).1 ∧
      (t.poke address bytes).2 = (s.poke address bytes).2 := by
  obtain ⟨b, c, writes, hb, hc, left⟩ := Bus.writeMany_sameButNotes same.bus
    (Access.fromTooling { address := address, intent := .debugWrite, mode := .decomposed }) bytes
  unfold poke
  rw [hb, hc]
  exact ⟨⟨left, same.devices, same.cycle⟩, rfl⟩

/-- The next processor access is the same, and so is what is left to count. -/
theorem processorAccess_sameButNotes (same : s.SameButNotes t) (address : UInt32)
    (intent : Intent) (bits : UInt8) :
    (∃ e, s.processorAccess address intent bits = .error e ∧
      t.processorAccess address intent bits = .error e) ∨
    ∃ s' t' access, s.processorAccess address intent bits = .ok (s', access) ∧
      t.processorAccess address intent bits = .ok (t', access) ∧ s'.SameButNotes t' := by
  unfold processorAccess
  cases Width.ofBits bits with
  | error e => exact .inl ⟨e, rfl, rfl⟩
  | ok width =>
    dsimp only
    rw [same.cycle]
    exact .inr ⟨_, _, _, rfl, rfl, same.bus, same.devices, rfl⟩

theorem read_sameButNotes (same : s.SameButNotes t) (address : UInt32) (bits : UInt8) :
    (s.read address bits).1.SameButNotes (t.read address bits).1 ∧
      (t.read address bits).2 = (s.read address bits).2 := by
  unfold read
  rcases processorAccess_sameButNotes same address .dataRead bits with
    ⟨e, hs, ht⟩ | ⟨s', t', access, hs, ht, same'⟩
  · rw [hs, ht]
    exact ⟨same, rfl⟩
  · obtain ⟨b, c, result, hb, hc, left⟩ := Bus.read_sameButNotes same'.bus access
    rw [hs, ht]
    dsimp only
    rw [hb, hc]
    cases result <;> exact ⟨⟨left, same'.devices, same'.cycle⟩, rfl⟩

theorem write_sameButNotes (same : s.SameButNotes t) (address value : UInt32) (bits : UInt8) :
    (s.write address value bits).1.SameButNotes (t.write address value bits).1 ∧
      (t.write address value bits).2 = (s.write address value bits).2 := by
  unfold write
  rcases processorAccess_sameButNotes same address .dataWrite bits with
    ⟨e, hs, ht⟩ | ⟨s', t', access, hs, ht, same'⟩
  · rw [hs, ht]
    exact ⟨same, rfl⟩
  · obtain ⟨b, c, result, hb, hc, left⟩ :=
      Bus.write_sameButNotes same'.bus { access with value := value }
    rw [hs, ht]
    dsimp only
    rw [hb, hc]
    cases result <;> exact ⟨⟨left, same'.devices, same'.cycle⟩, rfl⟩

theorem setLayer_sameButNotes (same : s.SameButNotes t) (name : String) (on : Bool) :
    (s.setLayer name on).1.SameButNotes (t.setLayer name on).1 ∧
      (t.setLayer name on).2 = (s.setLayer name on).2 := by
  obtain ⟨b, c, result, hb, hc, left⟩ := Bus.setActive_sameButNotes same.bus name on
  unfold setLayer
  rw [hb, hc]
  cases result <;> exact ⟨⟨left, same.devices, same.cycle⟩, rfl⟩

theorem events_sameButNotes (same : s.SameButNotes t) :
    s.events.1.SameButNotes t.events.1 ∧ t.events.2 = s.events.2 := by
  obtain ⟨b, c, pending, hb, hc, left⟩ := Bus.drainNotices_sameButNotes same.bus
  obtain ⟨calls, fabric⟩ := same.bus.fabric
  have dropped : t.bus.fabric.notices.dropped = s.bus.fabric.notices.dropped := by rw [fabric]
  unfold events
  rw [hb, hc, dropped]
  exact ⟨⟨left, same.devices, same.cycle⟩, rfl⟩

/-- A command that does more than look does not ask for notes. -/
theorem execute_sameButNotes (same : s.SameButNotes t) {c : Command}
    (acts : c.inspects = false) :
    (s.execute c).1.SameButNotes (t.execute c).1 ∧ (t.execute c).2 = (s.execute c).2 := by
  cases c with
  | poke address bytes => exact poke_sameButNotes same address bytes
  | read address bits => exact read_sameButNotes same address bits
  | write address value bits => exact write_sameButNotes same address value bits
  | layer name on => exact setLayer_sameButNotes same name on
  | events => exact events_sameButNotes same
  | dump | peek | regions | layers | trace | devices | help => cases acts

/-! ## Lists of commands -/

/-- Commands in order, each with its answer. -/
def answers (s : Session) : List Command → List (Command × Except MonitorError String)
  | [] => []
  | c :: cs => (c, (s.execute c).2) :: (s.execute c).1.answers cs

/-- The commands that do more than look. -/
def acting (cs : List Command) : List Command := cs.filter fun c => !c.inspects

/-- Of a session that looks and of one that does not, all other answers are the same,
and so is what is left, but for notes. -/
theorem acting_sameButNotes (h : s.bus.Reachable) (same : s.SameButNotes t) (cs : List Command) :
    (s.answers cs).filter (fun a => !a.1.inspects) = t.answers (acting cs) ∧
      (s.after cs).SameButNotes (t.after (acting cs)) := by
  induction cs generalizing s t with
  | nil => exact ⟨rfl, same⟩
  | cons c cs ih =>
    have next := (s.execute_leads c).reachable h
    cases inspects : c.inspects with
    | true =>
      have skipped : acting (c :: cs) = acting cs := List.filter_cons_of_neg (by simp [inspects])
      have still := (execute_inspection h inspects).symm.trans same
      rw [answers, List.filter_cons_of_neg (by simp [inspects]), skipped]
      exact ih next still
    | false =>
      have kept : acting (c :: cs) = c :: acting cs := List.filter_cons_of_pos (by simp [inspects])
      obtain ⟨left, answer⟩ := execute_sameButNotes same inspects
      obtain ⟨answers, after⟩ := ih next left
      rw [Session.answers, List.filter_cons_of_pos (by simp [inspects]), kept, Session.answers,
        answers, answer]
      exact ⟨rfl, after⟩

/-- Leaving out all commands that only look changes no other answer, and at the end
neither the targets nor the map, the notices, the commands that wait, the devices or the
count of accesses. -/
theorem inspection_invisible {p : MonitorProfile} {trace : Option Nat}
    (built : build p trace = .ok s) (cs : List Command) :
    (s.answers cs).filter (fun a => !a.1.inspects) = s.answers (acting cs) ∧
      (s.after cs).bus.arena = (s.after (acting cs)).bus.arena ∧
      (s.after cs).bus.map = (s.after (acting cs)).bus.map ∧
      (s.after cs).bus.fabric.notices = (s.after (acting cs)).bus.fabric.notices ∧
      (s.after cs).bus.fabric.commands = (s.after (acting cs)).bus.fabric.commands ∧
      (s.after cs).devices = (s.after (acting cs)).devices ∧
      (s.after cs).cycle = (s.after (acting cs)).cycle := by
  obtain ⟨answers, ⟨map, calls, fabric⟩, devices, cycle⟩ :=
    acting_sameButNotes (build_reachable built) (.refl s) cs
  refine ⟨answers, ?_, map.symm, ?_, ?_, devices.symm, cycle.symm⟩
  · rw [Bus.arena, Bus.arena, fabric]
  · rw [fabric]
  · rw [fabric]

/-- Memory of four pages, a layer that is not shown on the second, and a block of
switches on the third, of which one latches a mode and one shows the layer. -/
def watched : MonitorProfile where
  machine :=
    { name := "watched"
      addressBits := 8
      pageShift := 6
      regions :=
        [{ name := "ram", start := 0, size := 0x100, perms := .all, region := .ram,
           kind := .memory (.ram 0) }] }
  layers := [{ name := "shadow", start := 0x40, size := 0x40, fill := 9 }]
  blocks :=
    [{ name := "switches", start := 0x80, size := 0x40,
       switches :=
         [{ offset := 0, onRead := some (.latch 5) },
          { offset := 1, onRead := some (.activate "shadow") }] }]

/-- Both switches are looked at and then fired; the second dump and a layer command
fail. -/
def tour : List Command :=
  [.dump 0x80 2, .events, .read 0x80 8, .peek 0x81, .dump 0x80 0x100, .read 0x81 8, .layers,
   .layer "none" true, .read 0x40 8, .trace 4]

/-- The tour and what it does without looking end alike, but for the trace. -/
theorem inspection_invisible_watched :
    ∃ s, build watched (some 4) = .ok s ∧
      (s.answers tour).filter (fun a => !a.1.inspects) = s.answers (acting tour) ∧
      (s.after tour).bus.map = (s.after (acting tour)).bus.map ∧
      (s.after (acting tour)).bus.map.layers.toList.map Layer.active = [true] ∧
      (s.after tour).bus.fabric.notices = (s.after (acting tour)).bus.fabric.notices ∧
      (s.after (acting tour)).bus.fabric.notices.pending = [⟨1, 1, .modeChanged 5⟩] ∧
      (s.after tour).bus.trace.map TraceRing.written = some 6 ∧
      (s.after (acting tour)).bus.trace.map TraceRing.written = some 3 := by
  have run : ((build watched (some 4)).toOption.map fun s =>
      ((s.after (acting tour)).bus.map.layers.toList.map Layer.active,
        (s.after (acting tour)).bus.fabric.notices.pending,
        (s.after tour).bus.trace.map TraceRing.written,
        (s.after (acting tour)).bus.trace.map TraceRing.written)) =
      some ([true], [⟨1, 1, .modeChanged 5⟩], some 6, some 3) := by
    decide_cbv
  cases built : build watched (some 4) with
  | error e =>
    rw [built] at run
    cases run
  | ok s =>
    rw [built, Except.toOption, Option.map_some, Option.some.injEq, Prod.mk.injEq,
      Prod.mk.injEq, Prod.mk.injEq] at run
    obtain ⟨shown, pending, looked, unlooked⟩ := run
    obtain ⟨answers, -, map, notices, -⟩ := inspection_invisible built tour
    exact ⟨s, rfl, answers, map, shown, notices, pending, looked, unlooked⟩

end Session
end Backplane
