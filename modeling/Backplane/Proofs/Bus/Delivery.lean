import Mathlib
import Backplane.Device.Probe
import Backplane.Proofs.Bus.Log
import Backplane.Proofs.Bus.Modes
import Backplane.Proofs.Bus.Overflow
import Backplane.Proofs.Bus.WideAccess

/-!
# Wide writes are delivered once

A wide write is routed three times: when it is checked, when its bytes are asked for a device
that has all of them, and when they are handed on one after the other. Routes do not hang on
what targets hold, so the three agree, and a wide write ends in one of three ways. The check
finds a byte that nothing takes (`Arena.Blocks`), and no handler is called. All bytes are found
in order in one device (`Arena.Spans`), and its handler is called once, with the whole value.
Or each byte is handed on by itself, the lowest first, up to the first that is refused
(`Bus.InTurn`).

The comparison of offsets is made in 32 bits. Where pages and windows leave room, the offsets of
a device that it finds one after the other are so as numbers (`spans_of_deviceSpan?`).

The main statement is `wide_write_delivered_once`.
-/

namespace Backplane

variable {σ : Type}

/-! ## Where the bytes of a wide write lead -/

namespace Arena

variable {a : Arena σ} {cell leaf : Cell} {bytes : Nat}

/-- A write to the cell leads into a gap or through too many targets, or to read-only memory. -/
def Blocks (a : Arena σ) (cell : Cell) : Prop :=
  (∃ reason, a.route .write cell = .error reason) ∨
    ∃ leaf m, a.route .write cell = .ok leaf ∧ a.get? leaf.target = some (.rom m)

/-- The bytes of a write to `cell` lead to consecutive offsets of one device, the first of them
to `leaf`. -/
structure Spans (a : Arena σ) (cell leaf : Cell) (bytes : Nat) : Prop where
  device : ∃ state, a.get? leaf.target = some (.device state)
  lanes : ∀ lane < bytes, ∃ next, a.route .write (cell.advance lane) = .ok next ∧
    next.target = leaf.target ∧ next.offset.toNat = leaf.offset.toNat + lane

theorem blocks_of_isProtected (held : a.isProtected cell false = true) : a.Blocks cell := by
  rw [isProtected, Bool.not_false, Bool.true_and] at held
  split at held
  · rename_i leaf route
    split at held
    · rename_i m rom
      exact .inr ⟨leaf, m, route, rom⟩
    · cases held
  · cases held

theorem Blocks.isProtected (h : a.Blocks cell) (route : a.route .write cell = .ok leaf) :
    a.isProtected cell false = true := by
  rcases h with ⟨reason, lost⟩ | ⟨leaf', m, route', rom⟩
  · cases lost.symm.trans route
  · simp only [Arena.isProtected, route', rom, Bool.not_false, Bool.and_self]

theorem not_blocks_of_device (route : a.route .write cell = .ok leaf) {state : σ}
    (device : a.get? leaf.target = some (.device state)) : ¬a.Blocks cell := by
  rintro (⟨reason, lost⟩ | ⟨next, m, route', rom⟩)
  · cases lost.symm.trans route
  · obtain rfl := Except.ok.inj (route'.symm.trans route)
    cases rom.symm.trans device

/-- The check before a wide write passes if nothing blocks a byte. -/
theorem checkLanes_eq_ok_iff {lanes : List Nat} :
    Bus.checkLanes a cell false lanes = .ok () ↔ ∀ lane ∈ lanes, ¬a.Blocks (cell.advance lane) := by
  constructor
  · intro passed lane mem blocks
    obtain ⟨free, leaf, route⟩ := Bus.checkLanes_eq_ok passed mem
    cases free.symm.trans (blocks.isProtected route)
  · intro free
    cases check : Bus.checkLanes a cell false lanes with
    | ok => rfl
    | error reason =>
      obtain ⟨lane, mem, held | lost⟩ := Bus.checkLanes_eq_error check
      · exact absurd (blocks_of_isProtected held) (free lane mem)
      · exact absurd (.inl lost) (free lane mem)

namespace Spans

variable (h : a.Spans cell leaf bytes)

include h

theorem hasRoom {lane : Nat} (lt : lane < bytes) : leaf.HasRoom lane := by
  obtain ⟨next, -, -, offset⟩ := h.lanes lane lt
  rw [Cell.HasRoom, ← offset]
  exact next.offset.toNat_lt

theorem route {lane : Nat} (lt : lane < bytes) :
    a.route .write (cell.advance lane) = .ok (leaf.advance lane) := by
  obtain ⟨⟨target, offset⟩, route, rfl, sum⟩ := h.lanes lane lt
  rw [← (h.hasRoom lt).toNat_advance] at sum
  obtain rfl := UInt32.toNat_inj.mp sum
  exact route

theorem not_blocks {lane : Nat} (lt : lane < bytes) : ¬a.Blocks (cell.advance lane) := by
  obtain ⟨state, device⟩ := h.device
  exact not_blocks_of_device (h.route lt) device

/-- The span is in the range of a device of `size` bytes if its last byte is. -/
theorem last_lt_iff (pos : 0 < bytes) (size : UInt32) :
    (leaf.advance (bytes - 1)).offset < size ↔ leaf.offset.toNat + bytes ≤ size.toNat := by
  have room := h.hasRoom (Nat.sub_lt pos Nat.one_pos)
  rw [UInt32.lt_iff_toNat_lt, room.toNat_advance]
  omega

/-- A device that has all bytes is found. -/
theorem deviceSpan?_eq (pos : 0 < bytes) : a.deviceSpan? cell bytes = some leaf := by
  obtain ⟨state, device⟩ := h.device
  have first := h.route pos
  rw [Cell.advance_zero, Cell.advance_zero] at first
  rw [deviceSpan?, first]
  dsimp only
  rw [device]
  refine if_pos (List.all_eq_true.mpr fun lane mem => ?_)
  rw [h.route (List.mem_range.mp mem)]
  exact decide_eq_true rfl

end Spans

/-- What is found is a device that has all bytes, if sums of offsets fit in 32 bits. -/
theorem spans_of_deviceSpan? (reach : a.WithinReach) (room : cell.HasRoom bytes)
    (found : a.deviceSpan? cell bytes = some leaf) : a.Spans cell leaf bytes := by
  obtain ⟨-, device, lanes⟩ := deviceSpan?_eq_some found
  have leafRoom := hasRoom_of_span reach room lanes
  refine ⟨device, fun lane lt => ⟨leaf.advance lane, lanes lane lt, rfl, ?_⟩⟩
  exact (leafRoom.mono (Nat.le_of_lt lt)).toNat_advance

end Arena

variable [DeviceModel σ]

/-! ## Calls -/

namespace Fabric

variable {f : Fabric σ} {cell leaf : Cell}

/-- The call that a write of a byte at `leaf` makes: of the device there, if it has the offset. -/
def callAt? (f : Fabric σ) (leaf : Cell) (value : UInt8) : Option DeviceCall :=
  match f.arena.get? leaf.target with
  | some (.device state) =>
    if leaf.offset < DeviceModel.size state then some (.write leaf value) else none
  | _ => none

theorem write_calls (route : f.arena.route .write cell = .ok leaf) (value : UInt8)
    (context : DeviceContext) :
    (f.write cell value context).1.calls.toList =
      f.calls.toList ++ (f.callAt? leaf value).toList := by
  have none : f.calls.toList = f.calls.toList ++ (none : Option DeviceCall).toList :=
    (List.append_nil _).symm
  simp only [write, route, callAt?]
  rcases Arena.routeWithin_leaf route with ⟨m, here⟩ | ⟨m, here⟩ | ⟨state, here⟩
  · simp only [here]
    rw [storeByte_calls]
    exact none
  · simp only [here]
    exact none
  · simp only [here]
    split
    · exact Array.toList_push
    · exact none

/-- A write of a byte that leads to a device is what its handler makes of it, if the device has
the offset, and refused if it has not. -/
theorem write_device (route : f.arena.route .write cell = .ok leaf) {state : σ}
    (device : f.arena.get? leaf.target = some (.device state)) (value : UInt8)
    (context : DeviceContext) :
    f.write cell value context =
      if leaf.offset < DeviceModel.size state then
        f.absorb context (.write leaf value) (DeviceModel.write state leaf.offset value context)
      else (f, .error .unbacked) := by
  rw [write, route]
  dsimp only
  rw [device]

end Fabric

namespace Bus

variable {b : Bus σ} {f : Fabric σ} {a : Access} {r : Resolved}

/-! ## Bytes that are handed on in turn -/

/-- The fabric after the first bytes of a write were handed on, whatever came of them. -/
def afterLanes (a : Access) (r : Resolved) (f : Fabric σ) : Nat → Fabric σ
  | 0 => f
  | lane + 1 =>
    ((afterLanes a r f lane).write (r.cell.advance lane) (Access.valueByte a.value lane)
      (contextOf a r.entry)).1

/-- What comes of byte `lane` of a write after those before it were handed on. -/
def laneAnswer (a : Access) (r : Resolved) (f : Fabric σ) (lane : Nat) : Except Reject Unit :=
  ((afterLanes a r f lane).write (r.cell.advance lane) (Access.valueByte a.value lane)
    (contextOf a r.entry)).2

/-- Handing bytes on changes no shape. -/
theorem afterLanes_matches (a : Access) (r : Resolved) (f : Fabric σ) (n : Nat) :
    f.arena.Matches (fun _ => ()) (afterLanes a r f n).arena := by
  induction n with
  | zero => exact .refl f.arena
  | succ n ih => exact ih.trans ((afterLanes a r f n).write_touches _ _ _).matches

/-- Each byte that leads to a device that has its offset is one call, and there is no other. -/
theorem afterLanes_calls {leaf : Nat → Cell} {n : Nat}
    (routes : ∀ lane < n, f.arena.route .write (r.cell.advance lane) = .ok (leaf lane)) :
    (afterLanes a r f n).calls.toList = f.calls.toList ++
      (List.range n).filterMap fun lane =>
        (afterLanes a r f lane).callAt? (leaf lane) (Access.valueByte a.value lane) := by
  induction n with
  | zero => exact (List.append_nil _).symm
  | succ n ih =>
    have route := routes n (Nat.lt_succ_self n)
    rw [← (afterLanes_matches a r f n).route] at route
    rw [afterLanes, Fabric.write_calls route, ih fun lane lt => routes lane (Nat.lt_succ_of_lt lt),
      List.append_assoc, List.range_succ, List.filterMap_append]
    rfl

/-- What comes of byte `lane` of a write that leads to `leaf`, if a device is there: what its
handler makes of the byte, or nothing if the device ends before the offset. -/
structure Handles (a : Access) (r : Resolved) (f : Fabric σ) (lane : Nat) (leaf : Cell)
    (state : σ) : Prop where
  inside : leaf.offset < DeviceModel.size state → ∃ reply,
    reply = DeviceModel.write state leaf.offset (Access.valueByte a.value lane)
      (contextOf a r.entry) ∧
    (afterLanes a r f (lane + 1)).arena =
      (afterLanes a r f lane).arena.modify leaf.target (.setState reply.state) ∧
    laneAnswer a r f lane = reply.result
  outside : ¬leaf.offset < DeviceModel.size state →
    (afterLanes a r f (lane + 1)).arena = (afterLanes a r f lane).arena ∧
    laneAnswer a r f lane = .error .unbacked

/-- Routes do not change while bytes are handed on, so each goes where it led at first. -/
theorem handles {lane : Nat} {leaf : Cell} {state : σ}
    (route : f.arena.route .write (r.cell.advance lane) = .ok leaf)
    (device : (afterLanes a r f lane).arena.get? leaf.target = some (.device state)) :
    Handles a r f lane leaf state := by
  rw [← (afterLanes_matches a r f lane).route] at route
  have served := Fabric.write_device route device (Access.valueByte a.value lane)
    (contextOf a r.entry)
  constructor
  · intro inside
    rw [if_pos inside] at served
    refine ⟨_, rfl, ?_, ?_⟩
    · rw [afterLanes, served]
      rfl
    · rw [laneAnswer, served]
      rfl
  · intro outside
    rw [if_neg outside] at served
    refine ⟨?_, ?_⟩
    · rw [afterLanes, served]
    · rw [laneAnswer, served]

/-- Of `n` bytes of a write the first `stored` are handed on and taken. The next, if there is
one, is handed on and refused, and those after it are not handed on. -/
structure InTurn (a : Access) (r : Resolved) (f : Fabric σ) (n stored : Nat)
    (served : Fabric σ × Except Reject Unit) : Prop where
  stored_le : stored ≤ n
  taken : ∀ lane < stored, laneAnswer a r f lane = .ok ()
  refused : stored < n → ∃ reason, laneAnswer a r f stored = .error reason ∧
    served.2 = .error reason
  done : stored = n → served.2 = .ok ()
  fabric : served.1 = afterLanes a r f (min (stored + 1) n)

namespace InTurn

variable {n stored : Nat} {g : Fabric σ}

theorem zero : InTurn a r f 0 0 (f, .ok ()) where
  stored_le := Nat.le_refl 0
  taken _ lt := absurd lt (Nat.not_lt_zero _)
  refused lt := absurd lt (Nat.lt_irrefl 0)
  done _ := rfl
  fabric := rfl

/-- After a byte was refused no other is handed on. -/
theorem stop {reason : Reject} (h : InTurn a r f n stored (g, .error reason)) :
    InTurn a r f (n + 1) stored (g, .error reason) := by
  have lt : stored < n := by
    refine Nat.lt_of_le_of_ne h.stored_le fun all => ?_
    cases h.done all
  have last : min (stored + 1) (n + 1) = min (stored + 1) n := by omega
  refine ⟨Nat.le_succ_of_le h.stored_le, h.taken, fun _ => h.refused lt, fun all => ?_, ?_⟩
  · exact absurd all (Nat.ne_of_lt (Nat.lt_succ_of_lt lt))
  · rw [last]
    exact h.fabric

/-- After bytes that were all taken the next is handed on. -/
theorem next (h : InTurn a r f n stored (g, .ok ())) :
    ∃ stored', InTurn a r f (n + 1) stored'
      (g.write (r.cell.advance n) (Access.valueByte a.value n) (contextOf a r.entry)) := by
  have all : stored = n := by
    refine Nat.le_antisymm h.stored_le (Nat.le_of_not_lt fun lt => ?_)
    obtain ⟨reason, -, refused⟩ := h.refused lt
    cases refused
  subst all
  have before := h.fabric
  rw [Nat.min_eq_right (Nat.le_succ stored)] at before
  obtain rfl : g = afterLanes a r f stored := before
  cases answer : laneAnswer a r f stored with
  | ok =>
    refine ⟨stored + 1, Nat.le_refl _, fun lane lt => ?_, fun lt => absurd lt (Nat.lt_irrefl _),
      fun _ => answer, ?_⟩
    · rcases Nat.lt_succ_iff_lt_or_eq.mp lt with lt | rfl
      · exact h.taken lane lt
      · exact answer
    · rw [Nat.min_eq_right (Nat.le_succ _)]
      rfl
  | error reason =>
    refine ⟨stored, Nat.le_succ _, h.taken, fun _ => ⟨reason, answer, answer⟩, fun all => ?_, ?_⟩
    · exact absurd all.symm (Nat.succ_ne_self stored)
    · rw [Nat.min_self]
      rfl

end InTurn

/-- The bytes of a write that may have side effects are handed on in turn. -/
theorem writeBytes_inTurn (loud : a.suppressesSideEffects = false) (r : Resolved) (f : Fabric σ)
    (n : Nat) : ∃ stored, InTurn a r f n stored (writeBytes a r f (List.range n)) := by
  induction n with
  | zero => exact ⟨0, .zero⟩
  | succ n ih =>
    obtain ⟨stored, before⟩ := ih
    rw [List.range_succ, writeBytes_append]
    generalize writeBytes a r f (List.range n) = served at before
    obtain ⟨g, result⟩ := served
    cases result with
    | error reason => exact ⟨stored, before.stop⟩
    | ok =>
      dsimp only
      rw [writeBytes_singleton, writeByte, loud]
      exact before.next

/-! ## The three ways -/

theorem plain_of_loud (loud : a.suppressesSideEffects = false) :
    decide (a.intent = .debugWrite) = false := by
  refine decide_eq_false fun debug => ?_
  rw [Access.suppressesSideEffects, debug] at loud
  cases loud

theorem writeResolved_blocked (wide : a.width ≠ .byte) (loud : a.suppressesSideEffects = false)
    {lane : Nat} (lt : lane < a.width.bytes) (blocks : f.arena.Blocks (r.cell.advance lane)) :
    (writeResolved f a r).1 = f := by
  rw [writeResolved, if_neg wide, plain_of_loud loud]
  cases check : checkLanes f.arena r.cell false (List.range a.width.bytes) with
  | error reason => rfl
  | ok => exact absurd blocks (Arena.checkLanes_eq_ok_iff.mp check lane (List.mem_range.mpr lt))

theorem writeResolved_whole (wide : a.width ≠ .byte) (loud : a.suppressesSideEffects = false)
    {leaf : Cell} (spans : f.arena.Spans r.cell leaf a.width.bytes) :
    writeResolved f a r =
      f.writeWide leaf (a.value &&& a.width.mask) a.width.bytes (contextOf a r.entry) := by
  have check : checkLanes f.arena r.cell false (List.range a.width.bytes) = .ok () :=
    Arena.checkLanes_eq_ok_iff.mpr fun lane mem => spans.not_blocks (List.mem_range.mp mem)
  rw [writeResolved, if_neg wide, plain_of_loud loud, check, loud,
    spans.deviceSpan?_eq a.width.bytes_pos]
  rfl

theorem writeResolved_lanes (wide : a.width ≠ .byte) (loud : a.suppressesSideEffects = false)
    (free : ∀ lane < a.width.bytes, ¬f.arena.Blocks (r.cell.advance lane))
    (apart : f.arena.deviceSpan? r.cell a.width.bytes = none) :
    writeResolved f a r = writeBytes a r f (List.range a.width.bytes) := by
  have check : checkLanes f.arena r.cell false (List.range a.width.bytes) = .ok () :=
    Arena.checkLanes_eq_ok_iff.mpr fun lane mem => free lane (List.mem_range.mp mem)
  rw [writeResolved, if_neg wide, plain_of_loud loud, check, loud, apart]
  rfl

theorem servedWrite_of_resolve (resolved : b.resolve a = .ok r) :
    b.servedWrite a = ((writeResolved b.fabric a r).1,
      (writeResolved b.fabric a r).2.mapError (faultFor a r.entry)) := by
  rw [servedWrite, resolved]

theorem write_calls (atomic : a.mode = .atomic) :
    (b.write a).1.fabric.calls = (b.servedWrite a).1.calls := by
  rw [write, atomic]
  dsimp only
  rw [writeAtomic_eq, finish_fabric]

/-- On a bus that is reached, and whose parts of windows end before the last of 32 bits in their
targets, a write of two or four bytes that may have side effects is delivered once. No handler
is called if the page checks refuse it, or if one of its bytes is blocked. If all bytes are
found in order in one device, its handler is called once, with the whole value, and what the
write comes to is what the handler makes of it; the handler is not called if the device ends
before the last byte. In all other cases, the bytes are handed on in ascending order, each by
itself, up to the first that is refused; and what a byte that leads to a device comes to is what
the handler makes of it, in the state that the bytes before it have left. -/
theorem wide_write_delivered_once (reachable : b.Reachable) (reach : b.arena.WithinReach)
    (atomic : a.mode = .atomic) (wide : a.width ≠ .byte) (loud : a.suppressesSideEffects = false) :
    (∀ fault, b.resolve a = .error fault → (b.write a).1.fabric.calls = b.fabric.calls) ∧
    ∀ r, b.resolve a = .ok r →
      (∀ lane < a.width.bytes, b.arena.Blocks (r.cell.advance lane) →
        (b.write a).1.fabric.calls = b.fabric.calls) ∧
      (∀ leaf state, b.arena.Spans r.cell leaf a.width.bytes →
        b.arena.get? leaf.target = some (.device state) →
        (leaf.offset.toNat + a.width.bytes ≤ (DeviceModel.size state).toNat →
          ∃ value reply, value.toNat = a.value.toNat % 2 ^ (8 * a.width.bytes) ∧
            reply = DeviceModel.writeWide state leaf.offset value a.width.bytes
              (contextOf a r.entry) ∧
            (b.write a).1.fabric.calls =
              b.fabric.calls.push (.writeWide leaf value a.width.bytes) ∧
            (b.write a).1.arena = b.arena.modify leaf.target (.setState reply.state) ∧
            (b.write a).2 = reply.result.mapError (faultFor a r.entry)) ∧
        ((DeviceModel.size state).toNat < leaf.offset.toNat + a.width.bytes →
          (b.write a).1.fabric.calls = b.fabric.calls)) ∧
      ((∀ lane < a.width.bytes, ¬b.arena.Blocks (r.cell.advance lane)) →
        (∀ leaf, ¬b.arena.Spans r.cell leaf a.width.bytes) →
        ∃ (leaf : Nat → Cell) (stored : Nat) (served : Fabric σ × Except Reject Unit),
          (∀ lane < a.width.bytes,
            b.arena.route .write (r.cell.advance lane) = .ok (leaf lane)) ∧
          InTurn a r b.fabric a.width.bytes stored served ∧
          (∀ lane < a.width.bytes, ∀ state,
            (afterLanes a r b.fabric lane).arena.get? (leaf lane).target =
              some (.device state) → Handles a r b.fabric lane (leaf lane) state) ∧
          (b.write a).1.fabric.calls.toList = b.fabric.calls.toList ++
            ((List.range (min (stored + 1) a.width.bytes)).filterMap fun lane =>
              (afterLanes a r b.fabric lane).callAt? (leaf lane)
                (Access.valueByte a.value lane)) ∧
          (b.write a).1.arena = served.1.arena ∧
          (b.write a).2 = served.2.mapError (faultFor a r.entry)) := by
  rw [write_calls atomic, write_arena atomic, write_snd atomic]
  refine ⟨fun fault refused => ?_, fun r resolved => ?_⟩
  · rw [servedWrite_refused refused]
  have room := reachable.roomy.resolve resolved
  have pos := a.width.bytes_pos
  rw [servedWrite_of_resolve resolved]
  refine ⟨fun lane lt blocks => ?_, fun leaf state spans device => ?_, fun free apart => ?_⟩
  · rw [writeResolved_blocked wide loud lt blocks]
  · rw [writeResolved_whole wide loud spans, Fabric.writeWide]
    have here : b.fabric.arena.get? leaf.target = some (.device state) := device
    rw [here]
    dsimp only
    constructor
    · intro inside
      rw [if_pos ((spans.last_lt_iff pos _).mpr inside)]
      refine ⟨a.value &&& a.width.mask, _, ?_, rfl, rfl, rfl, rfl⟩
      rw [UInt32.toNat_and, a.width.toNat_mask, Nat.and_two_pow_sub_one_eq_mod]
    · intro outside
      rw [if_neg (mt (spans.last_lt_iff pos _).mp (Nat.not_le.mpr outside))]
  · have none : b.arena.deviceSpan? r.cell a.width.bytes = none := by
      cases found : b.arena.deviceSpan? r.cell a.width.bytes with
      | none => rfl
      | some leaf => exact absurd (Arena.spans_of_deviceSpan? reach room found) (apart leaf)
    have leads (lane : Nat) :
        ∃ leaf, lane < a.width.bytes → b.arena.route .write (r.cell.advance lane) = .ok leaf := by
      cases route : b.arena.route .write (r.cell.advance lane) with
      | error reason => exact ⟨r.cell, fun lt => absurd (.inl ⟨reason, route⟩) (free lane lt)⟩
      | ok leaf => exact ⟨leaf, fun _ => rfl⟩
    choose leaf routes using leads
    obtain ⟨stored, inTurn⟩ := writeBytes_inTurn loud r b.fabric a.width.bytes
    rw [writeResolved_lanes wide loud free none]
    refine ⟨leaf, stored, _, routes, inTurn, fun lane lt _ => handles (routes lane lt), ?_,
      rfl, rfl⟩
    rw [inTurn.fabric]
    exact afterLanes_calls fun lane lt => routes lane (Nat.lt_of_lt_of_le lt (Nat.min_le_right _ _))

end Bus

namespace Probe

/-- A window whose first byte is behind the others in the probe. -/
def crossing : List SubRegion := [⟨0, 1, "first", .ram, ⟨0⟩, 5⟩, ⟨1, 3, "others", .ram, ⟨0⟩, 1⟩]

/-- Page 0 shows that window. -/
def crossed : Bus Probe :=
  (Bus.empty smallSpace).run
    [.addTarget "backing" wideProbe, .addTarget "window" (.window ⟨4, crossing⟩),
     .mapRange 0 4 { target := ⟨1⟩, perms := .all, region := .composite }]

/-- Two bytes at the start of the page, written as one. -/
def firstHalf : Access := { address := 0, value := 0xBEEF, width := .half, intent := .dataWrite }

theorem crossed_withinReach : crossed.arena.WithinReach := by
  have slots : crossed.arena.slots =
      #[⟨"backing", wideProbe⟩, ⟨"window", .window ⟨4, crossing⟩⟩] := by
    cbv
  exact withinReach_of_backing slots (by decide)

/-- Where an access to page 0 leads. -/
def inWindow (offset : UInt32) : Resolved :=
  ⟨⟨⟨1⟩, offset⟩, ⟨some ⟨1⟩, .all, ⟨15⟩, .composite, 0, 0⟩⟩

theorem crossed_probe : crossed.arena.get? ⟨0⟩ = some wideProbe := by cbv

/-- The last two bytes of the window are in order. -/
theorem crossed_spans : crossed.arena.Spans (inWindow 2).cell ⟨⟨0⟩, 2⟩ 2 := by
  refine ⟨⟨_, crossed_probe⟩, fun lane lt => ?_⟩
  interval_cases lane
  · exact ⟨⟨⟨0⟩, 2⟩, by cbv, rfl, rfl⟩
  · exact ⟨⟨⟨0⟩, 3⟩, by cbv, rfl, rfl⟩

theorem crossed_first :
    crossed.arena.route .write ((inWindow 0).cell.advance 0) = .ok ⟨⟨0⟩, 5⟩ := by cbv

theorem crossed_second :
    crossed.arena.route .write ((inWindow 0).cell.advance 1) = .ok ⟨⟨0⟩, 1⟩ := by cbv

/-- The first two bytes of the window are not in order. -/
theorem crossed_apart (leaf : Cell) : ¬crossed.arena.Spans (inWindow 0).cell leaf 2 := by
  intro spans
  have at_first := spans.route (show 0 < 2 by decide)
  rw [crossed_first, Cell.advance_zero] at at_first
  obtain rfl := Except.ok.inj at_first
  cases crossed_second.symm.trans (spans.route (show 1 < 2 by decide))

theorem crossed_free : ∀ lane < 2, ¬crossed.arena.Blocks ((inWindow 0).cell.advance lane) := by
  intro lane lt
  interval_cases lane
  · exact Arena.not_blocks_of_device crossed_first crossed_probe
  · exact Arena.not_blocks_of_device crossed_second crossed_probe

/-- Two bytes that the probe has in order are one call, and two that it has in the other order
are two. -/
theorem wide_write_delivered_once_crossed :
    crossed.Reachable ∧ crossed.arena.WithinReach ∧
      (lastHalf.mode = .atomic ∧ lastHalf.width ≠ .byte ∧
        lastHalf.suppressesSideEffects = false) ∧
      (firstHalf.mode = .atomic ∧ firstHalf.width ≠ .byte ∧
        firstHalf.suppressesSideEffects = false) ∧
      (crossed.write lastHalf).1.fabric.calls =
        crossed.fabric.calls.push (.writeWide ⟨⟨0⟩, 2⟩ 0xBEEF 2) ∧
      (crossed.write firstHalf).1.fabric.calls.toList =
        crossed.fabric.calls.toList ++ [.write ⟨⟨0⟩, 5⟩ 0xEF, .write ⟨⟨0⟩, 1⟩ 0xBE] := by
  have reachable : crossed.Reachable := (Bus.Reachable.empty smallSpace).run _
  have last : lastHalf.mode = .atomic ∧ lastHalf.width ≠ .byte ∧
      lastHalf.suppressesSideEffects = false := ⟨rfl, by decide, by decide⟩
  have first : firstHalf.mode = .atomic ∧ firstHalf.width ≠ .byte ∧
      firstHalf.suppressesSideEffects = false := ⟨rfl, by decide, by decide⟩
  refine ⟨reachable, crossed_withinReach, last, first, ?_, ?_⟩
  · obtain ⟨atomic, wide, loud⟩ := last
    obtain ⟨-, served⟩ :=
      Bus.wide_write_delivered_once reachable crossed_withinReach atomic wide loud
    obtain ⟨-, whole, -⟩ := served (inWindow 2) (by cbv)
    obtain ⟨inside, -⟩ := whole ⟨⟨0⟩, 2⟩ _ crossed_spans crossed_probe
    obtain ⟨value, -, eq, -, calls, -⟩ := inside (by decide)
    obtain rfl : value = 0xBEEF := UInt32.toNat_inj.mp eq
    exact calls
  · obtain ⟨atomic, wide, loud⟩ := first
    obtain ⟨-, served⟩ :=
      Bus.wide_write_delivered_once reachable crossed_withinReach atomic wide loud
    obtain ⟨-, -, lanes⟩ := served (inWindow 0) (by cbv)
    obtain ⟨leaf, stored, _, routes, inTurn, -, calls, -⟩ := lanes crossed_free crossed_apart
    have leaf_first := Except.ok.inj ((routes 0 (by decide)).symm.trans crossed_first)
    have leaf_second := Except.ok.inj ((routes 1 (by decide)).symm.trans crossed_second)
    -- The probe takes the first byte, so both are handed on.
    have taken : Bus.laneAnswer firstHalf (inWindow 0) crossed.fabric 0 = .ok () := by cbv
    have both : List.range (min (stored + 1) firstHalf.width.bytes) = [0, 1] := by
      have pos : 0 < stored := by
        refine Nat.pos_of_ne_zero ?_
        rintro rfl
        obtain ⟨reason, refused, -⟩ := inTurn.refused (by decide)
        cases taken.symm.trans refused
      exact congrArg List.range (Nat.min_eq_right (Nat.succ_le_succ pos))
    have first_call : (Bus.afterLanes firstHalf (inWindow 0) crossed.fabric 0).callAt? ⟨⟨0⟩, 5⟩
        (Access.valueByte firstHalf.value 0) = some (.write ⟨⟨0⟩, 5⟩ 0xEF) := by
      cbv
    have second_call : (Bus.afterLanes firstHalf (inWindow 0) crossed.fabric 1).callAt? ⟨⟨0⟩, 1⟩
        (Access.valueByte firstHalf.value 1) = some (.write ⟨⟨0⟩, 1⟩ 0xBE) := by
      cbv
    rw [calls, both]
    simp only [List.filterMap_cons, List.filterMap_nil, leaf_first, leaf_second, first_call,
      second_call]

end Probe
end Backplane
