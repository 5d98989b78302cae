import Mathlib
import Backplane.Device.Probe
import Backplane.Proofs.Bus.Modes
import Backplane.Proofs.Bus.Notes

/-!
# Refused wide reads

A wide read asks for its bytes one after the other, and there is no check before the
first. What the bytes before a refused one have done stays done: a device may have changed,
notices may have been posted, and the layer commands that were issued are carried out when
the transaction ends, as after any other. Such a read is torn (`TearsReadAt`).

The main statement, `read_all_or_nothing_iff`, is that this is the only way in which a
refused read leaves a trace, and that there is none where side effects are suppressed or
where no byte but the last leads to a device. `torn_read_in_gap` shows that there may be one
otherwise. What a device does in a call that it refuses is its own affair, so devices are
taken to do nothing then.
-/

namespace Backplane

/-- A handler that refuses to read a byte does nothing else. -/
def DeviceModel.RefusesReads (σ : Type) [DeviceModel σ] : Prop :=
  ∀ (state : σ) (offset : UInt32) (context : DeviceContext) (reason : Reject),
    (DeviceModel.read state offset context).result = .error reason →
      DeviceModel.read state offset context = .refuse state reason

open DeviceModel (RefusesReads)

variable {σ : Type} [DeviceModel σ]

/-! ## One byte -/

namespace Fabric

variable {f : Fabric σ} {reason : Reject}

omit [DeviceModel σ] in
/-- A call that is refused and does nothing is noted. -/
theorem absorb_refuse {α : Type} {context : DeviceContext} {call : DeviceCall} {state : σ}
    (device : f.arena.get? call.cell.target = some (.device state)) :
    f.SameButNotes (f.absorb context call (.refuse state reason : DeviceReply σ α)).1 := by
  refine ⟨f.calls.push call, ?_⟩
  rw [absorb, DeviceReply.refuse, Arena.modify_setState_self device, List.append_nil]
  rfl

theorem read_of_refused (clean : RefusesReads σ) {cell : Cell} {context : DeviceContext}
    (refused : (f.read cell context).2 = .error reason) :
    f.SameButNotes (f.read cell context).1 := by
  revert refused
  unfold read
  split
  · exact fun _ => .refl f
  · rename_i leaf route
    split
    · exact fun _ => .refl f
    · exact fun _ => .refl f
    · rename_i state device
      split
      · intro refused
        rw [clean state leaf.offset context reason refused]
        exact absorb_refuse device
      · exact fun _ => .refl f
    all_goals exact fun _ => .refl f

end Fabric

namespace Bus

variable {b : Bus σ} {f f' g : Fabric σ} {a : Access} {r : Resolved} {reason : Reject}

theorem peek_sameButNotes (f : Fabric σ) (cell : Cell) : f.SameButNotes (f.peek cell).1 := by
  unfold Fabric.peek
  repeat' split
  all_goals first | exact .refl f | exact ⟨_, rfl⟩

/-- A byte that is refused is noted at most. -/
theorem readByte_of_refused (clean : RefusesReads σ) {entry : PageEntry} {cell : Cell}
    (refused : (readByte f a entry cell).2 = .error reason) :
    f.SameButNotes (readByte f a entry cell).1 := by
  revert refused
  unfold readByte
  split
  · exact fun _ => peek_sameButNotes f cell
  · exact Fabric.read_of_refused clean

/-! ## All bytes -/

theorem readBytes_append (a : Access) (r : Resolved) (f : Fabric σ) (lanes others : List Nat) :
    readBytes a r f (lanes ++ others) =
      match readBytes a r f lanes with
      | (g, .error reason) => (g, .error reason)
      | (g, .ok low) =>
        match readBytes a r g others with
        | (h, .error reason) => (h, .error reason)
        | (h, .ok high) => (h, .ok (low ||| high)) := by
  induction lanes generalizing f with
  | nil =>
    simp only [List.nil_append, readBytes]
    split <;> rename_i eq <;> rw [eq]
    rw [UInt32.zero_or]
  | cons lane lanes ih =>
    simp only [List.cons_append, readBytes]
    split
    · rfl
    · rename_i g byte _
      rw [ih]
      cases low : readBytes a r g lanes with
      | mk h result =>
        cases result with
        | error reason => rfl
        | ok value =>
          dsimp only
          cases high : readBytes a r h others with
          | mk k result =>
            cases result with
            | error reason => rfl
            | ok rest => simp only [UInt32.or_assoc]

/-- The read `a` is torn at byte `k`: it passes the page checks, the bytes before `k` are
answered and lead the fabric to `f`, and there byte `k` is refused. -/
structure TearsReadAt (b : Bus σ) (a : Access) (r : Resolved) (k : Nat) (f : Fabric σ) : Prop where
  resolved : b.resolve a = .ok r
  pos : 0 < k
  lt : k < a.width.bytes
  answered : ∃ value, readBytes a r b.fabric (List.range k) = (f, .ok value)
  refused : ∃ reason, (readByte f a r.entry (r.cell.advance k)).2 = .error reason

/-- If not all bytes are answered, then some are, and the next one is refused. -/
theorem readBytes_refused {n : Nat} (h : readBytes a r f (List.range n) = (g, .error reason)) :
    ∃ k < n, ∃ f' value, readBytes a r f (List.range k) = (f', .ok value) ∧
      readByte f' a r.entry (r.cell.advance k) = (g, .error reason) := by
  induction n with
  | zero => cases h
  | succ n ih =>
    rw [List.range_succ, readBytes_append] at h
    split at h
    · rename_i g' reason' before
      cases h
      obtain ⟨k, lt, split⟩ := ih before
      exact ⟨k, Nat.lt_succ_of_lt lt, split⟩
    · rename_i f' low before
      refine ⟨n, Nat.lt_succ_self n, f', low, before, ?_⟩
      simp only [readBytes] at h
      split at h
      · rename_i refused
        split at refused
        · rename_i byte
          cases refused
          cases h
          exact byte
        · cases refused
      · cases h

/-- The bytes past one that is refused are not asked for. -/
theorem readBytes_of_refused {k n : Nat} (lt : k < n) {value : UInt32}
    (answered : readBytes a r f (List.range k) = (f', .ok value))
    (refused : readByte f' a r.entry (r.cell.advance k) = (g, .error reason)) :
    readBytes a r f (List.range n) = (g, .error reason) := by
  obtain ⟨rest, split⟩ := range_eq_append lt
  rw [split, readBytes_append, answered]
  simp only [readBytes, refused]

/-- A read that is refused leaves its fabric as the bytes before the refusal did. -/
theorem readBytes_all_or_torn (clean : RefusesReads σ) (resolved : b.resolve a = .ok r)
    (h : readBytes a r b.fabric (List.range a.width.bytes) = (g, .error reason)) :
    b.fabric.SameButNotes g ∨ ∃ k f, TearsReadAt b a r k f ∧ f.SameButNotes g := by
  obtain ⟨k, lt, f, value, answered, refused⟩ := readBytes_refused h
  have reason_eq := congrArg Prod.snd refused
  have same := readByte_of_refused clean reason_eq
  rw [refused] at same
  rcases Nat.eq_zero_or_pos k with rfl | pos
  · cases answered
    exact .inl same
  · exact .inr ⟨k, f, ⟨resolved, pos, lt, ⟨value, answered⟩, reason, reason_eq⟩, same⟩

/-- A torn read is refused, and what the bytes before the refusal did stays. -/
theorem TearsReadAt.servedRead (clean : RefusesReads σ) {k : Nat} (h : TearsReadAt b a r k f) :
    (∃ fault, (b.servedRead a).2 = .error fault) ∧ f.SameButNotes (b.servedRead a).1 := by
  obtain ⟨value, answered⟩ := h.answered
  obtain ⟨reason, refused⟩ := h.refused
  have all := readBytes_of_refused h.lt answered (Prod.ext rfl refused)
  simp only [Bus.servedRead, h.resolved, all]
  exact ⟨⟨_, rfl⟩, readByte_of_refused clean refused⟩

/-- Bytes that lead to no device, or that are peeked at, are noted at most. -/
theorem readBytes_harmless {n : Nat} (harmless : a.suppressesSideEffects = true ∨
      ∀ k < n, f.arena.Passive .read (r.cell.advance k)) :
    f.SameButNotes (readBytes a r f (List.range n)).1 := by
  induction n with
  | zero => exact .refl f
  | succ n ih =>
    have before := ih (harmless.imp_right fun passive k lt => passive k (Nat.lt_succ_of_lt lt))
    rw [List.range_succ, readBytes_append]
    cases low : readBytes a r f (List.range n) with
    | mk g result =>
      rw [low] at before
      have last : g.SameButNotes (readByte g a r.entry (r.cell.advance n)).1 := by
        rcases harmless with quiet | passive
        · rw [readByte, if_pos quiet]
          exact peek_sameButNotes g _
        · have here := passive n (Nat.lt_succ_self n)
          rw [← before.arena_eq] at here
          rw [readByte_passive here]
          exact .refl g
      cases result with
      | error reason => exact before
      | ok value =>
        have next := before.trans last
        simp only [readBytes]
        cases byte : readByte g a r.entry (r.cell.advance n) with
        | mk h result =>
          rw [byte] at next
          cases result <;> exact next

/-! ## All or nothing -/

/-- The targets, the notices that wait and the map are as they were. -/
structure Unmoved (b b' : Bus σ) : Prop where
  arena : b'.arena = b.arena
  notices : b'.fabric.notices = b.fabric.notices
  map : b'.map = b.map

/-- What a transaction leaves behind of what the fabric has become. -/
theorem unmoved_of_sameButNotes (idle : b.fabric.commands = []) {x : Transaction}
    (same : b.fabric.SameButNotes (b.served x)) : Unmoved b (b.transact x) := by
  obtain ⟨calls, eq⟩ := same
  refine ⟨?_, ?_, ?_⟩
  · rw [transact_arena, eq]
    rfl
  · rw [transact_fabric, eq]
  · rw [transact_map, eq]
    change b.fabric.commands.foldl AddressMap.command b.map = b.map
    rw [idle, List.foldl_nil]

theorem read_eq_transact (atomic : a.mode = .atomic) :
    (b.read a).1 = b.transact (.read a) ∧ (b.read a).2 = (b.servedRead a).2 := by
  rw [Bus.read, atomic]
  exact ⟨rfl, congrArg Prod.snd (b.readAtomic_eq a)⟩

/-- A refused atomic read leaves devices, notices and map as they were, exactly if it is not
torn where the bytes before the refusal made a difference to any of them. A torn read is
refused, and what those bytes did stays. None is torn with a difference if side effects are
suppressed, or if no byte but the last leads to a device. -/
theorem read_all_or_nothing_iff (clean : RefusesReads σ) (reachable : b.Reachable) {a : Access}
    (atomic : a.mode = .atomic) :
    ((∀ fault, (b.read a).2 = .error fault → Unmoved b (b.read a).1) ↔
      ∀ r k f, TearsReadAt b a r k f → f.arena = b.arena ∧ f.notices = b.fabric.notices ∧
        f.commands.foldl AddressMap.command b.map = b.map) ∧
    (∀ r k f, TearsReadAt b a r k f → (∃ fault, (b.read a).2 = .error fault) ∧
      (b.read a).1.arena = f.arena ∧ (b.read a).1.fabric.notices = f.notices ∧
        (b.read a).1.map = f.commands.foldl AddressMap.command b.map) ∧
    ((a.suppressesSideEffects = true ∨ ∀ r, b.resolve a = .ok r → ∀ k, k + 1 < a.width.bytes →
        b.arena.Passive .read (r.cell.advance k)) →
      ∀ fault, (b.read a).2 = .error fault → Unmoved b (b.read a).1) := by
  have idle := reachable.commands_eq_nil
  obtain ⟨left, answer⟩ := read_eq_transact (b := b) atomic
  rw [left, answer]
  have torn (r : Resolved) (k : Nat) (f : Fabric σ) (h : TearsReadAt b a r k f) :
      (∃ fault, (b.servedRead a).2 = .error fault) ∧
      (b.transact (.read a)).arena = f.arena ∧
      (b.transact (.read a)).fabric.notices = f.notices ∧
      (b.transact (.read a)).map = f.commands.foldl AddressMap.command b.map := by
    obtain ⟨refused, calls, eq⟩ := h.servedRead clean
    refine ⟨refused, ?_, ?_, ?_⟩
    · rw [transact_arena, served, eq]
    · rw [transact_fabric, served, eq]
    · rw [transact_map, served, eq]
  have whole : (∀ fault, (b.servedRead a).2 = .error fault → Unmoved b (b.transact (.read a))) ↔
      ∀ r k f, TearsReadAt b a r k f → f.arena = b.arena ∧ f.notices = b.fabric.notices ∧
        f.commands.foldl AddressMap.command b.map = b.map := by
    constructor
    · intro whole r k f h
      obtain ⟨⟨fault, refused⟩, arena, notices, map⟩ := torn r k f h
      have unmoved := whole fault refused
      exact ⟨arena.symm.trans unmoved.arena, notices.symm.trans unmoved.notices,
        map.symm.trans unmoved.map⟩
    · intro harmless fault refused
      cases resolved : b.resolve a with
      | error fault' =>
        refine unmoved_of_sameButNotes idle ?_
        rw [served, servedRead_refused resolved]
        exact .refl b.fabric
      | ok r =>
        cases bytes : readBytes a r b.fabric (List.range a.width.bytes) with
        | mk g result =>
          simp only [Bus.servedRead, resolved, bytes] at refused
          have became : b.served (.read a) = g := by
            simp only [served, Bus.servedRead, resolved, bytes]
          cases result with
          | ok value => cases refused
          | error reason =>
            rcases readBytes_all_or_torn clean resolved bytes with same | ⟨k, f, h, -⟩
            · exact unmoved_of_sameButNotes idle (became ▸ same)
            · obtain ⟨-, arena, notices, map⟩ := torn r k f h
              obtain ⟨arena', notices', map'⟩ := harmless r k f h
              exact ⟨arena.trans arena', notices.trans notices', map.trans map'⟩
  refine ⟨whole, torn, fun harmless => whole.mpr fun r k f h => ?_⟩
  obtain ⟨value, answered⟩ := h.answered
  have same := readBytes_harmless (f := b.fabric) (a := a) (r := r) (n := k)
    (harmless.imp_right fun passive j lt => passive r h.resolved j (by have := h.lt; omega))
  rw [answered] at same
  obtain ⟨calls, rfl⟩ := same
  refine ⟨rfl, rfl, ?_⟩
  change b.fabric.commands.foldl AddressMap.command b.map = b.map
  rw [idle, List.foldl_nil]

end Bus

/-! ## A read that is torn -/

namespace Probe

theorem refusesReads : RefusesReads Probe := by
  intro p offset context reason refused
  change (p.read offset).result = .error reason at refused
  change p.read offset = .refuse p reason
  unfold Probe.read at refused ⊢
  split
  · rename_i held
    rw [if_pos held] at refused
    cases refused
    rfl
  · rename_i free
    rw [if_neg free] at refused
    cases refused

/-- One cell of a probe that supports wide accesses, and a gap after it, over page 0. -/
def gapped : Bus Probe :=
  (Bus.empty smallSpace).run
    [.addTarget "probe" (.device ⟨⟨15⟩, false, #[1], [], []⟩),
     .addTarget "window" (.window ⟨4, [⟨0, 1, "cell", .device, ⟨0⟩, 0⟩]⟩),
     .mapRange 0 4 { target := ⟨1⟩, perms := .all, region := .composite }]

/-- Two bytes, the cell and the first byte of the gap, read as one. -/
def acrossGap : Access := { address := 0, intent := .dataRead, width := .half }

theorem acrossGap_refused : (gapped.read acrossGap).2 = .error ⟨.unmapped, .composite, 0⟩ := by
  cbv

/-- The notice that the cell was read is there, although the read was refused. -/
theorem not_unmoved_acrossGap : ¬Bus.Unmoved gapped (gapped.read acrossGap).1 := by
  intro unmoved
  have before : gapped.fabric.notices.pending = [] := by decide_cbv
  have after : (gapped.read acrossGap).1.fabric.notices.pending = [⟨0, 0, .dataChanged 0⟩] := by
    decide_cbv
  rw [unmoved.notices, before] at after
  exact absurd after (by decide)

theorem read_all_or_nothing_iff_gapped :
    RefusesReads Probe ∧ gapped.Reachable ∧ acrossGap.mode = .atomic ∧
      ¬∀ r k f, Bus.TearsReadAt gapped acrossGap r k f →
        f.arena = gapped.arena ∧ f.notices = gapped.fabric.notices ∧
          f.commands.foldl AddressMap.command gapped.map = gapped.map := by
  have reachable : gapped.Reachable := (Bus.Reachable.empty smallSpace).run _
  refine ⟨refusesReads, reachable, rfl, fun harmless => ?_⟩
  obtain ⟨whole, -⟩ := Bus.read_all_or_nothing_iff refusesReads reachable (a := acrossGap) rfl
  exact not_unmoved_acrossGap (whole.mpr harmless _ acrossGap_refused)

/-- A refused atomic read may have had an effect: here the first of two bytes was read from
a device, and the second lies in a gap. -/
theorem torn_read_in_gap :
    (gapped.read acrossGap).2 = .error ⟨.unmapped, .composite, 0⟩ ∧
      ¬∀ (b : Bus Probe) (a : Access), RefusesReads Probe → b.Reachable → a.mode = .atomic →
        ∀ fault, (b.read a).2 = .error fault → Bus.Unmoved b (b.read a).1 := by
  refine ⟨acrossGap_refused, fun whole => ?_⟩
  have reachable : gapped.Reachable := (Bus.Reachable.empty smallSpace).run _
  exact not_unmoved_acrossGap
    (whole gapped acrossGap refusesReads reachable rfl _ acrossGap_refused)

end Probe
end Backplane
