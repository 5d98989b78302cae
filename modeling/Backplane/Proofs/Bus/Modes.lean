import Mathlib
import Backplane.Proofs.Bus.Passive

/-!
# Both modes of an access

An aligned access may be carried out as one transaction or as one for each byte. The first
asks its page once and, of a write, checks all bytes before it stores one; the second asks
the page anew for each byte and goes on past those that are refused. Where the bytes lead
to memory or nowhere, they are served alike, and both modes come to the same.

A write is told by the chain of fabrics that its bytes lead through (`writeBytes`), which a
decomposed one follows up to the first refusal (`writeMany_stores`).

The main statement is `modes_agree`.
-/

namespace Backplane

variable {σ : Type}

namespace Bus

variable [DeviceModel σ] {b : Bus σ} {f g : Fabric σ} {a : Access} {r : Resolved}

/-! ## Writes -/

omit [DeviceModel σ] in
/-- The bytes of a value, each with its lane. -/
theorem zipIdx_lanes (value : UInt32) (n : Nat) :
    ((List.range n).map (Access.valueByte value)).zipIdx =
      (List.range n).map fun k => (Access.valueByte value k, k) := by
  refine List.ext_getElem? fun k => ?_
  rw [List.getElem?_zipIdx, List.getElem?_map, List.getElem?_map, Option.map_map]
  cases here : (List.range n)[k]? with
  | none => rfl
  | some j =>
    obtain ⟨lt, eq⟩ := List.getElem?_eq_some_iff.mp here
    rw [List.getElem_range] at eq
    subst eq
    simp

/-- The transactions of a decomposed write of the first `n` bytes of a value. -/
theorem writes_lanes (a : Access) (n : Nat) :
    Transaction.writes a ((List.range n).map (Access.valueByte a.value)) =
      (List.range n).map fun k => .write (a.lane k) := by
  rw [Transaction.writes, zipIdx_lanes, List.map_map]
  rfl

/-- One byte of a decomposed write comes to what the byte does in the wide one. -/
theorem writeAtomic_passive (idle : b.fabric.commands = []) {k : Nat}
    (resolved : b.resolve (a.lane k) = .ok ⟨cell, entry⟩)
    (passive : b.arena.Passive .write cell) :
    let served := writeByte b.fabric a entry cell (Access.valueByte a.value k)
    (b.writeAtomic (a.lane k)).1.map = b.map ∧
      (b.writeAtomic (a.lane k)).1.fabric = served.1 ∧ served.1.commands = [] ∧
        (b.writeAtomic (a.lane k)).2 = served.2.mapError (faultFor (a.lane k) entry) := by
  intro served
  obtain ⟨arena, after⟩ := writeByte_passive passive a entry (Access.valueByte a.value k)
  have idle' : served.1.commands = [] := (congrArg Fabric.commands after).trans idle
  have settled : { served.1 with commands := [] } = served.1 := by
    rw [← idle']
  -- The request for one byte asks of the fabric what the wide one does.
  have same : b.servedWrite (a.lane k) =
      (served.1, served.2.mapError (faultFor (a.lane k) entry)) := by
    rw [servedWrite_byte rfl resolved, show Access.valueByte (a.lane k).value 0 =
      Access.valueByte a.value k from Access.valueByte_toUInt32_zero _]
    rfl
  rw [writeAtomic_eq, finish_map, finish_fabric, same]
  refine ⟨?_, settled, idle', rfl⟩
  rw [idle']
  rfl

/-- The same after the bytes before it have been stored. -/
theorem writeAtomic_stored {c : Bus σ} {k : Nat} (map : c.map = b.map)
    (idle : c.fabric.commands = [])
    (stored : writeBytes a r b.fabric (List.range k) = (c.fabric, .ok ()))
    (resolved : b.resolve (a.lane k) = .ok ⟨r.cell.advance k, r.entry⟩)
    (passive : b.arena.Passive .write (r.cell.advance k)) :
    let served := writeByte c.fabric a r.entry (r.cell.advance k) (Access.valueByte a.value k)
    (c.writeAtomic (a.lane k)).1.map = c.map ∧
      (c.writeAtomic (a.lane k)).1.fabric = served.1 ∧ served.1.commands = [] ∧
        (c.writeAtomic (a.lane k)).2 = served.2.mapError (faultFor (a.lane k) r.entry) := by
  have same := writeBytes_matches a r b.fabric (List.range k)
  rw [stored] at same
  exact writeAtomic_passive idle ((resolve_congr map _).trans resolved) (passive.matches same)

/-- What a wide write stores one after the other, stopped by a refusal, a decomposed write
stores as well. -/
theorem writeMany_stores (idle : b.fabric.commands = []) {n : Nat}
    (resolved : ∀ k < n, b.resolve (a.lane k) = .ok ⟨r.cell.advance k, r.entry⟩)
    (passive : ∀ k < n, b.arena.Passive .write (r.cell.advance k)) {k : Nat} (le : k ≤ n)
    (stored : writeBytes a r b.fabric (List.range k) = (g, .ok ())) :
    let c := ((List.range k).map fun j => Transaction.write (a.lane j)).foldl transact b
    c.map = b.map ∧ c.fabric = g ∧ g.commands = [] := by
  induction k generalizing g with
  | zero =>
    cases stored
    exact ⟨rfl, rfl, idle⟩
  | succ k ih =>
    have lt : k < n := le
    rw [List.range_succ, writeBytes_append] at stored
    split at stored
    · cases stored
    · rename_i g' before
      rw [writeBytes_singleton] at stored
      obtain ⟨map, fabric, idle'⟩ := ih (Nat.le_of_lt lt) before
      rw [List.range_succ, List.map_append, List.foldl_append]
      generalize ((List.range k).map fun j => Transaction.write (a.lane j)).foldl transact b = c
        at map fabric ⊢
      subst fabric
      have after := writeAtomic_stored map idle' before (resolved k lt) (passive k lt)
      rw [stored] at after
      exact ⟨after.1.trans map, after.2.1, after.2.2.1⟩

/-- What a decomposed write tells of a byte. -/
theorem writeMany_lane (b : Bus σ) (a : Access) {k : Nat} (lt : k < a.width.bytes) :
    (b.writeMany a ((List.range a.width.bytes).map (Access.valueByte a.value))).2.results[k]? =
      some ((((List.range k).map fun j => Transaction.write (a.lane j)).foldl transact
        b).writeAtomic (a.lane k)).2 := by
  have bytes : ((List.range a.width.bytes).map (Access.valueByte a.value)).take k =
      (List.range k).map (Access.valueByte a.value) := by
    rw [← List.map_take, List.take_range, Nat.min_eq_left (Nat.le_of_lt lt)]
  refine (b.writeMany_getElem? a _ k).trans ?_
  rw [bytes, writes_lanes, List.getElem?_map, List.getElem?_range lt]
  rfl

/-- The same where the bytes before it can be stored as in a wide write. -/
theorem writeMany_result (idle : b.fabric.commands = [])
    (resolved : ∀ k < a.width.bytes, b.resolve (a.lane k) = .ok ⟨r.cell.advance k, r.entry⟩)
    (passive : ∀ k < a.width.bytes, b.arena.Passive .write (r.cell.advance k)) {k : Nat}
    (lt : k < a.width.bytes) (stored : writeBytes a r b.fabric (List.range k) = (g, .ok ())) :
    (b.writeMany a ((List.range a.width.bytes).map (Access.valueByte a.value))).2.results[k]? =
      some ((writeByte g a r.entry (r.cell.advance k) (Access.valueByte a.value k)).2.mapError
        (faultFor (a.lane k) r.entry)) := by
  obtain ⟨map, fabric, idle'⟩ := writeMany_stores idle resolved passive (Nat.le_of_lt lt) stored
  refine (writeMany_lane b a lt).trans (congrArg some ?_)
  generalize ((List.range k).map fun j => Transaction.write (a.lane j)).foldl transact b = c
    at map fabric ⊢
  subst fabric
  exact (writeAtomic_stored map idle' stored (resolved k lt) (passive k lt)).2.2.2

/-- Where all bytes are stored, each one of them was. -/
theorem writeBytes_lane {n k : Nat} (stored : writeBytes a r f (List.range n) = (g, .ok ()))
    (lt : k < n) :
    ∃ f', writeBytes a r f (List.range k) = (f', .ok ()) ∧
      (writeByte f' a r.entry (r.cell.advance k) (Access.valueByte a.value k)).2 = .ok () := by
  obtain ⟨rest, split⟩ := range_eq_append lt
  rw [split, writeBytes_append] at stored
  cases before : writeBytes a r f (List.range k) with
  | mk f' result =>
    rw [before] at stored
    cases result with
    | error reason => cases stored
    | ok _ =>
      refine ⟨f', rfl, ?_⟩
      dsimp only [writeBytes] at stored
      split at stored
      · cases stored
      · rename_i done
        rw [done]

/-- A write as one transaction stores what its bytes store one after the other, and is
refused where one of them is. -/
theorem writeResolved_passive (passive : ∀ k < a.width.bytes,
      f.arena.Passive .write (r.cell.advance k)) :
    (∀ g, writeBytes a r f (List.range a.width.bytes) = (g, .ok ()) →
      writeResolved f a r = (g, .ok ())) ∧
    ∀ g reason, writeBytes a r f (List.range a.width.bytes) = (g, .error reason) →
      ∃ reason', (writeResolved f a r).2 = .error reason' := by
  have plan := writeResolved_plan f a r
  generalize writeResolved f a r = served at plan ⊢
  cases plan with
  | byte | lanes =>
    exact ⟨fun g done => done, fun g reason refused => ⟨reason, congrArg Prod.snd refused⟩⟩
  | refused _ check =>
    refine ⟨fun g done => ?_, fun _ _ _ => ⟨_, rfl⟩⟩
    -- The check finds no fault with bytes that can be stored.
    obtain ⟨k, mem, fault⟩ := checkLanes_eq_error check
    obtain ⟨f', before, stored⟩ := writeBytes_lane done (List.mem_range.mp mem)
    have same := writeBytes_matches a r f (List.range k)
    rw [before] at same
    rcases fault with held | ⟨reason, lost⟩
    · rw [← same.isProtected] at held
      cases (writeByte_of_protected held _).symm.trans stored
    · rw [← same.route] at lost
      cases (writeByte_of_unrouted lost _).symm.trans stored
  | whole _ _ _ span =>
    -- No byte leads to a device.
    obtain ⟨route, ⟨state, device⟩, -⟩ := Arena.deviceSpan?_eq_some span
    rw [← r.cell.advance_zero] at route
    obtain ⟨t, m, here, memory⟩ := passive 0 a.width.bytes_pos _ route
    rw [device, Option.some.injEq] at here
    rw [← here] at memory
    cases memory

/-! ## Agreement -/

/-- The bytes of an access lead to memory, or nowhere. -/
def LeadsToMemory (b : Bus σ) (direction : Direction) (a : Access) : Prop :=
  ∀ k < a.width.bytes, ∀ leaf, b.route? direction (a.lane k).address = some (.ok leaf) →
    ∃ t m, b.arena.get? leaf.target = some t ∧ t.memory? = some m

section Agreement

variable {entry : PageEntry} {offset : UInt32}
  (page : b.map.table.lookup a.address = some (entry, offset))
  (capable : entry.caps.contains .wide = true) (aligned : a.address.toNat % a.width.bytes = 0)

include page aligned

omit [DeviceModel σ] in
/-- The page checks of a byte. -/
theorem resolve_lane {k : Nat} (lt : k < a.width.bytes) :
    b.resolve (a.lane k) =
      match entry.admit a.intent with
      | .error kind => .error ⟨kind, entry.region, (a.lane k).address⟩
      | .ok target => .ok ⟨(⟨target, offset⟩ : Cell).advance k, entry⟩ := by
  have here : b.map.table.lookup (a.lane k).address = some (entry, offset + k.toUInt32) :=
    PageTable.lookup_lane page aligned lt
  exact resolve_of_lookup here fun wide => absurd rfl wide

omit [DeviceModel σ] in
theorem passive_lane {direction : Direction} (memory : b.LeadsToMemory direction a)
    {target : TargetId} (admitted : entry.admit a.intent = .ok target) {k : Nat}
    (lt : k < a.width.bytes) :
    b.arena.Passive direction ((⟨target, offset⟩ : Cell).advance k) := by
  intro leaf route
  refine memory k lt leaf ?_
  have resolved := resolve_lane page aligned lt
  rw [admitted] at resolved
  rw [route?_of_resolve rfl resolved, route]

include capable

omit [DeviceModel σ] in
/-- The page checks of the access as a whole. -/
theorem resolve_whole :
    b.resolve a =
      match entry.admit a.intent with
      | .error kind => .error ⟨kind, entry.region, a.address⟩
      | .ok target => .ok ⟨⟨target, offset⟩, entry⟩ :=
  resolve_of_lookup page fun _ => ⟨if_pos aligned, capable⟩

/-- Reads as one transaction and byte by byte are answered alike. -/
theorem readAtomic_agrees (idle : b.fabric.commands = []) (memory : b.LeadsToMemory .read a) :
    (∃ x, (b.readAtomic a).2 = .ok x ∧ (b.readMany a a.width.bytes).2.value = .ok x) ∨
      ∃ kind address address',
        (b.readAtomic a).2 = .error ⟨kind, entry.region, address⟩ ∧
          (b.readMany a a.width.bytes).2.value = .error ⟨kind, entry.region, address'⟩ := by
  have whole := resolve_whole page capable aligned
  obtain ⟨-, bytes⟩ := b.readMany_passive (a := a) idle fun k lt r resolved => by
    rw [resolve_lane page aligned lt] at resolved
    cases admitted : entry.admit a.intent with
    | error kind =>
      rw [admitted] at resolved
      cases resolved
    | ok target =>
      rw [admitted] at resolved
      cases resolved
      exact passive_lane page aligned memory admitted lt
  have lane {k : Nat} (lt : k < a.width.bytes) := resolve_lane page aligned lt
  cases admitted : entry.admit a.intent with
  | error kind =>
    rw [admitted] at whole lane
    obtain ⟨rest, split⟩ := range_eq_append a.width.bytes_pos
    rw [split] at bytes
    refine .inr ⟨kind, a.address, (a.lane 0).address, ?_, ?_⟩
    · rw [readAtomic_eq, servedRead_refused whole]
    · refine ByteReads.value_of_refusal bytes (fun j mem => by cases mem) ?_
      rw [lane a.width.bytes_pos]
  | ok target =>
    rw [admitted] at whole lane
    have passive {k : Nat} (lt : k < a.width.bytes) := passive_lane page aligned memory admitted lt
    rcases exists_refusal_or_all
        (fun k => (b.fabric.peek ((⟨target, offset⟩ : Cell).advance k)).2) a.width.bytes with
      ⟨byte, answered⟩ | ⟨k, lt, reason, refused, before⟩
    · refine .inl ⟨_, readAtomic_of_answers whole (fun k => passive) answered, ?_⟩
      refine ByteReads.value_of_answers (bytes.trans (List.map_congr_left fun k mem => ?_))
      have lt := List.mem_range.mp mem
      rw [lane lt]
      dsimp only
      rw [answered k lt]
      rfl
    · obtain ⟨rest, split⟩ := range_eq_append lt
      rw [split] at bytes
      refine .inr ⟨reason.faultKind, a.address, (a.lane k).address,
        readAtomic_of_refusal whole (fun k => passive) lt refused before,
        ByteReads.value_of_refusal bytes ?_ ?_⟩
      · intro j mem
        have lt' := List.mem_range.mp mem
        obtain ⟨byte, answered⟩ := before j lt'
        refine ⟨byte, ?_⟩
        rw [lane (Nat.lt_trans lt' lt)]
        dsimp only
        rw [answered]
        rfl
      · rw [lane lt]
        dsimp only
        rw [refused]
        rfl

/-- Writes as one transaction and byte by byte succeed alike, and then leave the same
targets. -/
theorem writeAtomic_agrees (idle : b.fabric.commands = []) (memory : b.LeadsToMemory .write a) :
    let bytewise := b.writeMany a ((List.range a.width.bytes).map (Access.valueByte a.value))
    ((b.writeAtomic a).2 = .ok () ∧ bytewise.2.outcome = .ok () ∧
        (b.writeAtomic a).1.arena = bytewise.1.arena) ∨
      (b.writeAtomic a).2 ≠ .ok () ∧ bytewise.2.outcome ≠ .ok () := by
  intro bytewise
  have whole := resolve_whole page capable aligned
  have lane {k : Nat} (lt : k < a.width.bytes) := resolve_lane page aligned lt
  cases admitted : entry.admit a.intent with
  | error kind =>
    rw [admitted] at whole lane
    refine .inr ⟨fun done => ?_, fun done => ?_⟩
    · rw [writeAtomic_eq, servedWrite_refused whole] at done
      cases done
    · have first := writeMany_lane b a a.width.bytes_pos
      have refused := ByteWrites.outcome_eq_ok_iff.mp done _ (List.mem_of_getElem? first)
      rw [List.range_zero, List.map_nil, List.foldl_nil, writeAtomic_eq,
        servedWrite_refused (lane a.width.bytes_pos)] at refused
      cases refused
  | ok target =>
    rw [admitted] at whole lane
    have passive (k : Nat) (lt : k < a.width.bytes) :=
      passive_lane page aligned memory admitted lt
    obtain ⟨atomic, refusal⟩ :=
      writeResolved_passive (a := a) (r := ⟨⟨target, offset⟩, entry⟩) (f := b.fabric) passive
    have told {k : Nat} (lt : k < a.width.bytes) {f : Fabric σ}
        (before : writeBytes a ⟨⟨target, offset⟩, entry⟩ b.fabric (List.range k) = (f, .ok ())) :=
      writeMany_result idle (fun k => lane) passive lt before
    cases stored : writeBytes a ⟨⟨target, offset⟩, entry⟩ b.fabric (List.range a.width.bytes) with
    | mk g result =>
      cases result with
      | ok _ =>
        have served : b.servedWrite a = (g, .ok ()) := by
          rw [servedWrite, whole]
          dsimp only
          rw [atomic g stored]
          rfl
        refine .inl ⟨?_, ?_, ?_⟩
        · rw [writeAtomic_eq, served]
        · refine ByteWrites.outcome_eq_ok_iff.mpr fun x mem => ?_
          obtain ⟨k, here⟩ := List.mem_iff_getElem?.mp mem
          have lt : k < a.width.bytes := by
            have lt := (List.getElem?_eq_some_iff.mp here).1
            rwa [length_writeMany, List.length_map, List.length_range] at lt
          obtain ⟨f, before, byte⟩ := writeBytes_lane stored lt
          have answer := here.symm.trans (told lt before)
          rw [byte] at answer
          exact Option.some.inj answer
        · have both := (writeMany_stores idle (fun k => lane) passive (Nat.le_refl _) stored).2.1
          rw [← writes_lanes, ← writeMany_fst] at both
          refine Eq.trans ?_ (congrArg Fabric.arena both).symm
          rw [arena, writeAtomic_eq, finish_fabric, served]
      | error reason =>
        obtain ⟨reason', refused⟩ := refusal g reason stored
        refine .inr ⟨fun done => ?_, fun done => ?_⟩
        · rw [writeAtomic_eq, servedWrite, whole] at done
          dsimp only at done
          rw [refused] at done
          cases done
        · obtain ⟨k, lt, f, before, byte⟩ := writeBytes_refused stored
          have answer :=
            ByteWrites.outcome_eq_ok_iff.mp done _ (List.mem_of_getElem? (told lt before))
          rw [byte] at answer
          cases answer

end Agreement

/-- Both modes of an access agree on memory: an aligned access to a page that takes wide
accesses, whose bytes lead to memory or nowhere, reads the same value or gets a fault of the
same kind and region in either mode; it writes in both modes or in none, and if it does, the
targets hold the same. -/
theorem modes_agree (reachable : b.Reachable) (a : Access) {entry : PageEntry} {offset : UInt32}
    (page : b.map.table.lookup a.address = some (entry, offset))
    (capable : entry.caps.contains .wide = true)
    (aligned : a.address.toNat % a.width.bytes = 0) :
    let atomic := { a with mode := .atomic }
    let bytewise := { a with mode := .decomposed }
    (b.LeadsToMemory .read a →
      (∀ x, (b.read atomic).2 = .ok x ↔ (b.read bytewise).2 = .ok x) ∧
        ∀ f g, (b.read atomic).2 = .error f → (b.read bytewise).2 = .error g →
          f.kind = g.kind ∧ f.region = g.region) ∧
    (b.LeadsToMemory .write a →
      ((b.write atomic).2 = .ok () ↔ (b.write bytewise).2 = .ok ()) ∧
        ((b.write atomic).2 = .ok () → (b.write atomic).1.arena = (b.write bytewise).1.arena)) := by
  intro atomic bytewise
  have idle := reachable.commands_eq_nil
  refine ⟨fun memory => ?_, fun memory => ?_⟩
  · obtain ⟨y, here, there⟩ | ⟨kind, address, address', here, there⟩ :=
      readAtomic_agrees (a := atomic) page capable aligned idle memory
    · change (b.read atomic).2 = .ok y at here
      change (b.read bytewise).2 = .ok y at there
      rw [here, there]
      exact ⟨fun x => Iff.rfl, fun f g fault => nomatch fault⟩
    · change (b.read atomic).2 = .error _ at here
      change (b.read bytewise).2 = .error _ at there
      rw [here, there]
      refine ⟨fun x => ⟨fun done => (nomatch done), fun done => (nomatch done)⟩, ?_⟩
      rintro f g ⟨⟩ ⟨⟩
      exact ⟨rfl, rfl⟩
  · obtain ⟨here, there, same⟩ | ⟨here, there⟩ :=
      writeAtomic_agrees (a := atomic) page capable aligned idle memory
    · exact ⟨iff_of_true here there, fun _ => same⟩
    · exact ⟨iff_of_false here there, fun done => absurd done here⟩

/-- Two bytes of memory, shown twice on page 0 by a window. -/
def doubled : Bus SwitchBank :=
  (Bus.empty smallSpace).run
    [.addTarget "ram" (.ram (.filled 2 17)),
     .addTarget "window" (.window ⟨4, [⟨0, 2, "low", .ram, ⟨0⟩, 0⟩, ⟨2, 2, "high", .ram, ⟨0⟩, 0⟩]⟩),
     .mapRange 0 4 { target := ⟨1⟩, perms := .all, region := .ram }]

/-- A word that memory holds twice stores its upper half last in both modes. -/
theorem modes_agree_doubled :
    let a : Access := { address := 0, value := 0xDEADBEEF, width := .word, intent := .dataWrite }
    doubled.Reachable ∧ doubled.LeadsToMemory .write a ∧
      (doubled.write { a with mode := .decomposed }).2 = .ok () ∧
        (doubled.write { a with mode := .atomic }).1.arena =
          (doubled.write { a with mode := .decomposed }).1.arena := by
  intro a
  have reachable : doubled.Reachable := (Reachable.empty smallSpace).run _
  have memory : doubled.LeadsToMemory .write a := by
    intro k lt leaf route
    have low : ∀ k < 4, doubled.route? .write (a.lane k).address =
        some (.ok ⟨⟨0⟩, (k % 2).toUInt32⟩) := by
      intro k lt
      interval_cases k <;> cbv
    rw [low k lt] at route
    cases route
    exact ⟨.ram (.filled 2 17), _, by cbv, rfl⟩
  have written : (doubled.write { a with mode := .atomic }).2 = .ok () := by cbv
  have page : doubled.map.table.lookup a.address =
      some (⟨some ⟨1⟩, .all, .memory, .ram, 0, 0⟩, 0) := by decide_cbv
  obtain ⟨-, agree⟩ := modes_agree reachable a page (by decide) (by decide)
  obtain ⟨alike, same⟩ := agree memory
  exact ⟨reachable, memory, alike.mp written, same written⟩

end Bus

end Backplane
