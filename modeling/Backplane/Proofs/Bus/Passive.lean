import Mathlib
import Backplane.Device.Switch
import Backplane.Proofs.Bus.Atomicity
import Backplane.Proofs.Bus.Byte
import Backplane.Proofs.Bus.Permission
import Backplane.Proofs.Target.Contents

/-!
# Bytes that call no handler

Where the bytes of an access lead to memory or nowhere (`Passive`), no handler is called and
nothing is queued. A byte that is read is told by a peek, which leaves all as it was
(`readByte_passive`), and one that is written touches nothing but the targets
(`writeByte_passive`). A read of several bytes is told by the first that is refused, or by all of
them (`exists_refusal_or_all`), in one transaction as in one for each byte (`readMany_passive`).
-/

namespace Backplane

variable {σ α : Type} {measure : σ → α}

/-! ## Pages -/

/-- The target to which a page leads an intent, or why it does not. -/
def PageEntry.admit (entry : PageEntry) (intent : Intent) : Except FaultKind TargetId :=
  match entry.target with
  | none => .error .unmapped
  | some target => (checkPermission entry.perms intent).map fun _ => target

/-- What a page makes of an access that is aligned and no wider than the page allows. -/
theorem Bus.resolve_of_lookup {b : Bus σ} {a : Access} {entry : PageEntry} {offset : UInt32}
    (page : b.map.table.lookup a.address = some (entry, offset))
    (fits : a.width ≠ .byte →
      checkAlignment a.address a.width = .ok () ∧ entry.caps.contains .wide = true) :
    b.resolve a =
      match entry.admit a.intent with
      | .error kind => .error ⟨kind, entry.region, a.address⟩
      | .ok target => .ok ⟨⟨target, offset⟩, entry⟩ := by
  unfold resolve PageEntry.admit
  rw [page]
  dsimp only
  cases entry.target with
  | none => rfl
  | some target =>
    cases checkPermission entry.perms a.intent with
    | error kind => rfl
    | ok _ =>
      by_cases byte : a.width = .byte
      · simp only [if_pos byte, Except.map]
      · obtain ⟨aligned, capable⟩ := fits byte
        simp only [if_neg byte, aligned, if_pos capable, Except.map]

/-! ## Cells without a device -/

namespace Arena

/-- The cell leads to memory, or nowhere. -/
def Passive (a : Arena σ) (direction : Direction) (cell : Cell) : Prop :=
  ∀ leaf, a.route direction cell = .ok leaf →
    ∃ t m, a.get? leaf.target = some t ∧ t.memory? = some m

theorem Passive.matches {a a' : Arena σ} {direction : Direction} {cell : Cell}
    (h : a.Passive direction cell) (same : a.Matches measure a') : a'.Passive direction cell := by
  intro leaf route
  rw [same.route] at route
  obtain ⟨t, m, here, memory⟩ := h leaf route
  rcases same.cases leaf.target with ⟨absent, -⟩ | ⟨t', t'', there, there', alike⟩
  · cases here.symm.trans absent
  · obtain rfl := Option.some.inj (here.symm.trans there)
    cases alike with
    | ram | rom => exact ⟨_, _, there', rfl⟩
    | window | split | device => cases memory

/-- Which cells are protected does not hang on what they hold. -/
theorem Matches.isProtected {a a' : Arena σ} (same : a.Matches measure a') (cell : Cell)
    (bypass : Bool) : a'.isProtected cell bypass = a.isProtected cell bypass := by
  unfold Arena.isProtected
  rw [same.route]
  cases a.route .write cell with
  | error reason => rfl
  | ok leaf =>
    rcases same.cases leaf.target with ⟨here, there⟩ | ⟨t, t', here, there, alike⟩
    · simp only [here, there]
    · simp only [here, there]
      cases alike <;> rfl

end Arena

namespace Bus

variable [DeviceModel σ] {b : Bus σ} {f g : Fabric σ} {a : Access} {r : Resolved}
  {entry : PageEntry} {cell : Cell} {offset : UInt32}

/-- A read of memory is a peek, and neither leaves anything behind. -/
theorem readByte_passive (passive : f.arena.Passive .read cell) :
    readByte f a entry cell = (f, (f.peek cell).2) := by
  unfold readByte Fabric.read Fabric.peek
  cases route : f.arena.route .read cell with
  | error reason => split <;> rfl
  | ok leaf =>
    obtain ⟨t, m, here, memory⟩ := passive leaf route
    dsimp only
    rw [here]
    cases t with
    | ram | rom => split <;> rfl
    | window | split | device => cases memory

/-- A write to memory touches nothing but the targets. -/
theorem writeByte_passive (passive : f.arena.Passive .write cell) (a : Access)
    (entry : PageEntry) (value : UInt8) :
    ∃ arena, (writeByte f a entry cell value).1 = { f with arena := arena } := by
  have stored (leaf : Cell) (size : Nat) : ∃ arena,
      (f.storeByte leaf value size).1 = { f with arena := arena } := by
    unfold Fabric.storeByte
    split
    · exact ⟨_, rfl⟩
    · exact ⟨f.arena, rfl⟩
  unfold writeByte Fabric.write Fabric.poke
  cases route : f.arena.route .write cell with
  | error reason =>
    split
    all_goals exact ⟨f.arena, rfl⟩
  | ok leaf =>
    obtain ⟨t, m, here, memory⟩ := passive leaf route
    dsimp only
    rw [here]
    cases t with
    | ram => split <;> exact stored _ _
    | rom =>
      split
      · dsimp only
        split
        · exact stored _ _
        · exact ⟨f.arena, rfl⟩
      · exact ⟨f.arena, rfl⟩
    | window | split | device => cases memory

/-- Writing bytes changes no shape. -/
theorem writeBytes_matches (a : Access) (r : Resolved) (f : Fabric σ) (lanes : List Nat) :
    f.arena.Matches (fun _ => ()) (writeBytes a r f lanes).1.arena :=
  writeBytes_rel (R := fun f g => f.arena.Matches (fun _ => ()) g.arena)
    (fun f => .refl f.arena) (fun h h' => h.trans h')
    (fun f entry cell value => (writeByte_touches f a entry cell value).matches) r f lanes

/-- What the check before a wide write finds fault with is refused. -/
theorem writeByte_of_protected
    (held : f.arena.isProtected cell (a.intent = .debugWrite) = true) (value : UInt8) :
    (writeByte f a entry cell value).2 = .error .readOnly := by
  rw [Arena.isProtected, Bool.and_eq_true, Bool.not_eq_true', decide_eq_false_iff_not] at held
  obtain ⟨plain, held⟩ := held
  split at held
  · rename_i leaf route
    split at held
    · rename_i m here
      unfold writeByte
      split <;> simp [Fabric.write, Fabric.poke, route, here, plain]
    · cases held
  · cases held

theorem writeByte_of_unrouted {reason : Reject} (lost : f.arena.route .write cell = .error reason)
    (value : UInt8) : (writeByte f a entry cell value).2 = .error reason := by
  unfold writeByte
  split <;> simp [Fabric.write, Fabric.poke, lost]

omit [DeviceModel σ] in
/-- What the check finds fault with. -/
theorem checkLanes_eq_error {arena : Arena σ} {bypass : Bool} {lanes : List Nat} {reason : Reject}
    (h : checkLanes arena cell bypass lanes = .error reason) :
    ∃ lane ∈ lanes, arena.isProtected (cell.advance lane) bypass = true ∨
      ∃ reason, arena.route .write (cell.advance lane) = .error reason := by
  induction lanes with
  | nil => cases h
  | cons first rest ih =>
    unfold checkLanes at h
    split at h
    · rename_i held
      exact ⟨first, List.mem_cons_self, .inl held⟩
    · split at h
      · rename_i lost
        exact ⟨first, List.mem_cons_self, .inr ⟨_, lost⟩⟩
      · obtain ⟨lane, mem, fault⟩ := ih h
        exact ⟨lane, List.mem_cons_of_mem _ mem, fault⟩

/-! ## Reads -/

/-- Either all of the first `n` answers are there, or one is the first that is refused. -/
theorem exists_refusal_or_all {ε : Type} (answer : Nat → Except ε UInt8) (n : Nat) :
    (∃ byte : Nat → UInt8, ∀ k < n, answer k = .ok (byte k)) ∨
      ∃ k < n, ∃ e, answer k = .error e ∧ ∀ j < k, ∃ byte, answer j = .ok byte := by
  induction n with
  | zero => exact .inl ⟨fun _ => 0, fun _ lt => absurd lt (Nat.not_lt_zero _)⟩
  | succ n ih =>
    rcases ih with ⟨byte, answered⟩ | ⟨k, lt, refused⟩
    · cases last : answer n with
      | ok x =>
        refine .inl ⟨Function.update byte n x, fun k lt => ?_⟩
        rcases Nat.lt_or_eq_of_le (Nat.le_of_lt_succ lt) with lt | rfl
        · rw [answered k lt, Function.update_of_ne (Nat.ne_of_lt lt)]
        · rw [last, Function.update_self]
      | error e =>
        exact .inr ⟨n, Nat.lt_succ_self n, e, last, fun j lt => ⟨byte j, answered j lt⟩⟩
    · exact .inr ⟨k, Nat.lt_succ_of_lt lt, refused⟩

omit [DeviceModel σ] in
/-- The lanes up to one of them. -/
theorem range_eq_append {k n : Nat} (lt : k < n) :
    ∃ rest, List.range n = List.range k ++ k :: rest := by
  obtain ⟨m, rfl⟩ : ∃ m, n = k + (m + 1) := ⟨n - k - 1, by omega⟩
  rw [List.range_add, List.range_succ_eq_map]
  exact ⟨_, rfl⟩

/-- Bytes that leave the fabric alone are put together. -/
theorem readBytes_of_answers {byte : Nat → UInt8} {lanes : List Nat}
    (answered : ∀ k ∈ lanes, readByte f a r.entry (r.cell.advance k) = (f, .ok (byte k))) :
    readBytes a r f lanes =
      (f, .ok (lanes.foldr (fun k x => (byte k).toUInt32 <<< (8 * k).toUInt32 ||| x) 0)) := by
  induction lanes with
  | nil => rfl
  | cons k lanes ih =>
    obtain ⟨first, rest⟩ := List.forall_mem_cons.mp answered
    simp only [readBytes, first, ih rest, List.foldr_cons]

/-- The first byte that is refused is the end of a read. -/
theorem readBytes_of_refusal {lanes rest : List Nat} {k : Nat} {reason : Reject}
    (answered : ∀ j ∈ lanes, ∃ byte, readByte f a r.entry (r.cell.advance j) = (f, .ok byte))
    (refused : readByte f a r.entry (r.cell.advance k) = (f, .error reason)) :
    readBytes a r f (lanes ++ k :: rest) = (f, .error reason) := by
  induction lanes with
  | nil => simp only [List.nil_append, readBytes, refused]
  | cons j lanes ih =>
    obtain ⟨⟨byte, first⟩, others⟩ := List.forall_mem_cons.mp answered
    simp only [List.cons_append, readBytes, first, ih others]

/-- The bytes of an access are put together alike, however they were read. -/
theorem assemble_lanes (byte : Nat → UInt8) (width : Width) :
    ByteReads.assemble (((List.range width.bytes).map byte).take 4) =
      (List.range width.bytes).foldr
        (fun k x => (byte k).toUInt32 <<< (8 * k).toUInt32 ||| x) 0 := by
  have twice (x : UInt32) : x <<< 8 <<< 8 = x <<< 16 :=
    (UInt32.shiftLeft_add (by decide) (by decide) (by decide)).symm
  have thrice (x : UInt32) : x <<< 16 <<< 8 = x <<< 24 :=
    (UInt32.shiftLeft_add (by decide) (by decide) (by decide)).symm
  cases width
  all_goals
    simp [Width.bytes, ByteReads.assemble, List.range_succ, UInt32.shiftLeft_or, twice, thrice]

/-- A read as one transaction, all of whose bytes are answered. -/
theorem readAtomic_of_answers (resolved : b.resolve a = .ok r)
    (passive : ∀ k < a.width.bytes, b.arena.Passive .read (r.cell.advance k))
    {byte : Nat → UInt8}
    (answered : ∀ k < a.width.bytes, (b.fabric.peek (r.cell.advance k)).2 = .ok (byte k)) :
    (b.readAtomic a).2 =
      .ok (ByteReads.assemble (((List.range a.width.bytes).map byte).take 4)) := by
  have each : ∀ k ∈ List.range a.width.bytes,
      readByte b.fabric a r.entry (r.cell.advance k) = (b.fabric, .ok (byte k)) := by
    intro k mem
    have lt := List.mem_range.mp mem
    rw [readByte_passive (passive k lt), answered k lt]
  rw [readAtomic_eq, servedRead, resolved]
  dsimp only
  rw [readBytes_of_answers each, assemble_lanes]
  rfl

/-- A read as one transaction, one of whose bytes is the first that is refused. -/
theorem readAtomic_of_refusal (resolved : b.resolve a = .ok r)
    (passive : ∀ k < a.width.bytes, b.arena.Passive .read (r.cell.advance k))
    {k : Nat} (lt : k < a.width.bytes) {reason : Reject}
    (refused : (b.fabric.peek (r.cell.advance k)).2 = .error reason)
    (before : ∀ j < k, ∃ byte, (b.fabric.peek (r.cell.advance j)).2 = .ok byte) :
    (b.readAtomic a).2 = .error (faultFor a r.entry reason) := by
  obtain ⟨rest, split⟩ := range_eq_append lt
  have each : ∀ j ∈ List.range k, ∃ byte,
      readByte b.fabric a r.entry (r.cell.advance j) = (b.fabric, .ok byte) := by
    intro j mem
    have lt' := List.mem_range.mp mem
    obtain ⟨byte, answered⟩ := before j lt'
    exact ⟨byte, by rw [readByte_passive (passive j (Nat.lt_trans lt' lt)), answered]⟩
  have last : readByte b.fabric a r.entry (r.cell.advance k) = (b.fabric, .error reason) := by
    rw [readByte_passive (passive k lt), refused]
  rw [readAtomic_eq, servedRead, resolved]
  dsimp only
  rw [split, readBytes_of_refusal each last]
  rfl

/-- One byte of a decomposed read leaves all as it was. -/
theorem readAtomic_passive (idle : b.fabric.commands = []) (byte : a.width = .byte)
    (passive : ∀ r, b.resolve a = .ok r → b.arena.Passive .read r.cell) :
    ((b.readAtomic a).1.map = b.map ∧ (b.readAtomic a).1.fabric = b.fabric) ∧
      (b.readAtomic a).2.map UInt32.toUInt8 =
        match b.resolve a with
        | .error fault => .error fault
        | .ok r => (b.fabric.peek r.cell).2.mapError (faultFor a r.entry) := by
  have quiet : (b.servedRead a).1 = b.fabric := by
    cases resolved : b.resolve a with
    | error fault => rw [servedRead_refused resolved]
    | ok r => rw [servedRead_byte byte resolved, readByte_passive (passive r resolved)]
  have settled : { b.fabric with commands := [] } = b.fabric := by
    rw [← idle]
  rw [readAtomic_eq, finish_map, finish_fabric, quiet, idle, settled]
  refine ⟨⟨rfl, rfl⟩, ?_⟩
  cases resolved : b.resolve a with
  | error fault =>
    rw [servedRead_refused resolved]
    rfl
  | ok r =>
    rw [servedRead_byte byte resolved, readByte_passive (passive r resolved)]
    dsimp only
    cases (b.fabric.peek r.cell).2 with
    | error reason => rfl
    | ok value => exact congrArg Except.ok value.toUInt8_toUInt32

omit [DeviceModel σ] in
/-- Steps that keep to the same buses lead to one of them, and give each item its own
answer. -/
theorem inTurn_of_keeps {β γ : Type} {P : Bus σ → Prop} {step : Bus σ → β → Bus σ × γ}
    {answer : β → γ} {xs : List β}
    (each : ∀ b, P b → ∀ x ∈ xs, P (step b x).1 ∧ (step b x).2 = answer x) (h : P b) :
    P (inTurn step b xs).1 ∧ (inTurn step b xs).2 = xs.map answer := by
  induction xs generalizing b with
  | nil => exact ⟨h, rfl⟩
  | cons x xs ih =>
    obtain ⟨keeps, answers⟩ := each b h x List.mem_cons_self
    obtain ⟨last, rest⟩ := ih (fun b h y mem => each b h y (List.mem_cons_of_mem _ mem)) keeps
    rw [inTurn_cons, List.map_cons, answers, rest]
    exact ⟨last, rfl⟩

/-- The bytes of a decomposed read are answered as if each were read alone, and the read leaves
all but the trace as it was. -/
theorem readMany_passive (idle : b.fabric.commands = []) {count : Nat}
    (passive : ∀ k < count, ∀ r, b.resolve (a.lane k) = .ok r → b.arena.Passive .read r.cell) :
    ((b.readMany a count).1.map = b.map ∧ (b.readMany a count).1.fabric = b.fabric) ∧
    (b.readMany a count).2.bytes = (List.range count).map fun k =>
      match b.resolve (a.lane k) with
      | .error fault => .error fault
      | .ok r => (b.fabric.peek r.cell).2.mapError (faultFor (a.lane k) r.entry) := by
  refine inTurn_of_keeps (P := fun c => c.map = b.map ∧ c.fabric = b.fabric) ?_ ⟨rfl, rfl⟩
  rintro c ⟨map, fabric⟩ k mem
  have arena : c.arena = b.arena := congrArg Fabric.arena fabric
  have same := resolve_congr map (a.lane k)
  have passive' : ∀ r, c.resolve (a.lane k) = .ok r → c.arena.Passive .read r.cell := by
    rw [same, arena]
    exact passive k (List.mem_range.mp mem)
  have read := c.readAtomic_passive (a := a.lane k) (fabric ▸ idle) rfl passive'
  rw [same, map, fabric] at read
  exact read

end Bus

/-- The value of bytes that are all there. -/
theorem ByteReads.value_of_answers {r : ByteReads} {lanes : List Nat} {byte : Nat → UInt8}
    (answers : r.bytes = lanes.map fun k => .ok (byte k)) :
    r.value = .ok (assemble ((lanes.map byte).take 4)) := by
  have sound : r.faults = [] := by
    rw [faults, answers, List.filterMap_map]
    exact List.filterMap_eq_nil_iff.mpr fun _ _ => rfl
  rw [value, sound]
  dsimp only
  rw [openBusValue, answers, ← List.map_take, ← List.map_take, List.map_map]
  rfl

/-- The first byte that is refused tells the fault. -/
theorem ByteReads.value_of_refusal {r : ByteReads} {lanes rest : List Nat} {k : Nat}
    {answer : Nat → Except Fault UInt8} {fault : Fault}
    (answers : r.bytes = (lanes ++ k :: rest).map answer)
    (before : ∀ j ∈ lanes, ∃ byte, answer j = .ok byte) (refused : answer k = .error fault) :
    r.value = .error fault := by
  have sound : (lanes.map answer).filterMap faultOf = [] := by
    rw [List.filterMap_map, List.filterMap_eq_nil_iff]
    intro j mem
    obtain ⟨byte, answered⟩ := before j mem
    rw [Function.comp_apply, answered]
    rfl
  have first : faultOf (answer k) = some fault := by
    rw [refused]
    rfl
  rw [value, faults, answers, List.map_append, List.filterMap_append, sound, List.map_cons,
    List.filterMap_cons_some first]
  rfl

/-- A decomposed write succeeds if each of its bytes does. -/
theorem ByteWrites.outcome_eq_ok_iff {w : ByteWrites} :
    w.outcome = .ok () ↔ ∀ x ∈ w.results, x = .ok () := by
  constructor
  · intro done x mem
    exact (exists_of_faultless (faults_of_outcome done) mem).choose_spec
  · intro all
    have sound : w.faults = [] := by
      refine List.filterMap_eq_nil_iff.mpr fun x mem => ?_
      rw [all x mem]
      rfl
    rw [outcome, sound]

end Backplane
