import Mathlib
import Backplane.Proofs.Bus.Served
import Backplane.Proofs.Target.Shape

/-!
# Refused wide writes

A wide write is checked before its first byte is stored: every byte must lead
somewhere, and not to read-only memory. The check follows routes and looks at
kinds of targets. It does not ask whether the leaf is as large as the offset, nor
whether a device will take the byte, so a byte may still be refused after others
were stored, and the write is torn (`TearsAt`).

The main statement, `write_all_or_nothing_iff`, is that this is the only way in
which a refused write can leave a trace; `torn_at_end_of_memory` shows that it
can. What a device stores in a call that it refuses is its own affair, so devices
are taken to refuse cleanly.
-/

namespace Backplane

/-- A handler that refuses a byte, or several at once, leaves its device as it
was. -/
structure DeviceModel.RefusesCleanly (σ : Type) [DeviceModel σ] : Prop where
  write : ∀ {state : σ} {offset : UInt32} {value : UInt8} {context : DeviceContext}
    {reason : Reject}, (DeviceModel.write state offset value context).result = .error reason →
    (DeviceModel.write state offset value context).state = state
  writeWide : ∀ {state : σ} {offset value : UInt32} {bytes : Nat} {context : DeviceContext}
    {reason : Reject},
    (DeviceModel.writeWide state offset value bytes context).result = .error reason →
    (DeviceModel.writeWide state offset value bytes context).state = state
  poke : ∀ {state : σ} {offset : UInt32} {value : UInt8} {reason : Reject},
    (DeviceModel.poke state offset value).2 = .error reason →
    (DeviceModel.poke state offset value).1 = state

open DeviceModel (RefusesCleanly)

variable {σ : Type}

/-! ## One byte -/

theorem Arena.modify_eq_self {a : Arena σ} {id : TargetId} {f : Target σ → Target σ}
    (same : ∀ t, a.get? id = some t → f t = t) : a.modify id f = a := by
  obtain ⟨slots⟩ := a
  rw [modify, mk.injEq]
  apply Array.ext_getElem?
  intro i
  rw [Array.getElem?_modify]
  split
  · rename_i eq
    subst eq
    cases h : slots[id.index]? with
    | none => rfl
    | some slot =>
      have fixed := same slot.target (by rw [get?, h]; rfl)
      rw [Option.map_some, fixed]
  · rfl

theorem Arena.modify_setState_self {a : Arena σ} {id : TargetId} {state : σ}
    (device : a.get? id = some (.device state)) : a.modify id (.setState state) = a :=
  modify_eq_self fun t ht => by
    rw [device, Option.some.injEq] at ht
    rw [← ht]
    rfl

variable [DeviceModel σ]

namespace Fabric

variable (clean : RefusesCleanly σ) {f : Fabric σ} {reason : Reject}

omit [DeviceModel σ] in
theorem storeByte_arena_of_refused {cell : Cell} {value : UInt8} {size : Nat}
    (h : (f.storeByte cell value size).2 = .error reason) :
    (f.storeByte cell value size).1.arena = f.arena := by
  unfold storeByte at h ⊢
  split
  · rename_i lt
    rw [if_pos lt] at h
    cases h
  · rfl

omit [DeviceModel σ] in
/-- A call that leaves the state of its device leaves all targets. -/
theorem absorb_arena_of_same {α : Type} {context : DeviceContext} {call : DeviceCall}
    {reply : DeviceReply σ α} {state : σ}
    (device : f.arena.get? call.cell.target = some (.device state)) (same : reply.state = state) :
    (f.absorb context call reply).1.arena = f.arena := by
  rw [absorb, same]
  exact Arena.modify_setState_self device

include clean

theorem write_arena_of_refused {cell : Cell} {value : UInt8} {context : DeviceContext}
    (h : (f.write cell value context).2 = .error reason) :
    (f.write cell value context).1.arena = f.arena := by
  revert h
  unfold write
  split
  · exact fun _ => rfl
  · rename_i leaf _
    split
    · exact storeByte_arena_of_refused
    · exact fun _ => rfl
    · rename_i state device
      split
      · intro h
        exact absorb_arena_of_same device (clean.write h)
      · exact fun _ => rfl
    all_goals exact fun _ => rfl

theorem writeWide_arena_of_refused {leaf : Cell} {value : UInt32} {bytes : Nat}
    {context : DeviceContext} (h : (f.writeWide leaf value bytes context).2 = .error reason) :
    (f.writeWide leaf value bytes context).1.arena = f.arena := by
  revert h
  unfold writeWide
  split
  · rename_i state device
    split
    · intro h
      exact absorb_arena_of_same device (clean.writeWide h)
    · exact fun _ => rfl
  · exact fun _ => rfl

theorem poke_arena_of_refused {cell : Cell} {value : UInt8} {bypass : Bool}
    (h : (f.poke cell value bypass).2 = .error reason) :
    (f.poke cell value bypass).1.arena = f.arena := by
  revert h
  unfold poke
  split
  · exact fun _ => rfl
  · split
    · exact storeByte_arena_of_refused
    · split
      · exact storeByte_arena_of_refused
      · exact fun _ => rfl
    · rename_i state device
      split
      · split
        · intro h
          have same : (DeviceModel.poke state _ _).1 = state := clean.poke h
          show f.arena.modify _ (.setState _) = f.arena
          rw [same]
          exact Arena.modify_setState_self device
        · exact fun _ => rfl
      · exact fun _ => rfl
    all_goals exact fun _ => rfl

end Fabric

namespace Bus

variable {b : Bus σ} {f g : Fabric σ} {a : Access} {r : Resolved} {reason : Reject}

theorem writeByte_arena_of_refused (clean : RefusesCleanly σ) {entry : PageEntry} {cell : Cell}
    {value : UInt8} (h : (writeByte f a entry cell value).2 = .error reason) :
    (writeByte f a entry cell value).1.arena = f.arena := by
  unfold writeByte at h ⊢
  split
  · rename_i quiet
    rw [if_pos quiet] at h
    exact Fabric.poke_arena_of_refused clean h
  · rename_i loud
    rw [if_neg loud] at h
    exact Fabric.write_arena_of_refused clean h

/-- A byte that leads to `leaf` is refused there, for a reason that the check
before a wide write does not ask about. -/
inductive Unforeseen (f : Fabric σ) (a : Access) (entry : PageEntry) (leaf : Cell)
    (value : UInt8) : Prop where
  /-- Memory ends before the offset. -/
  | endOfMemory {t : Target σ} {m : Memory} : f.arena.get? leaf.target = some t →
    t.memory? = some m → m.size ≤ leaf.offset.toNat → Unforeseen f a entry leaf value
  /-- A device ends before the offset. -/
  | endOfDevice {state : σ} : f.arena.get? leaf.target = some (.device state) →
    DeviceModel.size state ≤ leaf.offset → Unforeseen f a entry leaf value
  /-- A device does not promise to take pokes. -/
  | unpokeable {state : σ} : f.arena.get? leaf.target = some (.device state) →
    a.suppressesSideEffects = true → (DeviceModel.caps state).contains .poke = false →
    Unforeseen f a entry leaf value
  /-- The device refuses the poke. -/
  | refusedPoke {state : σ} {reason : Reject} :
    f.arena.get? leaf.target = some (.device state) → a.suppressesSideEffects = true →
    (DeviceModel.poke state leaf.offset value).2 = .error reason →
    Unforeseen f a entry leaf value
  /-- The device refuses the write. -/
  | refusedWrite {state : σ} {reason : Reject} :
    f.arena.get? leaf.target = some (.device state) → a.suppressesSideEffects = false →
    (DeviceModel.write state leaf.offset value (contextOf a entry)).result = .error reason →
    Unforeseen f a entry leaf value

omit [DeviceModel σ] in
theorem storeByte_refused_iff {cell : Cell} {value : UInt8} {size : Nat} :
    (∃ reason, (f.storeByte cell value size).2 = .error reason) ↔ size ≤ cell.offset.toNat := by
  unfold Fabric.storeByte
  by_cases lt : cell.offset.toNat < size
  · rw [if_pos lt]
    constructor
    · rintro ⟨reason, ⟨⟩⟩
    · intro le
      exact absurd lt (Nat.not_lt.mpr le)
  · rw [if_neg lt]
    exact iff_of_true ⟨.unbacked, rfl⟩ (Nat.le_of_not_lt lt)

theorem unforeseen_memory_iff {entry : PageEntry} {leaf : Cell} {value : UInt8} {t : Target σ}
    {m : Memory} (here : f.arena.get? leaf.target = some t) (memory : t.memory? = some m) :
    Unforeseen f a entry leaf value ↔ m.size ≤ leaf.offset.toNat := by
  constructor
  · intro h
    have notDevice {state : σ} (device : f.arena.get? leaf.target = some (.device state)) :
        False := by
      rw [here, Option.some.injEq] at device
      rw [device] at memory
      cases memory
    cases h with
    | endOfMemory here' memory' le =>
      rw [here, Option.some.injEq] at here'
      rw [← here', memory, Option.some.injEq] at memory'
      rwa [memory']
    | endOfDevice device | unpokeable device | refusedPoke device | refusedWrite device =>
      exact (notDevice device).elim
  · exact .endOfMemory here memory

theorem unforeseen_device_iff {entry : PageEntry} {leaf : Cell} {value : UInt8} {state : σ}
    (here : f.arena.get? leaf.target = some (.device state)) :
    Unforeseen f a entry leaf value ↔
      DeviceModel.size state ≤ leaf.offset ∨
      (a.suppressesSideEffects = true ∧ ((DeviceModel.caps state).contains .poke = false ∨
        ∃ reason, (DeviceModel.poke state leaf.offset value).2 = .error reason)) ∨
      (a.suppressesSideEffects = false ∧ ∃ reason,
        (DeviceModel.write state leaf.offset value (contextOf a entry)).result =
          .error reason) := by
  have same {other : σ} (h : f.arena.get? leaf.target = some (.device other)) :
      state = other := by
    rw [here] at h
    cases h
    rfl
  constructor
  · intro h
    cases h with
    | endOfMemory here' memory =>
      rw [here, Option.some.injEq] at here'
      rw [← here'] at memory
      cases memory
    | endOfDevice device le => exact .inl (same device ▸ le)
    | unpokeable device quiet caps => exact .inr (.inl ⟨quiet, .inl (same device ▸ caps)⟩)
    | refusedPoke device quiet refused =>
      obtain rfl := same device
      exact .inr (.inl ⟨quiet, .inr ⟨_, refused⟩⟩)
    | refusedWrite device loud refused =>
      obtain rfl := same device
      exact .inr (.inr ⟨loud, _, refused⟩)
  · rintro (le | ⟨quiet, caps | ⟨reason, refused⟩⟩ | ⟨loud, reason, refused⟩)
    · exact .endOfDevice here le
    · exact .unpokeable here quiet caps
    · exact .refusedPoke here quiet refused
    · exact .refusedWrite here loud refused

/-- Past the check, a byte is refused for a reason that the check does not ask
about, or not at all. -/
theorem writeByte_refused_iff {entry : PageEntry} {cell leaf : Cell} {value : UInt8}
    (route : f.arena.route .write cell = .ok leaf)
    (free : f.arena.isProtected cell (a.intent = .debugWrite) = false) :
    (∃ reason, (writeByte f a entry cell value).2 = .error reason) ↔
      Unforeseen f a entry leaf value := by
  rcases Arena.routeWithin_leaf route with ⟨m, ht⟩ | ⟨m, ht⟩ | ⟨state, ht⟩
  · have served : writeByte f a entry cell value = f.storeByte leaf value m.size := by
      simp only [writeByte, Fabric.poke, Fabric.write, route, ht, ite_self]
    rw [served, storeByte_refused_iff, unforeseen_memory_iff ht rfl]
  · have patch : a.intent = .debugWrite := by
      simpa [Arena.isProtected, route, ht] using free
    have quiet : a.suppressesSideEffects = true := by
      rw [Access.suppressesSideEffects, patch]
      rfl
    have served : writeByte f a entry cell value = f.storeByte leaf value m.size := by
      simp only [writeByte, quiet, patch, Fabric.poke, route, ht, decide_true, if_true]
    rw [served, storeByte_refused_iff, unforeseen_memory_iff ht rfl]
  · rw [unforeseen_device_iff ht]
    by_cases lt : leaf.offset < DeviceModel.size state
    · have inside : ¬DeviceModel.size state ≤ leaf.offset := UInt32.not_le.mpr lt
      cases quiet : a.suppressesSideEffects with
      | true =>
        simp only [writeByte, quiet, if_true, Fabric.poke, route, ht, lt]
        cases caps : (DeviceModel.caps state).contains .poke <;> simp [inside]
      | false =>
        simp only [writeByte, quiet, Fabric.write, route, ht, lt, if_true]
        simp [inside, Fabric.absorb]
    · have outside : DeviceModel.size state ≤ leaf.offset := UInt32.not_lt.mp lt
      refine iff_of_true ?_ (.inl outside)
      simp only [writeByte, Fabric.poke, Fabric.write, route, ht, lt, if_false, ite_self]
      exact ⟨.unbacked, rfl⟩

/-! ## All bytes -/

theorem writeBytes_append (a : Access) (r : Resolved) (f : Fabric σ) (lanes others : List Nat) :
    writeBytes a r f (lanes ++ others) =
      match writeBytes a r f lanes with
      | (g, .error reason) => (g, .error reason)
      | (g, .ok ()) => writeBytes a r g others := by
  induction lanes generalizing f with
  | nil => rfl
  | cons lane lanes ih =>
    simp only [List.cons_append, writeBytes]
    split
    · rfl
    · exact ih _

theorem writeBytes_singleton (a : Access) (r : Resolved) (f : Fabric σ) (lane : Nat) :
    writeBytes a r f [lane] =
      writeByte f a r.entry (r.cell.advance lane) (Access.valueByte a.value lane) := by
  simp only [writeBytes]
  split <;> rename_i h <;> rw [h]

/-- If not all bytes are stored, then some are, and the next one is refused. -/
theorem writeBytes_refused {n : Nat}
    (h : writeBytes a r f (List.range n) = (g, .error reason)) :
    ∃ k < n, ∃ f', writeBytes a r f (List.range k) = (f', .ok ()) ∧
      writeByte f' a r.entry (r.cell.advance k) (Access.valueByte a.value k) =
        (g, .error reason) := by
  induction n with
  | zero => cases h
  | succ n ih =>
    rw [List.range_succ, writeBytes_append] at h
    split at h
    · rename_i g' reason' before
      cases h
      obtain ⟨k, lt, split⟩ := ih before
      exact ⟨k, Nat.lt_succ_of_lt lt, split⟩
    · rename_i f' before
      rw [writeBytes_singleton] at h
      exact ⟨n, Nat.lt_succ_self n, f', before, h⟩

/-- The bytes past one that is refused are not tried. -/
theorem writeBytes_of_refused {k n : Nat} (lt : k < n)
    (stored : writeBytes a r f (List.range k) = (f', .ok ()))
    (refused : writeByte f' a r.entry (r.cell.advance k) (Access.valueByte a.value k) =
      (g, .error reason)) :
    writeBytes a r f (List.range n) = (g, .error reason) := by
  induction n with
  | zero => cases lt
  | succ n ih =>
    rw [List.range_succ, writeBytes_append]
    rcases Nat.lt_or_eq_of_le (Nat.le_of_lt_succ lt) with lt | rfl
    · rw [ih lt]
    · rw [stored]
      exact (writeBytes_singleton a r f' k).trans refused

theorem writeBytes_extends (r : Resolved) (f : Fabric σ) (lanes : List Nat) :
    f.arena.Extends (fun _ : σ => ()) (writeBytes a r f lanes).1.arena := by
  refine writeBytes_rel (R := fun f g => f.arena.Extends (fun _ : σ => ()) g.arena)
    (fun f => .refl f.arena) (fun h h' => h.trans h') (fun f entry cell value => ?_) r f lanes
  refine Arena.Touches.extends ?_ fun _ _ _ => rfl
  unfold writeByte
  split
  · exact f.poke_touches _ _ _
  · exact f.write_touches _ _ _

omit [DeviceModel σ] in
/-- What the check finds out of each byte. -/
theorem checkLanes_eq_ok {arena : Arena σ} {cell : Cell} {bypass : Bool} {lanes : List Nat}
    (h : checkLanes arena cell bypass lanes = .ok ()) {lane : Nat} (mem : lane ∈ lanes) :
    arena.isProtected (cell.advance lane) bypass = false ∧
      ∃ leaf, arena.route .write (cell.advance lane) = .ok leaf := by
  induction lanes with
  | nil => cases mem
  | cons first rest ih =>
    unfold checkLanes at h
    split at h
    · cases h
    · rename_i free
      split at h
      · cases h
      · rename_i leaf route
        rcases List.mem_cons.mp mem with rfl | mem
        · exact ⟨Bool.eq_false_iff.mpr free, leaf, route⟩
        · exact ih h mem

omit [DeviceModel σ] in
/-- What the check found out stays true while bytes are stored. -/
theorem isProtected_of_extends {α : Type} {measure : σ → α} {arena arena' : Arena σ}
    (h : arena.Extends measure arena') {cell leaf : Cell} {bypass : Bool}
    (route : arena.route .write cell = .ok leaf)
    (free : arena.isProtected cell bypass = false) : arena'.isProtected cell bypass = false := by
  have route' : arena'.route .write cell = .ok leaf := h.routeWithin route
  cases bypass with
  | true => rfl
  | false =>
    simp only [Arena.isProtected, route, Bool.not_false, Bool.true_and] at free
    simp only [Arena.isProtected, route', Bool.not_false, Bool.true_and]
    rcases Arena.routeWithin_leaf route with ⟨m, ht⟩ | ⟨m, ht⟩ | ⟨state, ht⟩
    · obtain ⟨t', ht', alike⟩ := h _ _ ht
      cases alike
      rw [ht']
    · rw [ht] at free
      cases free
    · obtain ⟨t', ht', alike⟩ := h _ _ ht
      cases alike
      rw [ht']

/-! ## Torn writes -/

/-- The write `a` is torn at byte `k`: it passes the check, it is stored byte by
byte, the bytes before `k` lead the fabric to `f`, and there byte `k` is refused
for a reason that the check did not ask about. -/
structure TearsAt (b : Bus σ) (a : Access) (r : Resolved) (k : Nat) (f : Fabric σ) : Prop where
  resolved : b.resolve a = .ok r
  pos : 0 < k
  lt : k < a.width.bytes
  checked : checkLanes b.arena r.cell (a.intent = .debugWrite) (List.range a.width.bytes) = .ok ()
  byteByByte : a.suppressesSideEffects = true ∨ b.arena.deviceSpan? r.cell a.width.bytes = none
  stored : writeBytes a r b.fabric (List.range k) = (f, .ok ())
  refused : ∃ leaf, b.arena.route .write (r.cell.advance k) = .ok leaf ∧
    Unforeseen f a r.entry leaf (Access.valueByte a.value k)

theorem writeByte_of_checked (checked : checkLanes b.arena r.cell (a.intent = .debugWrite)
      (List.range a.width.bytes) = .ok ()) {k : Nat} (lt : k < a.width.bytes)
    (stored : writeBytes a r b.fabric (List.range k) = (f, .ok ())) :
    (∃ reason, (writeByte f a r.entry (r.cell.advance k) (Access.valueByte a.value k)).2 =
      .error reason) ↔
    ∃ leaf, b.arena.route .write (r.cell.advance k) = .ok leaf ∧
      Unforeseen f a r.entry leaf (Access.valueByte a.value k) := by
  have kept : b.arena.Extends (fun _ : σ => ()) f.arena := by
    have := writeBytes_extends (a := a) r b.fabric (List.range k)
    rwa [stored] at this
  obtain ⟨free, leaf, route⟩ := checkLanes_eq_ok checked (List.mem_range.mpr lt)
  rw [writeByte_refused_iff (kept.routeWithin route) (isProtected_of_extends kept route free)]
  constructor
  · intro h
    exact ⟨leaf, route, h⟩
  · rintro ⟨leaf', route', h⟩
    rw [route, Except.ok.injEq] at route'
    rwa [route']

/-- A torn write is refused, and what was stored before stays. -/
theorem TearsAt.writeResolved (clean : RefusesCleanly σ) {k : Nat} (h : TearsAt b a r k f) :
    ∃ g reason, Bus.writeResolved b.fabric a r = (g, .error reason) ∧ g.arena = f.arena := by
  obtain ⟨reason, refused⟩ := (writeByte_of_checked h.checked h.lt h.stored).mpr h.refused
  have all := writeBytes_of_refused h.lt h.stored (Prod.ext rfl refused)
  have wide : a.width ≠ .byte := by
    intro byte
    have lt := h.lt
    have pos := h.pos
    rw [byte] at lt
    exact absurd pos (Nat.not_lt.mpr (Nat.le_of_lt_succ lt))
  refine ⟨_, reason, ?_, writeByte_arena_of_refused clean refused⟩
  have plan := writeResolved_plan b.fabric a r
  generalize Bus.writeResolved b.fabric a r = served at plan ⊢
  cases plan with
  | byte byte => exact absurd byte wide
  | refused _ check => cases check.symm.trans h.checked
  | whole _ _ loud span =>
    rcases h.byteByByte with quiet | none
    · cases quiet.symm.trans loud
    · cases span.symm.trans none
  | lanes => exact all

/-- A write that is refused leaves all targets as they were, unless it is torn. -/
theorem writeResolved_refused (clean : RefusesCleanly σ) (resolved : b.resolve a = .ok r)
    (h : writeResolved b.fabric a r = (g, .error reason)) :
    g.arena = b.arena ∨ ∃ k f, TearsAt b a r k f ∧ g.arena = f.arena := by
  have lanes (h : writeBytes a r b.fabric (List.range a.width.bytes) = (g, .error reason)) :
      ∃ k < a.width.bytes, ∃ f, writeBytes a r b.fabric (List.range k) = (f, .ok ()) ∧
        (writeByte f a r.entry (r.cell.advance k) (Access.valueByte a.value k)).2 =
          .error reason ∧ g.arena = f.arena := by
    obtain ⟨k, lt, f, stored, refused⟩ := writeBytes_refused h
    have reason_eq := congrArg Prod.snd refused
    have same := writeByte_arena_of_refused clean reason_eq
    rw [refused] at same
    exact ⟨k, lt, f, stored, reason_eq, same⟩
  have plan := writeResolved_plan b.fabric a r
  rw [h] at plan
  generalize served : (g, Except.error reason) = outcome at plan
  cases plan with
  | byte byte =>
    obtain ⟨k, lt, f, stored, -, same⟩ := lanes served.symm
    rw [byte] at lt
    obtain rfl := Nat.lt_one_iff.mp lt
    cases stored
    exact .inl same
  | refused => cases served; exact .inl rfl
  | whole =>
    have reason_eq := congrArg Prod.snd served.symm
    have same := Fabric.writeWide_arena_of_refused clean reason_eq
    rw [← served] at same
    exact .inl same
  | lanes wide checked byteByByte =>
    obtain ⟨k, lt, f, stored, refused, same⟩ := lanes served.symm
    rcases Nat.eq_zero_or_pos k with rfl | pos
    · cases stored
      exact .inl same
    · exact .inr ⟨k, f, ⟨resolved, pos, lt, checked, byteByByte, stored,
        (writeByte_of_checked checked lt stored).mp ⟨reason, refused⟩⟩, same⟩

theorem write_arena (atomic : a.mode = .atomic) :
    (b.write a).1.arena = (b.servedWrite a).1.arena := by
  rw [write, atomic]
  exact b.transact_arena (.write a)

theorem write_snd (atomic : a.mode = .atomic) : (b.write a).2 = (b.servedWrite a).2 := by
  rw [write, atomic]
  dsimp only
  rw [writeAtomic_eq]

/-- A refused atomic write leaves all targets as they were, exactly if it is not
torn where what was stored first made a difference. A torn write is refused, and
what was stored first stays. -/
theorem write_all_or_nothing_iff (clean : RefusesCleanly σ) (b : Bus σ) {a : Access}
    (atomic : a.mode = .atomic) :
    ((∀ fault, (b.write a).2 = .error fault → (b.write a).1.arena = b.arena) ↔
      ∀ r k f, TearsAt b a r k f → f.arena = b.arena) ∧
    ∀ r k f, TearsAt b a r k f →
      (∃ fault, (b.write a).2 = .error fault) ∧ (b.write a).1.arena = f.arena := by
  have torn (r : Resolved) (k : Nat) (f : Fabric σ) (h : TearsAt b a r k f) :
      (∃ fault, (b.write a).2 = .error fault) ∧ (b.write a).1.arena = f.arena := by
    obtain ⟨g, reason, served, same⟩ := h.writeResolved clean
    rw [write_snd atomic, write_arena atomic]
    simp only [servedWrite, h.resolved, served]
    exact ⟨⟨_, rfl⟩, same⟩
  refine ⟨⟨?_, ?_⟩, torn⟩
  · intro whole r k f h
    obtain ⟨⟨fault, refused⟩, same⟩ := torn r k f h
    exact same.symm.trans (whole fault refused)
  · intro harmless fault refused
    rw [write_snd atomic] at refused
    rw [write_arena atomic]
    cases resolved : b.resolve a with
    | error fault' => simp only [servedWrite, resolved, arena]
    | ok r =>
      simp only [servedWrite, resolved] at refused ⊢
      cases served : Bus.writeResolved b.fabric a r with
      | mk g result =>
        rw [served] at refused
        cases result with
        | ok _ => cases refused
        | error reason =>
          rcases writeResolved_refused clean resolved served with same | ⟨k, f, h, same⟩
          · exact same
          · exact same.trans (harmless r k f h)

end Bus

/-! ## Writes that are torn -/

/-- A device of four offsets, of which the first alone can be written. -/
structure Register where
  /-- The byte at the first offset. -/
  value : UInt8
  deriving DecidableEq

namespace Register

instance : DeviceModel Register where
  kind _ := "register"
  size _ := 4
  caps _ := .memory
  read s offset _ := .answer s (if offset = 0 then s.value else 0)
  write s offset value _ := if offset = 0 then .answer ⟨value⟩ () else .refuse s .rejected
  writeWide s _ _ _ _ := .refuse s .rejected
  poke s offset value := if offset = 0 then (⟨value⟩, .ok ()) else (s, .error .rejected)

theorem refusesCleanly : RefusesCleanly Register where
  write {state offset value context reason} h := by
    simp only [DeviceModel.write] at h ⊢
    split at h
    · cases h
    · rename_i ne
      rw [if_neg ne]
      rfl
  writeWide _ := rfl
  poke {state offset value reason} h := by
    simp only [DeviceModel.poke] at h ⊢
    split at h
    · cases h
    · rename_i ne
      rw [if_neg ne]

/-- The byte of the target at position 0, in memory or in a register. -/
def firstByte (arena : Arena Register) : Option UInt8 :=
  match arena.get? ⟨0⟩ with
  | some (.ram m) | some (.rom m) => m.get? 0
  | some (.device s) => some s.value
  | _ => none

/-- A register over page 0. -/
def mapped : Bus Register :=
  (Bus.empty smallSpace).run
    [.addTarget "register" (.device ⟨0⟩),
     .mapRange 0 4 { target := ⟨0⟩, perms := .all, region := .device }]

/-- A poke of two bytes into a register is torn: it takes the first and refuses
the second. -/
theorem write_all_or_nothing_iff_mapped :
    let a : Access :=
      { address := 0, value := 0xBBAA, width := .half, intent := .debugWrite }
    RefusesCleanly Register ∧ a.mode = .atomic ∧
      ¬∀ r k f, Bus.TearsAt mapped a r k f → f.arena = mapped.arena := by
  intro a
  refine ⟨refusesCleanly, rfl, ?_⟩
  intro harmless
  have whole := (Bus.write_all_or_nothing_iff refusesCleanly mapped (a := a) rfl).1.mpr harmless
  have same := whole ⟨.deviceFault, .device, 0⟩ (by cbv)
  have before : firstByte mapped.arena = some 0 := by decide_cbv
  have after : firstByte (mapped.write a).1.arena = some 0xAA := by decide_cbv
  rw [same, before] at after
  exact absurd after (by decide)

/-- One byte of memory behind a window of sixteen, which fills the space. -/
def shortMemory : Bus Register :=
  (Bus.empty smallSpace).run
    [.addTarget "ram" (.ram (.filled 1 17)),
     .addTarget "window" (.window ⟨16, [⟨0, 16, "wide", .ram, ⟨0⟩, 0⟩]⟩),
     .mapRange 0 16 { target := ⟨1⟩, perms := .all, region := .ram }]

/-- A write of two bytes to address 0. -/
def halfWrite : Access := { address := 0, value := 0xBEEF, width := .half, intent := .dataWrite }

/-- A refused atomic write may store a byte: here the first of two, where memory
ends after it. -/
theorem torn_at_end_of_memory :
    (shortMemory.write halfWrite).2 = .error ⟨.unmapped, .ram, 0⟩ ∧
      ¬∀ (b : Bus Register) (a : Access), RefusesCleanly Register → b.Reachable →
        a.mode = .atomic → ∀ fault, (b.write a).2 = .error fault →
          firstByte (b.write a).1.arena = firstByte b.arena := by
  have refused : (shortMemory.write halfWrite).2 = .error ⟨.unmapped, .ram, 0⟩ := by cbv
  refine ⟨refused, ?_⟩
  intro whole
  have same := whole shortMemory halfWrite refusesCleanly
    ((Bus.Reachable.empty smallSpace).run _) rfl _ refused
  have before : firstByte shortMemory.arena = some 17 := by decide_cbv
  have after : firstByte (shortMemory.write halfWrite).1.arena = some 0xEF := by decide_cbv
  rw [same, before] at after
  exact absurd after (by decide)

end Register
end Backplane
