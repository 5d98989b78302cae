import Mathlib
import Backplane.Device.Probe
import Backplane.Proofs.Bus.Bounds
import Backplane.Proofs.Target.Capabilities
import Backplane.Proofs.Target.Contents

/-!
# Wide accesses and the devices that they reach

The page checks ask of a wide access that its page claims `SUPPORTS_WIDE`, and the claim
was worked out when the page was mapped. Between then and the access, targets may have
joined the arena, and layers may have moved the entry about. What carries the claim over
is that it was true at some earlier time (`PageEntry.Derived`), that no operation but a
mapping makes entries up, and that routes at a later time end at leaves that can do what
was promised at the earlier one.

So no device is called by a wide access that does not support one, provided that devices
keep their capabilities and that no mapping states capabilities of its own. The main
statement, `caps_sound`, has this for its second half.
-/

namespace Backplane

/-! ## Calls -/

section Calls

variable {σ : Type}

/-- In serving a byte at `cell`, the fabric calls the handler of the device that `cell`
leads to, or no handler. -/
def Fabric.CallsLeaf (f : Fabric σ) (direction : Direction) (cell : Cell) (g : Fabric σ) : Prop :=
  g.calls = f.calls ∨ ∃ call state, f.arena.route direction cell = .ok call.cell ∧
    f.arena.get? call.cell.target = some (.device state) ∧ g.calls = f.calls.push call

variable [DeviceModel σ]

/-- All calls of handlers between two fabrics are of devices that support wide accesses. -/
def Fabric.CallsWide (f g : Fabric σ) : Prop :=
  ∃ calls, g.calls.toList = f.calls.toList ++ calls ∧ ∀ call ∈ calls, ∃ state,
    f.arena.get? call.cell.target = some (.device state) ∧
      (DeviceModel.caps state).contains .wide = true

namespace Fabric

variable {f g h : Fabric σ} {cell : Cell}

theorem read_callsLeaf (f : Fabric σ) (cell : Cell) (context : DeviceContext) :
    f.CallsLeaf .read cell (f.read cell context).1 := by
  unfold read
  split
  · exact .inl rfl
  · rename_i leaf route
    split
    · exact .inl rfl
    · exact .inl rfl
    · rename_i state device
      split
      · exact .inr ⟨.read leaf, state, route, device, rfl⟩
      · exact .inl rfl
    all_goals exact .inl rfl

theorem peek_callsLeaf (f : Fabric σ) (cell : Cell) : f.CallsLeaf .read cell (f.peek cell).1 := by
  unfold peek
  split
  · exact .inl rfl
  · rename_i leaf route
    split
    · exact .inl rfl
    · exact .inl rfl
    · rename_i state device
      split
      · split
        · exact .inr ⟨.peek leaf, state, route, device, rfl⟩
        · exact .inl rfl
      · exact .inl rfl
    all_goals exact .inl rfl

omit [DeviceModel σ] in
theorem storeByte_calls (f : Fabric σ) (cell : Cell) (value : UInt8) (size : Nat) :
    (f.storeByte cell value size).1.calls = f.calls := by
  unfold storeByte
  split <;> rfl

theorem write_callsLeaf (f : Fabric σ) (cell : Cell) (value : UInt8) (context : DeviceContext) :
    f.CallsLeaf .write cell (f.write cell value context).1 := by
  unfold write
  split
  · exact .inl rfl
  · rename_i leaf route
    split
    · exact .inl (f.storeByte_calls leaf value _)
    · exact .inl rfl
    · rename_i state device
      split
      · exact .inr ⟨.write leaf value, state, route, device, rfl⟩
      · exact .inl rfl
    all_goals exact .inl rfl

theorem poke_callsLeaf (f : Fabric σ) (cell : Cell) (value : UInt8) (bypass : Bool) :
    f.CallsLeaf .write cell (f.poke cell value bypass).1 := by
  unfold poke
  split
  · exact .inl rfl
  · rename_i leaf route
    split
    · exact .inl (f.storeByte_calls leaf value _)
    · split
      · exact .inl (f.storeByte_calls leaf value _)
      · exact .inl rfl
    · rename_i state device
      split
      · split
        · exact .inr ⟨.poke leaf value, state, route, device, rfl⟩
        · exact .inl rfl
      · exact .inl rfl
    all_goals exact .inl rfl

theorem CallsWide.refl (f : Fabric σ) : f.CallsWide f :=
  ⟨[], (List.append_nil _).symm, fun _ mem => nomatch mem⟩

/-- Devices have at the end the capabilities that they had at the start. -/
theorem CallsWide.trans (first : f.CallsWide g)
    (same : f.arena.Matches (DeviceModel.caps : σ → Caps) g.arena) (second : g.CallsWide h) :
    f.CallsWide h := by
  obtain ⟨calls, log, wide⟩ := first
  obtain ⟨calls', log', wide'⟩ := second
  refine ⟨calls ++ calls', by rw [log', log, List.append_assoc], fun call mem => ?_⟩
  rcases List.mem_append.mp mem with mem | mem
  · exact wide call mem
  · obtain ⟨state, device, able⟩ := wide' call mem
    obtain ⟨t, before, alike⟩ := same.symm.extends _ _ device
    cases alike with
    | device caps => exact ⟨_, before, by rwa [caps]⟩

/-- A call of a device that supports wide accesses. -/
theorem CallsWide.call (call : DeviceCall) {state : σ} (log : g.calls = f.calls.push call)
    (device : f.arena.get? call.cell.target = some (.device state))
    (able : (DeviceModel.caps state).contains .wide = true) : f.CallsWide g := by
  refine ⟨[call], by rw [log, Array.toList_push], fun c mem => ?_⟩
  obtain rfl := List.mem_singleton.mp mem
  exact ⟨state, device, able⟩

theorem CallsLeaf.callsWide {direction : Direction} (byte : f.CallsLeaf direction cell g)
    (able : ∀ leaf state, f.arena.route direction cell = .ok leaf →
      f.arena.get? leaf.target = some (.device state) →
        (DeviceModel.caps state).contains .wide = true) : f.CallsWide g := by
  rcases byte with log | ⟨call, state, route, device, log⟩
  · exact ⟨[], by rw [log, List.append_nil], fun _ mem => nomatch mem⟩
  · exact .call call log device (able _ state route device)

/-- A write that a device takes as a whole is a call of that device. -/
theorem writeWide_callsWide {leaf : Cell} {value : UInt32} {bytes : Nat} {context : DeviceContext}
    (able : ∀ state, f.arena.get? leaf.target = some (.device state) →
      (DeviceModel.caps state).contains .wide = true) :
    f.CallsWide (f.writeWide leaf value bytes context).1 := by
  unfold writeWide
  split
  · rename_i state device
    split
    · exact .call (.writeWide leaf value bytes) rfl device (able state device)
    · exact .refl f
  · exact .refl f

end Fabric

end Calls

/-! ## Entries -/

variable {σ : Type} [DeviceModel σ]

/-- The capabilities that an entry claims were those of its target at some earlier time. -/
def PageEntry.Derived (arena : Arena σ) (entry : PageEntry) : Prop :=
  ∀ id, entry.target = some id → ∃ earlier : Arena σ,
    earlier.Extends (DeviceModel.caps : σ → Caps) arena ∧ entry.caps = earlier.capsOf id

theorem PageEntry.Derived.extends {arena arena' : Arena σ} {entry : PageEntry}
    (derived : entry.Derived arena)
    (h : arena.Extends (DeviceModel.caps : σ → Caps) arena') : entry.Derived arena' := by
  intro id target
  obtain ⟨earlier, grown, caps⟩ := derived id target
  exact ⟨earlier, grown.trans h, caps⟩

theorem PageEntry.derived_unmapped (arena : Arena σ) : PageEntry.unmapped.Derived arena :=
  fun _ target => nomatch target

theorem Placement.derived_entryFor {geometry : Geometry} {arena : Arena σ}
    {mapping : LayerMapping} {p : Placement} (h : ofMapping geometry arena mapping = .ok p)
    (page : Nat) : (p.entryFor page).Derived arena := by
  have first : p.first.target = some mapping.target ∧
      p.first.caps = arena.capsOf mapping.target := by
    unfold ofMapping at h
    cases found : arena.sizeOf mapping.target with
    | error e =>
      rw [found] at h
      cases h
    | ok size =>
      rw [found] at h
      dsimp only [bind, Except.bind] at h
      generalize mapping.length.getD _ = length at h
      split at h
      · cases h
      · split at h <;> cases h
        exact ⟨rfl, rfl⟩
  intro id target
  obtain rfl := Option.some.inj (first.1.symm.trans target)
  exact ⟨arena, .refl arena, first.2⟩

/-- Where an entry leads, there is a device that supports wide accesses if the entry claims
it does. -/
theorem PageEntry.Derived.able {arena : Arena σ} {entry : PageEntry}
    (derived : entry.Derived arena) (claims : entry.caps.contains .wide = true) {id : TargetId}
    (target : entry.target = some id) {direction : Direction} {offset : UInt32} {leaf : Cell}
    (route : arena.route direction ⟨id, offset⟩ = .ok leaf) {state : σ}
    (device : arena.get? leaf.target = some (.device state)) :
    (DeviceModel.caps state).contains .wide = true := by
  obtain ⟨earlier, grown, caps⟩ := derived id target
  rw [caps] at claims
  exact grown.leaf_contains route device (by decide) claims

/-- A base mapping that states capabilities of its own. -/
def Operation.StatesCaps : Operation σ → Prop
  | .mapRange _ _ mapping => mapping.caps ≠ none
  | _ => False

namespace Bus

variable {b : Bus σ}

/-- What an operation that is no transfer brings into the map: the entries of a range that is
mapped, those of a layer that is placed, and entries of pages that nothing answers. -/
theorem holds_configured {P : PageEntry → Prop} (h : b.map.Holds P) (unmapped : P .unmapped)
    {operation : Operation σ} (config : ∀ t, operation ≠ .transfer t)
    (mapped : ∀ start length mapping step, operation = .mapRange start length mapping →
      P (b.entryAt mapping (mapping.caps.getD (b.arena.capsOf mapping.target)) step))
    (placed : ∀ mapping p page, Placement.ofMapping b.map.geometry b.arena mapping = .ok p →
      P (p.entryFor page)) :
    (b.perform operation).map.Holds P := by
  cases operation with
  | addTarget name target => rwa [perform, addTarget_map]
  | mapRange start length mapping =>
    rw [perform]
    rcases b.mapRange_cases start length mapping with
      ⟨first, count, size, -, -, -, eq⟩ | ⟨e, eq⟩ <;> rw [eq]
    · exact holds_setBases h first fun step _ => mapped start length mapping step rfl
    · exact h
  | unmapRange start length =>
    rw [perform]
    rcases b.unmapRange_cases start length with ⟨first, count, -, eq⟩ | ⟨e, eq⟩ <;> rw [eq]
    · exact holds_setBases h first fun _ _ => unmapped
    · exact h
  | createLayer name priority => exact h.createLayer name priority
  | saveBase first count => exact h.saveBase first count
  | activate id => exact h.activate id
  | deactivate id => exact h.deactivate id
  | activateNamed name =>
    rw [perform, activateNamed]
    split
    · exact h
    · exact h.activate _
  | deactivateNamed name =>
    rw [perform, deactivateNamed]
    split
    · exact h
    · exact h.deactivate _
  | setLayerMapping name mapping =>
    rw [perform, setLayerMapping]
    split
    · exact h
    · exact h.setMapping b.arena _ mapping fun p page made _ => placed mapping p page made
  | enableTrace capacity => rwa [perform, enableTrace_map]
  | disableTrace => exact h
  | drainNotices => exact h
  | transfer t => exact absurd rfl (config t)

/-- The capabilities that pages claim were all worked out from their targets. -/
def Honest (b : Bus σ) : Prop := b.map.Holds (PageEntry.Derived b.arena)

/-! ## Transactions -/

/-- While what an entry claims is true of the targets, the fabric becomes `g` without a
change of capabilities, and calls only devices that support wide accesses. -/
def ServesWide (entry : PageEntry) (f g : Fabric σ) : Prop :=
  entry.Derived f.arena →
    f.arena.Matches (DeviceModel.caps : σ → Caps) g.arena ∧ f.CallsWide g

theorem ServesWide.refl {entry : PageEntry} (f : Fabric σ) : ServesWide entry f f :=
  fun _ => ⟨.refl f.arena, .refl f⟩

theorem ServesWide.trans {entry : PageEntry} {f g h : Fabric σ} (first : ServesWide entry f g)
    (second : ServesWide entry g h) : ServesWide entry f h := by
  intro derived
  obtain ⟨same, wide⟩ := first derived
  obtain ⟨same', wide'⟩ := second (derived.extends same.extends)
  exact ⟨same.trans same', wide.trans same wide'⟩

section Steady

variable (steady : DeviceModel.Keeps (DeviceModel.caps : σ → Caps))

include steady

theorem Honest.transact (h : b.Honest) (x : Transaction) : (b.transact x).Honest := by
  rw [Honest, transact_map, transact_arena]
  exact (h.mono fun entry derived => derived.extends (b.served_matches steady x).extends).commands _

theorem Honest.perform (h : b.Honest) (operation : Operation σ)
    (plain : ¬operation.StatesCaps) : (b.perform operation).Honest := by
  by_cases config : ∀ t, operation ≠ .transfer t
  · -- What was worked out from the targets before counts for those after.
    suffices holds : (b.perform operation).map.Holds (PageEntry.Derived b.arena) from
      holds.mono fun entry derived => derived.extends (perform_extends steady b operation)
    refine holds_configured h (PageEntry.derived_unmapped _) config ?_
      fun mapping p page made => Placement.derived_entryFor made page
    rintro start length mapping step rfl id target
    have own : mapping.caps = none := Decidable.of_not_not plain
    cases target
    exact ⟨b.arena, .refl b.arena, by rw [entryAt, own, Option.getD_none]⟩
  · obtain ⟨t, rfl⟩ := not_forall_not.mp config
    exact transfer_induction (P := Honest) (fun b' x h' => Honest.transact steady h' x) h t

theorem Honest.run (h : b.Honest) {os : List (Operation σ)} (plain : ∀ o ∈ os, ¬o.StatesCaps) :
    (b.run os).Honest := by
  induction os generalizing b with
  | nil => exact h
  | cons o os ih =>
    obtain ⟨first, rest⟩ := List.forall_mem_cons.mp plain
    exact ih (Honest.perform steady h o first) rest

variable {a : Access} {r : Resolved} {f : Fabric σ}
  (claims : r.entry.caps.contains .wide = true) (target : r.entry.target = some r.cell.target)

include claims target

theorem readByte_servesWide (f : Fabric σ) (lane : Nat) :
    ServesWide r.entry f (readByte f a r.entry (r.cell.advance lane)).1 := by
  intro derived
  have able (leaf : Cell) (state : σ)
      (route : f.arena.route .read (r.cell.advance lane) = .ok leaf)
      (device : f.arena.get? leaf.target = some (.device state)) :
      (DeviceModel.caps state).contains .wide = true :=
    derived.able claims target route device
  unfold readByte
  split
  · exact ⟨(f.peek_touches _).matches_of_keeps steady, (f.peek_callsLeaf _).callsWide able⟩
  · exact ⟨(f.read_touches _ _).matches_of_keeps steady, (f.read_callsLeaf _ _).callsWide able⟩

theorem writeByte_servesWide (f : Fabric σ) (lane : Nat) (value : UInt8) :
    ServesWide r.entry f (writeByte f a r.entry (r.cell.advance lane) value).1 := by
  intro derived
  have able (leaf : Cell) (state : σ)
      (route : f.arena.route .write (r.cell.advance lane) = .ok leaf)
      (device : f.arena.get? leaf.target = some (.device state)) :
      (DeviceModel.caps state).contains .wide = true :=
    derived.able claims target route device
  unfold writeByte
  split
  · exact ⟨(f.poke_touches _ _ _).matches_of_keeps steady,
      (f.poke_callsLeaf _ _ _).callsWide able⟩
  · exact ⟨(f.write_touches _ _ _).matches_of_keeps steady,
      (f.write_callsLeaf _ _ _).callsWide able⟩

theorem writeResolved_callsWide (derived : r.entry.Derived f.arena) :
    f.CallsWide (writeResolved f a r).1 := by
  have bytes (lanes : List Nat) : f.CallsWide (writeBytes a r f lanes).1 :=
    (writeBytes_rel_at ServesWide.refl ServesWide.trans
      (writeByte_servesWide steady claims target) f lanes derived).2
  have plan := writeResolved_plan f a r
  generalize writeResolved f a r = served at plan ⊢
  cases plan with
  | byte | lanes => exact bytes _
  | refused => exact .refl f
  | whole _ _ _ span =>
    obtain ⟨route, -⟩ := Arena.deviceSpan?_eq_some span
    exact Fabric.writeWide_callsWide fun state device =>
      derived.able claims target route device

end Steady

/-- A wide transaction calls only devices that support wide accesses. -/
theorem Honest.served (steady : DeviceModel.Keeps (DeviceModel.caps : σ → Caps)) (h : b.Honest)
    {x : Transaction} (wide : x.access.width ≠ .byte) : b.fabric.CallsWide (b.served x) := by
  cases x with
  | read a =>
    rw [Bus.served, servedRead]
    cases resolved : b.resolve a with
    | error fault => exact .refl b.fabric
    | ok r =>
      obtain ⟨looked, target, -, page⟩ := resolve_eq_ok_iff.mp resolved
      have derived := h.entries r.entry (AddressMap.held_of_lookup looked)
      exact (readBytes_rel_at ServesWide.refl ServesWide.trans
        (readByte_servesWide steady (page wide).2 target) b.fabric _ derived).2
  | write a =>
    rw [Bus.served, servedWrite]
    cases resolved : b.resolve a with
    | error fault => exact .refl b.fabric
    | ok r =>
      obtain ⟨looked, target, -, page⟩ := resolve_eq_ok_iff.mp resolved
      have derived := h.entries r.entry (AddressMap.held_of_lookup looked)
      exact writeResolved_callsWide steady (page wide).2 target derived

theorem honest_empty (geometry : Geometry) : (Bus.empty geometry : Bus σ).Honest :=
  .empty geometry (PageEntry.derived_unmapped _)

/-- The capabilities of a target speak for all that it leads to. What they promise of peeks,
pokes and wide access, every leaf can do that a route ends at, also after targets were added;
and the side effects and the timing of every leaf are in them. So, where devices keep their
capabilities and no base mapping states capabilities of its own, a wide access as one
transaction calls only devices that support wide accesses. -/
theorem caps_sound :
    (∀ (a a' : Arena σ), a.Extends (DeviceModel.caps : σ → Caps) a' →
      ∀ (id : TargetId) (offset : UInt32) (direction : Direction) (leaf : Cell),
        a'.route direction ⟨id, offset⟩ = .ok leaf →
        ∃ t, a'.get? leaf.target = some t ∧
          (∀ bit ∈ [Caps.peek, .poke, .wide],
            (a.capsOf id).contains bit = true → t.leafCaps.contains bit = true) ∧
          (a' = a → ∀ bit ∈ [Caps.sideEffects, .timing],
            t.leafCaps.contains bit = true → (a.capsOf id).contains bit = true)) ∧
    (DeviceModel.Keeps (DeviceModel.caps : σ → Caps) →
      ∀ (geometry : Geometry) (os : List (Operation σ)), (∀ o ∈ os, ¬o.StatesCaps) →
        ∀ a : Access, a.mode = .atomic → a.width ≠ .byte →
          let b := (Bus.empty geometry).run os
          b.fabric.CallsWide (b.read a).1.fabric ∧ b.fabric.CallsWide (b.write a).1.fabric) := by
  constructor
  · intro a a' grown id offset direction leaf route
    obtain ⟨t, here⟩ : ∃ t, a'.get? leaf.target = some t := by
      rcases Arena.routeWithin_leaf route with ⟨m, here⟩ | ⟨m, here⟩ | ⟨state, here⟩
      all_goals exact ⟨_, here⟩
    have plain : ∀ bit ∈ [Caps.peek, .poke, .wide], Caps.memory.contains bit = true := by decide
    have spread : ∀ bit ∈ [Caps.sideEffects, .timing], Caps.sticky.contains bit = true := by
      decide
    refine ⟨t, here, fun bit mem promised => ?_, ?_⟩
    · exact grown.leaf_contains route here (plain bit mem) promised
    · rintro rfl bit mem has
      exact Arena.capsOf_contains_of_leaf route here (spread bit mem) has
  · intro steady geometry os plain a atomic wide b
    have honest : b.Honest := Honest.run steady (honest_empty geometry) plain
    have read := honest.served steady (x := .read a) wide
    have write := honest.served steady (x := .write a) wide
    constructor
    · rw [Bus.read, atomic]
      change b.fabric.CallsWide (b.transact (.read a)).fabric
      rwa [transact_fabric]
    · rw [Bus.write, atomic]
      change b.fabric.CallsWide (b.transact (.write a)).fabric
      rwa [transact_fabric]

end Bus

/-! ## A window of memory and a probe -/

namespace Probe

theorem foldl_store_caps (p : Probe) (lanes : List (UInt32 × UInt8)) :
    (lanes.foldl (fun p lane => p.store lane.1 lane.2) p).caps = p.caps := by
  induction lanes generalizing p with
  | nil => rfl
  | cons lane lanes ih => exact ih (p.store lane.1 lane.2)

/-- Probes keep their capabilities. -/
theorem keeps_caps : DeviceModel.Keeps (DeviceModel.caps : Probe → Caps) := by
  have write_caps (p : Probe) (offset : UInt32) (value : UInt8) :
      (p.write offset value).state.caps = p.caps := by
    unfold Probe.write
    split <;> rfl
  intro p next step
  cases step with
  | read offset context =>
    change (p.read offset).state.caps = p.caps
    unfold Probe.read
    split <;> rfl
  | write offset value context => exact write_caps p offset value
  | writeWide offset value bytes context =>
    simp only [DeviceModel.writeWide, DeviceModel.caps]
    split
    · unfold writeWhole
      dsimp only
      split
      · rfl
      · exact foldl_store_caps p _
    · exact writeInTurn_keeps write_caps p _
  | poke offset value =>
    simp only [DeviceModel.poke, DeviceModel.caps]
    repeat' split
    all_goals rfl

/-- A window is added before the memory and the probe that it is made of, and mapped over
page 0. -/
def joinedSteps : List (Operation Probe) :=
  [.addTarget "window"
      (.window ⟨4, [⟨0, 2, "low", .ram, ⟨1⟩, 0⟩, ⟨2, 2, "high", .device, ⟨2⟩, 0⟩]⟩),
   .addTarget "ram" (.ram (.filled 2 17)),
   .addTarget "probe" (.device ⟨⟨15⟩, false, #[1, 2], [], []⟩),
   .mapRange 0 4 { target := ⟨0⟩, perms := .all, region := .ram }]

/-- The bus after these steps. -/
def joined : Bus Probe := (Bus.empty smallSpace).run joinedSteps

/-- Two bytes of the probe, read through the window as one. -/
def halfRead : Access := { address := 2, intent := .dataRead, width := .half }

theorem caps_sound_joined :
    (∀ o ∈ joinedSteps, ¬o.StatesCaps) ∧ DeviceModel.Keeps (DeviceModel.caps : Probe → Caps) ∧
      halfRead.mode = .atomic ∧ halfRead.width ≠ .byte ∧
      (joined.arena.route .read ⟨⟨0⟩, 2⟩ = .ok ⟨⟨2⟩, 0⟩ ∧ ∃ t, joined.arena.get? ⟨2⟩ = some t ∧
        t.leafCaps.contains .wide = true ∧
          (joined.arena.capsOf ⟨0⟩).contains .sideEffects = true) ∧
      (joined.read halfRead).1.fabric.calls.toList = [.read ⟨⟨2⟩, 0⟩, .read ⟨⟨2⟩, 1⟩] ∧
      ∃ state, joined.arena.get? ⟨2⟩ = some (.device state) ∧
        (DeviceModel.caps state).contains .wide = true := by
  have plain : ∀ o ∈ joinedSteps, ¬o.StatesCaps := by
    simp [joinedSteps, Operation.StatesCaps]
  have route : joined.arena.route .read ⟨⟨0⟩, 2⟩ = .ok ⟨⟨2⟩, 0⟩ := by cbv
  have here : joined.arena.get? ⟨2⟩ = some (.device ⟨⟨15⟩, false, #[1, 2], [], []⟩) := by cbv
  have promised : (joined.arena.capsOf ⟨0⟩).contains .wide = true := by decide_cbv
  have before : joined.fabric.calls.toList = [] := by decide_cbv
  have log : (joined.read halfRead).1.fabric.calls.toList =
      [.read ⟨⟨2⟩, 0⟩, .read ⟨⟨2⟩, 1⟩] := by
    decide_cbv
  obtain ⟨promises, calls⟩ := Bus.caps_sound (σ := Probe)
  obtain ⟨t, found, able, spread⟩ :=
    promises joined.arena joined.arena (.refl _) ⟨0⟩ 2 .read _ route
  have wide := able .wide (by simp) promised
  obtain rfl := Option.some.inj (here.symm.trans found)
  have effects := spread rfl .sideEffects (by simp) (by decide)
  obtain ⟨⟨new, grown, called⟩, -⟩ :=
    calls keeps_caps smallSpace joinedSteps plain halfRead rfl (by decide)
  have first : DeviceCall.read ⟨⟨2⟩, 0⟩ ∈ new := by
    have log' : joined.fabric.calls.toList ++ new = _ := grown.symm.trans log
    rw [before, List.nil_append] at log'
    rw [log']
    exact List.mem_cons_self
  exact ⟨plain, keeps_caps, rfl, by decide, ⟨route, _, here, wide, effects⟩, log,
    called _ first⟩

end Probe
end Backplane
