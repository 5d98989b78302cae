import Backplane.Target.Fabric

/-!
# The shape of an arena

Accesses change the bytes of memory and the states of devices, and nothing else
of a target: memory keeps its size, and windows and splits lead where they led.
Two targets that may differ in no more than that are `Alike`. New targets may
join an arena, but none ever leaves, so what is known of shapes stays true
(`Arena.Extends`): in particular every route does.

Of devices the relation tells a measure, such as the size, which holds good as
long as no handler changes it (`DeviceModel.Keeps`).
-/

namespace Backplane

/-! ## Handlers -/

namespace DeviceModel

variable {σ : Type} [DeviceModel σ]

/-- A call of a handler leads from one state of a device to another. -/
inductive Next (state : σ) : σ → Prop where
  /-- A read. -/
  | read (offset : UInt32) (context : DeviceContext) :
    Next state (DeviceModel.read state offset context).state
  /-- A write. -/
  | write (offset : UInt32) (value : UInt8) (context : DeviceContext) :
    Next state (DeviceModel.write state offset value context).state
  /-- A write of several bytes. -/
  | writeWide (offset value : UInt32) (bytes : Nat) (context : DeviceContext) :
    Next state (DeviceModel.writeWide state offset value bytes context).state
  /-- A poke. -/
  | poke (offset : UInt32) (value : UInt8) :
    Next state (DeviceModel.poke state offset value).1

/-- No handler of a device changes its measure. -/
def Keeps {α : Type} (measure : σ → α) : Prop :=
  ∀ state next : σ, Next state next → measure next = measure state

end DeviceModel

/-- Writing bytes in turn keeps what writing one byte keeps. -/
theorem writeInTurn_keeps {σ α : Type} {measure : σ → α}
    {write : σ → UInt32 → UInt8 → DeviceReply σ Unit}
    (one : ∀ state offset value, measure (write state offset value).state = measure state)
    (state : σ) (lanes : List (UInt32 × UInt8)) :
    measure (writeInTurn write state lanes).state = measure state := by
  induction lanes generalizing state with
  | nil => rfl
  | cons lane lanes ih =>
    unfold writeInTurn
    dsimp only
    split
    · exact one state _ _
    · exact (ih _).trans (one state _ _)

variable {σ α : Type} {measure : σ → α}

/-! ## Targets -/

namespace Target

/-- Two targets differ at most in the bytes of memory or in the state of a
device, and the states have the same measure. -/
inductive Alike (measure : σ → α) : Target σ → Target σ → Prop where
  /-- Memory of the same size that reads and writes. -/
  | ram {m m' : Memory} : m'.size = m.size → Alike measure (ram m) (ram m')
  /-- Memory of the same size that only reads. -/
  | rom {m m' : Memory} : m'.size = m.size → Alike measure (rom m) (rom m')
  /-- The same window. -/
  | window (w : Window) : Alike measure (window w) (window w)
  /-- The same split. -/
  | split (read write : TargetId) : Alike measure (split read write) (split read write)
  /-- Devices of the same measure. -/
  | device {s s' : σ} : measure s' = measure s → Alike measure (device s) (device s')

theorem Alike.refl (t : Target σ) : Alike measure t t := by
  cases t <;> constructor <;> rfl

theorem Alike.trans {t t' t'' : Target σ} (h : Alike measure t t') (h' : Alike measure t' t'') :
    Alike measure t t'' := by
  cases h with
  | ram same => cases h' with | ram same' => exact .ram (same'.trans same)
  | rom same => cases h' with | rom same' => exact .rom (same'.trans same)
  | window w => exact h'
  | split read write => exact h'
  | device same => cases h' with | device same' => exact .device (same'.trans same)

theorem alike_store (offset : UInt32) (value : UInt8) (t : Target σ) :
    Alike measure t (t.store offset value) := by
  cases t with
  | ram m => exact .ram (m.size_set _ _)
  | rom m => exact .rom (m.size_set _ _)
  | window w => exact .window w
  | split read write => exact .split read write
  | device state => exact .device rfl

end Target

/-! ## Arenas -/

theorem TargetId.index_inj {i j : TargetId} : i.index = j.index ↔ i = j := by
  obtain ⟨i⟩ := i
  obtain ⟨j⟩ := j
  rw [index, index, mk.injEq]
  exact UInt32.toNat_inj

namespace Arena

variable {a a' a'' : Arena σ}

theorem get?_modify (a : Arena σ) (id j : TargetId) (f : Target σ → Target σ) :
    (a.modify id f).get? j = if id = j then (a.get? j).map f else a.get? j := by
  rw [get?, modify, Array.getElem?_modify, get?]
  by_cases eq : id = j
  · rw [if_pos (TargetId.index_inj.mpr eq), if_pos eq, Option.map_map, Option.map_map]
    rfl
  · rw [if_neg (fun h => eq (TargetId.index_inj.mp h)), if_neg eq]

theorem get?_of_insert {name : String} {target : Target σ} {id : TargetId}
    (h : a.insert name target = .ok (a', id)) {j : TargetId} {t : Target σ}
    (ht : a.get? j = some t) : a'.get? j = some t := by
  unfold insert at h
  split at h
  · cases h
  · cases h
    obtain ⟨slot, hs, rfl⟩ := Option.map_eq_some_iff.mp ht
    obtain ⟨lt, -⟩ := Array.getElem?_eq_some_iff.mp hs
    rw [get?, Array.getElem?_push_lt lt, ← Array.getElem?_eq_getElem lt, hs]
    rfl

/-- Every target of `a` is still there in `a'`, and alike. -/
def Extends (measure : σ → α) (a a' : Arena σ) : Prop :=
  ∀ id t, a.get? id = some t → ∃ t', a'.get? id = some t' ∧ Target.Alike measure t t'

theorem Extends.refl (a : Arena σ) : a.Extends measure a := fun _ t h => ⟨t, h, .refl t⟩

theorem Extends.trans (h : a.Extends measure a') (h' : a'.Extends measure a'') :
    a.Extends measure a'' := by
  intro id t ht
  obtain ⟨t', ht', alike⟩ := h id t ht
  obtain ⟨t'', ht'', alike'⟩ := h' id t' ht'
  exact ⟨t'', ht'', alike.trans alike'⟩

theorem extends_insert {name : String} {target : Target σ} {id : TargetId}
    (h : a.insert name target = .ok (a', id)) : a.Extends measure a' :=
  fun _ t ht => ⟨t, get?_of_insert h ht, .refl t⟩

/-- A route ends at memory or at a device. -/
theorem routeWithin_leaf {direction : Direction} {steps : Nat} {cell leaf : Cell}
    (h : a.routeWithin direction steps cell = .ok leaf) :
    (∃ m, a.get? leaf.target = some (.ram m)) ∨ (∃ m, a.get? leaf.target = some (.rom m)) ∨
      ∃ state, a.get? leaf.target = some (.device state) := by
  induction steps generalizing cell with
  | zero => cases h
  | succ steps ih =>
    unfold routeWithin at h
    split at h
    · cases h
    · rename_i m ht
      cases h
      exact .inl ⟨m, ht⟩
    · rename_i m ht
      cases h
      exact .inr (.inl ⟨m, ht⟩)
    · rename_i state ht
      cases h
      exact .inr (.inr ⟨state, ht⟩)
    · exact ih h
    · split at h
      · cases h
      · exact ih h

/-- A span begins at a device, and its bytes lead to consecutive offsets of it. -/
theorem deviceSpan?_eq_some {cell leaf : Cell} {bytes : Nat}
    (h : a.deviceSpan? cell bytes = some leaf) :
    a.route .write cell = .ok leaf ∧ (∃ state, a.get? leaf.target = some (.device state)) ∧
      ∀ i < bytes, a.route .write (cell.advance i) = .ok (leaf.advance i) := by
  unfold deviceSpan? at h
  split at h
  · cases h
  rename_i route
  split at h
  · rename_i state device
    split at h
    · rename_i span
      cases h
      refine ⟨route, ⟨state, device⟩, fun i lt => ?_⟩
      have at_i := List.all_eq_true.mp span i (List.mem_range.mpr lt)
      split at at_i
      · rename_i next eq
        rw [eq, of_decide_eq_true at_i]
      · cases at_i
    · cases h
  · cases h

/-- A route that leads somewhere leads there for good. -/
theorem Extends.routeWithin (h : a.Extends measure a') {direction : Direction} {steps : Nat}
    {cell leaf : Cell} (route : a.routeWithin direction steps cell = .ok leaf) :
    a'.routeWithin direction steps cell = .ok leaf := by
  induction steps generalizing cell with
  | zero => cases route
  | succ steps ih =>
    cases ht : a.get? cell.target with
    | none =>
      simp only [Arena.routeWithin, ht] at route
      cases route
    | some t =>
      obtain ⟨t', ht', alike⟩ := h _ _ ht
      simp only [Arena.routeWithin, ht] at route
      simp only [Arena.routeWithin, ht']
      cases alike with
      | ram | rom | device => exact route
      | split read write => exact ih route
      | window w =>
        dsimp only at route ⊢
        cases next : w.route cell.offset with
        | none =>
          rw [next] at route
          cases route
        | some cell' =>
          rw [next] at route
          exact ih route

/-! ## Changes of an arena -/

variable [DeviceModel σ]

/-- What serving one byte, or one call of a device, does to an arena. -/
inductive Touches (a : Arena σ) : Arena σ → Prop where
  /-- Nothing. -/
  | none : Touches a a
  /-- A byte is stored in memory. -/
  | store (id : TargetId) (offset : UInt32) (value : UInt8) :
    Touches a (a.modify id (.store offset value))
  /-- A handler of a device is called. -/
  | call {id : TargetId} {state next : σ} : a.get? id = some (.device state) →
    DeviceModel.Next state next → Touches a (a.modify id (.setState next))

theorem Touches.extends (h : a.Touches a') (keeps : DeviceModel.Keeps measure) :
    a.Extends measure a' := by
  intro j t ht
  cases h with
  | none => exact ⟨t, ht, .refl t⟩
  | store id offset value =>
    rw [get?_modify, ht]
    split
    · exact ⟨_, rfl, t.alike_store offset value⟩
    · exact ⟨t, rfl, .refl t⟩
  | @call id state next device step =>
    rw [get?_modify, ht]
    split
    · rename_i eq
      rw [← eq, device] at ht
      cases ht
      exact ⟨_, rfl, .device (keeps state next step)⟩
    · exact ⟨t, rfl, .refl t⟩

end Arena

namespace Fabric

variable [DeviceModel σ] (f : Fabric σ)

theorem storeByte_touches (cell : Cell) (value : UInt8) (size : Nat) :
    f.arena.Touches (f.storeByte cell value size).1.arena := by
  unfold storeByte
  split
  · exact .store _ _ _
  · exact .none

theorem read_touches (cell : Cell) (context : DeviceContext) :
    f.arena.Touches (f.read cell context).1.arena := by
  unfold read
  repeat' split
  all_goals first | exact .none | exact .call ‹_› (.read _ _)

theorem peek_touches (cell : Cell) : f.arena.Touches (f.peek cell).1.arena := by
  unfold peek
  repeat' split
  all_goals exact .none

theorem write_touches (cell : Cell) (value : UInt8) (context : DeviceContext) :
    f.arena.Touches (f.write cell value context).1.arena := by
  unfold write
  repeat' split
  all_goals
    first
    | exact .none
    | exact f.storeByte_touches _ _ _
    | exact .call ‹_› (.write _ _ _)

theorem writeWide_touches (leaf : Cell) (value : UInt32) (bytes : Nat)
    (context : DeviceContext) : f.arena.Touches (f.writeWide leaf value bytes context).1.arena := by
  unfold writeWide
  repeat' split
  all_goals first | exact .none | exact .call ‹_› (.writeWide _ _ _ _)

theorem poke_touches (cell : Cell) (value : UInt8) (bypass : Bool) :
    f.arena.Touches (f.poke cell value bypass).1.arena := by
  unfold poke
  split
  · exact .none
  · split
    · exact f.storeByte_touches _ _ _
    · split
      · exact f.storeByte_touches _ _ _
      · exact .none
    · rename_i device
      split
      · split
        · exact .call device (.poke _ _)
        · exact .none
      · exact .none
    all_goals exact .none

end Fabric
end Backplane
