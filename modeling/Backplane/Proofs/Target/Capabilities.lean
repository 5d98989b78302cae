import Backplane.Proofs.Target.Shape

/-!
# Capabilities and routes

The capabilities of a target are a fold over the whole tree of its parts, cut at a
fixed depth; a route follows one path of that tree, for as many steps as the fold
has levels. So they meet at the same leaf: what the fold promises of plain memory
(peeks, pokes and wide access), every leaf that a route ends at can do
(`has_leaf_of_capsWithin`), and the side effects and timing of every such leaf are in
the fold (`capsWithin_has_of_leaf`). Where the fold is cut, so is the route.

The first of these holds of a fold that was made once and kept: targets that join
the arena later may turn a route that led nowhere into one that leads somewhere, but
the fold counted such a part as incapable. The second does not, for the same reason.
-/

namespace Backplane

/-! ## Bits -/

namespace Caps

/-- Whether bit `i` is set. -/
def Has (c : Caps) (i : Nat) : Prop := c.bits.toBitVec.getLsbD i = true

/-- The capabilities that spread to a whole from any of its parts. -/
def sticky : Caps := sideEffects.union timing

theorem contains_iff {c d : Caps} : c.contains d = true ↔ ∀ i, d.Has i → c.Has i := by
  rw [contains, decide_eq_true_eq, ← UInt8.toBitVec_inj, UInt8.toBitVec_and]
  constructor
  · intro same i has
    rw [Has, ← same, BitVec.getLsbD_and, Bool.and_eq_true] at has
    exact has.1
  · intro sub
    refine BitVec.eq_of_getLsbD_eq fun i _ => ?_
    rw [BitVec.getLsbD_and]
    cases bit : d.bits.toBitVec.getLsbD i with
    | false => exact Bool.and_false _
    | true => rw [show c.bits.toBitVec.getLsbD i = true from sub i bit, Bool.and_true]

@[simp] theorem not_has_none (i : Nat) : ¬none.Has i := by
  rw [Has, none, show (0 : UInt8).toBitVec = 0#8 from rfl, BitVec.getLsbD_zero]
  exact Bool.false_ne_true

@[simp] theorem has_inter (c d : Caps) (i : Nat) : (c.inter d).Has i ↔ c.Has i ∧ d.Has i := by
  rw [Has, inter, UInt8.toBitVec_and, BitVec.getLsbD_and, Bool.and_eq_true]
  rfl

@[simp] theorem has_union (c d : Caps) (i : Nat) : (c.union d).Has i ↔ c.Has i ∨ d.Has i := by
  rw [Has, union, UInt8.toBitVec_or, BitVec.getLsbD_or, Bool.or_eq_true]
  rfl

theorem foldl_inter_has (parts : List Caps) (c : Caps) (i : Nat) :
    (parts.foldl inter c).Has i ↔ c.Has i ∧ ∀ part ∈ parts, part.Has i := by
  induction parts generalizing c with
  | nil => simp
  | cons part parts ih =>
    rw [List.foldl_cons, ih, has_inter, List.forall_mem_cons, and_assoc]

theorem foldl_union_has (parts : List Caps) (c mask : Caps) (i : Nat) :
    (parts.foldl (fun any part => any.union (part.inter mask)) c).Has i ↔
      c.Has i ∨ mask.Has i ∧ ∃ part ∈ parts, part.Has i := by
  induction parts generalizing c with
  | nil => simp
  | cons part parts ih =>
    simp only [List.foldl_cons, ih, has_union, has_inter, List.mem_cons, exists_eq_or_imp]
    rw [or_assoc, and_comm (a := part.Has i), ← and_or_left]

/-- What plain memory can do is shared by all parts; the rest is of some part. -/
theorem has_ofParts (parts : List Caps) (i : Nat) :
    (ofParts parts).Has i ↔
      (memory.Has i ∧ ∀ part ∈ parts, part.Has i) ∨ sticky.Has i ∧ ∃ part ∈ parts, part.Has i := by
  rw [ofParts, has_union, foldl_inter_has, foldl_union_has, or_iff_right (not_has_none i), sticky]

theorem not_sticky_of_memory {i : Nat} (h : memory.Has i) : ¬sticky.Has i := by
  intro h'
  have both := (has_inter memory sticky i).mpr ⟨h, h'⟩
  exact not_has_none i both

/-- Of what plain memory can do, a whole promises no more than each part. -/
theorem Has.part {parts : List Caps} {i : Nat} (plain : memory.Has i)
    (whole : (ofParts parts).Has i) {part : Caps} (mem : part ∈ parts) : part.Has i := by
  rcases (has_ofParts parts i).mp whole with ⟨-, all⟩ | ⟨spread, -⟩
  · exact all part mem
  · exact absurd spread (not_sticky_of_memory plain)

/-- What spreads from a part is in the whole. -/
theorem Has.whole {parts : List Caps} {i : Nat} (spread : sticky.Has i) {part : Caps}
    (mem : part ∈ parts) (h : part.Has i) : (ofParts parts).Has i :=
  (has_ofParts parts i).mpr (.inr ⟨spread, part, mem, h⟩)

end Caps

/-! ## Leaves and parts -/

namespace Target

variable {σ : Type} {t t' : Target σ}

/-- The targets that a window or a split is made of; nothing for a leaf. -/
def parts? : Target σ → Option (List TargetId)
  | ram _ | rom _ | device _ => none
  | split read write => some [read, write]
  | window w => some (w.subs.map SubRegion.target)

theorem Alike.parts?_eq {α : Type} {measure : σ → α} (h : Alike measure t t') :
    t'.parts? = t.parts? := by
  cases h <;> rfl

variable [DeviceModel σ]

/-- The capabilities of memory and of devices, where routes end. -/
def leafCaps : Target σ → Caps
  | ram _ | rom _ => .memory
  | device state => DeviceModel.caps state
  | window _ | split _ _ => .none

theorem Alike.leafCaps_eq (h : Alike (DeviceModel.caps : σ → Caps) t t') :
    t'.leafCaps = t.leafCaps := by
  cases h with
  | device same => exact same
  | _ => rfl

end Target

/-- A window routes an offset into one of its parts. -/
theorem Window.exists_of_route {w : Window} {offset : UInt32} {next : TargetId × UInt32}
    (h : w.route offset = some next) : ∃ s ∈ w.subs, s.target = next.1 := by
  rw [route_eq_map, Option.map_eq_some_iff] at h
  obtain ⟨s, part, rfl⟩ := h
  exact ⟨s, (part?_eq_some part).1, rfl⟩

namespace Arena

variable {σ : Type} {a a' : Arena σ} {direction : Direction} {steps : Nat} {cell leaf : Cell}
  {t : Target σ} {i : Nat}

/-- A route ends at a leaf, or leads on into a part. -/
theorem routeWithin_succ_cases (route : a.routeWithin direction (steps + 1) cell = .ok leaf) :
    ∃ t, a.get? cell.target = some t ∧
      ((t.parts? = none ∧ leaf = cell) ∨ ∃ (ids : List TargetId) (part : Cell),
        t.parts? = some ids ∧ part.target ∈ ids ∧
          a.routeWithin direction steps part = .ok leaf) := by
  unfold routeWithin at route
  split at route
  · cases route
  · rename_i m here
    cases route
    exact ⟨_, here, .inl ⟨rfl, rfl⟩⟩
  · rename_i m here
    cases route
    exact ⟨_, here, .inl ⟨rfl, rfl⟩⟩
  · rename_i state here
    cases route
    exact ⟨_, here, .inl ⟨rfl, rfl⟩⟩
  · rename_i read write here
    refine ⟨_, here, .inr ⟨_, _, rfl, ?_, route⟩⟩
    cases direction <;> simp
  · rename_i w here
    split at route
    · cases route
    · rename_i target offset next
      obtain ⟨s, mem, eq⟩ := Window.exists_of_route next
      exact ⟨_, here, .inr ⟨_, _, rfl, List.mem_map.mpr ⟨s, mem, eq⟩, route⟩⟩

variable [DeviceModel σ]

theorem capsWithin_absent {id : TargetId} (absent : a.get? id = none) (depth : Nat) :
    a.capsWithin depth id = .none := by
  cases depth with
  | zero => rfl
  | succ depth => rw [capsWithin, absent]

theorem capsWithin_leaf {id : TargetId} (here : a.get? id = some t) (leaf : t.parts? = none)
    (depth : Nat) : a.capsWithin (depth + 1) id = t.leafCaps := by
  rw [capsWithin, here]
  cases t with
  | ram | rom | device => rfl
  | window | split => cases leaf

theorem capsWithin_parts {id : TargetId} {ids : List TargetId} (here : a.get? id = some t)
    (parts : t.parts? = some ids) (depth : Nat) :
    a.capsWithin (depth + 1) id = .ofParts (ids.map (a.capsWithin depth)) := by
  rw [capsWithin, here]
  cases t with
  | ram | rom | device => cases parts
  | split => cases parts; rfl
  | window w =>
    cases parts
    rw [List.map_map]
    rfl

/-- What the capabilities of a target promise of plain memory, every leaf can do that a route
ends at, then or later. -/
theorem has_leaf_of_capsWithin (h : a.Extends (DeviceModel.caps : σ → Caps) a')
    (route : a'.routeWithin direction steps cell = .ok leaf)
    (here : a'.get? leaf.target = some t) (plain : Caps.memory.Has i)
    (promised : (a.capsWithin steps cell.target).Has i) : t.leafCaps.Has i := by
  induction steps generalizing cell with
  | zero => cases route
  | succ steps ih =>
    cases before : a.get? cell.target with
    | none =>
      -- The fold counted the missing target as incapable.
      rw [capsWithin_absent before] at promised
      exact absurd promised (Caps.not_has_none i)
    | some s =>
      obtain ⟨s', there, alike⟩ := h _ _ before
      obtain ⟨t', here', step⟩ := routeWithin_succ_cases route
      obtain rfl := Option.some.inj (there.symm.trans here')
      rcases step with ⟨isLeaf, rfl⟩ | ⟨ids, part, parts, mem, next⟩
      · obtain rfl := Option.some.inj (here.symm.trans there)
        rw [alike.parts?_eq] at isLeaf
        rwa [capsWithin_leaf before isLeaf, ← alike.leafCaps_eq] at promised
      · rw [alike.parts?_eq] at parts
        rw [capsWithin_parts before parts] at promised
        exact ih next (.part plain promised (List.mem_map_of_mem mem))

/-- The side effects and the timing of a leaf are in the capabilities of every target that a
route leads from to it. -/
theorem capsWithin_has_of_leaf (route : a.routeWithin direction steps cell = .ok leaf)
    (here : a.get? leaf.target = some t) (spread : Caps.sticky.Has i)
    (has : t.leafCaps.Has i) : (a.capsWithin steps cell.target).Has i := by
  induction steps generalizing cell with
  | zero => cases route
  | succ steps ih =>
    obtain ⟨s, there, step⟩ := routeWithin_succ_cases route
    rcases step with ⟨isLeaf, rfl⟩ | ⟨ids, part, parts, mem, next⟩
    · obtain rfl := Option.some.inj (here.symm.trans there)
      rwa [capsWithin_leaf there isLeaf]
    · rw [capsWithin_parts there parts]
      exact .whole spread (List.mem_map_of_mem mem) (ih next)

/-- What `capsOf` promises of plain memory at one time, a leaf can do at any later time. -/
theorem Extends.leaf_contains (h : a.Extends (DeviceModel.caps : σ → Caps) a')
    (route : a'.route direction cell = .ok leaf) (here : a'.get? leaf.target = some t)
    {bit : Caps} (plain : Caps.memory.contains bit = true)
    (promised : (a.capsOf cell.target).contains bit = true) : t.leafCaps.contains bit = true :=
  Caps.contains_iff.mpr fun i has =>
    has_leaf_of_capsWithin h route here (Caps.contains_iff.mp plain i has)
      (Caps.contains_iff.mp promised i has)

/-- The side effects and the timing of a leaf are in `capsOf` of all that leads to it. -/
theorem capsOf_contains_of_leaf (route : a.route direction cell = .ok leaf)
    (here : a.get? leaf.target = some t) {bit : Caps} (spread : Caps.sticky.contains bit = true)
    (has : t.leafCaps.contains bit = true) : (a.capsOf cell.target).contains bit = true :=
  Caps.contains_iff.mpr fun i bit_i =>
    capsWithin_has_of_leaf route here (Caps.contains_iff.mp spread i bit_i)
      (Caps.contains_iff.mp has i bit_i)

end Arena
end Backplane
