import Backplane.Proofs.Target.Shape

/-!
# The bytes of memory

Two arenas match if they hold the same targets up to the bytes of memory and the
states of devices; then every address leads to the same cell in both.

`Arena.byte?` is the byte that memory holds at a cell. Storing a byte leads to an
arena that matches, and changes the byte at that cell alone.
-/

namespace Backplane

variable {σ α : Type} {measure : σ → α}

theorem Target.Alike.symm {t t' : Target σ} (h : Target.Alike measure t t') :
    Target.Alike measure t' t := by
  cases h with
  | ram same => exact .ram same.symm
  | rom same => exact .rom same.symm
  | window w => exact .window w
  | split read write => exact .split read write
  | device same => exact .device same.symm

namespace Arena

variable {a a' a'' : Arena σ}

theorem name?_modify (a : Arena σ) (id j : TargetId) (f : Target σ → Target σ) :
    (a.modify id f).name? j = a.name? j := by
  rw [name?, modify, Array.getElem?_modify, name?]
  split
  · rw [Option.map_map]
    rfl
  · rfl

/-! ## Arenas that match -/

/-- The same targets are there, each alike. -/
def Matches (measure : σ → α) (a a' : Arena σ) : Prop :=
  ∀ id, Option.Rel (Target.Alike measure) (a.get? id) (a'.get? id)

theorem Matches.refl (a : Arena σ) : a.Matches measure a := by
  intro id
  cases a.get? id with
  | none => exact .none
  | some t => exact .some (.refl t)

theorem Matches.symm (h : a.Matches measure a') : a'.Matches measure a := by
  intro id
  have both := h id
  generalize a.get? id = left, a'.get? id = right at both ⊢
  cases both with
  | none => exact .none
  | some alike => exact .some alike.symm

theorem Matches.trans (h : a.Matches measure a') (h' : a'.Matches measure a'') :
    a.Matches measure a'' := by
  intro id
  have first := h id
  have second := h' id
  generalize a.get? id = left, a'.get? id = mid, a''.get? id = right at first second ⊢
  cases first with
  | none => exact second
  | some alike => cases second with | some alike' => exact .some (alike.trans alike')

theorem Matches.cases (h : a.Matches measure a') (id : TargetId) :
    (a.get? id = none ∧ a'.get? id = none) ∨
      ∃ t t', a.get? id = some t ∧ a'.get? id = some t' ∧ Target.Alike measure t t' := by
  have both := h id
  generalize a.get? id = left, a'.get? id = right at both ⊢
  cases both with
  | none => exact .inl ⟨rfl, rfl⟩
  | some alike => exact .inr ⟨_, _, rfl, rfl, alike⟩

/-- Arenas that match have the same windows. -/
theorem Matches.window_iff (h : a.Matches measure a') {id : TargetId} {w : Window} :
    a'.get? id = some (.window w) ↔ a.get? id = some (.window w) := by
  rcases h.cases id with ⟨here, there⟩ | ⟨t, t', here, there, alike⟩
  · rw [here, there]
  · rw [here, there]
    cases alike with
    | window => rfl
    | ram | rom | split | device => exact iff_of_false nofun nofun

theorem matches_store (measure : σ → α) (a : Arena σ) (id : TargetId) (offset : UInt32)
    (value : UInt8) :
    a.Matches measure (a.modify id (.store offset value)) := by
  intro j
  rw [get?_modify]
  split
  · cases a.get? j with
    | none => exact .none
    | some t => exact .some (t.alike_store offset value)
  · cases a.get? j with
    | none => exact .none
    | some t => exact .some (.refl t)

theorem matches_setState {id : TargetId} {state next : σ}
    (device : a.get? id = some (.device state)) (same : measure next = measure state) :
    a.Matches measure (a.modify id (.setState next)) := by
  intro j
  rw [get?_modify]
  split
  · rename_i eq
    rw [← eq, device]
    exact .some (.device same)
  · cases a.get? j with
    | none => exact .none
    | some t => exact .some (.refl t)

/-- Devices put in the same state match. -/
theorem Matches.setState (h : a.Matches measure a') (id : TargetId) (state : σ) :
    (a.modify id (.setState state)).Matches measure (a'.modify id (.setState state)) := by
  intro j
  rw [get?_modify, get?_modify]
  split
  · rcases h.cases j with ⟨here, here'⟩ | ⟨t, t', here, here', alike⟩ <;> rw [here, here']
    · exact .none
    · refine .some ?_
      cases alike with
      | ram same => exact .ram same
      | rom same => exact .rom same
      | window w => exact .window w
      | split read write => exact .split read write
      | device => exact .device rfl
  · exact h j

/-- Where arenas match, routes do: those that lead somewhere, and those that do
not. -/
theorem Matches.routeWithin (h : a.Matches measure a') (direction : Direction) (steps : Nat)
    (cell : Cell) : a'.routeWithin direction steps cell = a.routeWithin direction steps cell := by
  induction steps generalizing cell with
  | zero => rfl
  | succ steps ih =>
    rcases h.cases cell.target with ⟨here, here'⟩ | ⟨t, t', here, here', alike⟩
    · simp only [Arena.routeWithin, here, here']
    · simp only [Arena.routeWithin, here, here']
      cases alike with
      | ram | rom | device => rfl
      | split read write => exact ih _
      | window w =>
        dsimp only
        split
        · rfl
        · exact ih _

theorem Matches.route (h : a.Matches measure a') (direction : Direction) (cell : Cell) :
    a'.route direction cell = a.route direction cell :=
  h.routeWithin direction (maxNesting + 1) cell

/-- Serving a byte changes no shape, and no measure that handlers keep. -/
theorem Touches.matches_of_keeps [DeviceModel σ] (h : a.Touches a')
    (keeps : DeviceModel.Keeps measure) : a.Matches measure a' := by
  cases h with
  | none => exact .refl a
  | store id offset value => exact a.matches_store _ id offset value
  | call device step => exact matches_setState device (keeps _ _ step)

/-- Serving a byte changes no shape. -/
theorem Touches.matches [DeviceModel σ] (h : a.Touches a') : a.Matches (fun _ => ()) a' :=
  h.matches_of_keeps fun _ _ _ => rfl

/-- Of arenas that match, either holds what the other does. -/
theorem Matches.extends (h : a.Matches measure a') : a.Extends measure a' := by
  intro id t here
  rcases h.cases id with ⟨absent, -⟩ | ⟨t', t'', here', there, alike⟩
  · cases here.symm.trans absent
  · obtain rfl := Option.some.inj (here.symm.trans here')
    exact ⟨t'', there, alike⟩

/-! ## Bytes -/

/-- The byte of the memory at a cell; nothing where there is no memory. -/
def byte? (a : Arena σ) (cell : Cell) : Option UInt8 :=
  ((a.get? cell.target).bind Target.memory?).bind (·.get? cell.offset.toNat)

variable {cell : Cell} {t : Target σ} {m : Memory} {value : UInt8}

theorem byte?_of_memory (here : a.get? cell.target = some t) (memory : t.memory? = some m) :
    a.byte? cell = m.get? cell.offset.toNat := by
  rw [byte?, here, Option.bind_some, memory, Option.bind_some]

/-- Memory with a byte stored is memory still. -/
theorem memory?_store (memory : t.memory? = some m) (offset : UInt32) (value : UInt8) :
    (t.store offset value).memory? = some (m.set offset.toNat value) := by
  cases t <;> cases memory <;> rfl

/-- A stored byte is there, and every other byte is as it was. -/
theorem byte?_store (here : a.get? cell.target = some t) (memory : t.memory? = some m)
    (inside : cell.offset.toNat < m.size) (other : Cell) :
    (a.modify cell.target (.store cell.offset value)).byte? other =
      if cell = other then some value else a.byte? other := by
  by_cases target : cell.target = other.target
  · have there : a.get? other.target = some t := target ▸ here
    rw [byte?, get?_modify, if_pos target, there, Option.map_some, Option.bind_some,
      memory?_store memory, Option.bind_some, Memory.get?_set, byte?_of_memory there memory]
    by_cases eq : cell = other
    · rw [if_pos eq, if_pos ⟨by rw [eq], eq ▸ inside⟩]
    · have apart : cell.offset.toNat ≠ other.offset.toNat := by
        intro same
        apply eq
        obtain ⟨target', offset⟩ := cell
        obtain ⟨target'', offset'⟩ := other
        rw [Cell.mk.injEq]
        exact ⟨target, UInt32.toNat_inj.mp same⟩
      rw [if_neg eq, if_neg fun hit => apart hit.1]
  · rw [byte?, get?_modify, if_neg target, if_neg fun eq => target (by rw [eq]), byte?]

end Arena

end Backplane
