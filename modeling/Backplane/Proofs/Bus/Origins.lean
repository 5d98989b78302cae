import Mathlib
import Backplane.Proofs.Bus.Bounds
import Backplane.Proofs.Bus.Byte
import Backplane.Proofs.Profile.Regions

/-!
# Origins of targets

Several addresses may lead to one byte: layers and ranges show a target wherever they are
told to, and windows lead on to others. But no two bytes of one access do, where all pages are
mapped in whole pages. For each target then has an origin, the distance at which its first
byte lies in what pages show of it: routes keep the sum of origin and offset
(`Origins.routeWithin`), and on a page this sum and the address differ by a multiple of four.

The main statement is `Anchored.lane_unique`, and `Anchored.perform`, `Anchored.transfer`
and `Anchored.addTarget` say which operations keep what it needs.
-/

namespace Backplane

variable {σ : Type}

/-! ## Arenas -/

/-- The target leads on from its offset `start` to offset `stop` of another. -/
inductive Target.LeadsOn : Target σ → TargetId → UInt32 → UInt32 → Prop
  /-- A window to a part. -/
  | window {w : Window} {s : SubRegion} : s ∈ w.subs →
    LeadsOn (.window w) s.target s.offset s.targetOffset
  /-- A split to the side that is read. -/
  | read (read write : TargetId) : LeadsOn (.split read write) read 0 0
  /-- A split to the side that is written. -/
  | write (read write : TargetId) : LeadsOn (.split read write) write 0 0

namespace Arena

variable {a a' : Arena σ} {origin : TargetId → UInt32}

/-- The target may have its origin at `place`: what it leads on to is there, and lies as far
in as the target says. -/
def Admits (a : Arena σ) (origin : TargetId → UInt32) (t : Target σ) (place : UInt32) : Prop :=
  ∀ ⦃next start stop⦄, t.LeadsOn next start stop →
    (∃ u, a.get? next = some u) ∧ origin next + stop = place + start

/-- Every target has its origin where this says. -/
def Origins (a : Arena σ) (origin : TargetId → UInt32) : Prop :=
  ∀ ⦃id t⦄, a.get? id = some t → a.Admits origin t (origin id)

/-- A route keeps the sum of origin and offset. -/
theorem Origins.routeWithin (h : a.Origins origin) {direction : Direction} {steps : ℕ}
    {cell leaf : Cell} (leads : a.routeWithin direction steps cell = .ok leaf) :
    origin leaf.target + leaf.offset = origin cell.target + cell.offset := by
  induction steps generalizing cell with
  | zero => cases leads
  | succ steps ih =>
    unfold Arena.routeWithin at leads
    split at leads
    case h_1 => cases leads
    case h_2 | h_3 | h_4 =>
      cases leads
      rfl
    case h_5 read write here =>
      rw [ih leads]
      cases direction with
      | read =>
        obtain ⟨-, same⟩ := h here (.read read write)
        rw [UInt32.add_zero, UInt32.add_zero] at same
        rw [same]
      | write =>
        obtain ⟨-, same⟩ := h here (.write read write)
        rw [UInt32.add_zero, UInt32.add_zero] at same
        rw [same]
    case h_6 w here =>
      split at leads
      · cases leads
      · rename_i target offset next
        rw [Window.route_eq_map, Option.map_eq_some_iff] at next
        obtain ⟨s, part, ⟨⟩⟩ := next
        obtain ⟨-, same⟩ := h here (.window (Window.part?_eq_some part).1)
        rw [ih leads]
        grind

theorem Origins.of_matches {α : Type} {measure : σ → α} (h : a.Origins origin)
    (same : a.Matches measure a') : a'.Origins origin := by
  intro id t here next start stop leads
  rcases same.cases id with ⟨-, absent⟩ | ⟨t', t'', before, after, alike⟩
  · rw [absent] at here
    cases here
  obtain rfl := Option.some.inj (after.symm.trans here)
  have leads' : t'.LeadsOn next start stop := by
    cases leads <;> cases alike <;> constructor
    assumption
  obtain ⟨⟨u, known⟩, sum⟩ := h before leads'
  obtain ⟨u', known', -⟩ := same.extends _ _ known
  exact ⟨⟨u', known'⟩, sum⟩

/-! ### Growth -/

/-- A new target has its origin wherever it may. -/
theorem Origins.adding (h : a.Origins origin) (room : a.size < 2 ^ 32) {slot : Slot σ}
    {place : UInt32} (leads : a.Admits origin slot.target place) :
    (a.adding [slot]).Origins (Function.update origin (.ofIndex a.size) place) := by
  have old {id : TargetId} {t : Target σ} (here : a.get? id = some t) :
      Function.update origin (.ofIndex a.size) place id = origin id := by
    refine Function.update_of_ne ?_ _ _
    rintro rfl
    rw [get?_size_eq_none room] at here
    cases here
  intro id t here next start stop on
  rcases get?_adding_cases here with here | ⟨rfl, rfl⟩
  · obtain ⟨⟨u, known⟩, sum⟩ := h here on
    rw [old here, old known]
    exact ⟨⟨u, get?_adding known⟩, sum⟩
  · obtain ⟨⟨u, known⟩, sum⟩ := leads on
    rw [old known, Function.update_self]
    exact ⟨⟨u, get?_adding known⟩, sum⟩

end Arena

/-! ## Pages -/

/-- The page begins a whole number of words into what it shows of its target. -/
def PageEntry.Whole (a : Arena σ) (origin : TargetId → UInt32) (entry : PageEntry) : Prop :=
  ∀ id, entry.target = some id →
    (∃ t, a.get? id = some t) ∧ (origin id + entry.physicalBase).toNat % 4 = 0

/-- The targets of the bus have these origins, and its pages are whole. -/
structure Bus.Anchored (b : Bus σ) (origin : TargetId → UInt32) : Prop where
  origins : b.arena.Origins origin
  entries : b.map.Holds (PageEntry.Whole b.arena origin)

namespace Bus

variable {b b' : Bus σ} {origin : TargetId → UInt32} {direction : Direction}
  {address : UInt32} {cell : Cell}

theorem anchored_empty (g : Geometry) (origin : TargetId → UInt32) :
    (Bus.empty (σ := σ) g).Anchored origin where
  origins _ _ here := nomatch here
  entries := .empty g nofun

/-- Where an address leads, and the address, differ by a multiple of four. -/
theorem Anchored.route?_mod (h : b.Anchored origin)
    (leads : b.route? direction address = some (.ok cell)) :
    (origin cell.target + cell.offset).toNat % 4 = address.toNat % 4 := by
  unfold route? at leads
  split at leads
  · cases leads
  rename_i entry offset looked
  split at leads
  · cases leads
  rename_i id mapped
  obtain ⟨-, whole⟩ := h.entries.entries entry (AddressMap.held_of_lookup looked) id mapped
  obtain ⟨-, -, -, sum⟩ := PageTable.lookup_eq_some_iff.mp looked
  have route : origin cell.target + cell.offset = origin id + offset :=
    h.origins.routeWithin (Option.some.inj leads)
  have on_page : (b.geometry.pageOffset address).toNat % 4 = address.toNat % 4 := by
    rw [b.geometry.pageOffset_toNat]
    exact Nat.mod_mod_of_dvd _ (b.geometry.bytes_dvd_pageBytes .word)
  change entry.physicalBase + b.geometry.pageOffset address = offset at sum
  rw [route, ← sum, ← UInt32.add_assoc, UInt32.toNat_add]
  omega

/-- **No two bytes of an access lead to one byte.** -/
theorem Anchored.lane_unique (h : b.Anchored origin) {i j : ℕ} (lt : i < 4) (lt' : j < 4)
    (leads : b.route? direction (address + i.toUInt32) = some (.ok cell))
    (leads' : b.route? direction (address + j.toUInt32) = some (.ok cell)) : i = j := by
  have same := (h.route?_mod leads).symm.trans (h.route?_mod leads')
  have word {k : ℕ} (lt : k < 4) : k.toUInt32.toNat = k := Nat.mod_eq_of_lt (by omega)
  rw [UInt32.toNat_add, UInt32.toNat_add, word lt, word lt'] at same
  omega

end Bus

/-! ## Operations -/

theorem Geometry.mod_pageSize (g : Geometry) (step : UInt32) :
    (step * g.pageSize).toNat % 4 = 0 := by
  obtain ⟨n, pages⟩ := g.bytes_dvd_pageBytes .word
  rw [UInt32.toNat_mul, g.pageSize_toNat, pages, Width.bytes, Nat.mul_left_comm]
  omega

namespace Bus

variable [DeviceModel σ] {b b' : Bus σ} {origin : TargetId → UInt32}

theorem Makes.whole {o : Operation σ} {entry : PageEntry} (made : b.Makes o entry)
    (shows : o.Shows fun id => origin id = 0) : entry.Whole b.arena origin := by
  intro id mapped
  obtain ⟨size, found, -⟩ := made.fits id mapped
  refine ⟨(Arena.measured_of_sizeWithin found).get?, ?_⟩
  cases made with
  | range =>
    obtain ⟨offset, root⟩ := shows
    cases mapped
    rw [root, entryAt, offset, UInt32.zero_add, UInt32.zero_add]
    exact b.geometry.mod_pageSize _
  | unmapped => cases mapped
  | placed ok covers =>
    obtain ⟨offset, root⟩ := shows
    obtain ⟨-, -, -, -, -, pageSize, target, base⟩ := Placement.ofMapping_eq_ok ok
    rw [Placement.entryFor, target] at mapped
    cases mapped
    rw [root, Placement.entryFor, base, pageSize, offset, UInt32.zero_add, UInt32.zero_add]
    exact b.geometry.mod_pageSize _

/-- What shows only targets that begin where pages do leaves pages whole. -/
theorem Anchored.perform (h : b.Anchored origin) (o : Operation σ)
    (shows : o.Shows fun id => origin id = 0) : (b.perform o).Anchored origin := by
  have same : (b.perform o).arena = b.arena := arena_perform_of_shows shows
  refine ⟨same ▸ h.origins, ?_⟩
  rw [same]
  exact holds_perform h.entries fun _ made => made.whole shows

theorem Anchored.run (h : b.Anchored origin) {os : List (Operation σ)}
    (shows : ∀ o ∈ os, o.Shows fun id => origin id = 0) : (b.run os).Anchored origin := by
  induction os generalizing b with
  | nil => exact h
  | cons o os ih =>
    obtain ⟨first, rest⟩ := List.forall_mem_cons.mp shows
    exact ih (h.perform o first) rest

/-- A transfer leaves bytes where they are. -/
theorem Anchored.transfer (h : b.Anchored origin) (t : Transfer) :
    (b.transfer t).Anchored origin := by
  have shape : DeviceModel.Keeps fun _ : σ => () := fun _ _ _ => rfl
  refine ⟨?_, ?_⟩
  · refine transfer_induction (P := fun b => b.arena.Origins origin) (fun b x h => ?_) h.origins t
    rw [transact_arena]
    exact h.of_matches (b.served_matches shape x)
  · have made (entry : PageEntry) (made : b.Makes (.transfer t) entry) :
        entry.Whole b.arena origin := nomatch made
    refine (holds_perform h.entries made).mono fun entry whole id mapped => ?_
    obtain ⟨⟨u, known⟩, sum⟩ := whole id mapped
    obtain ⟨u', known', -⟩ := b.perform_extends shape (.transfer t) _ _ known
    exact ⟨⟨u', known'⟩, sum⟩

omit [DeviceModel σ] in
theorem size_of_addTarget {name : String} {target : Target σ} {id : TargetId}
    (added : b.addTarget name target = (b', .ok id)) : b'.arena.size = b.arena.size + 1 := by
  rw [addTarget_eq] at added
  split at added
  · cases added
  · cases added
    rw [arena_adding, Arena.size_adding, List.length_singleton]

omit [DeviceModel σ] in
/-- A target is added with its origin wherever it may. -/
theorem Anchored.addTarget (h : b.Anchored origin) {name : String} {target : Target σ}
    {id : TargetId} (added : b.addTarget name target = (b', .ok id))
    (room : b'.arena.size ≤ 2 ^ 32) {place : UInt32} (leads : b.arena.Admits origin target place) :
    b'.Anchored (Function.update origin id place) ∧ b'.arena.get? id = some target ∧
      ∀ ⦃other t⦄, b.arena.get? other = some t → other ≠ id ∧ b'.arena.get? other = some t := by
  rw [addTarget_eq] at added
  split at added
  · cases added
  cases added
  rw [arena_adding, Arena.size_adding] at room
  have lt : b.arena.size < 2 ^ 32 := room
  have old {other : TargetId} {t : Target σ} (here : b.arena.get? other = some t) :
      other ≠ .ofIndex b.arena.size := by
    rintro rfl
    rw [Arena.get?_size_eq_none lt] at here
    cases here
  have last : (b.arena.adding [⟨name, target⟩]).get? (.ofIndex b.arena.size) = some target := by
    rw [Arena.get?_ofIndex lt, ← Nat.add_zero b.arena.size, Arena.slots_adding]
    rfl
  refine ⟨⟨h.origins.adding lt leads, h.entries.mono fun entry whole other mapped => ?_⟩, last,
    fun other t here => ⟨old here, Arena.get?_adding here⟩⟩
  obtain ⟨⟨u, known⟩, sum⟩ := whole other mapped
  rw [Function.update_of_ne (old known)]
  exact ⟨⟨u, Arena.get?_adding known⟩, sum⟩

end Bus
end Backplane
