import Mathlib
import Backplane.Proofs.Bus.Bounds
import Backplane.Proofs.Bus.Isolation
import Backplane.Proofs.Profile.Regions

/-!
# Ids on a bus

Device ids stand in page entries and in notices. A notice has the id of the entry through
which its device was reached (`served_posts`), so what holds of all entries of the map holds
of an entry behind each notice (`Attributed`). An operation keeps this if it holds of the
entries that the operation makes (`Attributed.perform`), and these have the id that it brings
(`Makes.deviceId_eq`).
-/

namespace Backplane

/-! ## Notices -/

namespace NoticeQueue

variable {q : NoticeQueue} {n : Notice}

theorem mem_push {other : Notice} (mem : n ∈ (q.push other).pending) :
    n ∈ q.pending ∨ n = other := by
  unfold push at mem
  split at mem
  · exact (List.mem_append.mp mem).imp List.mem_of_mem_drop List.mem_singleton.mp
  · exact (List.mem_append.mp mem).imp_right List.mem_singleton.mp

theorem mem_pushAll {ns : List Notice} (mem : n ∈ (q.pushAll ns).pending) :
    n ∈ q.pending ∨ n ∈ ns := by
  induction ns generalizing q with
  | nil => exact .inl mem
  | cons other ns ih =>
    rcases ih mem with before | later
    · rcases mem_push before with before | rfl
      · exact .inl before
      · exact .inr List.mem_cons_self
    · exact .inr (List.mem_cons_of_mem other later)

end NoticeQueue

namespace Fabric

variable {σ : Type} {f g h : Fabric σ} {id : UInt32}

/-- All notices that `g` has and `f` has not are from the device `id`. -/
def Posts (id : UInt32) (f g : Fabric σ) : Prop :=
  ∀ n ∈ g.notices.pending, n ∈ f.notices.pending ∨ n.deviceId = id

theorem Posts.refl (id : UInt32) (f : Fabric σ) : Posts id f f := fun _ mem => .inl mem

theorem Posts.trans (first : Posts id f g) (second : Posts id g h) : Posts id f h := by
  intro n mem
  rcases second n mem with before | posted
  · exact first n before
  · exact .inr posted

theorem Quiet.posts (quiet : f.Quiet g) : Posts id f g := by
  intro n mem
  rw [quiet.notices_eq] at mem
  exact .inl mem

/-- A device that is called posts under the id of the page. -/
theorem absorb_posts {α : Type} (f : Fabric σ) (context : DeviceContext) (call : DeviceCall)
    (reply : DeviceReply σ α) : Posts context.deviceId f (f.absorb context call reply).1 := by
  intro n mem
  refine (NoticeQueue.mem_pushAll mem).imp_right fun posted => ?_
  obtain ⟨kind, -, rfl⟩ := List.mem_map.mp posted
  rfl

variable [DeviceModel σ]

theorem read_posts (f : Fabric σ) (cell : Cell) (context : DeviceContext) :
    Posts context.deviceId f (f.read cell context).1 := by
  unfold read
  repeat' split
  all_goals first | exact .refl _ f | exact f.absorb_posts context _ _

theorem write_posts (f : Fabric σ) (cell : Cell) (value : UInt8) (context : DeviceContext) :
    Posts context.deviceId f (f.write cell value context).1 := by
  unfold write
  repeat' split
  all_goals first
    | exact .refl _ f
    | exact (f.storeByte_quiet _ _ _).posts
    | exact f.absorb_posts context _ _

theorem writeWide_posts (f : Fabric σ) (leaf : Cell) (value : UInt32) (bytes : ℕ)
    (context : DeviceContext) :
    Posts context.deviceId f (f.writeWide leaf value bytes context).1 := by
  unfold writeWide
  repeat' split
  all_goals first | exact .refl _ f | exact f.absorb_posts context _ _

end Fabric

namespace Bus

variable {σ : Type} [DeviceModel σ] {b : Bus σ}

theorem readByte_posts (f : Fabric σ) (a : Access) (entry : PageEntry) (cell : Cell) :
    f.Posts entry.deviceId (readByte f a entry cell).1 := by
  unfold readByte
  split
  · exact (f.peek_quiet cell).1.posts
  · exact f.read_posts cell (contextOf a entry)

theorem writeByte_posts (f : Fabric σ) (a : Access) (entry : PageEntry) (cell : Cell)
    (value : UInt8) : f.Posts entry.deviceId (writeByte f a entry cell value).1 := by
  unfold writeByte
  split
  · exact (f.poke_quiet cell value _).posts
  · exact f.write_posts cell value (contextOf a entry)

theorem writeResolved_posts (f : Fabric σ) (a : Access) (r : Resolved) :
    f.Posts r.entry.deviceId (writeResolved f a r).1 := by
  have plan := writeResolved_plan f a r
  generalize writeResolved f a r = served at plan ⊢
  cases plan with
  | byte | lanes =>
    exact writeBytes_rel_at (.refl _) .trans (fun f _ value => writeByte_posts f a r.entry _ value)
      f _
  | refused => exact .refl _ f
  | whole => exact f.writeWide_posts _ _ _ (contextOf a r.entry)

/-- What a transaction posts, it posts under the id of an entry of the map. -/
theorem served_posts (b : Bus σ) (x : Transaction) {n : Notice}
    (mem : n ∈ (b.served x).notices.pending) :
    n ∈ b.fabric.notices.pending ∨ ∃ entry, b.map.Held entry ∧ n.deviceId = entry.deviceId := by
  have held {a : Access} {r : Resolved} (resolved : b.resolve a = .ok r) : b.map.Held r.entry :=
    AddressMap.held_of_lookup (resolve_eq_ok_iff.mp resolved).1
  cases x with
  | read a =>
    rw [served, servedRead] at mem
    cases resolved : b.resolve a with
    | error fault =>
      rw [resolved] at mem
      exact .inl mem
    | ok r =>
      rw [resolved] at mem
      have posts : b.fabric.Posts r.entry.deviceId
          (readBytes a r b.fabric (List.range a.width.bytes)).1 :=
        readBytes_rel_at (.refl _) .trans (fun f _ => readByte_posts f a r.entry _) b.fabric _
      exact (posts n mem).imp_right fun same => ⟨r.entry, held resolved, same⟩
  | write a =>
    rw [served, servedWrite] at mem
    cases resolved : b.resolve a with
    | error fault =>
      rw [resolved] at mem
      exact .inl mem
    | ok r =>
      rw [resolved] at mem
      exact (writeResolved_posts b.fabric a r n mem).imp_right fun same =>
        ⟨r.entry, held resolved, same⟩

/-! ## Attribution -/

variable {P Q : PageEntry → Prop}

/-- `P` holds of all entries of the map, and notices that wait have the ids of entries of
which it holds. -/
structure Attributed (P : PageEntry → Prop) (b : Bus σ) : Prop where
  map : b.map.Holds P
  notices : ∀ n ∈ b.fabric.notices.pending, ∃ entry, P entry ∧ n.deviceId = entry.deviceId

omit [DeviceModel σ] in
theorem Attributed.mono (h : b.Attributed P) (imp : ∀ entry, P entry → Q entry) :
    b.Attributed Q where
  map := h.map.mono imp
  notices n mem := by
    obtain ⟨entry, holds, same⟩ := h.notices n mem
    exact ⟨entry, imp entry holds, same⟩

omit [DeviceModel σ] in
theorem attributed_empty (g : Geometry) (unmapped : P .unmapped) :
    (Bus.empty g : Bus σ).Attributed P where
  map := .empty g unmapped
  notices := nofun

theorem Attributed.transact (h : b.Attributed P) (x : Transaction) :
    (b.transact x).Attributed P where
  map := by
    rw [transact_map]
    exact h.map.commands _
  notices n mem := by
    rw [transact_fabric] at mem
    rcases b.served_posts x mem with before | ⟨entry, held, same⟩
    · exact h.notices n before
    · exact ⟨entry, h.map.entries entry held, same⟩

/-- What holds of the entries that an operation makes is kept by the operation. -/
theorem Attributed.perform (h : b.Attributed P) {o : Operation σ}
    (new : ∀ entry, b.Makes o entry → P entry) : (b.perform o).Attributed P where
  map := holds_perform h.map new
  notices := by
    cases o with
    | transfer t =>
      exact (transfer_induction (P := fun b => b.Attributed P) (fun b x h => h.transact x) h
        t).notices
    | drainNotices => exact nofun
    | addTarget name target =>
      rw [Bus.perform, addTarget]
      cases b.arena.insert name target <;> exact h.notices
    | _ => simpa [Bus.perform] using h.notices

/-! ## Names -/

/-- A transaction renames no target. -/
theorem served_names (b : Bus σ) (x : Transaction) :
    (b.served x).arena.names = b.arena.names := by
  let R (f g : Fabric σ) : Prop := g.arena.names = f.arena.names
  have trans {f g h : Fabric σ} (first : R f g) (second : R g h) : R f h := second.trans first
  cases x with
  | read a =>
    exact servedRead_rel (R := R) (fun _ => rfl) trans
      (fun f entry cell => (readByte_touches f a entry cell).names_eq) b
  | write a =>
    exact servedWrite_rel (R := R) (fun _ => rfl) trans
      (fun f entry cell value => (writeByte_touches f a entry cell value).names_eq)
      (fun _ f leaf value bytes context =>
        (f.writeWide_touches leaf value bytes context).names_eq) b

/-- What is found by its name is found by it for good. -/
theorem find?_perform (o : Operation σ) {name : String} {id : TargetId}
    (found : b.arena.find? name = some id) : (b.perform o).arena.find? name = some id := by
  rcases b.perform_arena_cases o with ⟨t, rfl⟩ | ⟨other, target, rfl⟩ | same
  · have names : (b.transfer t).arena.names = b.arena.names := by
      refine transfer_induction (P := fun b' => b'.arena.names = b.arena.names)
        (fun b' x h => ?_) rfl t
      rw [transact_arena]
      exact (b'.served_names x).trans h
    exact (Arena.find?_congr names name).trans found
  · rw [perform, addTarget_eq]
    split
    · exact found
    · exact Arena.find?_adding found
  · rwa [same]

end Bus

/-- The device id that an operation brings, zero if it brings none. -/
def Operation.deviceId {σ : Type} : Operation σ → UInt32
  | .mapRange _ _ mapping => mapping.deviceId
  | .setLayerMapping _ mapping => mapping.deviceId
  | _ => 0

namespace Bus

variable {σ : Type} [DeviceModel σ] {b : Bus σ}

theorem deviceId_of_ofMapping {g : Geometry} {arena : Arena σ} {mapping : LayerMapping}
    {p : Placement} (placed : Placement.ofMapping g arena mapping = .ok p) (page : ℕ) :
    (p.entryFor page).deviceId = mapping.deviceId := by
  unfold Placement.ofMapping at placed
  obtain ⟨size, -, placed⟩ := bind_eq_ok_iff.mp placed
  dsimp only [bind, Except.bind] at placed
  generalize mapping.length.getD _ = length at placed
  split at placed
  · cases placed
  · split at placed
    · cases placed
    · cases placed
      rfl

/-- The entries that an operation makes have the id that it brings. -/
theorem Makes.deviceId_eq {o : Operation σ} {entry : PageEntry} (made : b.Makes o entry) :
    entry.deviceId = o.deviceId := by
  cases made with
  | range => rfl
  | unmapped => rfl
  | placed ok _ => exact deviceId_of_ofMapping ok _

end Bus
end Backplane
