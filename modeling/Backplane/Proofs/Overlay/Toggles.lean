import Mathlib
import Backplane.Device.Switch
import Backplane.Proofs.Overlay.Restore
import Backplane.Proofs.Overlay.Shown

/-!
# The last toggle of each layer

A toggle shows or hides one layer, which a user calls by its name or id and a device by
its id. In the map that it leaves, a layer is shown if it was told so last and may be
shown at all, or if it was told nothing and was shown before (`toggles_isShown`). What is
shown settles the rest of the map, since the map realizes its overlay
(`Realizes.map_ext`). So of all toggles of a layer only the last one counts, and the order
in which layers take their turns does not.

The main statement is `last_toggle_wins`.
-/

namespace Backplane

namespace LayerCommand

/-- The layer that a command is about. -/
def layer : LayerCommand → LayerId
  | activate id | deactivate id => id

/-- Whether a command shows its layer. -/
def shows : LayerCommand → Bool
  | activate _ => true
  | deactivate _ => false

end LayerCommand

/-- An order to show or hide a layer. -/
inductive Toggle where
  /-- The layer is given by its name. -/
  | byName (shown : Bool) (name : String)
  /-- The layer is given by its id. -/
  | byId (c : LayerCommand)
  deriving DecidableEq

namespace Toggle

/-- Whether the layer is to be shown. -/
def shows : Toggle → Bool
  | byName shown _ => shown
  | byId c => c.shows

/-- The toggle with the layer given by its id; nothing if no layer has the name. -/
def command? (m : AddressMap) : Toggle → Option LayerCommand
  | byName true name => (m.layerId? name).map .activate
  | byName false name => (m.layerId? name).map .deactivate
  | byId c => some c

/-- Whether the toggle is addressed to the layer at position `i`. -/
def addresses (m : AddressMap) (i : Nat) (t : Toggle) : Bool :=
  (t.command? m).any fun c => c.layer.index = i

/-- The map after the toggle, which does nothing if it fails. -/
def apply (m : AddressMap) (t : Toggle) : AddressMap :=
  match t.command? m with
  | some c => m.command c
  | none => m

/-- The toggle as an operation on a bus. -/
def operation {σ : Type} : Toggle → Operation σ
  | byName true name => .activateNamed name
  | byName false name => .deactivateNamed name
  | byId (.activate id) => .activate id
  | byId (.deactivate id) => .deactivate id

/-- A toggle is addressed to one layer at most. -/
theorem addresses_unique {m : AddressMap} {t : Toggle} {i j : Nat}
    (at_i : t.addresses m i = true) (at_j : t.addresses m j = true) : i = j := by
  obtain ⟨c, found, hi⟩ := (Option.any_eq_true _ _).mp at_i
  obtain ⟨c', found', hj⟩ := (Option.any_eq_true _ _).mp at_j
  obtain rfl := Option.some.inj (found.symm.trans found')
  exact (of_decide_eq_true hi).symm.trans (of_decide_eq_true hj)

theorem shows_of_command? {m : AddressMap} {t : Toggle} {c : LayerCommand}
    (h : t.command? m = some c) : c.shows = t.shows := by
  cases t with
  | byId _ =>
    cases h
    rfl
  | byName shown name =>
    cases shown
    all_goals
      obtain ⟨id, -, rfl⟩ := Option.map_eq_some_iff.mp h
      rfl

/-- Which layer has a name does not hang on what is shown. -/
theorem command?_congr {m m' : AddressMap} (same : m.SameButShown m') (t : Toggle) :
    t.command? m' = t.command? m := by
  have hidden (m : AddressMap) (name : String) : m.layerId? name =
      ((m.layers.toList.map Layer.hidden).findIdx? fun l => l.name = name).map
        LayerId.ofIndex := by
    rw [AddressMap.layerId?, List.findIdx?_map, ← List.findIdx?_toArray, Array.toArray_toList]
    rfl
  cases t with
  | byId c => rfl
  | byName shown name =>
    cases shown
    all_goals rw [command?, command?, hidden m', hidden m, same.hidden]

end Toggle

/-! ## What toggles leave shown -/

namespace AddressMap

variable {m m' : AddressMap} {o : Overlay}

/-- Toggles are the commands that their names stand for at the beginning. -/
theorem foldl_toggles (same : m.SameButShown m') (ts : List Toggle) :
    ts.foldl Toggle.apply m' = (ts.filterMap (·.command? m)).foldl command m' := by
  induction ts generalizing m' with
  | nil => rfl
  | cons t ts ih =>
    rw [List.foldl_cons, Toggle.apply, t.command?_congr same]
    cases h : t.command? m with
    | none => rw [List.filterMap_cons_none h, ih same]
    | some c =>
      rw [List.filterMap_cons_some h, List.foldl_cons]
      exact ih (same.trans (m'.command_sameButShown c))

theorem toggles_sameButShown (m : AddressMap) (ts : List Toggle) :
    m.SameButShown (ts.foldl Toggle.apply m) := by
  rw [foldl_toggles (.refl m)]
  exact m.commands_sameButShown _

/-- A layer that is shown may be shown. -/
theorem Agrees.mayShow (h : m.Agrees o) {i : Nat} (shown : m.isShown i = true) :
    m.mayShow i = true := by
  obtain ⟨l, here, active⟩ := (Option.any_eq_true _ _).mp shown
  refine (m.mayShow_iff i).mpr ⟨l, here, fun page hp => ?_⟩
  rw [h.layers] at here
  exact (h.kept_iff page).mp (h.covered ⟨here, active, Layer.mem_pages.mp hp⟩)

/-- What is left of all toggles of a layer is the last one. -/
theorem toggles_isShown (h : m.Agrees o) (ts : List Toggle) (i : Nat) :
    (ts.foldl Toggle.apply m).isShown i =
      match (ts.filter (·.addresses m i)).getLast? with
      | none => m.isShown i
      | some t => t.shows && m.mayShow i := by
  induction ts using List.reverseRecOn with
  | nil => rfl
  | append_singleton ts t ih =>
    have same := m.toggles_sameButShown ts
    have may : (ts.foldl Toggle.apply m).isShown i = true → m.mayShow i = true := by
      rw [ih]
      split
      · exact h.mayShow
      · exact And.right ∘ (Bool.and_eq_true _ _).mp
    rw [List.foldl_append, List.foldl_cons, List.foldl_nil, Toggle.apply, t.command?_congr same,
      List.filter_append, List.filter_singleton, Toggle.addresses]
    cases found : t.command? m with
    | none => simpa using ih
    | some c =>
      dsimp only
      rw [command_isShown, same.mayShow, Option.any_some]
      by_cases at_i : c.layer.index = i
      · -- The toggle is the last one of the layer, and overrules all before it.
        rw [decide_eq_true at_i, cond_true, List.getLast?_concat]
        dsimp only
        rw [← Toggle.shows_of_command? found]
        cases c with
        | activate id =>
          obtain rfl : id.index = i := at_i
          cases shown : (ts.foldl Toggle.apply m).isShown id.index with
          | false => simp [LayerCommand.flags, LayerCommand.shows, showAt, shown]
          | true => simp [LayerCommand.flags, LayerCommand.shows, showAt, shown, may shown]
        | deactivate id =>
          obtain rfl : id.index = i := at_i
          simp [LayerCommand.flags, LayerCommand.shows, hideAt]
      · rw [decide_eq_false at_i, cond_false, List.append_nil, ← ih]
        cases c with
        | activate id =>
          have ne : i ≠ id.index := Ne.symm at_i
          simp [LayerCommand.flags, showAt, ne]
        | deactivate id =>
          have ne : i ≠ id.index := Ne.symm at_i
          simp [LayerCommand.flags, hideAt, ne]

/-! ## What is shown settles the map -/

/-- Two maps of the same space that save the same base entries and realize the same
overlay are equal. -/
theorem Realizes.map_ext (h : m.Realizes o) (h' : m'.Realizes o)
    (space : m'.geometry = m.geometry) (saved : m'.saved = m.saved) : m' = m := by
  have layers : m'.layers = m.layers := Array.toList_inj.mp (h'.layers.trans h.layers.symm)
  have entries : m'.table.entries = m.table.entries := by
    refine Array.ext_getElem? fun page => ?_
    by_cases lt : page < m.geometry.pageCount
    · obtain ⟨entry, live, shows⟩ := h.live page lt
      obtain ⟨entry', live', shows'⟩ := h'.live page (space ▸ lt)
      rw [PageTable.get?] at live live'
      rw [live, live', shows'.unique shows]
    · have le : m.geometry.pageCount ≤ page := Nat.le_of_not_lt lt
      have outside : m.table.entries[page]? = none :=
        Array.getElem?_eq_none (m.table.size_entries.trans_le le)
      have outside' : m'.table.entries[page]? = none :=
        Array.getElem?_eq_none
          ((m'.table.size_entries.trans (by rw [← geometry, space])).trans_le le)
      rw [outside, outside']
  have table : m'.table = m.table := by
    obtain ⟨⟨g, es, _⟩, _, _⟩ := m
    obtain ⟨⟨g', es', _⟩, _, _⟩ := m'
    obtain rfl : g' = g := space
    obtain rfl : es' = es := entries
    rfl
  obtain ⟨t, ls, ss⟩ := m
  obtain ⟨t', ls', ss'⟩ := m'
  obtain rfl : t' = t := table
  obtain rfl : ls' = ls := layers
  obtain rfl : ss' = ss := saved
  rfl

/-- Toggles that leave the same layers shown leave the same map. -/
theorem Realizes.toggles_ext (h : m.Realizes o) (few : m.layers.size ≤ maxLayers)
    {ts us : List Toggle}
    (shown : (ts.foldl Toggle.apply m).isShown = (us.foldl Toggle.apply m).isShown) :
    ts.foldl Toggle.apply m = us.foldl Toggle.apply m := by
  have realizes (ts : List Toggle) : (ts.foldl Toggle.apply m).Realizes
      (o.withShown (ts.foldl Toggle.apply m).isShown) := by
    have same := m.toggles_sameButShown ts
    have size : (ts.foldl Toggle.apply m).layers.size = m.layers.size := by
      simpa using congrArg List.length same.hidden
    rw [foldl_toggles (.refl m)] at same size ⊢
    obtain ⟨base, kept⟩ := o.commands_frame (ts.filterMap (·.command? m))
    exact h.withShown (Overlay.commands_realize h few _ (size ▸ few)) same base kept
  have space (ts : List Toggle) : (ts.foldl Toggle.apply m).geometry = m.geometry := by
    rw [foldl_toggles (.refl m)]
    exact (m.commands_follows _).geometry_eq
  have first := realizes ts
  rw [shown] at first
  refine (realizes us).map_ext first ((space ts).trans (space us).symm) ?_
  rw [(m.toggles_sameButShown ts).saved, (m.toggles_sameButShown us).saved]

end AddressMap

/-! ## Toggles of a bus -/

/-- Whether an operation leaves the base entries alone, and changes of the layers only
which are shown. -/
def Operation.OnlyToggles {σ : Type} : Operation σ → Prop
  | mapRange _ _ _ | unmapRange _ _ | createLayer _ _ | saveBase _ _ | setLayerMapping _ _ => False
  | addTarget _ _ | activate _ | deactivate _ | activateNamed _ | deactivateNamed _
  | enableTrace _ | disableTrace | drainNotices | transfer _ => True

namespace Bus

variable {σ : Type} [DeviceModel σ]

/-- The layer commands that devices issue during transactions in order. -/
def issued (b : Bus σ) : List Transaction → List LayerCommand
  | [] => []
  | x :: xs => (b.served x).commands ++ issued (b.transact x) xs

/-- The toggles that an operation comes to, those of devices included. -/
def togglesOf (b : Bus σ) : Operation σ → List Toggle
  | .activate id => [.byId (.activate id)]
  | .deactivate id => [.byId (.deactivate id)]
  | .activateNamed name => [.byName true name]
  | .deactivateNamed name => [.byName false name]
  | .transfer t => (b.issued t.transactions).map .byId
  | .addTarget _ _ | .mapRange _ _ _ | .unmapRange _ _ | .createLayer _ _ | .saveBase _ _
  | .setLayerMapping _ _ | .enableTrace _ | .disableTrace | .drainNotices => []

/-- The toggles that operations come to, in order. -/
def toggles (b : Bus σ) : List (Operation σ) → List Toggle
  | [] => []
  | o :: os => b.togglesOf o ++ toggles (b.perform o) os

theorem transactions_map (b : Bus σ) (xs : List Transaction) :
    (xs.foldl transact b).map = (b.issued xs).foldl AddressMap.command b.map := by
  induction xs generalizing b with
  | nil => rfl
  | cons x xs ih => rw [List.foldl_cons, ih, transact_map, issued, List.foldl_append]

theorem perform_toggles (b : Bus σ) {o : Operation σ} (only : o.OnlyToggles) :
    (b.perform o).map = (b.togglesOf o).foldl Toggle.apply b.map := by
  cases o with
  | mapRange | unmapRange | createLayer | saveBase | setLayerMapping => exact only.elim
  | activate id | deactivate id | disableTrace | drainNotices => rfl
  | addTarget name target => exact b.addTarget_map name target
  | enableTrace capacity => exact b.enableTrace_map capacity
  | activateNamed name | deactivateNamed name =>
    simp only [perform, togglesOf, activateNamed, deactivateNamed, List.foldl_cons,
      List.foldl_nil, Toggle.apply, Toggle.command?, AddressMap.named]
    cases b.map.layerId? name <;> rfl
  | transfer t =>
    rw [perform, transfer_eq_foldl, transactions_map, togglesOf, List.foldl_map]
    rfl

theorem run_toggles (b : Bus σ) {os : List (Operation σ)} (only : ∀ o ∈ os, o.OnlyToggles) :
    (b.run os).map = (b.toggles os).foldl Toggle.apply b.map := by
  induction os generalizing b with
  | nil => rfl
  | cons o os ih =>
    obtain ⟨first, rest⟩ := List.forall_mem_cons.mp only
    rw [toggles, List.foldl_append, ← b.perform_toggles first]
    exact ih _ rest

/-- Toggles that are carried out one after the other are those that were asked for. -/
theorem run_operations (b : Bus σ) (ts : List Toggle) :
    (b.run (ts.map Toggle.operation)).map = ts.foldl Toggle.apply b.map := by
  induction ts generalizing b with
  | nil => rfl
  | cons t ts ih =>
    have one : (b.perform t.operation).map = t.apply b.map := by
      rcases t with ⟨_ | _, name⟩ | ⟨id | id⟩
      all_goals exact b.perform_toggles (o := Toggle.operation _) trivial
    rw [List.map_cons, List.foldl_cons, ← one]
    exact ih _

/-- A run that only toggles layers, by name or by id or through devices, leaves the map
that comes of the last toggle of each layer alone, taken in any order; toggles that fail
or that address no layer change nothing. So toggles of different layers commute, and
whatever is done to a hidden layer, such as showing it, is undone by hiding it. -/
theorem last_toggle_wins {b : Bus σ} (reachable : b.Reachable)
    (few : b.map.layers.size ≤ maxLayers) :
    (∀ os : List (Operation σ), (∀ o ∈ os, o.OnlyToggles) → ∀ picked : List Toggle,
      (∀ i < b.map.layers.size, picked.filter (·.addresses b.map i) =
        ((b.toggles os).filter (·.addresses b.map i)).getLast?.toList) →
      (b.run os).map = (b.run (picked.map Toggle.operation)).map) ∧
    (∀ t u : Toggle, (∀ i, t.addresses b.map i = true → u.addresses b.map i = false) →
      (b.run [t.operation, u.operation]).map = (b.run [u.operation, t.operation]).map) ∧
    ∀ (t u : Toggle) (i : Nat), b.map.isShown i = false → t.addresses b.map i = true →
      u.addresses b.map i = true → u.shows = false →
      (b.run [t.operation, u.operation]).map = b.map := by
  obtain ⟨o, realizes⟩ := reachable.realizes few
  have agrees := realizes.toAgrees
  have two (t u : Toggle) : (b.run [t.operation, u.operation]).map =
      [t, u].foldl Toggle.apply b.map := b.run_operations [t, u]
  refine ⟨?_, ?_, ?_⟩
  · intro os only picked last
    rw [b.run_toggles only, b.run_operations]
    refine realizes.toggles_ext few (funext fun i => ?_)
    by_cases lt : i < b.map.layers.size
    · rw [AddressMap.toggles_isShown agrees, AddressMap.toggles_isShown agrees, last i lt]
      cases ((b.toggles os).filter (·.addresses b.map i)).getLast? <;> rfl
    · -- Where there is no layer, none is shown.
      have none (ts : List Toggle) : (ts.foldl Toggle.apply b.map).isShown i = false := by
        have size : (ts.foldl Toggle.apply b.map).layers.toList.length = b.map.layers.size := by
          simpa using congrArg List.length (b.map.toggles_sameButShown ts).hidden
        rw [AddressMap.isShown, List.getElem?_eq_none (size.trans_le (Nat.le_of_not_lt lt))]
        rfl
      rw [none, none]
  · intro t u apart
    rw [two, two]
    refine realizes.toggles_ext few (funext fun i => ?_)
    rw [AddressMap.toggles_isShown agrees, AddressMap.toggles_isShown agrees]
    cases at_t : t.addresses b.map i with
    | false => cases at_u : u.addresses b.map i <;> simp [at_t, at_u]
    | true => simp [at_t, apart i at_t]
  · intro t u i hidden at_t at_u hides
    rw [two]
    show [t, u].foldl Toggle.apply b.map = ([] : List Toggle).foldl Toggle.apply b.map
    refine realizes.toggles_ext few (funext fun j => ?_)
    rw [AddressMap.toggles_isShown agrees]
    by_cases at_i : j = i
    · subst at_i
      simp [at_t, at_u, hides, hidden]
    · have not_t : t.addresses b.map j = false :=
        Bool.eq_false_iff.mpr fun at_j => at_i (Toggle.addresses_unique at_j at_t)
      have not_u : u.addresses b.map j = false :=
        Bool.eq_false_iff.mpr fun at_j => at_i (Toggle.addresses_unique at_j at_u)
      simp [not_t, not_u]

/-- Two layers of the same priority meet on page 1, and the base of page 2, which a third
one covers, is not saved. Switches on page 3 show and hide the first layer. -/
def switched : Bus SwitchBank :=
  (Bus.empty smallSpace).run
    [.addTarget "ram" (.ram (.filled 64 0)),
     .addTarget "switch" (.device
       { table := ⟨#[{ read := .activate ⟨0⟩ }, { read := .deactivate ⟨0⟩ }, {}, {}]⟩ }),
     .mapRange 0 12 { target := ⟨0⟩, perms := .all, region := .ram },
     .mapRange 12 4 { target := ⟨1⟩, perms := .all, region := .io },
     .createLayer "first" 1, .createLayer "second" 1, .createLayer "third" 2, .saveBase 0 2,
     .setLayerMapping "first"
       { base := 0, target := ⟨0⟩, perms := .all, targetOffset := 16, length := some 8 },
     .setLayerMapping "second"
       { base := 4, target := ⟨0⟩, perms := .all, targetOffset := 32, length := some 4 },
     .setLayerMapping "third"
       { base := 8, target := ⟨0⟩, perms := .all, targetOffset := 48, length := some 4 }]

/-- Toggles of which two fail, since page 2 is not saved and there is no fourth layer. -/
theorem last_toggle_wins_switched :
    let os : List (Operation SwitchBank) :=
      [.activateNamed "second", .transfer (.read (.read 13)), .activate ⟨2⟩,
       .deactivateNamed "second", .deactivate ⟨3⟩, .transfer (.read (.read 12))]
    let showFirst : Toggle := .byId (.activate ⟨0⟩)
    let hideSecond : Toggle := .byName false "second"
    let showThird : Toggle := .byId (.activate ⟨2⟩)
    (switched.run os).map =
        (switched.run ([showThird, showFirst, hideSecond].map Toggle.operation)).map ∧
      (switched.run [showFirst.operation, hideSecond.operation]).map =
        (switched.run [hideSecond.operation, showFirst.operation]).map ∧
      (switched.run [showFirst.operation, .deactivateNamed "first"]).map = switched.map := by
  intro os showFirst hideSecond showThird
  have reachable : switched.Reachable := (Reachable.empty smallSpace).run _
  have size : switched.map.layers.size = 3 := by decide_cbv
  have few : switched.map.layers.size ≤ maxLayers := size ▸ by decide
  obtain ⟨wins, commute, undone⟩ := last_toggle_wins reachable few
  refine ⟨wins os ?_ _ ?_, commute showFirst hideSecond ?_,
    undone showFirst (.byName false "first") 0 ?_ ?_ ?_ rfl⟩
  · simp [os, Operation.OnlyToggles]
  · intro i lt
    rw [size] at lt
    interval_cases i
    all_goals decide_cbv
  · intro i at_first
    have first : showFirst.addresses switched.map 0 = true := by decide_cbv
    obtain rfl := Toggle.addresses_unique first at_first
    decide_cbv
  all_goals decide_cbv

end Bus
end Backplane
