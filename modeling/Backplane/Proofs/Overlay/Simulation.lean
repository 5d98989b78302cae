import Backplane.Proofs.Bus.Follows
import Backplane.Proofs.Overlay.Meaning

/-!
# The page table realizes its overlay

The live table is patched piece by piece: a layer that is shown, hidden or
placed refreshes its own pages, and a base entry is written through only where
no layer is in the way. An overlay has no table, and says at once what each page
shows. `Realizes` ties the two together, and every operation keeps it.

Three facts carry the induction. A page that an active layer covers has its base
entry kept; what is kept is what is saved, and it equals the base entry; and a
change of one layer leaves alone every page that this layer covers neither
before nor after (`Realizes.relayer`).
-/

namespace Backplane

/-! ## What a page shows -/

theorem contends_modify_iff {layers : List Layer} {page i : Nat} {f : Layer → Layer}
    (away : ∀ l, layers[i]? = some l → ¬(l.active = true ∧ l.covers page = true) ∧
      ¬((f l).active = true ∧ (f l).covers page = true)) (j : Nat) (k : Layer) :
    Contends (layers.modify i f) page j k ↔ Contends layers page j k := by
  by_cases eq : i = j
  · subst eq
    constructor
    · rintro ⟨here, active, covers⟩
      rw [List.getElem?_modify_eq] at here
      obtain ⟨l, hl, rfl⟩ := Option.map_eq_some_iff.mp here
      exact absurd ⟨active, covers⟩ (away l hl).2
    · rintro ⟨here, active, covers⟩
      exact absurd ⟨active, covers⟩ (away k here).1
  · have same := List.getElem?_modify_ne f layers eq
    constructor
    · rintro ⟨here, active, covers⟩
      exact ⟨same ▸ here, active, covers⟩
    · rintro ⟨here, active, covers⟩
      exact ⟨same.trans here, active, covers⟩

theorem contends_append_iff {layers : List Layer} {page : Nat} {l : Layer}
    (inactive : l.active = false) (j : Nat) (k : Layer) :
    Contends (layers ++ [l]) page j k ↔ Contends layers page j k := by
  constructor
  · rintro ⟨here, active, covers⟩
    rw [List.getElem?_append] at here
    split at here
    · exact ⟨here, active, covers⟩
    · have : k = l := by simpa using List.mem_of_getElem? here
      rw [this, inactive] at active
      cases active
  · rintro ⟨here, active, covers⟩
    obtain ⟨lt, -⟩ := List.getElem?_eq_some_iff.mp here
    exact ⟨(List.getElem?_append_left lt).trans here, active, covers⟩

namespace Overlay

/-- What a page shows is settled by its base entry and by the active layers over
it. -/
theorem Shows.congr {o o' : Overlay} {page : Nat} {entry : PageEntry}
    (h : o.Shows page entry) (base : o'.base page = o.base page)
    (same : ∀ j k, Contends o'.layers page j k ↔ Contends o.layers page j k) :
    o'.Shows page entry := by
  cases h with
  | @layer i l p wins placed =>
    refine .layer ⟨(same i l).mpr wins.toContends, ?_⟩ placed
    intro j k hk ne
    exact wins.beats ((same j k).mp hk) ne
  | base uncovered =>
    rw [← base]
    apply Shows.base
    rw [uncovered_iff] at uncovered ⊢
    intro j k hk
    exact uncovered j k ((same j k).mp hk)

theorem Shows.of_eq {o o' : Overlay} {page : Nat} {entry : PageEntry}
    (h : o.Shows page entry) (base : o'.base page = o.base page)
    (layers : o'.layers = o.layers) : o'.Shows page entry :=
  h.congr base fun j k => by rw [layers]

/-- A page shows one entry only. -/
theorem Shows.unique {o : Overlay} {page : Nat} {entry other : PageEntry}
    (h : o.Shows page entry) (h' : o.Shows page other) : entry = other := by
  cases h with
  | layer wins placed =>
    cases h' with
    | layer wins' placed' =>
      obtain ⟨-, rfl⟩ := wins.unique wins'
      rw [Option.some.inj (placed.symm.trans placed')]
    | base uncovered => exact absurd wins.toContends (uncovered_iff.mp uncovered _ _)
  | base uncovered =>
    cases h' with
    | layer wins _ => exact absurd wins.toContends (uncovered_iff.mp uncovered _ _)
    | base _ => rfl

theorem Shows.eq_base {o : Overlay} {page : Nat} {entry : PageEntry} (h : o.Shows page entry)
    (uncovered : Uncovered o.layers page) : entry = o.base page :=
  h.unique (.base uncovered)

end Overlay

/-! ## The relation -/

namespace AddressMap

open Overlay (Shows)

/-- An address map holds the layers of an overlay, and the base entries that it
keeps. -/
structure Agrees (m : AddressMap) (o : Overlay) : Prop where
  layers : m.layers.toList = o.layers
  saved : ∀ page, m.savedBase? page = if o.kept page then some (o.base page) else none
  size_saved : m.saved.size = m.geometry.pageCount
  covered : ∀ {page i : Nat} {l : Layer}, Contends o.layers page i l → o.kept page = true

/-- Moreover its table shows what the overlay does. -/
structure Realizes (m : AddressMap) (o : Overlay) : Prop extends Agrees m o where
  live : ∀ page < m.geometry.pageCount,
    ∃ entry, m.table.get? page = some entry ∧ o.Shows page entry

variable {m : AddressMap} {o : Overlay}

theorem Agrees.kept_iff (h : m.Agrees o) (page : Nat) :
    o.kept page = true ↔ (m.savedBase? page).isSome := by
  rw [h.saved]
  split <;> simp_all

theorem Agrees.not_kept_iff (h : m.Agrees o) (page : Nat) :
    o.kept page = false ↔ m.savedBase? page = none := by
  rw [h.saved]
  split <;> simp_all

theorem Agrees.lt_of_kept (h : m.Agrees o) {page : Nat} (kept : o.kept page = true) :
    page < m.geometry.pageCount := by
  obtain ⟨entry, saved⟩ := Option.isSome_iff_exists.mp ((h.kept_iff page).mp kept)
  rw [← h.size_saved]
  exact lt_size_of_savedBase? saved

theorem Agrees.uncovered_iff (h : m.Agrees o) (page : Nat) :
    Uncovered o.layers page ↔ m.winner? page = none := by
  rw [winner?_eq_none_iff, h.layers]

theorem Agrees.layer?_eq (h : m.Agrees o) (id : LayerId) : m.layer? id = o.layers[id.index]? := by
  rw [AddressMap.layer?_eq, h.layers]

/-- Where a base entry is kept, the map knows what the page should show. -/
theorem Agrees.effective? (h : m.Agrees o) (few : m.layers.size ≤ maxLayers) {page : Nat}
    (kept : o.kept page = true) :
    ∃ entry, m.effective? page = some entry ∧ o.Shows page entry := by
  unfold AddressMap.effective?
  cases winner : m.winner? page with
  | none =>
    refine ⟨o.base page, ?_, .base ((h.uncovered_iff page).mpr winner)⟩
    simp [h.saved, kept]
  | some id =>
    obtain ⟨l, here, wins⟩ := winner?_wins (identified_of_few few) winner
    obtain ⟨p, placed, -⟩ := Layer.covers_iff.mp wins.covers
    rw [h.layers] at wins
    exact ⟨p.entryFor page, by simp [here, placed], .layer wins placed⟩

/-- Refreshing mends a table whose other pages show what they should. -/
theorem Agrees.refresh (h : m.Agrees o) (few : m.layers.size ≤ maxLayers) {pages : List Nat}
    (kept : ∀ page ∈ pages, o.kept page = true)
    (live : ∀ page < m.geometry.pageCount, page ∉ pages →
      ∃ entry, m.table.get? page = some entry ∧ o.Shows page entry) :
    (m.refresh pages).Realizes o where
  layers := by rw [refresh_layers, h.layers]
  saved page := by rw [savedBase?, refresh_saved, ← savedBase?, h.saved]
  size_saved := by rw [refresh_saved, refresh_geometry, h.size_saved]
  covered := h.covered
  live page lt := by
    rw [refresh_geometry] at lt
    rw [refresh_get?]
    by_cases mem : page ∈ pages
    · obtain ⟨entry, effective, shows⟩ := h.effective? few (kept page mem)
      exact ⟨entry, by rw [if_pos ⟨mem, lt⟩, effective, Option.some_or], shows⟩
    · rw [if_neg fun hit => mem hit.1]
      exact live page lt mem

theorem Realizes.empty (geometry : Geometry) : (AddressMap.empty geometry).Realizes .bare where
  layers := rfl
  saved page := by
    rw [savedBase?, AddressMap.empty, Array.getElem?_replicate]
    split <;> rfl
  size_saved := Array.size_replicate
  covered := fun h => by cases h.getElem?_eq
  live page lt := by
    refine ⟨.unmapped, ?_, .base fun l hl => by cases hl⟩
    rw [PageTable.get?, AddressMap.empty, PageTable.empty, Array.getElem?_replicate]
    exact if_pos lt

/-! ## Base entries -/

theorem base_rebase_one (page p : Nat) (entry : PageEntry) :
    (o.rebase page 1 fun _ => entry).base p = if page = p then entry else o.base p := by
  simp only [Overlay.rebase]
  by_cases eq : page = p
  · rw [if_pos eq, if_pos (by omega)]
  · rw [if_neg eq, if_neg (by omega)]

theorem rebase_zero (first : Nat) (entry : Nat → PageEntry) : o.rebase first 0 entry = o := by
  have none (p : Nat) : ¬(first ≤ p ∧ p < first + 0) := by omega
  simp only [Overlay.rebase, none, if_false]

theorem rebase_succ (first count : Nat) (entry : Nat → PageEntry) :
    o.rebase first (count + 1) entry =
      (o.rebase first count entry).rebase (first + count) 1 fun _ => entry count := by
  simp only [Overlay.rebase, Overlay.mk.injEq, and_true]
  funext p
  by_cases eq : p = first + count
  · rw [if_pos (by omega), if_pos (by omega), eq, Nat.add_sub_cancel_left]
  · rw [if_neg (c := first + count ≤ p ∧ p < first + count + 1) (by omega)]
    congr 1
    exact propext ⟨fun _ => by omega, fun _ => by omega⟩

/-- A base entry shows at once where no layer covers it, and later where one
does, since what is saved changes with it. -/
theorem Realizes.setBase (h : m.Realizes o) (page : Nat) (entry : PageEntry) :
    (m.setBase page entry).Realizes (o.rebase page 1 fun _ => entry) where
  layers := by rw [setBase_layers]; exact h.layers
  saved p := by
    have kept := h.kept_iff page
    have saved := h.saved p
    show _ = if o.kept p then _ else none
    rw [setBase_savedBase?, base_rebase_one]
    grind
  size_saved := by rw [setBase_size_saved, setBase_geometry, h.size_saved]
  covered := h.covered
  live p lt := by
    rw [setBase_geometry] at lt
    obtain ⟨old, live, shows⟩ := h.live p lt
    rw [setBase_get?]
    by_cases eq : page = p
    · subst eq
      cases winner : m.winner? page with
      | none =>
        have uncovered := (h.uncovered_iff page).mpr winner
        have base := base_rebase_one (o := o) page page entry
        rw [if_pos rfl] at base
        exact ⟨entry, if_pos ⟨rfl, lt, .inr rfl⟩, by
          simpa only [base] using Shows.base (o := o.rebase page 1 fun _ => entry) uncovered⟩
      | some id =>
        cases shows with
        | layer wins placed =>
          have saved : m.savedBase? page ≠ none := by
            rw [Ne, ← h.not_kept_iff, h.covered wins.toContends]
            exact Bool.noConfusion
          exact ⟨_, by rw [if_neg (by simp [saved]), live], .layer wins placed⟩
        | base uncovered =>
          rw [(h.uncovered_iff page).mp uncovered] at winner
          cases winner
    · refine ⟨old, by rw [if_neg fun hit => eq hit.1, live], shows.of_eq ?_ rfl⟩
      rw [base_rebase_one, if_neg eq]

theorem Realizes.setBases (h : m.Realizes o) (first count : Nat) (entry : Nat → PageEntry) :
    (Bus.setBases m first count entry).Realizes (o.rebase first count entry) := by
  induction count with
  | zero =>
    rw [rebase_zero]
    exact h
  | succ count ih =>
    rw [rebase_succ, Bus.setBases_succ]
    exact ih.setBase (first + count) (entry count)

theorem Realizes.savePage (h : m.Realizes o) {page : Nat} (lt : page < m.geometry.pageCount)
    (uncovered : Uncovered o.layers page) : (m.savePage page).Realizes (o.keep [page]) where
  layers := by rw [savePage_layers]; exact h.layers
  saved p := by
    rw [savePage_savedBase?, h.size_saved]
    by_cases eq : page = p
    · subst eq
      obtain ⟨entry, live, shows⟩ := h.live page lt
      rw [if_pos ⟨rfl, lt⟩, live, shows.eq_base uncovered, Option.some_or]
      simp [Overlay.keep]
    · rw [if_neg fun hit => eq hit.1, h.saved]
      simp [Overlay.keep, Ne.symm eq]
  size_saved := by rw [savePage_size_saved, savePage_geometry, h.size_saved]
  covered contends := by
    simp only [Overlay.keep, h.covered contends, Bool.true_or]
  live p lt := by
    rw [savePage_geometry] at lt
    obtain ⟨entry, live, shows⟩ := h.live p lt
    exact ⟨entry, by rw [savePage_table, live], shows.of_eq rfl rfl⟩

theorem Realizes.savePages (h : m.Realizes o) {pages : List Nat}
    (free : ∀ page ∈ pages, page < m.geometry.pageCount ∧ Uncovered o.layers page) :
    (pages.foldl AddressMap.savePage m).Realizes (o.keep pages) := by
  induction pages generalizing m o with
  | nil =>
    have same : o.keep [] = o := by simp [Overlay.keep]
    rw [same]
    exact h
  | cons page pages ih =>
    obtain ⟨lt, uncovered⟩ := free page List.mem_cons_self
    have same : o.keep (page :: pages) = (o.keep [page]).keep pages := by
      simp [Overlay.keep, Bool.or_assoc]
    rw [same]
    apply ih (h.savePage lt uncovered)
    intro p hp
    rw [savePage_geometry]
    exact free p (List.mem_cons_of_mem _ hp)

theorem Realizes.saveBase (h : m.Realizes o) (first count : Nat) :
    (m.saveBase first count).1.Realizes
      (match (m.saveBase first count).2 with
        | .error _ => o
        | .ok () => o.keep (List.range' first count)) := by
  unfold AddressMap.saveBase
  by_cases le : first + count ≤ m.table.pageCount
  · cases covered : (List.range' first count).find? fun page => (m.winner? page).isSome with
    | some page => simpa only [if_pos le, covered] using h
    | none =>
      simp only [if_pos le, covered]
      apply h.savePages
      intro page hp
      rw [h.uncovered_iff]
      constructor
      · rw [PageTable.pageCount_eq] at le
        have := List.mem_range'_1.mp hp
        exact Nat.lt_of_lt_of_le this.2 le
      · simpa using List.find?_eq_none.mp covered page hp
  · simpa only [if_neg le] using h

/-! ## Layers -/

theorem Realizes.createLayer (h : m.Realizes o) (name : String) (priority : Int32) :
    (m.createLayer name priority).1.Realizes
      (match (m.createLayer name priority).2 with
        | .error _ => o
        | .ok _ => o.create name priority) := by
  unfold AddressMap.createLayer
  cases m.layerId? name with
  | some id => exact h
  | none =>
    have same (page j : Nat) (k : Layer) :
        Contends (o.create name priority).layers page j k ↔ Contends o.layers page j k :=
      contends_append_iff rfl j k
    exact {
      layers := by rw [Array.toList_push, h.layers]; rfl
      saved := h.saved
      size_saved := h.size_saved
      covered := fun contends => h.covered ((same _ _ _).mp contends)
      live := fun page lt => by
        obtain ⟨entry, live, shows⟩ := h.live page lt
        exact ⟨entry, live, shows.congr rfl (same page)⟩ }

/-- A change of one layer, after which its pages are refreshed. The pages must
hold all that the layer covers before or after, and a page that it covers
after must have its base entry kept. -/
theorem Realizes.relayer (h : m.Realizes o) (few : m.layers.size ≤ maxLayers) {id : LayerId}
    {f : Layer → Layer} {pages : List Nat}
    (away : ∀ l, o.layers[id.index]? = some l → ∀ page, page ∉ pages →
      ¬(l.active = true ∧ l.covers page = true) ∧
        ¬((f l).active = true ∧ (f l).covers page = true))
    (kept : ∀ page ∈ pages, o.kept page = true) :
    ((m.modifyLayer id f).refresh pages).Realizes (o.modifyLayer id.index f) := by
  have same (page : Nat) (out : page ∉ pages) (j : Nat) (k : Layer) :
      Contends (o.modifyLayer id.index f).layers page j k ↔ Contends o.layers page j k :=
    contends_modify_iff (fun l hl => away l hl page out) j k
  have agrees : (m.modifyLayer id f).Agrees (o.modifyLayer id.index f) := {
    layers := by rw [modifyLayer_layers, h.layers]; rfl
    saved := h.saved
    size_saved := h.size_saved
    covered := fun {page i l} contends => by
      by_cases mem : page ∈ pages
      · exact kept page mem
      · exact h.covered ((same page mem i l).mp contends) }
  have few' : (m.modifyLayer id f).layers.size ≤ maxLayers := by simpa [modifyLayer] using few
  apply agrees.refresh few' kept
  intro page lt out
  obtain ⟨entry, live, shows⟩ := h.live page lt
  exact ⟨entry, live, shows.congr rfl (same page out)⟩

theorem Realizes.activate (h : m.Realizes o) (few : m.layers.size ≤ maxLayers) (id : LayerId) :
    (m.activate id).1.Realizes (o.reveal id.index) := by
  unfold Overlay.reveal
  rcases m.activate_cases id with ⟨l, here, inactive, saved, eq⟩ | ⟨eq, refused⟩
  · rw [h.layer?_eq] at here
    have kept : ∀ page ∈ l.pages, o.kept page = true :=
      fun page hp => (h.kept_iff page).mpr (saved page hp)
    rw [eq, here]
    simp only [inactive, List.all_eq_true.mpr kept, and_self, if_true]
    refine h.relayer few ?_ kept
    intro k hk page out
    obtain rfl := Option.some.inj (here.symm.trans hk)
    -- Neither before nor after is the layer over a page that is not among its own.
    have away : ¬l.covers page = true := by
      rwa [← Layer.mem_pages]
    constructor
    · rintro ⟨-, covers⟩
      exact away covers
    · rintro ⟨-, covers⟩
      exact away covers
  · rw [eq]
    cases here : o.layers[id.index]? with
    | none => exact h
    | some l =>
      dsimp only
      rw [if_neg]
      · exact h
      · rintro ⟨inactive, kept⟩
        rcases refused l ((h.layer?_eq id).trans here) with active | ⟨page, hp, unsaved⟩
        · exact Bool.false_ne_true (inactive.symm.trans active)
        · have := List.all_eq_true.mp kept page hp
          rw [(h.not_kept_iff page).mpr unsaved] at this
          exact Bool.false_ne_true this

theorem modifyLayer_eq_self {i : Nat} {f : Layer → Layer}
    (fixed : ∀ l, o.layers[i]? = some l → f l = l) : o.modifyLayer i f = o := by
  have same : o.layers.modify i f = o.layers := by
    apply List.ext_getElem?
    intro j
    by_cases eq : i = j
    · subst eq
      rw [List.getElem?_modify_eq]
      cases here : o.layers[i]? with
      | none => rfl
      | some l => exact congrArg some (fixed l here)
    · rw [List.getElem?_modify_ne f o.layers eq]
  rw [Overlay.modifyLayer, same]

theorem Realizes.deactivate (h : m.Realizes o) (few : m.layers.size ≤ maxLayers) (id : LayerId) :
    (m.deactivate id).1.Realizes (o.hide id.index) := by
  unfold Overlay.hide
  rcases m.deactivate_cases id with ⟨l, here, active, eq⟩ | ⟨eq, refused⟩
  · rw [h.layer?_eq] at here
    have kept : ∀ page ∈ l.pages, o.kept page = true :=
      fun page hp => h.covered ⟨here, active, Layer.mem_pages.mp hp⟩
    rw [eq]
    refine h.relayer few ?_ kept
    intro k hk page out
    obtain rfl := Option.some.inj (here.symm.trans hk)
    constructor
    · rintro ⟨-, covers⟩
      exact out (Layer.mem_pages.mpr covers)
    · rintro ⟨hidden, -⟩
      cases hidden
  · rw [eq]
    have fixed : ∀ l, o.layers[id.index]? = some l → { l with active := false } = l :=
      fun l here => by rw [← refused l ((h.layer?_eq id).trans here)]
    rw [modifyLayer_eq_self fixed]
    exact h

theorem Realizes.command (h : m.Realizes o) (few : m.layers.size ≤ maxLayers)
    (c : LayerCommand) : (m.command c).Realizes (o.command c) := by
  cases c with
  | activate id => exact h.activate few id
  | deactivate id => exact h.deactivate few id

/-- What the overlay becomes when a layer is given another mapping. -/
theorem Realizes.setMapping {σ : Type} [DeviceModel σ] (h : m.Realizes o)
    (few : m.layers.size ≤ maxLayers) (arena : Arena σ) (id : LayerId) (mapping : LayerMapping) :
    (m.setMapping arena id mapping).1.Realizes
      (match (m.setMapping arena id mapping).2, Placement.ofMapping m.geometry arena mapping with
        | .ok (), .ok p => o.place id.index p
        | _, _ => o) := by
  rcases m.setMapping_cases arena id mapping with ⟨l, p, here, placed, saved, eq⟩ | ⟨e, eq⟩
  · rw [eq, placed]
    rw [h.layer?_eq] at here
    refine h.relayer few ?_ ?_
    · intro k hk page out
      obtain rfl := Option.some.inj (here.symm.trans hk)
      cases active : l.active with
      | false => simp
      | true =>
        rw [if_pos active, List.mem_append, not_or] at out
        obtain ⟨before, after⟩ := out
        constructor
        · rintro ⟨-, covers⟩
          exact before (Layer.mem_pages.mpr covers)
        · rintro ⟨-, covers⟩
          obtain ⟨q, hq, covers⟩ := Layer.covers_iff.mp covers
          obtain rfl := Option.some.inj hq
          exact after (Placement.mem_pages.mpr covers)
    · intro page hp
      cases active : l.active with
      | false => simp [active] at hp
      | true =>
        rw [if_pos active, List.mem_append] at hp
        rcases hp with hp | hp
        · exact h.covered ⟨here, active, Layer.mem_pages.mp hp⟩
        · exact (h.kept_iff page).mpr (saved active page hp)
  · rw [eq]
    exact h

/-- The id that a name leads to is the position of the first layer of this
name. -/
theorem Agrees.named_cases (h : m.Agrees o) (few : m.layers.size ≤ maxLayers) (name : String) :
    (∃ id, m.named name = .ok id ∧
      (o.layers.findIdx? fun l => l.name = name) = some id.index) ∨
    ((∃ e, m.named name = .error e) ∧ (o.layers.findIdx? fun l => l.name = name) = none) := by
  have found : (o.layers.findIdx? fun l => l.name = name) =
      m.layers.findIdx? fun l => l.name = name := by
    rw [← h.layers, ← List.findIdx?_toArray, Array.toArray_toList]
  rw [found]
  unfold AddressMap.named AddressMap.layerId?
  cases position : m.layers.findIdx? fun l => l.name = name with
  | none => exact .inr ⟨⟨_, rfl⟩, rfl⟩
  | some i =>
    obtain ⟨lt, -⟩ := Array.findIdx?_eq_some_iff_findIdx_eq.mp position
    refine .inl ⟨_, rfl, ?_⟩
    rw [LayerId.index_ofIndex (Nat.lt_of_lt_of_le lt few)]

end AddressMap
end Backplane
