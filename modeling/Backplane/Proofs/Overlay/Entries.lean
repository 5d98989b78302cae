import Backplane.Proofs.Overlay.Refresh
import Backplane.Proofs.Overlay.Winner

/-!
# The entries of an address map

An address map holds page entries in three places: in the live table, among the
saved base entries, and in layers, which make an entry of each page that they
cover. Entries move between these places, but a change of the map makes no entry
up: what holds of all entries before holds of all entries after, if it holds of
those that the change brings in (`Holds`).

Ids count layers in sixteen bits, so a layer past the last id is never found
again, and never becomes active. Hence the layer that wins a page is the one that
its id names, and does cover the page.
-/

namespace Backplane
namespace AddressMap

/-- The map holds this entry. -/
inductive Held (m : AddressMap) : PageEntry → Prop where
  /-- In the live table. -/
  | live {page : Nat} {entry : PageEntry} : m.table.get? page = some entry → Held m entry
  /-- Among the saved base entries. -/
  | saved {page : Nat} {entry : PageEntry} : m.savedBase? page = some entry → Held m entry
  /-- In a layer, for a page that it covers. -/
  | layer {i : Nat} {l : Layer} {p : Placement} {page : Nat} : m.layers.toList[i]? = some l →
    l.placement = some p → p.covers page = true → Held m (p.entryFor page)

/-- `P` holds of every entry of the map, and every active layer has an id. -/
structure Holds (P : PageEntry → Prop) (m : AddressMap) : Prop where
  identified : m.Identified
  entries : ∀ entry, m.Held entry → P entry

variable {P Q : PageEntry → Prop} {m m' : AddressMap}

theorem Holds.mono (h : m.Holds P) (imp : ∀ entry, P entry → Q entry) : m.Holds Q :=
  ⟨h.identified, fun entry held => imp entry (h.entries entry held)⟩

theorem Holds.empty (geometry : Geometry) (unmapped : P .unmapped) :
    (AddressMap.empty geometry).Holds P where
  identified := by
    intro i l here
    cases here
  entries entry held := by
    cases held with
    | live h =>
      rw [PageTable.get?, AddressMap.empty, PageTable.empty, Array.getElem?_replicate] at h
      split at h
      · cases h
        exact unmapped
      · cases h
    | saved h =>
      rw [savedBase?, AddressMap.empty, Array.getElem?_replicate] at h
      split at h <;> cases h
    | layer here => cases here

/-- What a lookup finds is an entry of the map. -/
theorem held_of_lookup {address : UInt32} {entry : PageEntry} {offset : UInt32}
    (found : m.table.lookup address = some (entry, offset)) : m.Held entry := by
  obtain ⟨page, -, live, -⟩ := PageTable.lookup_eq_some_iff.mp found
  exact .live live

/-! ## Refreshing -/

/-- What a page should show is an entry of the map. -/
theorem held_of_effective? (identified : m.Identified) {page : Nat} {entry : PageEntry}
    (h : m.effective? page = some entry) : m.Held entry := by
  unfold effective? at h
  cases winner : m.winner? page with
  | none =>
    rw [winner] at h
    exact .saved h
  | some id =>
    obtain ⟨l, here, wins⟩ := winner?_wins identified winner
    obtain ⟨p, placed, covers⟩ := Layer.covers_iff.mp wins.covers
    rw [winner, Option.bind_some, here, Option.bind_some, placed, Option.some.injEq] at h
    rw [← h]
    exact .layer wins.getElem?_eq placed covers

theorem Holds.refresh (h : m.Holds P) (pages : List Nat) : (m.refresh pages).Holds P where
  identified := by
    rw [Identified, refresh_layers]
    exact h.identified
  entries entry held := by
    refine h.entries entry ?_
    cases held with
    | @live page _ live =>
      rw [refresh_get?] at live
      split at live
      · cases effective : m.effective? page with
        | none =>
          rw [effective, Option.none_or] at live
          exact .live live
        | some shown =>
          rw [effective, Option.some_or] at live
          exact Option.some.inj live ▸ held_of_effective? h.identified effective
      · exact .live live
    | saved saved =>
      rw [savedBase?, refresh_saved] at saved
      exact .saved saved
    | layer here placed covers =>
      rw [refresh_layers] at here
      exact .layer here placed covers

/-! ## Base entries -/

theorem Holds.setBase (h : m.Holds P) (page : Nat) {entry : PageEntry} (new : P entry) :
    (m.setBase page entry).Holds P where
  identified := by
    rw [Identified, setBase_layers]
    exact h.identified
  entries other held := by
    cases held with
    | live live =>
      rw [setBase_get?] at live
      split at live
      · exact Option.some.inj live ▸ new
      · exact h.entries other (.live live)
    | saved saved =>
      rw [setBase_savedBase?] at saved
      split at saved
      · exact Option.some.inj saved ▸ new
      · exact h.entries other (.saved saved)
    | layer here placed covers =>
      rw [setBase_layers] at here
      exact h.entries _ (.layer here placed covers)

theorem Holds.savePage (h : m.Holds P) (page : Nat) : (m.savePage page).Holds P where
  identified := by
    rw [Identified, savePage_layers]
    exact h.identified
  entries entry held := by
    refine h.entries entry ?_
    cases held with
    | live live =>
      rw [savePage_table] at live
      exact .live live
    | @saved p _ saved =>
      rw [savePage_savedBase?] at saved
      split at saved
      · cases live : m.table.get? p with
        | none =>
          rw [live, Option.none_or] at saved
          exact .saved saved
        | some shown =>
          rw [live, Option.some_or] at saved
          exact .live (live.trans saved)
      · exact .saved saved
    | layer here placed covers =>
      rw [savePage_layers] at here
      exact .layer here placed covers

theorem Holds.savePages (h : m.Holds P) (pages : List Nat) :
    (pages.foldl AddressMap.savePage m).Holds P := by
  induction pages generalizing m with
  | nil => exact h
  | cons page pages ih => exact ih (h.savePage page)

theorem Holds.saveBase (h : m.Holds P) (first count : Nat) :
    (m.saveBase first count).1.Holds P := by
  unfold AddressMap.saveBase
  split
  · dsimp only
    split
    · exact h
    · exact h.savePages _
  · exact h

/-! ## Layers -/

theorem Holds.createLayer (h : m.Holds P) (name : String) (priority : Int32) :
    (m.createLayer name priority).1.Holds P := by
  unfold AddressMap.createLayer
  split
  · exact h
  · have old {i : Nat} {l : Layer}
        (here : (m.layers.push ⟨name, priority, false, none⟩).toList[i]? = some l) :
        m.layers.toList[i]? = some l ∨ l = ⟨name, priority, false, none⟩ := by
      rw [Array.toList_push, List.getElem?_append] at here
      split at here
      · exact .inl here
      · exact .inr (by simpa using List.mem_of_getElem? here)
    exact {
      identified := fun i l here active => by
        rcases old here with here | rfl
        · exact h.identified i l here active
        · cases active
      entries := fun entry held => by
        cases held with
        | live live => exact h.entries entry (.live live)
        | saved saved => exact h.entries entry (.saved saved)
        | layer here placed covers =>
          rcases old here with here | rfl
          · exact h.entries _ (.layer here placed covers)
          · cases placed }

/-- A change of a layer brings in the entries of its placement only. -/
theorem Holds.modifyLayer (h : m.Holds P) (id : LayerId) {f : Layer → Layer}
    (new : ∀ l p page, (f l).placement = some p → p.covers page = true →
      l.placement = some p ∨ P (p.entryFor page)) : (m.modifyLayer id f).Holds P where
  identified i l here active := by
    rw [modifyLayer_layers, List.getElem?_modify] at here
    by_cases eq : id.index = i
    · rw [← eq]
      exact id.number.toNat_lt
    · refine h.identified i l ?_ active
      simpa [eq] using here
  entries entry held := by
    cases held with
    | live live => exact h.entries entry (.live live)
    | saved saved => exact h.entries entry (.saved saved)
    | @layer i l p page here placed covers =>
      rw [modifyLayer_layers] at here
      by_cases eq : id.index = i
      · rw [← eq, List.getElem?_modify_eq] at here
        obtain ⟨k, hk, rfl⟩ := Option.map_eq_some_iff.mp here
        rcases new k p page placed covers with placed | holds
        · exact h.entries _ (.layer hk placed covers)
        · exact holds
      · rw [List.getElem?_modify_ne f m.layers.toList eq] at here
        exact h.entries _ (.layer here placed covers)

theorem Holds.setActive (h : m.Holds P) (id : LayerId) (active : Bool) :
    (m.modifyLayer id ({ · with active := active })).Holds P :=
  h.modifyLayer id fun _ _ _ placed _ => .inl placed

theorem Holds.activate (h : m.Holds P) (id : LayerId) : (m.activate id).1.Holds P := by
  rcases m.activate_cases id with ⟨l, -, -, -, eq⟩ | ⟨eq, -⟩ <;> rw [eq]
  · exact (h.setActive id true).refresh _
  · exact h

theorem Holds.deactivate (h : m.Holds P) (id : LayerId) : (m.deactivate id).1.Holds P := by
  rcases m.deactivate_cases id with ⟨l, -, -, eq⟩ | ⟨eq, -⟩ <;> rw [eq]
  · exact (h.setActive id false).refresh _
  · exact h

theorem Holds.command (h : m.Holds P) (c : LayerCommand) : (m.command c).Holds P := by
  cases c with
  | activate id => exact h.activate id
  | deactivate id => exact h.deactivate id

theorem Holds.commands (h : m.Holds P) (cs : List LayerCommand) :
    (cs.foldl AddressMap.command m).Holds P := by
  induction cs generalizing m with
  | nil => exact h
  | cons c cs ih => exact ih (h.command c)

theorem Holds.setMapping {σ : Type} [DeviceModel σ] (h : m.Holds P) (arena : Arena σ)
    (id : LayerId) (mapping : LayerMapping)
    (new : ∀ p page, Placement.ofMapping m.geometry arena mapping = .ok p →
      p.covers page = true → P (p.entryFor page)) :
    (m.setMapping arena id mapping).1.Holds P := by
  rcases m.setMapping_cases arena id mapping with ⟨l, p, -, placed, -, eq⟩ | ⟨e, eq⟩ <;> rw [eq]
  · refine (h.modifyLayer id fun l q page hq covers => .inr ?_).refresh _
    cases hq
    exact new p page placed covers
  · exact h

end AddressMap
end Backplane
