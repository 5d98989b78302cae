import Backplane.Overlay.AddressMap

/-!
# Changes of an address map

What each change of an address map does to the live table, to the saved base
entries and to the layers, told apart. The live entry of a page changes in two
ways only: `refresh` lets it show what it should, and `setBase` writes a base
entry through where no layer is in the way.
-/

namespace Backplane

namespace PageTable

theorem pageCount_eq (t : PageTable) : t.pageCount = t.geometry.pageCount := t.size_entries

end PageTable

namespace AddressMap

variable (m : AddressMap)

/-! ## Refreshing -/

@[simp] theorem refreshPage_layers (page : Nat) : (m.refreshPage page).layers = m.layers := by
  unfold refreshPage
  split <;> rfl

@[simp] theorem refreshPage_saved (page : Nat) : (m.refreshPage page).saved = m.saved := by
  unfold refreshPage
  split <;> rfl

@[simp] theorem refreshPage_geometry (page : Nat) :
    (m.refreshPage page).geometry = m.geometry := by
  unfold refreshPage
  split <;> rfl

theorem winner?_congr {m m' : AddressMap} (layers : m'.layers = m.layers) (page : Nat) :
    m'.winner? page = m.winner? page := by
  rw [winner?, winner?, layers]

theorem effective?_congr {m m' : AddressMap} (layers : m'.layers = m.layers)
    (saved : m'.saved = m.saved) (page : Nat) : m'.effective? page = m.effective? page := by
  have same : m'.layer? = m.layer? := by
    funext id
    rw [layer?, layer?, layers]
  rw [effective?, effective?, winner?_congr layers, same, savedBase?, savedBase?, saved]

theorem refreshPage_get? (page p : Nat) :
    (m.refreshPage page).table.get? p =
      if page = p ∧ p < m.geometry.pageCount then (m.effective? p).or (m.table.get? p)
      else m.table.get? p := by
  unfold refreshPage
  split
  · rename_i entry h
    rw [PageTable.get?_set, PageTable.pageCount_eq, ← geometry]
    by_cases hit : page = p ∧ p < m.geometry.pageCount
    · rw [if_pos hit, if_pos hit, ← hit.1, h]
      rfl
    · rw [if_neg hit, if_neg hit]
  · rename_i h
    split
    · rename_i hit
      rw [← hit.1, h]
      rfl
    · rfl

@[simp] theorem refresh_layers (pages : List Nat) : (m.refresh pages).layers = m.layers := by
  induction pages generalizing m with
  | nil => rfl
  | cons page pages ih => exact (ih _).trans (m.refreshPage_layers page)

@[simp] theorem refresh_saved (pages : List Nat) : (m.refresh pages).saved = m.saved := by
  induction pages generalizing m with
  | nil => rfl
  | cons page pages ih => exact (ih _).trans (m.refreshPage_saved page)

@[simp] theorem refresh_geometry (pages : List Nat) :
    (m.refresh pages).geometry = m.geometry := by
  induction pages generalizing m with
  | nil => rfl
  | cons page pages ih => exact (ih _).trans (m.refreshPage_geometry page)

/-- Refreshing lets the given pages show what they should, and no other page
changes. -/
theorem refresh_get? (pages : List Nat) (p : Nat) :
    (m.refresh pages).table.get? p =
      if p ∈ pages ∧ p < m.geometry.pageCount then (m.effective? p).or (m.table.get? p)
      else m.table.get? p := by
  induction pages generalizing m with
  | nil => simp [refresh]
  | cons page pages ih =>
    have next : m.refresh (page :: pages) = (m.refreshPage page).refresh pages := rfl
    have same : (m.refreshPage page).effective? p = m.effective? p :=
      effective?_congr (m.refreshPage_layers page) (m.refreshPage_saved page) p
    rw [next, ih, same, refreshPage_get?, refreshPage_geometry]
    cases m.effective? p <;> grind

theorem refresh_append (pages others : List Nat) :
    m.refresh (pages ++ others) = (m.refresh pages).refresh others := List.foldl_append

/-! ## Base entries -/

theorem savedBase?_setIfInBounds (page p : Nat) (entry : PageEntry) :
    (m.saved.setIfInBounds page (some entry))[p]?.join =
      if page = p ∧ p < m.saved.size then some entry else m.savedBase? p := by
  rw [Array.getElem?_setIfInBounds, savedBase?]
  by_cases eq : page = p
  · subst eq
    by_cases lt : page < m.saved.size <;> simp [lt]
  · rw [if_neg eq, if_neg fun h => eq h.1]

theorem lt_size_of_savedBase? {m : AddressMap} {page : Nat} {entry : PageEntry}
    (h : m.savedBase? page = some entry) : page < m.saved.size := by
  rw [savedBase?, Option.join_eq_some_iff] at h
  obtain ⟨lt, -⟩ := Array.getElem?_eq_some_iff.mp h
  exact lt

@[simp] theorem setBase_layers (page : Nat) (entry : PageEntry) :
    (m.setBase page entry).layers = m.layers := by
  unfold setBase
  repeat' split
  all_goals rfl

@[simp] theorem setBase_geometry (page : Nat) (entry : PageEntry) :
    (m.setBase page entry).geometry = m.geometry := by
  unfold setBase
  repeat' split
  all_goals rfl

theorem setBase_size_saved (page : Nat) (entry : PageEntry) :
    (m.setBase page entry).saved.size = m.saved.size := by
  unfold setBase
  repeat' split
  all_goals simp

/-- Changing a base entry changes the saved one, if there is one. -/
theorem setBase_savedBase? (page p : Nat) (entry : PageEntry) :
    (m.setBase page entry).savedBase? p =
      if page = p ∧ (m.savedBase? page).isSome then some entry else m.savedBase? p := by
  cases h : m.savedBase? page with
  | none =>
    unfold setBase
    rw [h]
    simp [savedBase?]
  | some old =>
    have lt := lt_size_of_savedBase? h
    have saved : (m.setBase page entry).saved = m.saved.setIfInBounds page (some entry) := by
      unfold setBase
      rw [h]
      dsimp only
      split <;> rfl
    rw [savedBase?, saved, savedBase?_setIfInBounds]
    grind

/-- Changing a base entry changes the live one, unless a layer covers a page
whose base entry is saved. -/
theorem setBase_get? (page p : Nat) (entry : PageEntry) :
    (m.setBase page entry).table.get? p =
      if page = p ∧ p < m.geometry.pageCount ∧
          (m.savedBase? page = none ∨ m.winner? page = none) then some entry
      else m.table.get? p := by
  have set := m.table.get?_set page p entry
  rw [PageTable.pageCount_eq, ← geometry] at set
  unfold setBase
  cases saved : m.savedBase? page with
  | none => simpa using set
  | some old =>
    cases winner : m.winner? page with
    | none => simpa using set
    | some id => simp

/-! ## Saving base entries -/

@[simp] theorem savePage_layers (page : Nat) : (m.savePage page).layers = m.layers := by
  unfold savePage
  split <;> rfl

@[simp] theorem savePage_table (page : Nat) : (m.savePage page).table = m.table := by
  unfold savePage
  split <;> rfl

@[simp] theorem savePage_geometry (page : Nat) : (m.savePage page).geometry = m.geometry := by
  rw [geometry, savePage_table, geometry]

theorem savePage_size_saved (page : Nat) : (m.savePage page).saved.size = m.saved.size := by
  unfold savePage
  split <;> simp

/-- Saving a page keeps its live entry as the saved one. -/
theorem savePage_savedBase? (page p : Nat) :
    (m.savePage page).savedBase? p =
      if page = p ∧ p < m.saved.size then (m.table.get? p).or (m.savedBase? p)
      else m.savedBase? p := by
  unfold savePage
  split
  · rename_i entry h
    rw [savedBase?, savedBase?_setIfInBounds]
    split
    · rename_i hit
      rw [← hit.1, h]
      rfl
    · rfl
  · rename_i h
    split
    · rename_i hit
      rw [← hit.1, h]
      rfl
    · rfl

/-! ## Layers -/

@[simp] theorem modifyLayer_geometry (id : LayerId) (f : Layer → Layer) :
    (m.modifyLayer id f).geometry = m.geometry := rfl

@[simp] theorem modifyLayer_layers (id : LayerId) (f : Layer → Layer) :
    (m.modifyLayer id f).layers.toList = m.layers.toList.modify id.index f := by
  simp [modifyLayer]

theorem layer?_eq (id : LayerId) : m.layer? id = m.layers.toList[id.index]? := by
  rw [layer?, Array.getElem?_toList]

/-- The names of the layers, in the order of creation. -/
def names (m : AddressMap) : List String := m.layers.toList.map Layer.name

theorem layerId?_eq (name : String) :
    m.layerId? name = (m.names.findIdx? fun other => other = name).map LayerId.ofIndex := by
  have listed := List.findIdx?_toArray (fun l : Layer => l.name = name) m.layers.toList
  rw [names, List.findIdx?_map, layerId?,
    ← (Array.toArray_toList : m.layers.toList.toArray = m.layers)]
  exact congrArg _ listed

theorem unsaved?_eq_none_iff {pages : List Nat} :
    m.unsaved? pages = none ↔ ∀ page ∈ pages, (m.savedBase? page).isSome := by
  simp [unsaved?, List.find?_eq_none, Option.isSome_iff_ne_none]

/-- What showing a layer comes to. -/
theorem activate_cases (id : LayerId) :
    (∃ l, m.layer? id = some l ∧ l.active = false ∧
      (∀ page ∈ l.pages, (m.savedBase? page).isSome) ∧
      (m.activate id).1 = (m.modifyLayer id ({ · with active := true })).refresh l.pages) ∨
    ((m.activate id).1 = m ∧ ∀ l, m.layer? id = some l →
      l.active = true ∨ ∃ page ∈ l.pages, m.savedBase? page = none) := by
  unfold activate
  cases layer : m.layer? id with
  | none =>
    refine .inr ⟨rfl, ?_⟩
    rintro l ⟨⟩
  | some l =>
    cases active : l.active with
    | true =>
      refine .inr ⟨by simp [active], ?_⟩
      rintro _ ⟨⟩
      exact .inl active
    | false =>
      cases unsaved : m.unsaved? l.pages with
      | none =>
        have saved := m.unsaved?_eq_none_iff.mp unsaved
        exact .inl ⟨l, rfl, active, saved, by simp [active, unsaved]⟩
      | some page =>
        have missing : m.savedBase? page = none := by simpa using List.find?_some unsaved
        refine .inr ⟨by simp [active, unsaved], ?_⟩
        rintro _ ⟨⟩
        exact .inr ⟨page, List.mem_of_find?_eq_some unsaved, missing⟩

/-- What hiding a layer comes to. -/
theorem deactivate_cases (id : LayerId) :
    (∃ l, m.layer? id = some l ∧ l.active = true ∧
      (m.deactivate id).1 = (m.modifyLayer id ({ · with active := false })).refresh l.pages) ∨
    ((m.deactivate id).1 = m ∧ ∀ l, m.layer? id = some l → l.active = false) := by
  unfold deactivate
  cases layer : m.layer? id with
  | none =>
    refine .inr ⟨rfl, ?_⟩
    rintro l ⟨⟩
  | some l =>
    cases active : l.active with
    | true => exact .inl ⟨l, rfl, active, by simp [active]⟩
    | false =>
      refine .inr ⟨by simp [active], ?_⟩
      rintro _ ⟨⟩
      exact active

/-- What another mapping of a layer comes to. -/
theorem setMapping_cases {σ : Type} [DeviceModel σ] (arena : Arena σ) (id : LayerId)
    (mapping : LayerMapping) :
    (∃ l p, m.layer? id = some l ∧ Placement.ofMapping m.geometry arena mapping = .ok p ∧
      (l.active = true → ∀ page ∈ p.pages, (m.savedBase? page).isSome) ∧
      m.setMapping arena id mapping =
        ((m.modifyLayer id ({ · with placement := some p })).refresh
          (if l.active then l.pages ++ p.pages else []), .ok ())) ∨
    ∃ e, m.setMapping arena id mapping = (m, .error e) := by
  unfold setMapping
  cases layer : m.layer? id with
  | none => exact .inr ⟨_, rfl⟩
  | some l =>
    cases placed : Placement.ofMapping m.geometry arena mapping with
    | error e => exact .inr ⟨e, rfl⟩
    | ok p =>
      cases active : l.active with
      | false =>
        refine .inl ⟨l, p, rfl, rfl, ?_, ?_⟩
        · intro h
          cases active.symm.trans h
        simp [active, refresh]
      | true =>
        cases unsaved : m.unsaved? p.pages with
        | some page => exact .inr ⟨.baseNotSaved l.name page, by simp [active, unsaved]⟩
        | none =>
          refine .inl ⟨l, p, rfl, rfl, fun _ => m.unsaved?_eq_none_iff.mp unsaved, ?_⟩
          simp [active, unsaved, refresh_append]

/-! ## What no change takes back -/

/-- An address map may have become `m'`: the space is the same, and no layer is
gone. -/
structure Follows (m' m : AddressMap) : Prop where
  geometry_eq : m'.geometry = m.geometry
  size_le : m.layers.size ≤ m'.layers.size

theorem Follows.refl : m.Follows m := ⟨rfl, Nat.le_refl _⟩

theorem Follows.trans {m m' m'' : AddressMap} (h : m'.Follows m) (h' : m''.Follows m') :
    m''.Follows m :=
  ⟨h'.geometry_eq.trans h.geometry_eq, Nat.le_trans h.size_le h'.size_le⟩

theorem refresh_modifyLayer_follows (id : LayerId) (f : Layer → Layer) (pages : List Nat) :
    ((m.modifyLayer id f).refresh pages).Follows m where
  geometry_eq := by rw [refresh_geometry, modifyLayer_geometry]
  size_le := by simp [modifyLayer]

theorem activate_follows (id : LayerId) : (m.activate id).1.Follows m := by
  rcases m.activate_cases id with ⟨l, -, -, -, eq⟩ | ⟨eq, -⟩ <;> rw [eq]
  · exact m.refresh_modifyLayer_follows id _ _
  · exact .refl m

theorem deactivate_follows (id : LayerId) : (m.deactivate id).1.Follows m := by
  rcases m.deactivate_cases id with ⟨l, -, -, eq⟩ | ⟨eq, -⟩ <;> rw [eq]
  · exact m.refresh_modifyLayer_follows id _ _
  · exact .refl m

theorem command_follows (c : LayerCommand) : (m.command c).Follows m := by
  cases c with
  | activate id => exact m.activate_follows id
  | deactivate id => exact m.deactivate_follows id

theorem commands_follows (cs : List LayerCommand) : (cs.foldl command m).Follows m := by
  induction cs generalizing m with
  | nil => exact .refl m
  | cons c cs ih => exact (m.command_follows c).trans (ih _)

theorem setMapping_follows {σ : Type} [DeviceModel σ] (arena : Arena σ) (id : LayerId)
    (mapping : LayerMapping) : (m.setMapping arena id mapping).1.Follows m := by
  rcases m.setMapping_cases arena id mapping with ⟨l, p, -, -, -, eq⟩ | ⟨e, eq⟩ <;> rw [eq]
  · exact m.refresh_modifyLayer_follows id _ _
  · exact .refl m

theorem createLayer_follows (name : String) (priority : Int32) :
    (m.createLayer name priority).1.Follows m := by
  unfold createLayer
  split
  · exact .refl m
  · exact ⟨rfl, by simp⟩

theorem savePages_follows (pages : List Nat) : (pages.foldl savePage m).Follows m := by
  induction pages generalizing m with
  | nil => exact .refl m
  | cons page pages ih =>
    have first : (m.savePage page).Follows m := ⟨by simp, by simp⟩
    exact first.trans (ih _)

theorem saveBase_follows (first count : Nat) : (m.saveBase first count).1.Follows m := by
  unfold saveBase
  split
  · dsimp only
    split
    · exact .refl m
    · exact m.savePages_follows _
  · exact .refl m

end AddressMap

theorem Placement.mem_pages {p : Placement} {page : Nat} :
    page ∈ p.pages ↔ p.covers page = true := by
  simp [pages, covers, List.mem_range'_1]

theorem Layer.mem_pages {l : Layer} {page : Nat} : page ∈ l.pages ↔ l.covers page = true := by
  unfold pages covers
  cases l.placement with
  | none => simp
  | some p => simpa using Placement.mem_pages

theorem Layer.covers_iff {l : Layer} {page : Nat} :
    l.covers page = true ↔ ∃ p, l.placement = some p ∧ p.covers page = true := by
  unfold covers
  cases l.placement <;> simp

end Backplane
