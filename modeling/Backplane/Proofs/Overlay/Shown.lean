import Backplane.Proofs.Overlay.Simulation

/-!
# Which layers are shown

Layer commands change one thing only: which layers are shown. So the layers of a
map are told by the flags of all positions, and a sequence of commands by what it
does to the flags. A layer may be shown if it exists and the base entries of all
its pages are saved, and no command changes that.

`commands_isShown` says what becomes of the flags, and `Realizes.withShown` that
the live table follows them.
-/

namespace Backplane

/-- A layer without its flag. -/
def Layer.hidden (l : Layer) : Layer := { l with active := false }

/-- The flags after the layer at position `i` is shown, if `allowed` lets it. -/
def showAt (allowed : Nat → Bool) (shown : Nat → Bool) (i : Nat) : Nat → Bool :=
  fun j => shown j || decide (j = i) && allowed i

/-- The flags after the layer at position `i` is hidden. -/
def hideAt (shown : Nat → Bool) (i : Nat) : Nat → Bool := fun j => shown j && decide (j ≠ i)

/-- The flags after a layer command. -/
def LayerCommand.flags (allowed : Nat → Bool) (shown : Nat → Bool) : LayerCommand → Nat → Bool
  | activate id => showAt allowed shown id.index
  | deactivate id => hideAt shown id.index

namespace AddressMap

variable (m : AddressMap)

/-- Whether there is a layer at position `i` and it is shown. -/
def isShown (i : Nat) : Bool := m.layers.toList[i]?.any Layer.active

/-- Whether there is a layer at position `i` and the base entries of all its
pages are saved. -/
def mayShow (i : Nat) : Bool :=
  m.layers.toList[i]?.any fun l => l.pages.all fun page => (m.savedBase? page).isSome

theorem mayShow_iff (i : Nat) :
    m.mayShow i = true ↔
      ∃ l, m.layers.toList[i]? = some l ∧ ∀ page ∈ l.pages, (m.savedBase? page).isSome := by
  simp only [mayShow, Option.any_eq_true, List.all_eq_true]

/-! ## Commands -/

theorem refresh_modifyLayer_isShown (id : LayerId) (active : Bool) (pages : List Nat) (i : Nat) :
    ((m.modifyLayer id ({ · with active := active })).refresh pages).isShown i =
      if id.index = i then active && m.layers.toList[i]?.isSome else m.isShown i := by
  rw [isShown, refresh_layers, modifyLayer_layers, isShown]
  by_cases eq : id.index = i
  · rw [if_pos eq, eq, List.getElem?_modify_eq]
    cases m.layers.toList[i]? <;> simp
  · rw [if_neg eq, List.getElem?_modify_ne _ _ eq]

theorem refresh_modifyLayer_hidden (id : LayerId) (active : Bool) (pages : List Nat) :
    ((m.modifyLayer id ({ · with active := active })).refresh pages).layers.toList.map
      Layer.hidden = m.layers.toList.map Layer.hidden := by
  rw [refresh_layers, modifyLayer_layers]
  apply List.ext_getElem?
  intro i
  rw [List.getElem?_map, List.getElem?_map, List.getElem?_modify]
  cases m.layers.toList[i]? with
  | none => rfl
  | some l => simp only [Option.map_eq_map, Option.map_some]; split <;> rfl

theorem activate_isShown (id : LayerId) :
    (m.activate id).1.isShown = showAt m.mayShow m.isShown id.index := by
  funext i
  rcases m.activate_cases id with ⟨l, here, -, saved, eq⟩ | ⟨eq, refused⟩ <;> rw [eq, showAt]
  · rw [layer?_eq] at here
    have may : m.mayShow id.index = true := (m.mayShow_iff _).mpr ⟨l, here, saved⟩
    rw [refresh_modifyLayer_isShown, may]
    by_cases at_id : id.index = i
    · rw [if_pos at_id, ← at_id, here]
      simp
    · rw [if_neg at_id]
      simp [Ne.symm at_id]
  · by_cases at_id : i = id.index
    · subst at_id
      -- A layer that may be shown and is not would have been.
      have stays : m.mayShow id.index = true → m.isShown id.index = true := by
        intro may
        obtain ⟨l, here, saved⟩ := (m.mayShow_iff _).mp may
        rcases refused l ((m.layer?_eq id).trans here) with active | ⟨page, hp, unsaved⟩
        · rw [isShown, here]
          exact active
        · have := saved page hp
          rw [unsaved] at this
          cases this
      cases may : m.mayShow id.index with
      | false => simp
      | true => simp [stays may]
    · simp [at_id]

theorem deactivate_isShown (id : LayerId) :
    (m.deactivate id).1.isShown = hideAt m.isShown id.index := by
  funext i
  rcases m.deactivate_cases id with ⟨l, -, -, eq⟩ | ⟨eq, refused⟩ <;> rw [eq, hideAt]
  · rw [refresh_modifyLayer_isShown]
    by_cases at_id : id.index = i
    · simp [at_id]
    · simp [at_id, Ne.symm at_id]
  · by_cases at_id : i = id.index
    · subst at_id
      have hidden : m.isShown id.index = false := by
        rw [isShown]
        cases here : m.layers.toList[id.index]? with
        | none => rfl
        | some l => exact refused l ((m.layer?_eq id).trans here)
      simp [hidden]
    · simp [at_id]

/-- Nothing of a layer but its flag, and no saved base entry, differs. -/
structure SameButShown (m m' : AddressMap) : Prop where
  hidden : m'.layers.toList.map Layer.hidden = m.layers.toList.map Layer.hidden
  saved : m'.saved = m.saved

variable {m}

theorem SameButShown.refl (m : AddressMap) : m.SameButShown m := ⟨rfl, rfl⟩

theorem SameButShown.trans {m' m'' : AddressMap} (h : m.SameButShown m')
    (h' : m'.SameButShown m'') : m.SameButShown m'' :=
  ⟨h'.hidden.trans h.hidden, h'.saved.trans h.saved⟩

/-- Whether a layer may be shown does not hang on what is shown. -/
theorem SameButShown.mayShow {m' : AddressMap} (h : m.SameButShown m') :
    m'.mayShow = m.mayShow := by
  have without (m : AddressMap) (i : Nat) : m.mayShow i =
      (m.layers.toList.map Layer.hidden)[i]?.any
        fun l => l.pages.all fun page => (m.saved[page]?.join).isSome := by
    rw [AddressMap.mayShow, List.getElem?_map, Option.any_map]
    rfl
  funext i
  rw [without, without, h.hidden, h.saved]

theorem command_sameButShown (m : AddressMap) (c : LayerCommand) :
    m.SameButShown (m.command c) := by
  cases c with
  | activate id =>
    show m.SameButShown (m.activate id).1
    rcases m.activate_cases id with ⟨l, -, -, -, eq⟩ | ⟨eq, -⟩ <;> rw [eq]
    · exact ⟨m.refresh_modifyLayer_hidden id true _, refresh_saved _ _⟩
    · exact .refl m
  | deactivate id =>
    show m.SameButShown (m.deactivate id).1
    rcases m.deactivate_cases id with ⟨l, -, -, eq⟩ | ⟨eq, -⟩ <;> rw [eq]
    · exact ⟨m.refresh_modifyLayer_hidden id false _, refresh_saved _ _⟩
    · exact .refl m

theorem commands_sameButShown (m : AddressMap) (cs : List LayerCommand) :
    m.SameButShown (cs.foldl command m) := by
  induction cs generalizing m with
  | nil => exact .refl m
  | cons c cs ih => exact (m.command_sameButShown c).trans (ih _)

theorem command_isShown (m : AddressMap) (c : LayerCommand) :
    (m.command c).isShown = c.flags m.mayShow m.isShown := by
  cases c with
  | activate id => exact m.activate_isShown id
  | deactivate id => exact m.deactivate_isShown id

/-- Commands work on the flags one after the other, and one that fails changes
none. -/
theorem commands_isShown (m : AddressMap) (cs : List LayerCommand) :
    (cs.foldl command m).isShown = cs.foldl (fun shown c => c.flags m.mayShow shown) m.isShown := by
  induction cs generalizing m with
  | nil => rfl
  | cons c cs ih =>
    rw [List.foldl_cons, List.foldl_cons, ih, (m.command_sameButShown c).mayShow, command_isShown]

end AddressMap

/-! ## Overlays -/

namespace Overlay

variable {o : Overlay} {m m' : AddressMap}

/-- The overlay with these flags. -/
def withShown (o : Overlay) (shown : Nat → Bool) : Overlay :=
  { o with layers := o.layers.mapIdx fun i l => { l with active := shown i } }

/-- Commands change nothing of an overlay but its layers. -/
theorem commands_frame (o : Overlay) (cs : List LayerCommand) :
    (cs.foldl command o).base = o.base ∧ (cs.foldl command o).kept = o.kept := by
  induction cs generalizing o with
  | nil => exact ⟨rfl, rfl⟩
  | cons c cs ih =>
    have first : (o.command c).base = o.base ∧ (o.command c).kept = o.kept := by
      cases c with
      | deactivate id => exact ⟨rfl, rfl⟩
      | activate id =>
        unfold command reveal
        repeat' split
        all_goals exact ⟨rfl, rfl⟩
    exact ⟨(ih _).1.trans first.1, (ih _).2.trans first.2⟩

/-- The layers of a map are told by those of an earlier one and by the flags. -/
theorem layers_eq_mapIdx (h : m.SameButShown m') :
    m'.layers.toList =
      m.layers.toList.mapIdx fun i l => { l with active := m'.isShown i } := by
  apply List.ext_getElem?
  intro i
  have same := congrArg (·[i]?) h.hidden
  simp only [List.getElem?_map] at same
  rw [List.getElem?_mapIdx, AddressMap.isShown]
  cases here : m.layers.toList[i]? <;> cases here' : m'.layers.toList[i]?
  · rfl
  · rw [here, here'] at same
    cases same
  · rw [here, here'] at same
    cases same
  · rename_i l l'
    rw [here, here', Option.map_some, Option.map_some, Option.some.injEq] at same
    simp only [Option.map_some, Option.any_some, Option.some.injEq]
    simp only [Layer.hidden, Layer.mk.injEq, true_and] at same
    rw [← same.1, ← same.2.1, ← same.2.2]

end Overlay

/-- A map that follows an overlay through commands shows the overlay with the
flags that it has come to. -/
theorem AddressMap.Realizes.withShown {m m' : AddressMap} {o o' : Overlay} (h : m.Realizes o)
    (h' : m'.Realizes o') (same : m.SameButShown m') (base : o'.base = o.base)
    (kept : o'.kept = o.kept) : m'.Realizes (o.withShown m'.isShown) := by
  have eq : o' = o.withShown m'.isShown := by
    rw [Overlay.withShown, ← h.layers, ← Overlay.layers_eq_mapIdx same, h'.layers, ← base, ← kept]
  rw [← eq]
  exact h'

end Backplane
