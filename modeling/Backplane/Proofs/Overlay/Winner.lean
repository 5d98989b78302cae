import Backplane.Overlay.AddressMap

/-!
# The winner of a page

Of the active layers over a page, the one of highest priority wins, and of equal
ones the first created. `Wins` says so by comparing one layer with every other;
`strongest` finds it by a single pass that keeps the stronger of two layers, and
`winner?` names it by an id of sixteen bits.

The main statement is `winner?_wins`: the layer that `winner?` names wins, as
long as no active layer lies past the last id.
-/

namespace Backplane

/-- The number of layers that ids can tell apart. -/
def maxLayers : Nat := 65536

/-- The layer `l` at position `i` of `layers` is active and covers `page`. -/
structure Contends (layers : List Layer) (page i : Nat) (l : Layer) : Prop where
  getElem?_eq : layers[i]? = some l
  active : l.active = true
  covers : l.covers page = true

/-- The layer `l` at position `i` of `layers` wins `page`: it is active and covers
the page, and any other layer that does so has a lower priority, or the same and
was created later. -/
structure Wins (layers : List Layer) (page i : Nat) (l : Layer) : Prop
    extends Contends layers page i l where
  beats : ∀ {j : Nat} {k : Layer}, Contends layers page j k → j ≠ i →
    k.priority < l.priority ∨ k.priority = l.priority ∧ i < j

/-- No active layer covers `page`. -/
def Uncovered (layers : List Layer) (page : Nat) : Prop :=
  ∀ l ∈ layers, l.active = true → l.covers page = false

theorem uncovered_iff {layers : List Layer} {page : Nat} :
    Uncovered layers page ↔ ∀ i l, ¬Contends layers page i l := by
  constructor
  · rintro h i l ⟨here, active, covers⟩
    rw [h l (List.mem_of_getElem? here) active] at covers
    cases covers
  · intro h l hl active
    obtain ⟨i, here⟩ := List.getElem?_of_mem hl
    cases covers : l.covers page with
    | false => rfl
    | true => exact absurd ⟨here, active, covers⟩ (h i l)

/-- No two layers win a page. -/
theorem Wins.unique {layers : List Layer} {page i j : Nat} {l k : Layer}
    (h : Wins layers page i l) (h' : Wins layers page j k) : i = j ∧ l = k := by
  have same : i = j := by
    apply Decidable.byContradiction
    intro ne
    have best := h.beats h'.toContends (Ne.symm ne)
    have under := h'.beats h.toContends ne
    rw [Int32.lt_iff_toInt_lt] at best under
    rcases best with best | ⟨eq, best⟩ <;> rcases under with under | ⟨eq', under⟩
    · omega
    · rw [eq'] at best
      omega
    · rw [eq] at under
      omega
    · omega
  subst same
  exact ⟨rfl, Option.some.inj (h.getElem?_eq.symm.trans h'.getElem?_eq)⟩

theorem LayerId.index_ofIndex {i : Nat} (h : i < maxLayers) : (LayerId.ofIndex i).index = i := by
  simpa [LayerId.index, LayerId.ofIndex, maxLayers] using h

namespace AddressMap

/-! ## The strongest of a list -/

/-- Of two layers with their positions, `x` is at least as strong as `y`. -/
def Outranks (x y : Layer × Nat) : Prop :=
  y.1.priority < x.1.priority ∨ y.1.priority = x.1.priority ∧ x.2 ≤ y.2

theorem Outranks.refl (x : Layer × Nat) : Outranks x x := .inr ⟨rfl, Nat.le_refl _⟩

theorem Outranks.trans {x y z : Layer × Nat} (h : Outranks x y) (h' : Outranks y z) :
    Outranks x z := by
  simp only [Outranks, Int32.lt_iff_toInt_lt] at *
  rcases h with h | ⟨h, hp⟩ <;> rcases h' with h' | ⟨h', hp'⟩
  · exact .inl (by omega)
  · exact .inl (h' ▸ h)
  · exact .inl (h ▸ h')
  · exact .inr ⟨h'.trans h, by omega⟩

/-- `stronger` picks one of two layers, and it outranks both if the first was
created first. -/
theorem stronger_spec {l k : Layer × Nat} (h : l.2 < k.2) :
    (stronger l k = l ∨ stronger l k = k) ∧ Outranks (stronger l k) l ∧
      Outranks (stronger l k) k := by
  unfold stronger
  split
  · rename_i lt
    exact ⟨.inr rfl, .inl lt, .refl k⟩
  · rename_i le
    refine ⟨.inl rfl, .refl l, ?_⟩
    rw [Int32.lt_iff_toInt_lt, Int.not_lt] at le
    rcases Int.lt_or_eq_of_le le with lt | eq
    · exact .inl (Int32.lt_iff_toInt_lt.mpr lt)
    · exact .inr ⟨Int32.toInt.inj eq, Nat.le_of_lt h⟩

/-- Keeping the stronger of two layers along a list ends with one that outranks
the first and all others. The positions must ascend, since `stronger` lets the
layer met first win a tie. -/
theorem foldl_stronger {l : Layer × Nat} {ls : List (Layer × Nat)}
    (ascending : (l :: ls).Pairwise fun x y => x.2 < y.2) :
    ls.foldl stronger l ∈ l :: ls ∧ ∀ x ∈ l :: ls, Outranks (ls.foldl stronger l) x := by
  induction ls generalizing l with
  | nil => simp [Outranks.refl]
  | cons k ks ih =>
    obtain ⟨above, tail⟩ := List.pairwise_cons.mp ascending
    obtain ⟨above', tail'⟩ := List.pairwise_cons.mp tail
    obtain ⟨pick, overL, overK⟩ := stronger_spec (above k List.mem_cons_self)
    have next : (stronger l k :: ks).Pairwise fun x y => x.2 < y.2 := by
      refine List.pairwise_cons.mpr ⟨?_, tail'⟩
      intro x hx
      rcases pick with pick | pick <;> rw [pick]
      · exact above x (List.mem_cons_of_mem _ hx)
      · exact above' x hx
    obtain ⟨mem, best⟩ := ih next
    rw [List.foldl_cons]
    constructor
    · rcases List.mem_cons.mp mem with mem | mem
      · rw [mem]
        rcases pick with pick | pick <;> simp [pick]
      · simp [mem]
    · intro x hx
      have first := best _ List.mem_cons_self
      rcases List.mem_cons.mp hx with rfl | hx
      · exact first.trans overL
      · rcases List.mem_cons.mp hx with rfl | hx
        · exact first.trans overK
        · exact best x (List.mem_cons_of_mem _ hx)

theorem strongest_spec {ls : List (Layer × Nat)} {x : Layer × Nat}
    (ascending : ls.Pairwise fun x y => x.2 < y.2) (h : strongest ls = some x) :
    x ∈ ls ∧ ∀ y ∈ ls, Outranks x y := by
  cases ls with
  | nil => cases h
  | cons l ls =>
    cases h
    exact foldl_stronger ascending

/-! ## The winner -/

variable (m : AddressMap)

/-- The active layers over `page` with their positions. -/
def contenders (page : Nat) : List (Layer × Nat) :=
  m.layers.toList.zipIdx.filter fun l => l.1.active && l.1.covers page

theorem winner?_eq (page : Nat) :
    m.winner? page = (strongest (m.contenders page)).map fun l => LayerId.ofIndex l.2 := rfl

theorem mem_contenders {page : Nat} {x : Layer × Nat} :
    x ∈ m.contenders page ↔ Contends m.layers.toList page x.2 x.1 := by
  rw [contenders, List.mem_filter, List.mem_zipIdx_iff_getElem?, Bool.and_eq_true]
  exact ⟨fun ⟨here, active, covers⟩ => ⟨here, active, covers⟩,
    fun h => ⟨h.getElem?_eq, h.active, h.covers⟩⟩

theorem contenders_ascending (page : Nat) :
    (m.contenders page).Pairwise fun x y => x.2 < y.2 := by
  have h : (m.layers.toList.zipIdx.map Prod.snd).Pairwise (· < ·) := by
    rw [List.zipIdx_map_snd]
    exact List.pairwise_lt_range'
  exact (List.pairwise_map.mp h).sublist List.filter_sublist

theorem winner?_eq_none_iff {page : Nat} :
    m.winner? page = none ↔ Uncovered m.layers.toList page := by
  have h : m.winner? page = none ↔ m.contenders page = [] := by
    rw [winner?_eq, Option.map_eq_none_iff]
    cases m.contenders page <;> simp [strongest]
  rw [h, List.eq_nil_iff_forall_not_mem, uncovered_iff]
  constructor
  · intro none i l contends
    exact none (l, i) (m.mem_contenders.mpr contends)
  · intro none x hx
    exact none x.2 x.1 (m.mem_contenders.mp hx)

/-- Every active layer has an id of its own. -/
def Identified : Prop :=
  ∀ (i : Nat) (l : Layer), m.layers.toList[i]? = some l → l.active = true → i < maxLayers

theorem identified_of_few {m : AddressMap} (few : m.layers.size ≤ maxLayers) : m.Identified := by
  intro i l here _
  obtain ⟨lt, -⟩ := List.getElem?_eq_some_iff.mp here
  exact Nat.lt_of_lt_of_le (by simpa using lt) few

/-- The layer that `winner?` names wins. -/
theorem winner?_wins {m : AddressMap} (identified : m.Identified) {page : Nat}
    {id : LayerId} (h : m.winner? page = some id) :
    ∃ l, m.layer? id = some l ∧ Wins m.layers.toList page id.index l := by
  rw [winner?_eq, Option.map_eq_some_iff] at h
  obtain ⟨x, hx, rfl⟩ := h
  obtain ⟨mem, best⟩ := strongest_spec (m.contenders_ascending page) hx
  have contends := m.mem_contenders.mp mem
  have index : (LayerId.ofIndex x.2).index = x.2 :=
    LayerId.index_ofIndex (identified x.2 x.1 contends.getElem?_eq contends.active)
  refine ⟨x.1, ?_, ?_⟩
  · rw [layer?, index, ← Array.getElem?_toList, contends.getElem?_eq]
  · rw [index]
    refine ⟨contends, ?_⟩
    intro j k hk ne
    rcases best (k, j) (m.mem_contenders.mpr hk) with lt | ⟨eq, le⟩
    · exact .inl lt
    · exact .inr ⟨eq, Nat.lt_of_le_of_ne le (Ne.symm ne)⟩

end AddressMap
end Backplane
