import Backplane.Proofs.Bus.Served
import Backplane.Proofs.Overlay.Winner

/-!
# Overlays as they are meant

An `Overlay` is what an address map stands for: a base entry for each page, the
layers that may lie over it, and the pages whose base entry is kept for a time
under a layer. It has no table. What a page shows is defined from scratch each
time, by `Shows`.

Only mapping and unmapping a range changes base entries, and no layer has a say
in that. Layers change by being created, shown, hidden and placed; the layer
commands of devices are obeyed in order, as they are issued. `after` carries
this through a run of a bus: of the bus it reads the targets, which
configuration calls it accepted, and which commands its devices issued.
-/

namespace Backplane

/-- Base entries under layers. -/
structure Overlay where
  /-- What each page shows where no layer covers it. -/
  base : Nat → PageEntry
  /-- The pages whose base entry is kept, so that a layer may cover them. -/
  kept : Nat → Bool
  /-- The layers, in the order of creation. -/
  layers : List Layer

namespace Overlay

/-- No page is mapped, and there are no layers. -/
def bare : Overlay := ⟨fun _ => .unmapped, fun _ => false, []⟩

variable (o : Overlay)

/-- What `page` shows: the entry of the layer that wins it, or else its base
entry. -/
inductive Shows (page : Nat) : PageEntry → Prop where
  /-- A layer wins the page. -/
  | layer {i : Nat} {l : Layer} {p : Placement} : Wins o.layers page i l →
      l.placement = some p → Shows page (p.entryFor page)
  /-- No active layer covers the page. -/
  | base : Uncovered o.layers page → Shows page (o.base page)

/-! ## Changes -/

/-- `count` base entries from `first` become `entry 0`, `entry 1` and so on. -/
def rebase (first count : Nat) (entry : Nat → PageEntry) : Overlay :=
  { o with
    base := fun page =>
      if first ≤ page ∧ page < first + count then entry (page - first) else o.base page }

/-- The base entries of `pages` are kept. -/
def keep (pages : List Nat) : Overlay :=
  { o with kept := fun page => o.kept page || decide (page ∈ pages) }

/-- A new layer is created, inactive and without pages. -/
def create (name : String) (priority : Int32) : Overlay :=
  { o with layers := o.layers ++ [⟨name, priority, false, none⟩] }

/-- The layer at position `i` is changed. -/
def modifyLayer (i : Nat) (f : Layer → Layer) : Overlay :=
  { o with layers := o.layers.modify i f }

/-- The layer at position `i` is placed elsewhere. -/
def place (i : Nat) (p : Placement) : Overlay :=
  o.modifyLayer i ({ · with placement := some p })

/-- The layer at position `i` is shown, if the base entries of all its pages are
kept. -/
def reveal (i : Nat) : Overlay :=
  match o.layers[i]? with
  | none => o
  | some l =>
    if l.active = false ∧ l.pages.all o.kept then o.modifyLayer i ({ · with active := true })
    else o

/-- The layer at position `i` is hidden. -/
def hide (i : Nat) : Overlay := o.modifyLayer i ({ · with active := false })

/-- A layer command of a device is obeyed. -/
def command : LayerCommand → Overlay
  | .activate id => o.reveal id.index
  | .deactivate id => o.hide id.index

/-- A change of the layer with this name, if there is one. -/
def named (name : String) (change : Overlay → Nat → Overlay) : Overlay :=
  match o.layers.findIdx? fun l => l.name = name with
  | some i => change o i
  | none => o

/-! ## Runs -/

variable {σ : Type} [DeviceModel σ]

/-- A bus makes a transaction, and the overlay obeys the commands of its
devices. -/
def obey (s : Bus σ × Overlay) (x : Transaction) : Bus σ × Overlay :=
  (s.1.transact x, (s.1.served x).commands.foldl command s.2)

/-- The overlay after an operation on the bus `b`. -/
def step (b : Bus σ) (o : Overlay) : Operation σ → Overlay
  | .mapRange start length mapping =>
    match (b.mapRange start length mapping).2 with
    | .error _ => o
    | .ok () =>
      let caps := mapping.caps.getD (b.arena.capsOf mapping.target)
      o.rebase (b.geometry.pageOf start) (b.geometry.pageOf length) (b.entryAt mapping caps)
  | .unmapRange start length =>
    match (b.unmapRange start length).2 with
    | .error _ => o
    | .ok () =>
      o.rebase (b.geometry.pageOf start) (b.geometry.pageOf length) fun _ => .unmapped
  | .createLayer name priority =>
    match (b.createLayer name priority).2 with
    | .error _ => o
    | .ok _ => o.create name priority
  | .saveBase first count =>
    match (b.saveBase first count).2 with
    | .error _ => o
    | .ok () => o.keep (List.range' first count)
  | .activate id => o.reveal id.index
  | .deactivate id => o.hide id.index
  | .activateNamed name => o.named name reveal
  | .deactivateNamed name => o.named name hide
  | .setLayerMapping name mapping =>
    match (b.setLayerMapping name mapping).2, Placement.ofMapping b.geometry b.arena mapping with
    | .ok (), .ok p => o.named name fun o i => o.place i p
    | _, _ => o
  | .transfer t => (t.transactions.foldl obey (b, o)).2
  | .addTarget _ _ | .enableTrace _ | .disableTrace | .drainNotices => o

/-- The overlay after operations on the bus `b` in order. -/
def after (b : Bus σ) (o : Overlay) : List (Operation σ) → Overlay
  | [] => o
  | operation :: operations => after (b.perform operation) (o.step b operation) operations

end Overlay
end Backplane
