import Backplane.Overlay.Layer

/-!
# Address maps

An address map is the live page table together with the overlay layers that lie
over the base mapping, and the saved base entries of the pages that layers may
cover.

Of the active layers that cover a page, the one of highest priority wins, and of
equal ones the first created. A page shows the entry of its winner, or its saved
base entry. So a layer may only be active over pages whose base is saved, and
hiding it shows again what lies beneath, with all changes made to the base in
the meantime.
-/

namespace Backplane

/-- The live page table under its overlay layers. -/
structure AddressMap where
  /-- What answers each page now. -/
  table : PageTable
  /-- The layers, in the order of creation. -/
  layers : Array Layer
  /-- The saved base entry of each page, if it has one. -/
  saved : Array (Option PageEntry)

namespace AddressMap

/-- The map in which no page is mapped, without layers. -/
def empty (geometry : Geometry) : AddressMap :=
  ⟨.empty geometry, #[], Array.replicate geometry.pageCount none⟩

variable (m : AddressMap)

/-- The space that is divided into pages. -/
def geometry : Geometry := m.table.geometry

/-! ## Layers over a page -/

/-- The layer with this id. -/
def layer? (id : LayerId) : Option Layer := m.layers[id.index]?

/-- The id of the layer with this name. -/
def layerId? (name : String) : Option LayerId :=
  (m.layers.findIdx? fun layer => layer.name = name).map LayerId.ofIndex

/-- Whether the layer with this name exists and is active. -/
def isActive (name : String) : Bool :=
  ((m.layerId? name).bind m.layer?).any Layer.active

/-- The saved base entry of `page`, if it has one. -/
def savedBase? (page : Nat) : Option PageEntry := m.saved[page]?.join

/-- Of two layers with their positions, the one that wins; `l` was created
first. -/
def stronger (l k : Layer × Nat) : Layer × Nat :=
  if l.1.priority < k.1.priority then k else l

/-- The winner among layers in the order of creation. -/
def strongest : List (Layer × Nat) → Option (Layer × Nat)
  | [] => none
  | l :: ls => some (ls.foldl stronger l)

/-- The active layer that wins `page`, if any covers it. -/
def winner? (page : Nat) : Option LayerId :=
  (strongest (m.layers.toList.zipIdx.filter fun l => l.1.active && l.1.covers page)).map
    fun l => LayerId.ofIndex l.2

/-- The name of the layer that wins `page`; empty if none does. -/
def winnerName (page : Nat) : String :=
  match (m.winner? page).bind m.layer? with
  | some layer => layer.name
  | none => ""

/-- What `page` should show: the entry of its winner, else its saved base
entry. -/
def effective? (page : Nat) : Option PageEntry :=
  match (m.winner? page).bind fun id => (m.layer? id).bind Layer.placement with
  | some placement => some (placement.entryFor page)
  | none => m.savedBase? page

/-! ## Changing entries -/

/-- Lets `page` show what it should. -/
def refreshPage (page : Nat) : AddressMap :=
  match m.effective? page with
  | some entry => { m with table := m.table.set page entry }
  | none => m

/-- Lets each of `pages` show what it should. -/
def refresh (pages : List Nat) : AddressMap := pages.foldl refreshPage m

/-- Changes the base entry of `page`: the saved one, if there is one, and the
live one unless a layer covers it. -/
def setBase (page : Nat) (entry : PageEntry) : AddressMap :=
  match m.savedBase? page with
  | none => { m with table := m.table.set page entry }
  | some _ =>
    let saved := m.saved.setIfInBounds page (some entry)
    match m.winner? page with
    | some _ => { m with saved := saved }
    | none => { m with table := m.table.set page entry, saved := saved }

/-- Saves the live entry of `page` as its base entry. -/
def savePage (page : Nat) : AddressMap :=
  match m.table.get? page with
  | some entry => { m with saved := m.saved.setIfInBounds page (some entry) }
  | none => m

/-- Saves the base entries of `count` pages from `first`. The pages must exist,
and no active layer may cover one of them. -/
def saveBase (first count : Nat) : AddressMap × Except BusError Unit :=
  if first + count ≤ m.table.pageCount then
    let pages := List.range' first count
    match pages.find? fun page => (m.winner? page).isSome with
    | some page => (m, .error (.layerActive (m.winnerName page) page))
    | none => (pages.foldl savePage m, .ok ())
  else
    (m, .error (.outOfBounds (m.geometry.pageBase first) (m.geometry.pageBase count)))

/-! ## Changing layers -/

/-- Creates an inactive layer under a new name, and tells its id. -/
def createLayer (name : String) (priority : Int32) : AddressMap × Except BusError LayerId :=
  match m.layerId? name with
  | some _ => (m, .error (.duplicateLayer name))
  | none =>
    ({ m with layers := m.layers.push ⟨name, priority, false, none⟩ },
      .ok (LayerId.ofIndex m.layers.size))

/-- The first of `pages` whose base entry is not saved. -/
def unsaved? (pages : List Nat) : Option Nat :=
  pages.find? fun page => (m.savedBase? page).isNone

/-- The map with one layer changed. -/
def modifyLayer (id : LayerId) (f : Layer → Layer) : AddressMap :=
  { m with layers := m.layers.modify id.index f }

/-- Shows a layer. The base entries of all its pages must be saved. Showing an
active layer does nothing. -/
def activate (id : LayerId) : AddressMap × Except BusError Unit :=
  match m.layer? id with
  | none => (m, .error (.unknownLayer id.text))
  | some layer =>
    if layer.active then (m, .ok ())
    else match m.unsaved? layer.pages with
      | some page => (m, .error (.baseNotSaved layer.name page))
      | none => ((m.modifyLayer id ({ · with active := true })).refresh layer.pages, .ok ())

/-- Hides a layer. Hiding an inactive layer does nothing. -/
def deactivate (id : LayerId) : AddressMap × Except BusError Unit :=
  match m.layer? id with
  | none => (m, .error (.unknownLayer id.text))
  | some layer =>
    if layer.active then
      ((m.modifyLayer id ({ · with active := false })).refresh layer.pages, .ok ())
    else (m, .ok ())

/-- Gives a layer another mapping, which takes effect at once if the layer is
active. -/
def setMapping {σ : Type} [DeviceModel σ] (arena : Arena σ) (id : LayerId)
    (mapping : LayerMapping) : AddressMap × Except BusError Unit :=
  match m.layer? id with
  | none => (m, .error (.unknownLayer id.text))
  | some layer =>
    match Placement.ofMapping m.geometry arena mapping with
    | .error e => (m, .error e)
    | .ok placement =>
      let placed := m.modifyLayer id ({ · with placement := some placement })
      if layer.active then
        match m.unsaved? placement.pages with
        | some page => (m, .error (.baseNotSaved layer.name page))
        | none => ((placed.refresh layer.pages).refresh placement.pages, .ok ())
      else (placed, .ok ())

/-- Carries out what a device asks of the layers. A command that fails does
nothing. -/
def command (c : LayerCommand) : AddressMap :=
  match c with
  | .activate id => (m.activate id).1
  | .deactivate id => (m.deactivate id).1

/-- The layer named in a command by a user. -/
def named (name : String) : Except BusError LayerId :=
  match m.layerId? name with
  | some id => .ok id
  | none => .error (.unknownLayer name)

end AddressMap
end Backplane
