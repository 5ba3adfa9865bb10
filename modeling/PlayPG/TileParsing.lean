import PlayPG.TiledMap

-- parseTiles as its three nested loops, and what they leave in a map.
namespace PlayPG.TileParsing
open Bytes

-- What parseTiles reads of a Tmx map: everything but its tile sizes and its file.
structure Layout where
  width : Nat
  height : Nat
  layers : List Tmx.TileLayer
  tileset : Nat → Nat → Option Tmx.Properties
  area_int : width * height < 2 ^ 31

def Layout.ofMap (map : Tmx.Map) : Layout := ⟨map.width,map.height,map.layers,map.tileset,map.area_int⟩

-- The three local flags of the loop over the layers, and the member it writes.
structure Marks where
  solid : Bool
  interesting : Bool
  spawn : Bool
  spawnPoint : Option (Nat × Nat)

structure Parsed where
  tiles : List MapTile
  spawnPoint : Option (Nat × Nat)

namespace Layout
variable (layout : Layout)

def markLayer (x y : Nat) (marks : Marks) (layer : Tmx.TileLayer) : Marks :=
  match layer.tile x y with
  | none => marks
  | some (tileset,id) =>
    let marks := if layer.properties.getStringProperty (text "solid") ≠ [] then {marks with solid := true} else marks
    let marks := match layout.tileset tileset id with
      | none => marks
      | some properties =>
        if properties.getStringProperty (text "interesting") ≠ [] then {marks with interesting := true} else marks
    if layer.name = playerSpawn then {marks with spawnPoint := some (x,y)} else marks

def parseTile (y : Nat) (parsed : Parsed) (x : Nat) : Parsed :=
  let marks := layout.layers.foldl (layout.markLayer x y) ⟨false,false,false,parsed.spawnPoint⟩
  ⟨parsed.tiles ++ [⟨marks.solid,marks.interesting,marks.spawn⟩],marks.spawnPoint⟩

def parseTiles : Parsed :=
  (List.range layout.height).foldl
    (fun parsed y => (List.range layout.width).foldl (layout.parseTile y) parsed) ⟨[],none⟩

def resolveTileLoc (x y : UInt32) : Nat := (x + UInt32.ofNat layout.width * y).toNat

def getTile (x y : UInt32) : Option MapTile := layout.parseTiles.tiles[layout.resolveTileLoc x y]?

def getSpawnPoint : Option (Nat × Nat) := layout.parseTiles.spawnPoint

-- What a layer says of a cell.
def solidBy (x y : Nat) (layer : Tmx.TileLayer) : Bool :=
  (layer.tile x y).isSome && layer.properties.getStringProperty (text "solid") ≠ []

def interestingBy (x y : Nat) (layer : Tmx.TileLayer) : Bool :=
  match layer.tile x y with
  | none => false
  | some (tileset,id) =>
    match layout.tileset tileset id with
    | none => false
    | some properties => properties.getStringProperty (text "interesting") ≠ []

def spawnBy (x y : Nat) (layer : Tmx.TileLayer) : Bool := (layer.tile x y).isSome && layer.name = playerSpawn

def tileAt (x y : Nat) : MapTile :=
  ⟨layout.layers.any (solidBy x y),layout.layers.any (layout.interestingBy x y),false⟩

def spawnAt (x y : Nat) : Bool := layout.layers.any (spawnBy x y)

theorem markLayer_parts (marks : Marks) (layer : Tmx.TileLayer) : layout.markLayer x y marks layer =
    ⟨marks.solid || solidBy x y layer,marks.interesting || layout.interestingBy x y layer,marks.spawn,
      if spawnBy x y layer then some (x,y) else marks.spawnPoint⟩ := by
  unfold markLayer solidBy interestingBy spawnBy
  cases laid : layer.tile x y with
  | none => simp
  | some place =>
    obtain ⟨tileset,id⟩ := place
    dsimp only
    cases layout.tileset tileset id with
    | none =>
      dsimp only
      split_ifs <;> simp_all
    | some properties =>
      dsimp only
      split_ifs <;> simp_all

-- No layer resets what an earlier one has set.
theorem marks_layers (layers : List Tmx.TileLayer) (marks : Marks) : layers.foldl (layout.markLayer x y) marks =
    ⟨marks.solid || layers.any (solidBy x y),marks.interesting || layers.any (layout.interestingBy x y),marks.spawn,
      if layers.any (spawnBy x y) then some (x,y) else marks.spawnPoint⟩ := by
  induction layers generalizing marks with
  | nil => simp
  | cons layer rest ih =>
    rw [List.foldl_cons,ih,layout.markLayer_parts]
    simp only [List.any_cons,Bool.or_assoc]
    congr 1
    by_cases marked : spawnBy x y layer <;> simp [marked]

theorem parseTile_parts (parsed : Parsed) : layout.parseTile y parsed x =
    ⟨parsed.tiles ++ [layout.tileAt x y],if layout.spawnAt x y then some (x,y) else parsed.spawnPoint⟩ := by
  unfold parseTile
  rw [layout.marks_layers]
  rfl

-- The two outer loops are one loop over the cells in the order of the index.
theorem parseTiles_cells : layout.parseTiles = (Grid.cells layout.width layout.height).foldl
    (fun parsed cell => layout.parseTile cell.2 parsed cell.1) ⟨[],none⟩ := by
  unfold parseTiles Grid.cells
  rw [List.foldl_flatMap]
  simp only [List.foldl_map]

theorem parsed_cells (cells : List (Nat × Nat)) (parsed : Parsed) :
    cells.foldl (fun parsed cell => layout.parseTile cell.2 parsed cell.1) parsed =
      ⟨parsed.tiles ++ cells.map (fun cell => layout.tileAt cell.1 cell.2),
        cells.foldl (fun last cell => if layout.spawnAt cell.1 cell.2 then some cell else last) parsed.spawnPoint⟩ := by
  induction cells generalizing parsed with
  | nil => simp
  | cons cell rest ih =>
    rw [List.foldl_cons,ih,layout.parseTile_parts]
    simp

theorem parseTiles_parts : layout.parseTiles =
    ⟨(Grid.cells layout.width layout.height).map (fun cell => layout.tileAt cell.1 cell.2),
      Grid.lastOf (fun cell => layout.spawnAt cell.1 cell.2) (Grid.cells layout.width layout.height)⟩ := by
  rw [layout.parseTiles_cells,layout.parsed_cells]
  rfl

theorem resolveTileLoc_inside (inside : x < layout.width) (below : y < layout.height) :
    layout.resolveTileLoc (UInt32.ofNat x) (UInt32.ofNat y) = Grid.index layout.width x y :=
  Grid.index_word inside below (Nat.lt_trans layout.area_int (by decide))

theorem getTile_inside (inside : x < layout.width) (below : y < layout.height) :
    layout.getTile (UInt32.ofNat x) (UInt32.ofNat y) = some (layout.tileAt x y) := by
  rw [getTile,layout.resolveTileLoc_inside inside below,layout.parseTiles_parts,List.getElem?_map,
    Grid.cells_index inside below]
  rfl

-- A tile of a solid layer, a tile with the property in its tileset, a tile of a spawn layer.
def Solid (x y : Nat) : Prop :=
  ∃ layer ∈ layout.layers, (∃ laid, layer.tile x y = some laid) ∧ layer.properties.getStringProperty (text "solid") ≠ []

def Interesting (x y : Nat) : Prop :=
  ∃ layer ∈ layout.layers, ∃ tileset id properties, layer.tile x y = some (tileset,id) ∧
    layout.tileset tileset id = some properties ∧ properties.getStringProperty (text "interesting") ≠ []

def Spawn (x y : Nat) : Prop :=
  ∃ layer ∈ layout.layers, layer.name = playerSpawn ∧ ∃ laid, layer.tile x y = some laid

theorem tileAt_solid : (layout.tileAt x y).isSolid ↔ layout.Solid x y := by
  simp only [tileAt,List.any_eq_true,solidBy,Solid,Bool.and_eq_true,Option.isSome_iff_exists,decide_eq_true_eq]

theorem interestingBy_parts : layout.interestingBy x y layer ↔ ∃ tileset id properties,
    layer.tile x y = some (tileset,id) ∧ layout.tileset tileset id = some properties ∧
      properties.getStringProperty (text "interesting") ≠ [] := by
  unfold interestingBy
  cases layer.tile x y with
  | none => simp
  | some place =>
    obtain ⟨tileset,id⟩ := place
    cases listed : layout.tileset tileset id with
    | none =>
      simp only [listed,Bool.false_eq_true,false_iff]
      intro marked
      obtain ⟨_,_,_,same,properties,_⟩ := marked
      cases same
      rw [listed] at properties
      cases properties
    | some properties =>
      simp only [listed,decide_eq_true_eq]
      constructor
      · intro marked
        exact ⟨tileset,id,properties,rfl,listed,marked⟩
      · intro marked
        obtain ⟨_,_,_,same,found,marked⟩ := marked
        cases same
        rw [listed] at found
        cases found
        exact marked

theorem tileAt_interesting : (layout.tileAt x y).isInteresting ↔ layout.Interesting x y := by
  simp only [tileAt,List.any_eq_true,layout.interestingBy_parts,Interesting]

theorem spawnAt_exact : layout.spawnAt x y ↔ layout.Spawn x y := by
  simp only [spawnAt,List.any_eq_true,spawnBy,Spawn,Bool.and_eq_true,Option.isSome_iff_exists,decide_eq_true_eq]
  constructor
  · intro marked
    obtain ⟨layer,member,laid,name⟩ := marked
    exact ⟨layer,member,name,laid⟩
  · intro marked
    obtain ⟨layer,member,name,laid⟩ := marked
    exact ⟨layer,member,laid,name⟩

-- The spawn point is inside the map, on a spawn tile, and none comes after it.
structure LastSpawn (spawnX spawnY : Nat) : Prop where
  inside : spawnX < layout.width
  below : spawnY < layout.height
  spawn : layout.Spawn spawnX spawnY
  last : ∀ x < layout.width, ∀ y < layout.height, layout.Spawn x y →
    Grid.index layout.width x y ≤ Grid.index layout.width spawnX spawnY

theorem spawnPoint_last (inside : x < layout.width) (below : y < layout.height) (spawn : layout.Spawn x y) :
    ∃ spawnX spawnY, layout.getSpawnPoint = some (spawnX,spawnY) ∧ layout.LastSpawn spawnX spawnY := by
  have member := List.mem_of_getElem? (Grid.cells_index inside below)
  obtain ⟨cell,point⟩ := Grid.lastOf_some (fun cell => layout.spawnAt cell.1 cell.2) member
    (layout.spawnAt_exact.mpr spawn)
  obtain ⟨i,place,marked,final⟩ := Grid.lastOf_parts point
  obtain ⟨spawnX,spawnY⟩ := cell
  have stored : layout.getSpawnPoint = some (spawnX,spawnY) := by
    rw [getSpawnPoint,layout.parseTiles_parts]
    exact point
  have within := Grid.cells_mem (List.mem_of_getElem? place)
  refine ⟨spawnX,spawnY,stored,within.1,within.2,layout.spawnAt_exact.mp marked,?_⟩
  intro x inside y below spawn
  rw [Grid.cells_position place]
  exact final _ _ (Grid.cells_index inside below) (layout.spawnAt_exact.mpr spawn)

end Layout

-- The flags alone are the tile that the map's own loop over the layers makes.
def Marks.tile (marks : Marks) : MapTile := ⟨marks.solid,marks.interesting,marks.spawn⟩

theorem layerTile_marks (map : Tmx.Map) (marks : Marks) (layer : Tmx.TileLayer) :
    map.layerTile x y marks.tile layer = ((Layout.ofMap map).markLayer x y marks layer).tile := by
  unfold Tmx.Map.layerTile Layout.markLayer Layout.ofMap Marks.tile
  cases layer.tile x y with
  | none => rfl
  | some place =>
    obtain ⟨tileset,id⟩ := place
    dsimp only
    cases map.tileset tileset id with
    | none =>
      dsimp only
      split_ifs <;> rfl
    | some properties =>
      dsimp only
      split_ifs <;> rfl

theorem tileAt_ofMap (map : Tmx.Map) : (Layout.ofMap map).tileAt x y = map.tileAt x y := by
  let unmarked : Marks := ⟨false,false,false,none⟩
  have loop : map.layers.foldl (map.layerTile x y) unmarked.tile =
      (map.layers.foldl ((Layout.ofMap map).markLayer x y) unmarked).tile :=
    List.foldl_hom Marks.tile (layerTile_marks map)
  rw [Layout.marks_layers] at loop
  exact loop.symm

-- The map that the client and the servers build holds what the loops leave.
theorem parse_layout (map : Tmx.Map) :
    (Layout.ofMap map).parseTiles = ⟨(Map.parse map).tiles,(Map.parse map).spawnPoint⟩ := by
  rw [Layout.parseTiles_parts]
  congr 1
  exact List.map_congr_left fun cell _ => tileAt_ofMap map

theorem tiles_parsed (layout : Layout) :
    layout.parseTiles.tiles.length = layout.width * layout.height ∧
    (∀ x < layout.width, ∀ y < layout.height, ∃ tile,
      layout.getTile (UInt32.ofNat x) (UInt32.ofNat y) = some tile ∧
      (tile.isSolid ↔ layout.Solid x y) ∧ (tile.isInteresting ↔ layout.Interesting x y)) ∧
    ∀ x < layout.width, ∀ y < layout.height, layout.Spawn x y →
      ∃ spawnX spawnY, layout.getSpawnPoint = some (spawnX,spawnY) ∧ layout.LastSpawn spawnX spawnY := by
  refine ⟨?_,?_,?_⟩
  · rw [layout.parseTiles_parts,List.length_map,Grid.cells_length]
  · intro x inside y below
    exact ⟨_,layout.getTile_inside inside below,layout.tileAt_solid,layout.tileAt_interesting⟩
  · intro x inside y below spawn
    exact layout.spawnPoint_last inside below spawn

-- The flag of the tile and the layers agree on the cell.
def CellMarked (layout : Layout) (x y : Nat) : Prop :=
  ∃ tile, layout.getTile (UInt32.ofNat x) (UInt32.ofNat y) = some tile ∧ (tile.isSpawn ↔ layout.Spawn x y)

def PointMarked (layout : Layout) : Prop :=
  ∀ x < layout.width, ∀ y < layout.height, layout.Spawn x y → ∃ spawnX spawnY tile,
    layout.getSpawnPoint = some (spawnX,spawnY) ∧
    layout.getTile (UInt32.ofNat spawnX) (UInt32.ofNat spawnY) = some tile ∧ tile.isSpawn

-- The spawn flag goes into every tile as it was initialised.
theorem cellMarked_exact (inside : x < layout.width) (below : y < layout.height) :
    CellMarked layout x y ↔ ¬layout.Spawn x y := by
  have stored := layout.getTile_inside inside below
  constructor
  · intro marked spawn
    obtain ⟨tile,found,agree⟩ := marked
    rw [stored] at found
    cases found
    cases agree.mpr spawn
  · intro plain
    refine ⟨_,stored,?_⟩
    constructor
    · intro flagged
      cases flagged
    · intro spawn
      exact absurd spawn plain

theorem pointMarked_exact (layout : Layout) :
    PointMarked layout ↔ ∀ x < layout.width, ∀ y < layout.height, ¬layout.Spawn x y := by
  constructor
  · intro marked x inside y below spawn
    obtain ⟨spawnX,spawnY,tile,point,found,flagged⟩ := marked x inside y below spawn
    obtain ⟨lastX,lastY,same,last⟩ := layout.spawnPoint_last inside below spawn
    rw [point] at same
    cases same
    rw [layout.getTile_inside last.inside last.below] at found
    cases found
    cases flagged
  · intro plain x inside y below spawn
    exact absurd spawn (plain x inside y below)

theorem spawn_marked (layout : Layout) :
    (∀ x < layout.width, ∀ y < layout.height, (CellMarked layout x y ↔ ¬layout.Spawn x y)) ∧
    (((∀ x < layout.width, ∀ y < layout.height, CellMarked layout x y) ∧ PointMarked layout) ↔
      ∀ x < layout.width, ∀ y < layout.height, ¬layout.Spawn x y) := by
  constructor
  · intro x inside y below
    exact cellMarked_exact inside below
  · constructor
    · intro marked
      exact (pointMarked_exact layout).mp marked.2
    · intro plain
      refine ⟨?_,(pointMarked_exact layout).mpr plain⟩
      intro x inside y below
      exact (cellMarked_exact inside below).mpr (plain x inside y below)

-- One cell under one spawn layer.
def spawnLayout : Layout :=
  ⟨1,1,[⟨playerSpawn,true,⟨fun _ => [],fun _ default => default⟩,fun _ _ => some (0,0)⟩],fun _ _ => none,by decide⟩

theorem spawn_marked_single : ¬∀ (layout : Layout),
    (∀ x < layout.width, ∀ y < layout.height, CellMarked layout x y) ∧ PointMarked layout := by
  intro claim
  have spawn : spawnLayout.Spawn 0 0 := ⟨_,List.mem_singleton.mpr rfl,rfl,_,rfl⟩
  have marked := (claim spawnLayout).1 0 (by decide) 0 (by decide)
  exact (cellMarked_exact (by decide) (by decide)).mp marked spawn

end PlayPG.TileParsing
