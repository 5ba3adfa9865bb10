import PlayPG.Bytes
import PlayPG.Grid

namespace PlayPG
open Bytes

namespace Tmx

-- A property that is absent reads as the empty string, or as the default that is passed.
structure Properties where
  getStringProperty : Bytes → Bytes
  getIntProperty : Bytes → Int32 → Int32

structure TileLayer where
  name : Bytes
  isVisible : Bool
  properties : Properties
  tile : Nat → Nat → Option (Nat × Nat)

structure File where
  filename : Bytes
  filehash : Bytes
  properties : Properties

-- The product of width and height that Map computes is an int.
structure Map extends File where
  width : Nat
  height : Nat
  tileWidth : Nat
  tileHeight : Nat
  layers : List TileLayer
  tileset : Nat → Nat → Option Properties
  tileWidth_pos : 0 < tileWidth
  tileHeight_pos : 0 < tileHeight
  area_int : width * height < 2 ^ 31

end Tmx

def playerSpawn : Bytes := text "__playerSpawn"

structure MapTile where
  isSolid : Bool
  isInteresting : Bool
  isSpawn : Bool
  deriving DecidableEq

-- Nothing ever sets spawn.
def Tmx.Map.layerTile (map : Tmx.Map) (x y : Nat) (tile : MapTile) (layer : TileLayer) : MapTile :=
  match layer.tile x y with
  | none => tile
  | some (tileset,id) =>
    let tile := if layer.properties.getStringProperty (text "solid") ≠ [] then {tile with isSolid := true} else tile
    match map.tileset tileset id with
    | none => tile
    | some properties =>
      if properties.getStringProperty (text "interesting") ≠ [] then {tile with isInteresting := true} else tile

def Tmx.Map.tileAt (map : Tmx.Map) (x y : Nat) : MapTile :=
  map.layers.foldl (map.layerTile x y) ⟨false,false,false⟩

def Tmx.Map.spawnAt (map : Tmx.Map) (x y : Nat) : Bool :=
  map.layers.any fun layer => (layer.tile x y).isSome && layer.name = playerSpawn

def resolveNameFromMap (map : Tmx.File) : Bytes :=
  let nameFromFile := map.properties.getStringProperty (text "PPG_NAME")
  if nameFromFile = [] then map.filename else nameFromFile

def resolveVersionFromMap (map : Tmx.File) : UInt32 :=
  let versionFromFile := map.properties.getIntProperty (text "PPG_VERSION") (-1)
  if versionFromFile ≤ -1 then 0 else versionFromFile.toUInt32

structure Map where
  map : Tmx.Map
  name : Bytes
  version : UInt32
  tiles : List MapTile
  spawnPoint : Option (Nat × Nat)
  parsed : tiles = (Grid.cells map.width map.height).map fun cell => map.tileAt cell.1 cell.2

-- The last spawn point that the loops meet stays.
def Map.parse (map : Tmx.Map) : Map where
  map
  name := resolveNameFromMap map.toFile
  version := resolveVersionFromMap map.toFile
  tiles := (Grid.cells map.width map.height).map fun cell => map.tileAt cell.1 cell.2
  spawnPoint := (Grid.cells map.width map.height).foldl
    (fun found cell => if map.spawnAt cell.1 cell.2 then some cell else found) none
  parsed := rfl

namespace Map
variable (map : Map)

theorem tiles_size : map.tiles.length = map.map.width * map.map.height := by
  rw [map.parsed,List.length_map,Grid.cells_length]

theorem tiles_index (inside : x < map.map.width) (below : y < map.map.height) :
    map.tiles[Grid.index map.map.width x y]? = some (map.map.tileAt x y) := by
  rw [map.parsed,List.getElem?_map,Grid.cells_index inside below]
  rfl

-- The product is computed in 32 bits.
def resolveTileLoc (x y : UInt32) : Nat := (x + UInt32.ofNat map.map.width * y).toNat

def getTile (x y : UInt32) : Option MapTile := map.tiles[map.resolveTileLoc x y]?

theorem resolveTileLoc_inside (inside : x < map.map.width) (below : y < map.map.height) :
    map.resolveTileLoc (UInt32.ofNat x) (UInt32.ofNat y) = Grid.index map.map.width x y :=
  Grid.index_word inside below (Nat.lt_trans map.map.area_int (by decide))

theorem getTile_inside (inside : x < map.map.width) (below : y < map.map.height) :
    map.getTile (UInt32.ofNat x) (UInt32.ofNat y) = some (map.map.tileAt x y) := by
  rw [getTile,map.resolveTileLoc_inside inside below,map.tiles_index inside below]

end Map
end PlayPG
