import PlayPG.Marks
import PlayPG.Movement

namespace PlayPG
open Bytes Marks

-- A component that is drawn; sprites and renderers are pointers.
inductive Renderable (renderer : Type) where
  | sprite
  | animation
  | tiled (tmxRenderer : renderer) (layerIndex : Nat)
  deriving DecidableEq

-- The components of an entity on their way to the engine.
structure Entity (renderer : Type) where
  position : Position
  renderable : Option (Renderable renderer)
  keyboardInputListener : Bool
  focalPoint : Bool
  deriving DecidableEq

def Entity.layerIndex {renderer : Type} (entity : Entity renderer) : Option Nat :=
  match entity.renderable with
  | some (.tiled _ i) => some i
  | _ => none

namespace MapUtil
variable {renderer : Type}

def layerEntity (tmxRenderer : renderer) (i : Nat) : Entity renderer :=
  ⟨⟨0,0⟩,some (.tiled tmxRenderer i),false,false⟩

-- The loop of each function from layer i on.
def frontLayersFrom (tmxRenderer : renderer) (i : Nat) : List Tmx.TileLayer → List (Entity renderer)
  | [] => []
  | layer :: layers =>
    if !layer.isVisible then frontLayersFrom tmxRenderer (i + 1) layers
    else if layer.name = playerSpawn then []
    else layerEntity tmxRenderer i :: frontLayersFrom tmxRenderer (i + 1) layers

def backLayersFrom (tmxRenderer : renderer) (spawnFound : Bool) (i : Nat) : List Tmx.TileLayer → List (Entity renderer)
  | [] => []
  | layer :: layers =>
    let spawnFound := if layer.name = playerSpawn then true else spawnFound
    if spawnFound then
      if !layer.isVisible then backLayersFrom tmxRenderer spawnFound (i + 1) layers
      else layerEntity tmxRenderer i :: backLayersFrom tmxRenderer spawnFound (i + 1) layers
    else backLayersFrom tmxRenderer spawnFound (i + 1) layers

def generateFrontLayerEntities (ppgMap : Map) (tmxRenderer : renderer) : List (Entity renderer) :=
  frontLayersFrom tmxRenderer 0 ppgMap.map.layers

def generateBackLayerEntities (ppgMap : Map) (tmxRenderer : renderer) : List (Entity renderer) :=
  backLayersFrom tmxRenderer false 0 ppgMap.map.layers

def unmarked (layer : Tmx.TileLayer) : Bool := layer.name ≠ playerSpawn

-- The front loop goes past every layer that is hidden or unmarked: it tests the flag first.
def passed (layer : Tmx.TileLayer) : Bool := !layer.isVisible || unmarked layer

theorem frontLayersFrom_positions (tmxRenderer : renderer) (i : Nat) (layers : List Tmx.TileLayer) :
    frontLayersFrom tmxRenderer i layers =
      (positions (·.isVisible) i (layers.takeWhile passed)).map (layerEntity tmxRenderer) := by
  induction layers generalizing i with
  | nil => rfl
  | cons layer layers ih =>
    unfold frontLayersFrom
    cases visible : layer.isVisible with
    | false =>
      rw [List.takeWhile_cons_of_pos (by simp [passed,visible]),positions_cons,visible]
      exact ih _
    | true =>
      by_cases marked : layer.name = playerSpawn
      · rw [List.takeWhile_cons_of_neg (by simp [passed,unmarked,visible,marked]),if_pos marked]
        rfl
      · rw [List.takeWhile_cons_of_pos (by simp [passed,unmarked,marked]),positions_cons,visible,if_neg marked,ih]
        rfl

theorem backLayersFrom_found (tmxRenderer : renderer) (i : Nat) (layers : List Tmx.TileLayer) :
    backLayersFrom tmxRenderer true i layers = (positions (·.isVisible) i layers).map (layerEntity tmxRenderer) := by
  induction layers generalizing i with
  | nil => rfl
  | cons layer layers ih =>
    simp only [backLayersFrom,ite_self,if_true,positions_cons,ih]
    cases layer.isVisible <;> rfl

theorem backLayersFrom_positions (tmxRenderer : renderer) (i : Nat) (layers : List Tmx.TileLayer) :
    backLayersFrom tmxRenderer false i layers = (positions (·.isVisible) (i + (layers.takeWhile unmarked).length)
      (layers.dropWhile unmarked)).map (layerEntity tmxRenderer) := by
  induction layers generalizing i with
  | nil => rfl
  | cons layer layers ih =>
    by_cases marked : layer.name = playerSpawn
    · have stops : ¬ unmarked layer = true := by simp [unmarked,marked]
      rw [List.takeWhile_cons_of_neg stops,List.dropWhile_cons_of_neg stops,List.length_nil,Nat.add_zero,
        ← backLayersFrom_found]
      simp only [backLayersFrom,if_pos marked]
    · have goes : unmarked layer = true := by simp [unmarked,marked]
      rw [List.takeWhile_cons_of_pos goes,List.dropWhile_cons_of_pos goes,List.length_cons,Nat.add_comm _ 1,
        ← Nat.add_assoc,← ih]
      simp only [backLayersFrom,if_neg marked]
      rfl

def frontLayers (map : Map) (tmxRenderer : renderer) : List Nat :=
  (generateFrontLayerEntities map tmxRenderer).filterMap Entity.layerIndex

def backLayers (map : Map) (tmxRenderer : renderer) : List Nat :=
  (generateBackLayerEntities map tmxRenderer).filterMap Entity.layerIndex

-- The place of the first __playerSpawn layer, or the number of layers.
def firstSpawn (layers : List Tmx.TileLayer) : Nat := (layers.takeWhile unmarked).length

-- The layers that both loops visit: from the first __playerSpawn layer up to the first visible one.
def shared (layers : List Tmx.TileLayer) : List Tmx.TileLayer := (layers.dropWhile unmarked).takeWhile passed

structure DrawnOnce (map : Map) (tmxRenderer : renderer) : Prop where
  increasing : (frontLayers map tmxRenderer ++ backLayers map tmxRenderer).Pairwise (· < ·)
  visible : ∀ i, i ∈ frontLayers map tmxRenderer ++ backLayers map tmxRenderer ↔
    ∃ layer, map.map.layers[i]? = some layer ∧ layer.isVisible = true
  front : ∀ i ∈ frontLayers map tmxRenderer, i < firstSpawn map.map.layers
  back : ∀ i ∈ backLayers map tmxRenderer, firstSpawn map.map.layers ≤ i

theorem layerIndex_layerEntity (tmxRenderer : renderer) (indices : List Nat) :
    (indices.map (layerEntity tmxRenderer)).filterMap Entity.layerIndex = indices := by
  rw [List.filterMap_map]
  exact List.filterMap_some

theorem frontLayers_split (map : Map) (tmxRenderer : renderer) : frontLayers map tmxRenderer =
    positions (·.isVisible) 0 (map.map.layers.takeWhile unmarked) ++
      positions (·.isVisible) (firstSpawn map.map.layers) (shared map.map.layers) := by
  have fewer : ∀ layer, unmarked layer = true → passed layer = true := fun layer free => by simp [passed,free]
  rw [frontLayers,generateFrontLayerEntities,frontLayersFrom_positions,layerIndex_layerEntity,
    takeWhile_further fewer,positions_append,Nat.zero_add]
  rfl

theorem backLayers_positions (map : Map) (tmxRenderer : renderer) : backLayers map tmxRenderer =
    positions (·.isVisible) (firstSpawn map.map.layers) (map.map.layers.dropWhile unmarked) := by
  rw [backLayers,generateBackLayerEntities,backLayersFrom_positions,layerIndex_layerEntity,Nat.zero_add]
  rfl

theorem layers_drawn_once (map : Map) (tmxRenderer : renderer) :
    DrawnOnce map tmxRenderer ↔ ∀ layer ∈ shared map.map.layers, layer.isVisible = false := by
  constructor
  · intro once layer member
    cases seen : layer.isVisible with
    | false => rfl
    | true =>
      -- The front loop draws it, although it lies behind the first __playerSpawn layer.
      obtain ⟨i,drawn⟩ := positions_mem (·.isVisible) (firstSpawn map.map.layers) member seen
      have early := once.front i (by rw [frontLayers_split]; exact List.mem_append_right _ drawn)
      have late := (mem_positions.mp drawn).1
      omega
  · intro free
    have front : frontLayers map tmxRenderer = positions (·.isVisible) 0 (map.map.layers.takeWhile unmarked) := by
      rw [frontLayers_split,positions_free free,List.append_nil]
    have whole : frontLayers map tmxRenderer ++ backLayers map tmxRenderer =
        positions (·.isVisible) 0 map.map.layers := by
      calc frontLayers map tmxRenderer ++ backLayers map tmxRenderer
          = positions (·.isVisible) 0 (map.map.layers.takeWhile unmarked ++ map.map.layers.dropWhile unmarked) := by
            rw [front,backLayers_positions,positions_append,Nat.zero_add]
            rfl
        _ = positions (·.isVisible) 0 map.map.layers := by rw [List.takeWhile_append_dropWhile]
    refine ⟨?_,?_,?_,?_⟩
    · rw [whole]
      exact positions_increasing _ _ _
    · intro i
      rw [whole,mem_positions]
      simp
    · intro i member
      rw [front] at member
      simpa [firstSpawn] using positions_lt member
    · intro i member
      rw [backLayers_positions] at member
      exact (mem_positions.mp member).1

def plainLayer (name : String) (isVisible : Bool) : Tmx.TileLayer :=
  ⟨text name,isVisible,⟨fun _ => [],fun _ default => default⟩,fun _ _ => none⟩

-- The layers of the shipped outdoor map.
def outdoorLayers : List Tmx.TileLayer :=
  [plainLayer "Ground/terrain" true,plainLayer "Ground overlay" true,plainLayer "Objects" true,
    plainLayer "__playerSpawn" false,plainLayer "Doors/windows/roof" true,plainLayer "Roof object" true,plainLayer "Wall" false]

def outdoorMap : Map := .parse {Movement.freeTmx with layers := outdoorLayers}

theorem roof_drawn_twice : ¬ DrawnOnce outdoorMap () := by
  intro once
  have early := once.front 4 (by decide)
  exact absurd early (by decide)

end MapUtil
end PlayPG
