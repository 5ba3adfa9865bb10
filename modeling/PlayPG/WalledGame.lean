import Mathlib.Tactic.Linarith
import PlayPG.Walking

namespace PlayPG.ClientWorld.WalledGame
open Movement Walking

-- The tiles along the border of the map are solid.
def Walled (map : Tmx.Map) : Prop := ∀ x < map.width, ∀ y < map.height,
  x = 0 ∨ x + 1 = map.width ∨ y = 0 ∨ y + 1 = map.height → (map.tileAt x y).isSolid = true

instance (map : Tmx.Map) : Decidable (Walled map) := by unfold Walled; infer_instance

-- What the maps have to be like: both spawn points are free places of the outdoor map, which
-- has a layer for every number of a layer indoors.
structure Playable (assets : Assets) (unset : Nat × Nat) : Prop where
  walled : Walled assets.mapOutdoor.map
  sizes : assets.mapOutdoor.map.tileWidth < 2 ^ 31 ∧ assets.mapOutdoor.map.tileHeight < 2 ^ 31
  spawns : ∀ world, Standing assets.mapOutdoor.map (spawn assets unset world)
  layers : ∀ world, (assets.map world).map.layers.length ≤ assets.mapOutdoor.map.layers.length

-- The keys ask for one tile at most in each direction.
def Near (tiles : Int32) : Prop := tiles.toInt = -1 ∨ tiles.toInt = 0 ∨ tiles.toInt = 1

instance (tiles : Int32) : Decidable (Near tiles) := by unfold Near; infer_instance

theorem moveKeys_near (asked : moveKeys pressed = some (xTiles,yTiles)) : Near xTiles ∧ Near yTiles := by
  unfold moveKeys at asked
  split_ifs at asked <;> (cases asked; exact ⟨by decide,by decide⟩)

theorem near_fits {size : Nat} (near : Near tiles) (small : size < 2 ^ 31) : FitsInt (tiles.toInt * size) := by
  have bound : (size : Int) < 2 ^ 31 := by exact_mod_cast small
  unfold FitsInt
  obtain back | stay | forth := near
  · rw [back]
    omega
  · rw [stay]
    omega
  · rw [forth]
    omega

-- One axis of a move: a cell that is neither the first nor the last has cells on both sides.
theorem near_cell {size count cell : Nat} (near : Near tiles) (first : 0 < cell) (last : cell + 1 < count)
    (low : cell * (size : Int) ≤ p) (high : p < (cell + 1) * (size : Int)) :
    ∃ next < count, next * (size : Int) ≤ p + tiles.toInt * size ∧ p + tiles.toInt * size < (next + 1) * (size : Int) := by
  obtain back | stay | forth := near
  · obtain ⟨before,rfl⟩ := Nat.exists_eq_succ_of_ne_zero first.ne'
    refine ⟨before,by omega,?_,?_⟩
    · rw [back]
      push_cast at low
      linarith
    · rw [back]
      push_cast at high
      linarith
  · refine ⟨cell,by omega,?_,?_⟩
    · rw [stay]
      linarith
    · rw [stay]
      linarith
  · refine ⟨cell + 1,last,?_,?_⟩
    · rw [forth]
      push_cast
      linarith
    · rw [forth]
      push_cast
      linarith

-- Inside the walls every key leads to a place on the map.
theorem walled_inside (walled : Walled map) (standing : Standing map position) (near : Near xTiles ∧ Near yTiles) :
    (map.cellAt (destination map position ⟨0,xTiles,yTiles⟩)).isSome := by
  obtain ⟨x,y,cell,free⟩ := standing
  obtain ⟨⟨inside,left,right⟩,below,top,bottom⟩ := (cellAt_exact map position x y).mp cell
  have interior : ¬ (x = 0 ∨ x + 1 = map.width ∨ y = 0 ∨ y + 1 = map.height) := by
    intro border
    rw [walled x inside y below border] at free
    cases free
  have across : 0 < x ∧ x + 1 < map.width := by omega
  have along : 0 < y ∧ y + 1 < map.height := by omega
  obtain ⟨column,columns⟩ := near_cell near.1 across.1 across.2 left right
  obtain ⟨row,rows⟩ := near_cell near.2 along.1 along.2 top bottom
  rw [(cellAt_exact map _ column row).mpr ⟨columns,rows⟩]
  rfl

variable {assets : Assets} {unset : Nat × Nat}

-- The numbers of the layers of a map.
theorem layers_bound (w : Walker) : ∀ i ∈ (w.layers assets).1 ++ (w.layers assets).2,
    i < (assets.map w.world).map.layers.length := by
  intro i member
  rcases List.mem_append.mp member with front | back
  · rw [Walker.layers,MapUtil.frontLayers,MapUtil.generateFrontLayerEntities,MapUtil.frontLayersFrom_positions,
      MapUtil.layerIndex_layerEntity] at front
    have bound := Marks.positions_lt front
    have whole := (List.takeWhile_prefix (p:=MapUtil.passed) (l:=(assets.map w.world).map.layers)).length_le
    omega
  · rw [Walker.layers,MapUtil.backLayers_positions] at back
    have bound := Marks.positions_lt back
    rw [MapUtil.firstSpawn,← List.length_append,List.takeWhile_append_dropWhile] at bound
    exact bound

-- The walker on a free place of a playable map.
def Safe (assets : Assets) (w : Walker) : Prop := Standing assets.mapOutdoor.map w.position

-- What is tested lies among the tiles.
def Sound (assets : Assets) (effect : Effect) : Prop :=
  ∀ world read, effect = .tested world read → world = .outdoor ∧ Right assets.mapOutdoor read

theorem arrive_safe (playable : Playable assets unset) (safe : Safe assets w) (frame : Frame) :
    Safe assets (w.arrive assets unset frame) := by
  unfold Walker.arrive
  split
  · exact playable.spawns _
  · exact safe

theorem walk_safe (playable : Playable assets unset) (safe : Safe assets w) (frame : Frame) :
    ∃ next tested, w.walk assets frame = .ok (next,tested) ∧ Safe assets next ∧ ∀ effect ∈ tested, Sound assets effect := by
  unfold Walker.walk
  cases asked : moveKeys frame.isKeyJustPressed with
  | none => exact ⟨w,[],rfl,safe,by intro effect member; cases member⟩
  | some tiles =>
    obtain ⟨xTiles,yTiles⟩ := tiles
    have near := moveKeys_near asked
    have fits : Fits assets.mapOutdoor.map ⟨0,xTiles,yTiles⟩ :=
      ⟨near_fits near.1 playable.sizes.1,near_fits near.2 playable.sizes.2⟩
    have inside := walled_inside playable.walled safe near
    obtain ⟨⟨x,y⟩,cell⟩ := Option.isSome_iff_exists.mp inside
    simp only [tryMove_cell assets.mapOutdoor fits cell]
    refine ⟨_,_,rfl,landing_standing safe inside,?_⟩
    intro effect member world read same
    rw [List.mem_singleton.mp member] at same
    cases same
    exact ⟨rfl,right_cell assets.mapOutdoor cell⟩

theorem picture_safe (playable : Playable assets unset) (w : Walker) :
    ∃ shown, w.picture assets = .ok shown ∧ ∀ effect ∈ shown, Sound assets effect := by
  have bound : ∀ i ∈ (w.layers assets).1 ++ (w.layers assets).2, i < assets.mapOutdoor.map.layers.length :=
    fun i member => Nat.lt_of_lt_of_le (layers_bound w i member) (playable.layers w.world)
  have drawn : w.picture assets = .ok _ := if_pos bound
  refine ⟨_,drawn,?_⟩
  intro effect member world read same
  subst same
  simp at member

theorem play_safe (playable : Playable assets unset) (safe : Safe assets w) (frame : Frame) :
    ∃ next fresh, play assets unset w frame = .ok (next,fresh) ∧ Safe assets next ∧ ∀ effect ∈ fresh, Sound assets effect := by
  obtain ⟨next,tested,walked,here,reads⟩ := walk_safe playable (arrive_safe playable safe frame) frame
  obtain ⟨shown,drawn,unread⟩ := picture_safe playable next
  refine ⟨next,tested ++ shown,?_,here,?_⟩
  · simp only [play,walked,drawn,Except.map]
  · intro effect member
    exact (List.mem_append.mp member).elim (reads effect) (unread effect)

variable {build : Client.Build}

-- Before the game is played only the connection fails.
theorem early_faults (failed : render build assets unset s frame = .error fault) (early : s.screen.gameState ≠ .PLAYING) :
    ∃ reason, fault = .network reason := by
  unfold render at failed
  cases state : s.screen.gameState with
  | LOGIN =>
    simp only [state] at failed
    unfold renderLogin at failed
    split at failed
    · split at failed
      · cases failed
        exact ⟨_,rfl⟩
      · cases failed
    · split at failed <;> cases failed
  | CHARACTER_SELECT =>
    simp only [state] at failed
    unfold renderCharacterSelect at failed
    split at failed
    · split at failed
      · cases failed
        exact ⟨_,rfl⟩
      · cases failed
    · cases failed
  | MAP_SERVER_CONNECT =>
    simp only [state] at failed
    unfold renderMapServerConnect at failed
    split at failed
    · cases failed
      exact ⟨_,rfl⟩
    · cases failed
  | PLAYING => exact absurd state early

-- What every frame keeps.
structure Calm (assets : Assets) (effects : List Effect) (s : State) : Prop where
  stands : Stands assets s
  safe : Safe assets (walker s)
  sound : ∀ effect ∈ effects, Sound assets effect

theorem render_calm (playable : Playable assets unset) (ran : render build assets unset s frame = .ok (next,fresh))
    (calm : Calm assets effects s) : Calm assets (effects ++ fresh) next := by
  have stands : Stands assets next := (play_part unset build).kept calm.stands ran
  by_cases playing : s.screen.gameState = .PLAYING
  · obtain ⟨moved,shown,turned,safe,sound⟩ := play_safe playable calm.safe frame
    simp only [render,playing] at ran
    have same := (playing_matches unset calm.stands frame).same
    rw [ran,turned] at same
    obtain ⟨rfl,rfl⟩ := Prod.mk.inj (Except.ok.inj same)
    exact ⟨stands,safe,fun effect member => (List.mem_append.mp member).elim (calm.sound effect) (sound effect)⟩
  · obtain ⟨⟨game,screen,rfl⟩,unseen⟩ := render_unseen ran playing
    refine ⟨stands,calm.safe,?_⟩
    intro effect member
    rcases List.mem_append.mp member with earlier | new
    · exact calm.sound effect earlier
    · intro world read same
      rw [same] at new
      have hidden := List.filterMap_eq_nil_iff.mp unseen _ new
      cases hidden

theorem run_calm (playable : Playable assets unset)
    (path : Runs.Run (render build assets unset) (init assets unset) frames effects s) : Calm assets effects s := by
  obtain ⟨stands,entered⟩ : Stands assets (init assets unset) ∧ _ := init_stands unset
  refine path.history (P:=Calm assets) ⟨stands,?_,by intro effect member; cases member⟩ ?_
  · rw [entered]
    exact playable.spawns _
  · intro _ _ _ _ _ _ _ calm ran
    exact render_calm playable ran calm

-- Within walls the player never leaves the free places of the map, every tile that is read is
-- one of the map's, and no frame ends the game but through what the connection brings.
theorem walled_game (build : Client.Build) (playable : Playable assets unset)
    (path : Runs.Run (render build assets unset) (init assets unset) frames effects s) :
    Standing assets.mapOutdoor.map (walker s).position ∧
      (∀ world read, .tested world read ∈ effects → world = .outdoor ∧ Right assets.mapOutdoor read) ∧
      ∀ frame fault, render build assets unset s frame = .error fault → ∃ reason, fault = .network reason := by
  have calm := run_calm playable path
  refine ⟨calm.safe,fun world read member => calm.sound _ member world read rfl,?_⟩
  intro frame fault failed
  by_cases playing : s.screen.gameState = .PLAYING
  · obtain ⟨moved,shown,turned,_⟩ := play_safe playable calm.safe frame
    simp only [render,playing] at failed
    have same := (playing_matches unset calm.stands frame).same
    rw [failed,turned] at same
    cases same
  · exact early_faults failed playing

-- One free tile with walls around it, where the player starts.
def around (x y : Nat) : Option (Nat × Nat) := if x = 1 ∧ y = 1 then none else some (0,0)

def walls : Tmx.TileLayer := ⟨Bytes.text "Walls",true,⟨fun _ => Bytes.text "1",fun _ default => default⟩,around⟩

def centre : Tmx.TileLayer :=
  ⟨playerSpawn,false,⟨fun _ => [],fun _ default => default⟩,fun x y => if x = 1 ∧ y = 1 then some (0,0) else none⟩

def yard : Map := .parse {freeTmx with
  width := 3
  height := 3
  layers := [walls,centre]
  area_int := by decide}

def yards : Assets := ⟨yard,yard⟩

theorem yards_playable : Playable yards (0,0) where
  walled := by decide
  sizes := by decide
  spawns := by
    intro world
    cases world with
    | outdoor => exact ⟨1,1,by decide,by decide⟩
    | indoor => exact ⟨1,1,by decide,by decide⟩
  layers := by
    intro world
    cases world with
    | outdoor => exact Nat.le_refl _
    | indoor => exact Nat.le_refl _

theorem walled_game_yard : ∃ (trace : List Effect) (t : State), t.screen.gameState = .PLAYING ∧
    Standing yard.map (walker t).position ∧
    (∀ world read, .tested world read ∈ trace → world = .outdoor ∧ Right yard read) ∧
    ∀ frame fault, render shipped yards (0,0) t frame = .error fault → ∃ reason, fault = .network reason := by
  obtain ⟨trace,t,path,playing⟩ := Runs.execute_check (render shipped yards (0,0)) (init yards (0,0)) walk
    (fun last => last.1.screen.gameState = .PLAYING) (by decide +kernel)
  exact ⟨trace,t,of_decide_eq_true playing,walled_game shipped yards_playable path⟩

end PlayPG.ClientWorld.WalledGame
