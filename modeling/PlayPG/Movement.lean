import PlayPG.Runs
import PlayPG.Platform
import PlayPG.TiledMap

namespace PlayPG

-- The components of a glm::vec2 are taken as exact integers, which all spawn
-- points and moves produce.
structure Position where
  x : Int
  y : Int
  deriving DecidableEq

-- The cell of the map that contains a position.
def Tmx.Map.cellAt (map : Tmx.Map) (p : Position) : Option (Nat × Nat) :=
  if 0 ≤ p.x ∧ p.x < map.width * map.tileWidth ∧ 0 ≤ p.y ∧ p.y < map.height * map.tileHeight then
    some ((p.x / map.tileWidth).toNat,(p.y / map.tileHeight).toNat)
  else none

-- One axis of cellAt.
theorem cell_exact {size : Nat} (positive : 0 < size) (count cell : Nat) (p : Int) :
    (0 ≤ p ∧ p < count * (size : Int) ∧ (p / size).toNat = cell) ↔
      cell < count ∧ cell * (size : Int) ≤ p ∧ p < (cell + 1) * (size : Int) := by
  have size_pos : (0 : Int) < size := by exact_mod_cast positive
  constructor
  · intro cell
    obtain ⟨low,high,rfl⟩ := cell
    have quotient : ((p / size).toNat : Int) = p / size := Int.toNat_of_nonneg (Int.ediv_nonneg low size_pos.le)
    refine ⟨?_,?_,?_⟩
    · have below : p / size < count := Int.ediv_lt_of_lt_mul size_pos high
      omega
    · rw [quotient]
      exact Int.ediv_mul_le p size_pos.ne'
    · rw [quotient]
      exact Int.lt_ediv_add_one_mul_self p size_pos
  · intro cell
    obtain ⟨below,low,high⟩ := cell
    have quotient : p / size = cell := by
      rw [Int.ediv_eq_iff_of_pos size_pos]
      exact ⟨low,by simpa only [add_mul,one_mul] using high⟩
    have start : (0 : Int) ≤ cell * size := Int.mul_nonneg (Int.natCast_nonneg cell) size_pos.le
    refine ⟨start.trans low,?_,by rw [quotient]; rfl⟩
    calc p < (cell + 1) * (size : Int) := high
      _ ≤ count * (size : Int) := by
        have step : (cell : Int) + 1 ≤ count := by exact_mod_cast below
        exact Int.mul_le_mul_of_nonneg_right step size_pos.le

theorem cellAt_exact (map : Tmx.Map) (p : Position) (x y : Nat) : map.cellAt p = some (x,y) ↔
    (x < map.width ∧ x * (map.tileWidth : Int) ≤ p.x ∧ p.x < (x + 1) * (map.tileWidth : Int)) ∧
      y < map.height ∧ y * (map.tileHeight : Int) ≤ p.y ∧ p.y < (y + 1) * (map.tileHeight : Int) := by
  rw [← cell_exact map.tileWidth_pos,← cell_exact map.tileHeight_pos]
  unfold Tmx.Map.cellAt
  split
  · rename_i inside
    simp only [Option.some.injEq,Prod.mk.injEq]
    tauto
  · rename_i outside
    simp only [reduceCtorEq,false_iff]
    tauto

-- What leaves C++'s defined behaviour: a product past int, a float that has no
-- value as uint32_t, an index past the end of the vector.
inductive MovementFault where
  | overflow
  | conversion
  | index
  deriving DecidableEq

structure Move where
  entity : Nat
  xTiles : Int32
  yTiles : Int32
  deriving DecidableEq

-- A call of getTile: the coordinate it stands for and the index it reads.
structure TileRead where
  destination : Position
  index : Nat
  deriving DecidableEq

def FitsInt (v : Int) : Prop := -2 ^ 31 ≤ v ∧ v < 2 ^ 31

instance (v : Int) : Decidable (FitsInt v) := by unfold FitsInt; infer_instance

def multiply (tiles : Int32) (size : Nat) : Except MovementFault Int :=
  if FitsInt (tiles.toInt * size) then .ok (tiles.toInt * size) else .error .overflow

-- A coordinate over a tile size as getTile's argument: the quotient is cut towards zero.
def tileCoordinate (p : Int) (size : Nat) : Except MovementFault UInt32 :=
  let quotient := p.tdiv size
  if 0 ≤ quotient ∧ quotient < 2 ^ 32 then .ok (UInt32.ofNat quotient.toNat) else .error .conversion

def Map.isSolidAtCoord (map : Map) (pos : Position) : Except MovementFault (TileRead × Bool) := do
  let x ← tileCoordinate pos.x map.map.tileWidth
  let y ← tileCoordinate pos.y map.map.tileHeight
  match map.getTile x y with
  | none => .error .index
  | some tile => .ok (⟨pos,map.resolveTileLoc x y⟩,tile.isSolid)

-- One turn of the loop in update, for the position of the moved entity.
def Map.tryMove (map : Map) (position : Position) (move : Move) : Except MovementFault (Position × TileRead) := do
  let width ← multiply move.xTiles map.map.tileWidth
  let height ← multiply move.yTiles map.map.tileHeight
  let destination : Position := ⟨position.x + width,position.y + height⟩
  let (read,solid) ← map.isSolidAtCoord destination
  return (if solid then position else destination,read)

def Map.tryMoves (map : Map) : (Nat → Position) → List Move → Except MovementFault ((Nat → Position) × List TileRead)
  | positions,[] => .ok (positions,[])
  | positions,move :: moves => do
    let (position,read) ← map.tryMove (positions move.entity) move
    let (positions,reads) ← map.tryMoves (Function.update positions move.entity position) moves
    return (positions,read :: reads)

-- map_ is a pointer. The queue of an attached dispatch system holds the moves whose packets wait.
structure MovementSystem (pointer : Type) where
  map_ : pointer
  networkDispatchSystem_ : Option (List Move)
  moves_ : List Move

namespace MovementSystem
variable {pointer : Type}

def addMove (system : MovementSystem pointer) (move : Move) : MovementSystem pointer :=
  {system with moves_ := system.moves_ ++ [move]}

-- Every move that the loop went through has its packet queued and is forgotten.
def passed (system : MovementSystem pointer) : MovementSystem pointer :=
  {system with networkDispatchSystem_ := system.networkDispatchSystem_.map (· ++ system.moves_),moves_ := []}

def update (maps : pointer → Map) (system : MovementSystem pointer) (positions : Nat → Position) :
    Except MovementFault (MovementSystem pointer × (Nat → Position) × List TileRead) := do
  let (positions,reads) ← (maps system.map_).tryMoves positions system.moves_
  return (system.passed,positions,reads)

end MovementSystem

namespace Movement
open Runs

-- Where a move leads, and what it asks of the map: the products fit and the
-- destination is a point of the map.
def destination (map : Tmx.Map) (position : Position) (move : Move) : Position :=
  ⟨position.x + move.xTiles.toInt * map.tileWidth,position.y + move.yTiles.toInt * map.tileHeight⟩

def Fits (map : Tmx.Map) (move : Move) : Prop :=
  FitsInt (move.xTiles.toInt * map.tileWidth) ∧ FitsInt (move.yTiles.toInt * map.tileHeight)

instance (map : Tmx.Map) (move : Move) : Decidable (Fits map move) := by unfold Fits; infer_instance

-- A solid cell holds the entity back.
def landing (map : Tmx.Map) (position : Position) (move : Move) : Position :=
  match map.cellAt (destination map position move) with
  | some (x,y) => if (map.tileAt x y).isSolid then position else destination map position move
  | none => position

-- A pass over the moves that never leaves the map.
def Within (map : Tmx.Map) : (Nat → Position) → List Move → Prop
  | _,[] => True
  | positions,move :: moves =>
    Fits map move ∧ (map.cellAt (destination map (positions move.entity) move)).isSome ∧
      Within map (Function.update positions move.entity (landing map (positions move.entity) move)) moves

def decideWithin (map : Tmx.Map) : ∀ positions moves, Decidable (Within map positions moves)
  | _,[] => inferInstanceAs (Decidable True)
  | _,_ :: moves => @instDecidableAnd _ _ _ (@instDecidableAnd _ _ _ (decideWithin map _ moves))

instance (map : Tmx.Map) (positions : Nat → Position) (moves : List Move) : Decidable (Within map positions moves) :=
  decideWithin map positions moves

def Standing (map : Tmx.Map) (position : Position) : Prop :=
  ∃ x y, map.cellAt position = some (x,y) ∧ (map.tileAt x y).isSolid = false

-- A read inside the vector, at the tile that contains the destination.
def Right (map : Map) (read : TileRead) : Prop :=
  read.index < map.tiles.length ∧
    ∃ x y, map.map.cellAt read.destination = some (x,y) ∧ read.index = Grid.index map.map.width x y

theorem multiply_fits {size : Nat} (fits : FitsInt (tiles.toInt * size)) : multiply tiles size = .ok (tiles.toInt * size) := by
  rw [multiply,if_pos fits]

theorem multiply_parts {size : Nat} (ran : multiply tiles size = .ok product) :
    FitsInt (tiles.toInt * size) ∧ product = tiles.toInt * size := by
  unfold multiply at ran
  split at ran
  · rename_i fits
    exact ⟨fits,(Except.ok.inj ran).symm⟩
  · cases ran

theorem tileCoordinate_cell {size cell : Nat} (size_pos : 0 < size) (below : cell < 2 ^ 32) (low : cell * (size : Int) ≤ p)
    (high : p < (cell + 1) * (size : Int)) : tileCoordinate p size = .ok (UInt32.ofNat cell) := by
  have size_pos : (0 : Int) < size := by exact_mod_cast size_pos
  have start : (0 : Int) ≤ p := le_trans (Int.mul_nonneg (Int.natCast_nonneg cell) size_pos.le) low
  have quotient : p.tdiv size = cell := by
    rw [Int.tdiv_eq_ediv_of_nonneg start,Int.ediv_eq_iff_of_pos size_pos]
    exact ⟨low,by simpa only [add_mul,one_mul] using high⟩
  have bounds : (0 : Int) ≤ cell ∧ (cell : Int) < 2 ^ 32 := ⟨Int.natCast_nonneg cell,by exact_mod_cast below⟩
  simp only [tileCoordinate,quotient,if_pos bounds,Int.toNat_natCast]

-- Inside the map the collision test reads the tile of its argument.
theorem isSolidAtCoord_cell (map : Map) (cell : map.map.cellAt pos = some (x,y)) :
    map.isSolidAtCoord pos = .ok (⟨pos,Grid.index map.map.width x y⟩,(map.map.tileAt x y).isSolid) := by
  obtain ⟨⟨inside,left,right⟩,below,top,bottom⟩ := (cellAt_exact map.map pos x y).mp cell
  have width : map.map.width < 2 ^ 32 := by
    calc map.map.width ≤ map.map.width * map.map.height := Nat.le_mul_of_pos_right _ (Nat.zero_lt_of_lt below)
      _ < 2 ^ 32 := Nat.lt_trans map.map.area_int (by decide)
  have height : map.map.height < 2 ^ 32 := by
    calc map.map.height ≤ map.map.width * map.map.height := Nat.le_mul_of_pos_left _ (Nat.zero_lt_of_lt inside)
      _ < 2 ^ 32 := Nat.lt_trans map.map.area_int (by decide)
  simp only [Map.isSolidAtCoord,tileCoordinate_cell map.map.tileWidth_pos (Nat.lt_trans inside width) left right,
    tileCoordinate_cell map.map.tileHeight_pos (Nat.lt_trans below height) top bottom,bind,Except.bind,
    map.getTile_inside inside below,map.resolveTileLoc_inside inside below]

theorem right_cell (map : Map) (cell : map.map.cellAt pos = some (x,y)) :
    Right map ⟨pos,Grid.index map.map.width x y⟩ := by
  obtain ⟨⟨inside,_⟩,below,_⟩ := (cellAt_exact map.map pos x y).mp cell
  refine ⟨?_,x,y,cell,rfl⟩
  rw [map.tiles_size]
  exact Grid.index_lt inside below

theorem tryMove_cell (map : Map) (fits : Fits map.map move)
    (cell : map.map.cellAt (destination map.map position move) = some (x,y)) :
    map.tryMove position move = .ok (landing map.map position move,
      ⟨destination map.map position move,Grid.index map.map.width x y⟩) := by
  have test := isSolidAtCoord_cell map cell
  simp only [landing,cell]
  rw [destination] at test ⊢
  simp only [Map.tryMove,multiply_fits fits.1,multiply_fits fits.2,bind,Except.bind,test,pure,Except.pure]

-- A move that went through fits, and its read names the place it leads to.
theorem tryMove_parts {read : TileRead} (map : Map) (ran : map.tryMove position move = .ok (next,read)) :
    Fits map.map move ∧ read.destination = destination map.map position move := by
  unfold Map.tryMove at ran
  obtain ⟨_,width,ran⟩ := bind_ok.mp ran
  obtain ⟨_,height,ran⟩ := bind_ok.mp ran
  obtain ⟨fitsWidth,rfl⟩ := multiply_parts width
  obtain ⟨fitsHeight,rfl⟩ := multiply_parts height
  obtain ⟨⟨_,_⟩,tested,ran⟩ := bind_ok.mp ran
  cases ran
  refine ⟨⟨fitsWidth,fitsHeight⟩,?_⟩
  unfold Map.isSolidAtCoord at tested
  obtain ⟨_,_,tested⟩ := bind_ok.mp tested
  obtain ⟨_,_,tested⟩ := bind_ok.mp tested
  split at tested
  · cases tested
  · cases tested
    rfl

-- One pass of the loop reads only right tiles exactly if it stays within the map.
theorem tryMoves_within (map : Map) (within : Within map.map positions moves) :
    ∃ next reads, map.tryMoves positions moves = .ok (next,reads) ∧ ∀ read ∈ reads, Right map read := by
  induction moves generalizing positions with
  | nil => exact ⟨positions,[],rfl,by simp⟩
  | cons move moves ih =>
    obtain ⟨fits,inside,within⟩ := within
    obtain ⟨⟨x,y⟩,cell⟩ := Option.isSome_iff_exists.mp inside
    obtain ⟨next,reads,ran,right⟩ := ih within
    refine ⟨next,⟨destination map.map (positions move.entity) move,Grid.index map.map.width x y⟩ :: reads,?_,?_⟩
    · simp only [Map.tryMoves,tryMove_cell map fits cell,ran,bind,Except.bind,pure,Except.pure]
    · rintro read (_ | ⟨_,later⟩)
      · exact right_cell map cell
      · exact right read later

theorem within_tryMoves (map : Map) (ran : map.tryMoves positions moves = .ok (next,reads))
    (right : ∀ read ∈ reads, Right map read) : Within map.map positions moves := by
  induction moves generalizing positions next reads with
  | nil => trivial
  | cons move moves ih =>
    unfold Map.tryMoves at ran
    obtain ⟨⟨position,read⟩,first,ran⟩ := bind_ok.mp ran
    obtain ⟨⟨_,later⟩,rest,ran⟩ := bind_ok.mp ran
    cases ran
    obtain ⟨fits,same⟩ := tryMove_parts map first
    obtain ⟨_,x,y,cell,_⟩ := right read (by simp)
    rw [same] at cell
    rw [tryMove_cell map fits cell] at first
    cases first
    exact ⟨fits,by rw [cell]; rfl,ih rest fun read member => right read (by simp [member])⟩

-- What the loop keeps for each of the entities it moves.
theorem landing_standing (standing : Standing map position) (inside : (map.cellAt (destination map position move)).isSome) :
    Standing map (landing map position move) := by
  obtain ⟨⟨x,y⟩,cell⟩ := Option.isSome_iff_exists.mp inside
  simp only [landing,cell]
  cases solid : (map.tileAt x y).isSolid with
  | true =>
    rw [if_pos rfl]
    exact standing
  | false =>
    rw [if_neg Bool.false_ne_true]
    exact ⟨x,y,cell,solid⟩

theorem tryMoves_standing (map : Map) (within : Within map.map positions moves)
    (ran : map.tryMoves positions moves = .ok (next,reads)) (standing : Standing map.map (positions player)) :
    Standing map.map (next player) := by
  induction moves generalizing positions next reads with
  | nil =>
    cases ran
    exact standing
  | cons move moves ih =>
    obtain ⟨fits,inside,within⟩ := within
    obtain ⟨⟨x,y⟩,cell⟩ := Option.isSome_iff_exists.mp inside
    unfold Map.tryMoves at ran
    obtain ⟨⟨_,_⟩,first,ran⟩ := bind_ok.mp ran
    rw [tryMove_cell map fits cell] at first
    cases first
    obtain ⟨⟨_,_⟩,rest,ran⟩ := bind_ok.mp ran
    cases ran
    apply ih within rest
    by_cases moved : player = move.entity
    · subst moved
      rw [Function.update_self]
      exact landing_standing standing inside
    · rw [Function.update_of_ne moved]
      exact standing

variable {pointer : Type} (maps : pointer → Map)

-- The movement system and the positions it changes; the player asks for the moves.
structure State (pointer : Type) where
  system : MovementSystem pointer
  positions : Nat → Position

inductive Event where
  | addMove (xTiles yTiles : Int32)
  | update
  deriving DecidableEq

def turn (player : Nat) : Machine (State pointer) Event TileRead MovementFault
  | s,.addMove xTiles yTiles => .ok ({s with system := s.system.addMove ⟨player,xTiles,yTiles⟩},[])
  | s,.update => (s.system.update maps s.positions).map fun ran => (⟨ran.1,ran.2.1⟩,ran.2.2)

-- Every destination that the pass tests is a point of the map.
def Bounded : State pointer → Event → Prop
  | _,.addMove _ _ => True
  | s,.update => Within (maps s.system.map_).map s.positions s.system.moves_

instance (s : State pointer) (event : Event) : Decidable (Bounded maps s event) := by
  unfold Bounded
  cases event <;> infer_instance

-- After every event the run has come through, the player stands inside the map on a tile that
-- is not solid, and every tile was read where the destination lies.
def Kept (map : Map) (player : Nat) (s : State pointer) (events : List Event) : Prop :=
  ∀ before after, events = before ++ after → ∃ trace t, Run (turn maps player) s before trace t ∧
    Standing map.map (t.positions player) ∧ ∀ read ∈ trace, Right map read

theorem update_parts (ran : MovementSystem.update maps system positions = .ok (next,moved,reads)) :
    (maps system.map_).tryMoves positions system.moves_ = .ok (moved,reads) ∧ next.map_ = system.map_ ∧
      next.moves_ = [] := by
  unfold MovementSystem.update at ran
  obtain ⟨⟨_,_⟩,passed,ran⟩ := bind_ok.mp ran
  cases ran
  exact ⟨passed,rfl,rfl⟩

theorem turn_map (ran : turn maps player s event = .ok (t,reads)) : t.system.map_ = s.system.map_ := by
  cases event with
  | addMove xTiles yTiles =>
    cases ran
    rfl
  | update =>
    obtain ⟨⟨_,_,_⟩,updated,same⟩ := map_ok ran
    cases same
    exact (update_parts maps updated).2.1

theorem turn_bounded (bounded : Bounded maps s event) (standing : Standing (maps s.system.map_).map (s.positions player)) :
    ∃ t reads, turn maps player s event = .ok (t,reads) ∧ Standing (maps s.system.map_).map (t.positions player) ∧
      ∀ read ∈ reads, Right (maps s.system.map_) read := by
  cases event with
  | addMove xTiles yTiles => exact ⟨_,[],rfl,standing,by simp⟩
  | update =>
    obtain ⟨next,reads,ran,right⟩ := tryMoves_within _ bounded
    refine ⟨⟨s.system.passed,next⟩,reads,?_,tryMoves_standing _ bounded ran standing,right⟩
    simp only [turn,MovementSystem.update,ran,bind,Except.bind,pure,Except.pure,Except.map]

theorem bounded_turn (ran : turn maps player s event = .ok (t,reads))
    (right : ∀ read ∈ reads, Right (maps s.system.map_) read) : Bounded maps s event := by
  cases event with
  | addMove xTiles yTiles => trivial
  | update =>
    obtain ⟨⟨_,_,_⟩,updated,same⟩ := map_ok ran
    cases same
    exact within_tryMoves _ (update_parts maps updated).1 right

theorem Kept.early (kept : Kept maps map player s (events ++ [event])) : Kept maps map player s events := by
  rintro before after rfl
  exact kept before (after ++ [event]) (by simp)

theorem run_map (path : Run (turn maps player) s events trace t) : t.system.map_ = s.system.map_ :=
  path.invariant (P:=fun t => t.system.map_ = s.system.map_) rfl fun same ran => (turn_map maps ran).trans same

theorem moves_stay_inside (player : Nat) (s : State pointer) (events : List Event)
    (standing : Standing (maps s.system.map_).map (s.positions player)) :
    Kept maps (maps s.system.map_) player s events ↔ StepsMeet (turn maps player) s events (Bounded maps) := by
  induction events using List.reverseRecOn with
  | nil =>
    constructor
    · intro _ before event after whole
      simp at whole
    · intro _ before after whole
      obtain ⟨rfl,rfl⟩ := List.append_eq_nil_iff.mp whole.symm
      exact ⟨[],s,.nil,standing,by simp⟩
  | append_singleton events event ih =>
    constructor
    · intro kept
      obtain ⟨_,_,path,_,_⟩ := kept.early maps events [] (by simp)
      refine (StepsMeet.snoc path).mpr ⟨ih.mp (kept.early maps),?_⟩
      obtain ⟨_,_,whole,_,right⟩ := kept (events ++ [event]) [] (by simp)
      obtain ⟨_,_,fresh,again,ran,rfl⟩ := whole.snoc_inv
      obtain ⟨rfl,rfl⟩ := path.deterministic again
      apply bounded_turn maps ran
      intro read member
      rw [run_map maps path]
      exact right read (by simp [member])
    · intro met before after whole
      have kept := ih.mpr met.early
      cases after using List.reverseRecOn with
      | nil =>
        obtain ⟨trace,middle,path,stands,right⟩ := kept events [] (by simp)
        rw [List.append_nil] at whole
        subst whole
        have bounded := (StepsMeet.snoc path).mp met |>.2
        rw [← run_map maps path] at stands right
        obtain ⟨t,reads,ran,stays,later⟩ := turn_bounded maps bounded stands
        rw [run_map maps path] at stays later right
        refine ⟨trace ++ reads,t,.snoc path ran,stays,?_⟩
        intro read member
        rcases List.mem_append.mp member with early | late
        · exact right read early
        · exact later read late
      | append_singleton init last =>
        rw [← List.append_assoc] at whole
        exact kept before init (List.append_inj' whole rfl).1

-- A map of 2 by 2 free tiles of 16 by 16 points.
def freeTmx : Tmx.Map where
  filename := []
  filehash := []
  properties := ⟨fun _ => [],fun _ default => default⟩
  width := 2
  height := 2
  tileWidth := 16
  tileHeight := 16
  layers := []
  tileset := fun _ _ => none
  tileWidth_pos := by decide
  tileHeight_pos := by decide
  area_int := by decide

def freeMap : Map := .parse freeTmx

def freeStart (x y : Int) : State Unit := ⟨⟨(),none,[]⟩,fun _ => ⟨x,y⟩⟩

theorem moves_stay_inside_there :
    Kept (fun _ => freeMap) freeMap 0 (freeStart 0 0) [.addMove 1 0,.addMove 0 1,.update,.addMove (-1) (-1),.update] :=
  (moves_stay_inside (fun _ => freeMap) 0 (freeStart 0 0) _ ⟨0,0,by decide,by decide⟩).mpr
    (checkSteps_meet (by decide))

-- On the right of the last column the index of the next row is read; the other sides
-- have no value as uint32_t, or lie past the last tile.
theorem right_edge_left : Standing freeTmx ⟨16,0⟩ ∧
    ¬ Kept (fun _ => freeMap) freeMap 0 (freeStart 16 0) [.addMove 1 0,.update] := by
  refine ⟨⟨1,0,by decide,by decide⟩,fun kept => ?_⟩
  obtain ⟨trace,t,path,⟨x,y,cell,_⟩,_⟩ := kept [.addMove 1 0,.update] [] rfl
  obtain ⟨other,u,again,outside⟩ := execute_check (turn (fun _ => freeMap) 0) (freeStart 16 0) [.addMove 1 0,.update]
    (fun result => (freeTmx.cellAt (result.1.positions 0)).isNone) (by decide)
  obtain ⟨_,rfl⟩ := path.deterministic again
  have nowhere : freeTmx.cellAt (t.positions 0) = none := Option.isNone_iff_eq_none.mp outside
  rw [show freeMap.map = freeTmx from rfl,nowhere] at cell
  cases cell

example : freeMap.tryMove ⟨0,0⟩ ⟨0,-1,0⟩ = .error .conversion := by decide
example : freeMap.tryMove ⟨16,16⟩ ⟨0,0,1⟩ = .error .index := by decide

end Movement
end PlayPG
