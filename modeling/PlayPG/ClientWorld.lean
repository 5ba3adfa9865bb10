import PlayPG.ClientScreens
import PlayPG.LayerEntities

namespace PlayPG.ClientWorld
open Bytes Client ClientScreens

-- The maps and their renderers are unique_ptrs of the game: mapOutdoor and
-- outdoorRenderer, mapIndoor and indoorRenderer.
inductive World where
  | outdoor
  | indoor
  deriving DecidableEq

structure Assets where
  mapOutdoor : Map
  mapIndoor : Map

def Assets.map (assets : Assets) : World → Map
  | .outdoor => assets.mapOutdoor
  | .indoor => assets.mapIndoor

inductive Scancode where
  | SPACE | RETURN | _1
  | W | A | S | D
  | KP_1 | KP_2 | KP_3 | KP_4 | KP_6 | KP_7 | KP_8 | KP_9
  deriving DecidableEq

-- The entities in the order they were added, each with its address; their
-- positions are kept by address.
structure Engine where
  entities : List (Nat × Entity World)
  positions : Nat → Position
  next : Nat
  movementSystem : MovementSystem World

namespace Engine

def addEntity (engine : Engine) (entity : Entity World) : Engine where
  entities := engine.entities ++ [(engine.next,entity)]
  positions := Function.update engine.positions engine.next entity.position
  next := engine.next + 1
  movementSystem := engine.movementSystem

def addEntities (engine : Engine) (entities : List (Entity World)) : Engine :=
  entities.foldl addEntity engine

def removeAllEntities (engine : Engine) : Engine := {engine with entities := []}

end Engine

-- world records the map of the most recent changeToWorld; the code keeps no such member.
structure State where
  game : Game
  screen : Screen
  indoor : Bool
  engine : Engine
  player : Option Nat
  world : World

inductive RenderFault where
  | network (fault : Fault)
  | movement (fault : MovementFault)
  | layer
  deriving DecidableEq

inductive Effect where
  | login (effect : Client.Effect)
  | sent (bytes : Bytes)
  | tested (world : World) (read : TileRead)
  | focused (position : Position)
  | drawSprite (position : Position)
  | renderLayer (tmxRenderer : World) (layerIndex : Nat)

-- One frame: the keys that were just pressed, and what the connection brings.
structure Frame where
  isKeyJustPressed : Scancode → Bool
  io : LoginIO
  characters : Recv
  instructions : Recv

section InputSystem
variable (pressed : Scancode → Bool)

-- The keys of a move, in the order in which processEntity looks at them.
def moveKeys : Option (Int32 × Int32) :=
  if pressed .W || pressed .KP_8 then some (0,-1)
  else if pressed .A || pressed .KP_4 then some (-1,0)
  else if pressed .S || pressed .KP_2 then some (0,1)
  else if pressed .D || pressed .KP_6 then some (1,0)
  else if pressed .KP_7 then some (-1,-1)
  else if pressed .KP_9 then some (1,-1)
  else if pressed .KP_1 then some (-1,1)
  else if pressed .KP_3 then some (1,1)
  else none

def processInput (system : MovementSystem World) (entity : Nat × Entity World) : MovementSystem World :=
  if entity.2.keyboardInputListener then
    match moveKeys pressed with
    | some (xTiles,yTiles) => system.addMove ⟨entity.1,xTiles,yTiles⟩
    | none => system
  else system

end InputSystem

-- Half the window, 1280 by 720.
def focus (positions : Nat → Position) (entity : Nat × Entity World) : List Effect :=
  if entity.2.focalPoint then [.focused ⟨(positions entity.1).x - 640,(positions entity.1).y - 360⟩] else []

def draw (assets : Assets) (positions : Nat → Position) (entity : Nat × Entity World) : Except RenderFault (List Effect) :=
  match entity.2.renderable with
  | none => .ok []
  | some .sprite | some .animation => .ok [.drawSprite (positions entity.1)]
  | some (.tiled tmxRenderer layerIndex) =>
    if layerIndex < (assets.map tmxRenderer).map.layers.length then .ok [.renderLayer tmxRenderer layerIndex]
    else .error .layer

-- The systems run by priority: input, movement, camera, render.
def Engine.update (assets : Assets) (engine : Engine) (pressed : Scancode → Bool) :
    Except RenderFault (Engine × List Effect) :=
  let system := engine.entities.foldl (processInput pressed) engine.movementSystem
  match system.update assets.map engine.positions with
  | .error fault => .error (.movement fault)
  | .ok (moved,positions,reads) =>
    match engine.entities.mapM (draw assets positions) with
    | .error fault => .error fault
    | .ok drawn =>
      .ok ({engine with movementSystem := moved,positions},
        reads.map (.tested system.map_) ++ engine.entities.flatMap (focus positions) ++ drawn.flatten)

variable (build : Build) (assets : Assets) (unset : Nat × Nat)

-- The renderer that changeToWorld passes on is outdoorRenderer, whatever the map. The product is one of ints there;
-- here it is exact, as all positions are.
def State.changeToWorld (s : State) (world : World) : State :=
  let map := assets.map world
  let spawnPoint := map.spawnPoint.getD unset
  let front := s.engine.removeAllEntities.addEntities (MapUtil.generateFrontLayerEntities map World.outdoor)
  let player : Entity World :=
    ⟨⟨spawnPoint.1 * map.map.tileWidth,spawnPoint.2 * map.map.tileHeight⟩,some .sprite,true,true⟩
  {s with
    engine := (front.addEntity player).addEntities (MapUtil.generateBackLayerEntities map World.outdoor)
    player := some front.next
    world}

def start : State where
  game := .start
  screen := ⟨.LOGIN,false,none⟩
  indoor := false
  engine := ⟨[],fun _ => ⟨0,0⟩,0,⟨.outdoor,none,[]⟩⟩
  player := none
  world := .outdoor

def init : State := start.changeToWorld assets unset .outdoor

def renderLogin (s : State) (frame : Frame) : Except RenderFault (State × List Effect) :=
  if frame.isKeyJustPressed .SPACE then
    match doLogin build s.game frame.io with
    | .error fault => .error (.network fault)
    | .ok (game,effects,loggedIn) =>
      let s := {s with game}
      .ok (if loggedIn then {s with screen := {s.screen with gameState := .CHARACTER_SELECT}} else s,effects.map .login)
  else if frame.isKeyJustPressed ._1 then
    .ok ({s with game := {s.game with username := text "SgtCoDFish@example.com"}},[])
  else .ok (s,[])

def renderCharacterSelect (s : State) (frame : Frame) : Except RenderFault (State × List Effect) :=
  if frame.isKeyJustPressed .RETURN then
    match receiveCharacters build s.screen frame.characters with
    | .error fault => .error (.network fault)
    | .ok (screen,sent) =>
      .ok ({s with screen},(ClientPacket.clientRequestCharacters.buffer build.apg :: sent).map .sent)
  else .ok (s,[])

def renderMapServerConnect (s : State) (frame : Frame) : Except RenderFault (State × List Effect) :=
  match receiveInstructions build s.screen frame.instructions with
  | .error fault => .error (.network fault)
  | .ok screen => .ok ({s with screen},[])

def State.toggle (s : State) (frame : Frame) : State :=
  if frame.isKeyJustPressed .RETURN then
    if s.indoor then State.changeToWorld assets unset {s with indoor := false} .outdoor
    else State.changeToWorld assets unset {s with indoor := true} .indoor
  else s

def renderPlaying (s : State) (frame : Frame) : Except RenderFault (State × List Effect) :=
  let s := s.toggle assets unset frame
  match s.engine.update assets frame.isKeyJustPressed with
  | .error fault => .error fault
  | .ok (engine,effects) => .ok ({s with engine},effects)

def render : Runs.Machine State Frame Effect RenderFault := fun s frame =>
  match s.screen.gameState with
  | .LOGIN => renderLogin build s frame
  | .CHARACTER_SELECT => renderCharacterSelect build s frame
  | .MAP_SERVER_CONNECT => renderMapServerConnect build s frame
  | .PLAYING => renderPlaying assets unset s frame

-- The map that moves are tested against and the maps of the drawn layers.
structure Coherent (s : State) : Prop where
  chosen : s.world = if s.indoor then .indoor else .outdoor
  tested : s.engine.movementSystem.map_ = s.world
  drawn : ∀ entity ∈ s.engine.entities, ∀ tmxRenderer i,
    entity.2.renderable = some (.tiled tmxRenderer i) → tmxRenderer = s.world

def PlaysCoherent (s : State) : Prop := s.screen.gameState = .PLAYING → Coherent s

-- A frame that does not enter the indoor map.
def StaysOut (s : State) (frame : Frame) : Prop :=
  s.screen.gameState = .PLAYING → frame.isKeyJustPressed .RETURN = true → s.indoor = true

instance (s : State) (frame : Frame) : Decidable (StaysOut s frame) := by unfold StaysOut; infer_instance

theorem addEntities_movement (engine : Engine) (entities : List (Entity World)) :
    (engine.addEntities entities).movementSystem = engine.movementSystem := by
  induction entities generalizing engine with
  | nil => rfl
  | cons entity entities ih => exact ih (engine.addEntity entity)

theorem addEntities_mem (member : entity ∈ (Engine.addEntities engine entities).entities) :
    entity ∈ engine.entities ∨ entity.2 ∈ entities := by
  induction entities generalizing engine with
  | nil => exact .inl member
  | cons first entities ih =>
    rcases (ih member : entity ∈ (engine.addEntity first).entities ∨ entity.2 ∈ entities) with earlier | later
    · rcases List.mem_append.mp earlier with old | new
      · exact .inl old
      · rw [List.mem_singleton.mp new]
        exact .inr List.mem_cons_self
    · exact .inr (List.mem_cons_of_mem _ later)

def Outdoors (entity : Entity World) : Prop :=
  ∀ tmxRenderer i, entity.renderable = some (.tiled tmxRenderer i) → tmxRenderer = .outdoor

theorem layerEntity_outdoors {indices : List Nat} (member : entity ∈ indices.map (MapUtil.layerEntity World.outdoor)) :
    Outdoors entity := by
  obtain ⟨i,_,rfl⟩ := List.mem_map.mp member
  intro tmxRenderer j drawn
  cases drawn
  rfl

theorem frontLayers_outdoors (member : entity ∈ MapUtil.generateFrontLayerEntities map World.outdoor) : Outdoors entity := by
  rw [MapUtil.generateFrontLayerEntities,MapUtil.frontLayersFrom_positions] at member
  exact layerEntity_outdoors member

theorem backLayers_outdoors (member : entity ∈ MapUtil.generateBackLayerEntities map World.outdoor) : Outdoors entity := by
  rw [MapUtil.generateBackLayerEntities,MapUtil.backLayersFrom_positions] at member
  exact layerEntity_outdoors member

-- What no frame changes: moves are tested outdoors and layers are drawn from the outdoor map,
-- and the world is chosen only while playing.
structure Fixed (s : State) : Prop where
  chosen : s.world = if s.indoor then .indoor else .outdoor
  tested : s.engine.movementSystem.map_ = .outdoor
  drawn : ∀ entity ∈ s.engine.entities, Outdoors entity.2
  early : s.screen.gameState ≠ .PLAYING → s.indoor = false

theorem Fixed.coherent (fixed : Fixed s) : PlaysCoherent s ↔ s.indoor = false := by
  constructor
  · intro plays
    by_cases playing : s.screen.gameState = .PLAYING
    · cases inside : s.indoor with
      | false => rfl
      | true =>
        have apart := (plays playing).tested.symm.trans fixed.tested
        rw [fixed.chosen,inside] at apart
        cases apart
    · exact fixed.early playing
  · intro outside _
    have world : s.world = .outdoor := by rw [fixed.chosen,outside]; rfl
    exact ⟨fixed.chosen,fixed.tested.trans world.symm,fun entity member tmxRenderer i drawn =>
      (fixed.drawn entity member tmxRenderer i drawn).trans world.symm⟩

-- changeToWorld makes the entities anew and leaves the movement system as it was.
theorem changeToWorld_parts (s : State) (world : World) :
    let t := s.changeToWorld assets unset world
    t.screen = s.screen ∧ t.indoor = s.indoor ∧ t.world = world ∧
      t.engine.movementSystem = s.engine.movementSystem ∧ ∀ entity ∈ t.engine.entities, Outdoors entity.2 := by
  refine ⟨rfl,rfl,rfl,?_,?_⟩
  · simp only [State.changeToWorld,addEntities_movement,Engine.addEntity,Engine.removeAllEntities]
  · intro entity member
    rcases addEntities_mem member with earlier | back
    · rcases List.mem_append.mp earlier with front | player
      · rcases addEntities_mem front with none | layer
        · cases none
        · exact frontLayers_outdoors layer
      · rw [List.mem_singleton.mp player]
        intro tmxRenderer i drawn
        cases drawn
    · exact backLayers_outdoors back

theorem processInput_map (pressed : Scancode → Bool) (entities : List (Nat × Entity World)) (system : MovementSystem World) :
    (entities.foldl (processInput pressed) system).map_ = system.map_ := by
  induction entities generalizing system with
  | nil => rfl
  | cons entity entities ih =>
    rw [List.foldl_cons,ih]
    unfold processInput
    split
    · split <;> rfl
    · rfl

theorem update_fixed (ran : Engine.update assets engine pressed = .ok (next,effects)) :
    next.entities = engine.entities ∧ next.movementSystem.map_ = engine.movementSystem.map_ := by
  unfold Engine.update at ran
  dsimp only at ran
  split at ran
  · cases ran
  · rename_i moved positions reads updated
    split at ran
    · cases ran
    · cases ran
      exact ⟨rfl,(Movement.update_parts _ updated).2.1.trans (processInput_map _ _ _)⟩

theorem init_fixed : Fixed (init assets unset) ∧ (init assets unset).indoor = false := by
  obtain ⟨screen,indoor,world,system,drawn⟩ := changeToWorld_parts assets unset start .outdoor
  exact ⟨⟨rfl,by rw [init,system]; rfl,drawn,fun _ => rfl⟩,rfl⟩

theorem toggle_fixed (frame : Frame) (fixed : Fixed s) (playing : s.screen.gameState = .PLAYING) :
    Fixed (s.toggle assets unset frame) ∧ (s.toggle assets unset frame).screen = s.screen ∧
      (s.toggle assets unset frame).indoor = (if frame.isKeyJustPressed .RETURN then !s.indoor else s.indoor) := by
  unfold State.toggle
  split
  · split
    · rename_i inside
      obtain ⟨screen,indoor,world,system,drawn⟩ := changeToWorld_parts assets unset {s with indoor := false} .outdoor
      refine ⟨⟨world,by rw [system]; exact fixed.tested,drawn,fun apart => absurd playing apart⟩,screen,?_⟩
      rw [indoor,inside]
      rfl
    · rename_i outside
      obtain ⟨screen,indoor,world,system,drawn⟩ := changeToWorld_parts assets unset {s with indoor := true} .indoor
      refine ⟨⟨world,by rw [system]; exact fixed.tested,drawn,fun apart => absurd playing apart⟩,screen,?_⟩
      rw [indoor]
      simp [outside]
  · exact ⟨fixed,rfl,rfl⟩

-- Outside PLAYING a frame changes the game and the screen only.
def KeepsWorld (s next : State) : Prop := next.indoor = s.indoor ∧ next.engine = s.engine ∧ next.world = s.world

theorem renderLogin_kept (ran : renderLogin build s frame = .ok (next,effects)) : KeepsWorld s next := by
  unfold renderLogin at ran
  split at ran
  · split at ran
    · cases ran
    · dsimp only at ran
      obtain ⟨rfl,_⟩ := Prod.mk.inj (Except.ok.inj ran)
      split <;> exact ⟨rfl,rfl,rfl⟩
  · split at ran
    · cases ran
      exact ⟨rfl,rfl,rfl⟩
    · cases ran
      exact ⟨rfl,rfl,rfl⟩

theorem renderCharacterSelect_kept (ran : renderCharacterSelect build s frame = .ok (next,effects)) : KeepsWorld s next := by
  unfold renderCharacterSelect at ran
  split at ran
  · split at ran
    · cases ran
    · cases ran
      exact ⟨rfl,rfl,rfl⟩
  · cases ran
    exact ⟨rfl,rfl,rfl⟩

theorem renderMapServerConnect_kept (ran : renderMapServerConnect build s frame = .ok (next,effects)) : KeepsWorld s next := by
  unfold renderMapServerConnect at ran
  split at ran
  · cases ran
  · cases ran
    exact ⟨rfl,rfl,rfl⟩

theorem render_early (ran : render build assets unset s frame = .ok (next,effects)) (early : s.screen.gameState ≠ .PLAYING) :
    KeepsWorld s next := by
  unfold render at ran
  cases state : s.screen.gameState with
  | LOGIN => exact renderLogin_kept build (by simpa only [state] using ran)
  | CHARACTER_SELECT => exact renderCharacterSelect_kept build (by simpa only [state] using ran)
  | MAP_SERVER_CONNECT => exact renderMapServerConnect_kept build (by simpa only [state] using ran)
  | PLAYING => exact absurd state early

theorem render_playing (ran : render build assets unset s frame = .ok (next,effects)) (playing : s.screen.gameState = .PLAYING)
    (fixed : Fixed s) : Fixed next ∧ next.indoor = (if frame.isKeyJustPressed .RETURN then !s.indoor else s.indoor) := by
  simp only [render,playing,renderPlaying] at ran
  obtain ⟨toggled,screen,indoor⟩ := toggle_fixed assets unset frame fixed playing
  split at ran
  · cases ran
  · rename_i engine shown updated
    cases ran
    obtain ⟨entities,system⟩ := update_fixed assets updated
    refine ⟨⟨toggled.chosen,system.trans toggled.tested,?_,toggled.early⟩,indoor⟩
    rw [entities]
    exact toggled.drawn

theorem render_fixed (ran : render build assets unset s frame = .ok (next,effects)) (fixed : Fixed s) : Fixed next := by
  by_cases playing : s.screen.gameState = .PLAYING
  · exact (render_playing build assets unset ran playing fixed).1
  · obtain ⟨indoor,engine,world⟩ := render_early build assets unset ran playing
    refine ⟨by rw [world,indoor]; exact fixed.chosen,by rw [engine]; exact fixed.tested,by rw [engine]; exact fixed.drawn,?_⟩
    intro _
    rw [indoor]
    exact fixed.early playing

theorem run_fixed (path : Runs.Run (render build assets unset) (init assets unset) frames effects s) : Fixed s :=
  path.invariant (init_fixed assets unset).1 fun fixed ran => render_fixed build assets unset ran fixed

-- Entering the indoor map leaves the movement system and the drawn layers outdoors.
theorem worlds_agree (path : Runs.Run (render build assets unset) (init assets unset) frames effects s) :
    Runs.StatesMeet (render build assets unset) (init assets unset) frames PlaysCoherent ↔
      Runs.StepsMeet (render build assets unset) (init assets unset) frames StaysOut := by
  obtain ⟨fixed,outside⟩ := init_fixed assets unset
  apply path.states_steps (fixed.coherent.mpr outside)
  intro before early middle frame next fresh reached plays ran
  have fixed := run_fixed build assets unset reached
  rw [(render_fixed build assets unset ran fixed).coherent]
  have outside := fixed.coherent.mp plays
  by_cases playing : middle.screen.gameState = .PLAYING
  · rw [(render_playing build assets unset ran playing fixed).2,outside]
    unfold StaysOut
    cases pressed : frame.isKeyJustPressed .RETURN <;> simp [playing,outside]
  · rw [(render_early build assets unset ran playing).1]
    exact iff_of_true outside fun apart => absurd apart playing

def challenge : AuthenticationChallenge := ⟨text "0.0.1",[],text "Login",text "key"⟩

def response : AuthenticationResponse := ⟨true,3,text "Authentication successful."⟩

def hero : Character := ⟨9,7,text "Ann",1,3,9,9,1,1⟩

def instructions : MapServerConnectionInstructions := ⟨text "Map",text "localhost",10420⟩

def shipped : Build := ⟨.network,Json.known [challenge.document,response.document,PlayerCharacters.document [hero],
  instructions.document],fun _ => some (.plain 32),text "0.0.1",[]⟩

def received (packet : ServerPacket) : Recv := .ofBytes (packet.buffer .network)

def press (key : Option Scancode) : Frame where
  isKeyJustPressed pressed := some pressed == key
  io := ⟨true,false,true,received (.authenticationChallenge challenge),received (.authenticationResponse response)⟩
  characters := received (.playerCharacters [hero])
  instructions := received (.mapServerConnectionInstructions instructions)

def worlds : Assets := ⟨MapUtil.outdoorMap,MapUtil.outdoorMap⟩

def walk : List Frame := [press (some .SPACE),press (some .RETURN),press none,press (some .D)]

theorem worlds_agree_outdoors :
    Runs.StatesMeet (render shipped worlds (0,0)) (init worlds (0,0)) walk PlaysCoherent := by
  obtain ⟨trace,t,path,_⟩ := Runs.execute_check (render shipped worlds (0,0)) (init worlds (0,0)) walk
    (fun _ => true) (by decide +kernel)
  refine (worlds_agree shipped worlds (0,0) path).mpr (Runs.checkSteps_meet ?_)
  decide +kernel

-- The first press of the key while playing.
theorem indoors_stays_outdoor : ∃ trace t,
    Runs.Run (render shipped worlds (0,0)) (init worlds (0,0)) (walk ++ [press (some .RETURN)]) trace t ∧
      t.screen.gameState = .PLAYING ∧ t.world = .indoor ∧ t.engine.movementSystem.map_ = .outdoor ∧
      t.engine.entities.filterMap (fun entity => entity.2.renderable) =
        [.tiled .outdoor 0,.tiled .outdoor 1,.tiled .outdoor 2,.tiled .outdoor 4,.tiled .outdoor 5,.sprite,
          .tiled .outdoor 4,.tiled .outdoor 5] ∧ ¬ PlaysCoherent t := by
  obtain ⟨trace,t,path,checked⟩ := Runs.execute_check (render shipped worlds (0,0)) (init worlds (0,0))
    (walk ++ [press (some .RETURN)])
    (fun last => decide (last.1.screen.gameState = .PLAYING ∧ last.1.world = .indoor ∧
      last.1.engine.movementSystem.map_ = .outdoor ∧ last.1.engine.entities.filterMap (fun entity => entity.2.renderable) =
        [.tiled .outdoor 0,.tiled .outdoor 1,.tiled .outdoor 2,.tiled .outdoor 4,.tiled .outdoor 5,.sprite,
          .tiled .outdoor 4,.tiled .outdoor 5])) (by decide +kernel)
  obtain ⟨playing,world,tested,drawn⟩ := of_decide_eq_true checked
  refine ⟨trace,t,path,playing,world,tested,drawn,fun plays => ?_⟩
  have same := (plays playing).tested
  rw [tested,world] at same
  cases same

end PlayPG.ClientWorld
