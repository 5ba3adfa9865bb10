import Mathlib.Data.List.Basic
import PlayPG.ClientWorld
import PlayPG.Projections

namespace PlayPG.ClientWorld.Walking
open Bytes

-- What the player is while the game is played: which map was entered last, and a place.
structure Walker where
  indoor : Bool
  position : Position
  deriving DecidableEq

def Walker.world (walker : Walker) : World := if walker.indoor then .indoor else .outdoor

section Machine
variable (assets : Assets) (unset : Nat × Nat)

-- Where a map puts the player, as an exact product; a map without a spawn point leaves the cell unset.
def spawn (world : World) : Position :=
  let map := assets.map world
  let spawnPoint := map.spawnPoint.getD unset
  ⟨spawnPoint.1 * map.map.tileWidth,spawnPoint.2 * map.map.tileHeight⟩

def Walker.enter (indoor : Bool) : Walker := ⟨indoor,spawn assets unset (if indoor then .indoor else .outdoor)⟩

def Walker.arrive (walker : Walker) (frame : Frame) : Walker :=
  if frame.isKeyJustPressed .RETURN then .enter assets unset !walker.indoor else walker

-- At most one move in a frame, always tested against the outdoor map.
def Walker.walk (walker : Walker) (frame : Frame) : Except RenderFault (Walker × List Effect) :=
  match moveKeys frame.isKeyJustPressed with
  | none => .ok (walker,[])
  | some (xTiles,yTiles) =>
    match assets.mapOutdoor.tryMove walker.position ⟨0,xTiles,yTiles⟩ with
    | .error fault => .error (.movement fault)
    | .ok (position,read) => .ok ({walker with position},[.tested .outdoor read])

def Walker.layers (walker : Walker) : List Nat × List Nat :=
  (MapUtil.frontLayers (assets.map walker.world) World.outdoor,MapUtil.backLayers (assets.map walker.world) World.outdoor)

-- The layers of the entered map by their numbers, each taken from the outdoor map, with
-- the player between those in front and those behind.
def Walker.picture (walker : Walker) : Except RenderFault (List Effect) :=
  let (front,back) := walker.layers assets
  if ∀ i ∈ front ++ back, i < assets.mapOutdoor.map.layers.length then
    .ok (.focused ⟨walker.position.x - 640,walker.position.y - 360⟩ ::
      front.map (.renderLayer .outdoor) ++ .drawSprite walker.position :: back.map (.renderLayer .outdoor))
  else .error .layer

def play : Runs.Machine Walker Frame Effect RenderFault := fun walker frame =>
  match (walker.arrive assets unset frame).walk assets frame with
  | .error fault => .error fault
  | .ok (walker,tested) => (walker.picture assets).map fun shown => (walker,tested ++ shown)

end Machine

-- The frames of the game that are played, and what they bring to the screen.
def played (s : State) (frame : Frame) : Option Frame := if s.screen.gameState = .PLAYING then some frame else none

def onScreen : Effect → Option Effect
  | .login _ | .sent _ => none
  | shown => some shown

def walker (s : State) : Walker := ⟨s.indoor,s.engine.positions (s.player.getD 0)⟩

-- A list of layer entities as the engine keeps them.
def AreLayers (entities : List (Nat × Entity World)) (indices : List Nat) : Prop :=
  entities.map Prod.snd = indices.map (MapUtil.layerEntity World.outdoor)

variable {assets : Assets} {unset : Nat × Nat}

-- The entities of the world that was entered last; no move waits between the frames.
structure Placed (assets : Assets) (s : State) (address : Nat) (front back : List (Nat × Entity World))
    (player : Entity World) : Prop where
  idle : s.engine.movementSystem = ⟨.outdoor,none,[]⟩
  known : s.player = some address
  entities : s.engine.entities = front ++ (address,player) :: back
  walks : player.keyboardInputListener = true ∧ player.focalPoint = true ∧ player.renderable = some .sprite
  before : AreLayers front ((walker s).layers assets).1
  behind : AreLayers back ((walker s).layers assets).2

def Stands (assets : Assets) (s : State) : Prop := ∃ address front back player, Placed assets s address front back player

theorem addEntities_parts (engine : Engine) (entities : List (Entity World)) :
    ∃ added, (engine.addEntities entities).entities = engine.entities ++ added ∧ added.map Prod.snd = entities ∧
      ∀ address < engine.next, (engine.addEntities entities).positions address = engine.positions address := by
  induction entities generalizing engine with
  | nil => exact ⟨[],(List.append_nil _).symm,rfl,fun _ _ => rfl⟩
  | cons entity entities ih =>
    obtain ⟨added,all,same,old⟩ := ih (engine.addEntity entity)
    refine ⟨(engine.next,entity) :: added,?_,by rw [List.map_cons,same],?_⟩
    · exact all.trans (List.append_assoc engine.entities [(engine.next,entity)] added)
    · intro address earlier
      have kept := old address (Nat.lt_succ_of_lt earlier)
      exact kept.trans (Function.update_of_ne (Nat.ne_of_lt earlier) _ _)

theorem frontLayers_are (map : Map) : MapUtil.generateFrontLayerEntities map World.outdoor =
    (MapUtil.frontLayers map World.outdoor).map (MapUtil.layerEntity World.outdoor) := by
  rw [MapUtil.frontLayers,MapUtil.generateFrontLayerEntities,MapUtil.frontLayersFrom_positions,
    MapUtil.layerIndex_layerEntity]

theorem backLayers_are (map : Map) : MapUtil.generateBackLayerEntities map World.outdoor =
    (MapUtil.backLayers map World.outdoor).map (MapUtil.layerEntity World.outdoor) := by
  rw [MapUtil.backLayers,MapUtil.generateBackLayerEntities,MapUtil.backLayersFrom_positions,
    MapUtil.layerIndex_layerEntity]

-- changeToWorld puts the player at the spawn point of the map, among its layers.
theorem changeToWorld_stands (s : State) (idle : s.engine.movementSystem = ⟨.outdoor,none,[]⟩)
    (chosen : world = if s.indoor then .indoor else .outdoor) :
    Stands assets (s.changeToWorld assets unset world) ∧
      walker (s.changeToWorld assets unset world) = .enter assets unset s.indoor := by
  obtain ⟨_,indoor,_,system,_⟩ := changeToWorld_parts assets unset s world
  let map := assets.map world
  let removed := s.engine.removeAllEntities
  let before := removed.addEntities (MapUtil.generateFrontLayerEntities map World.outdoor)
  let player : Entity World := ⟨spawn assets unset world,some .sprite,true,true⟩
  obtain ⟨front,frontAll,frontSame,_⟩ := addEntities_parts removed (MapUtil.generateFrontLayerEntities map World.outdoor)
  obtain ⟨back,backAll,backSame,old⟩ := addEntities_parts (before.addEntity player)
    (MapUtil.generateBackLayerEntities map World.outdoor)
  have here : (walker (s.changeToWorld assets unset world)).position = spawn assets unset world :=
    (old before.next (Nat.lt_succ_self _)).trans (Function.update_self _ _ _)
  have entered : (walker (s.changeToWorld assets unset world)).world = world := chosen.symm
  refine ⟨⟨before.next,front,back,player,system.trans idle,rfl,?_,⟨rfl,rfl,rfl⟩,?_,?_⟩,?_⟩
  · calc (s.changeToWorld assets unset world).engine.entities
        = (before.entities ++ [(before.next,player)]) ++ back := backAll
      _ = front ++ (before.next,player) :: back := by
        rw [show before.entities = front from frontAll,List.append_assoc]
        rfl
  · rw [AreLayers,frontSame,frontLayers_are,Walker.layers,entered]
  · rw [AreLayers,backSame,backLayers_are,Walker.layers,entered]
  · calc walker (s.changeToWorld assets unset world)
        = ⟨s.indoor,spawn assets unset world⟩ := congrArg (Walker.mk s.indoor) here
      _ = .enter assets unset s.indoor := by rw [chosen]; rfl

-- Layers take no input, are no focal point and are drawn by their numbers.
theorem areLayers_cons (are : AreLayers (entity :: entities) indices) :
    ∃ i rest, indices = i :: rest ∧ entity.2 = MapUtil.layerEntity World.outdoor i ∧ AreLayers entities rest := by
  cases indices with
  | nil => cases are
  | cons i rest =>
    obtain ⟨same,later⟩ := List.cons.inj are
    exact ⟨i,rest,rfl,same,later⟩

theorem layers_silent (pressed : Scancode → Bool) (are : AreLayers entities indices) (system : MovementSystem World) :
    entities.foldl (processInput pressed) system = system := by
  induction entities generalizing indices with
  | nil => rfl
  | cons entity entities ih =>
    obtain ⟨i,rest,rfl,layer,later⟩ := areLayers_cons are
    rw [List.foldl_cons,processInput,layer]
    exact ih later

theorem layers_unfocused (positions : Nat → Position) (are : AreLayers entities indices) :
    entities.flatMap (focus positions) = [] := by
  induction entities generalizing indices with
  | nil => rfl
  | cons entity entities ih =>
    obtain ⟨i,rest,rfl,layer,later⟩ := areLayers_cons are
    rw [List.flatMap_cons,ih later,focus,layer]
    rfl

theorem layers_drawn (positions : Nat → Position) (are : AreLayers entities indices) :
    entities.mapM (draw assets positions) =
      if ∀ i ∈ indices, i < assets.mapOutdoor.map.layers.length then .ok (indices.map fun i => [.renderLayer .outdoor i])
      else .error .layer := by
  induction entities generalizing indices with
  | nil =>
    cases indices with
    | nil => rfl
    | cons => cases are
  | cons entity entities ih =>
    obtain ⟨i,rest,rfl,layer,later⟩ := areLayers_cons are
    have first : draw assets positions entity =
        if i < assets.mapOutdoor.map.layers.length then .ok [.renderLayer .outdoor i] else .error .layer := by
      rw [draw,layer]
      rfl
    rw [List.mapM_cons,ih later,first]
    simp only [List.forall_mem_cons,List.map_cons]
    by_cases here : i < assets.mapOutdoor.map.layers.length
    · rw [if_pos here]
      by_cases others : ∀ j ∈ rest, j < assets.mapOutdoor.map.layers.length
      · rw [if_pos others,if_pos ⟨here,others⟩]
        rfl
      · rw [if_neg others,if_neg fun all => others all.2]
        rfl
    · have outside : ¬ (i < assets.mapOutdoor.map.layers.length ∧ ∀ j ∈ rest, j < assets.mapOutdoor.map.layers.length) :=
        fun all => here all.1
      rw [if_neg here,if_neg outside]
      rfl

-- The input system asks for the move of the player.
theorem input_moves (placed : Placed assets s address front back player) (pressed : Scancode → Bool) :
    s.engine.entities.foldl (processInput pressed) s.engine.movementSystem =
      ⟨.outdoor,none,(moveKeys pressed).toList.map fun tiles => ⟨address,tiles.1,tiles.2⟩⟩ := by
  rw [placed.entities,List.foldl_append,List.foldl_cons,layers_silent pressed placed.before,
    layers_silent pressed placed.behind,processInput,if_pos placed.walks.1,placed.idle]
  cases moveKeys pressed <;> rfl

theorem system_walks (placed : Placed assets s address front back player) (frame : Frame) :
    MovementSystem.update assets.map
        ⟨.outdoor,none,(moveKeys frame.isKeyJustPressed).toList.map fun tiles => ⟨address,tiles.1,tiles.2⟩⟩ s.engine.positions =
      match moveKeys frame.isKeyJustPressed with
      | none => .ok (⟨.outdoor,none,[]⟩,s.engine.positions,[])
      | some (xTiles,yTiles) =>
        (assets.mapOutdoor.tryMove (walker s).position ⟨0,xTiles,yTiles⟩).map fun moved =>
          (⟨.outdoor,none,[]⟩,Function.update s.engine.positions address moved.1,[moved.2]) := by
  cases moveKeys frame.isKeyJustPressed with
  | none => rfl
  | some tiles =>
    have same : assets.mapOutdoor.tryMove (s.engine.positions address) ⟨address,tiles.1,tiles.2⟩ =
        assets.mapOutdoor.tryMove (walker s).position ⟨0,tiles.1,tiles.2⟩ := by
      rw [walker,placed.known]
      rfl
    simp only [MovementSystem.update,Option.toList_some,List.map_cons,List.map_nil,Map.tryMoves,Assets.map,same]
    cases assets.mapOutdoor.tryMove (walker s).position ⟨0,tiles.1,tiles.2⟩ <;> rfl

-- What is drawn of layers one after another is drawn, or nothing is.
theorem flatten_layers (indices : List Nat) :
    (indices.map fun i => [Effect.renderLayer .outdoor i]).flatten = indices.map (.renderLayer .outdoor) := by
  rw [← List.flatMap_def]
  exact List.map_eq_flatMap.symm

theorem drawn_picture (placed : Placed assets s address front back player) (positions : Nat → Position) :
    (s.engine.entities.mapM (draw assets positions)).map
        (fun drawn => s.engine.entities.flatMap (focus positions) ++ drawn.flatten) =
      Walker.picture assets ⟨s.indoor,positions address⟩ := by
  have centre : s.engine.entities.flatMap (focus positions) =
      [.focused ⟨(positions address).x - 640,(positions address).y - 360⟩] := by
    rw [placed.entities,List.flatMap_append,List.flatMap_cons,layers_unfocused positions placed.before,
      layers_unfocused positions placed.behind,focus,if_pos placed.walks.2.1]
    rfl
  have sprite : draw assets positions (address,player) = .ok [.drawSprite (positions address)] := by
    rw [draw,placed.walks.2.2]
  rw [centre,placed.entities,List.mapM_append,List.mapM_cons,layers_drawn positions placed.before,
    layers_drawn positions placed.behind,sprite,Walker.picture]
  change _ = if _ then _ else _
  simp only [List.forall_mem_append]
  by_cases before : ∀ i ∈ ((walker s).layers assets).1, i < assets.mapOutdoor.map.layers.length
  · by_cases behind : ∀ i ∈ ((walker s).layers assets).2, i < assets.mapOutdoor.map.layers.length
    · rw [if_pos before,if_pos behind]
      refine Eq.trans ?_ (if_pos ⟨before,behind⟩).symm
      apply congrArg Except.ok
      dsimp only
      rw [List.flatten_append,List.flatten_cons,flatten_layers,flatten_layers]
      rfl
    · rw [if_pos before,if_neg behind]
      exact (if_neg fun all => behind all.2).symm
  · rw [if_neg before]
    exact (if_neg fun all => before all.1).symm

-- A frame of the game and a turn of the walker bring the same, and the next frame finds the
-- entities in their places.
structure Matches (assets : Assets) (ran : Except RenderFault (State × List Effect))
    (shown : Except RenderFault (Walker × List Effect)) : Prop where
  same : ran.map (fun result => (walker result.1,result.2)) = shown
  kept : ∀ result, ran = .ok result → Stands assets result.1

-- The last two systems, after the reads of the movement system.
theorem draws_match (placed : Placed assets s address front back player) (positions : Nat → Position) (reads : List TileRead) :
    Matches assets
      (Except.map (fun ran => ({s with engine := ran.1},ran.2))
        (match s.engine.entities.mapM (draw assets positions) with
          | .error fault => .error fault
          | .ok drawn => .ok ({s.engine with movementSystem := ⟨.outdoor,none,[]⟩,positions},
            reads.map (.tested .outdoor) ++ s.engine.entities.flatMap (focus positions) ++ drawn.flatten)))
      ((Walker.picture assets ⟨s.indoor,positions address⟩).map fun shown =>
        (⟨s.indoor,positions address⟩,reads.map (.tested .outdoor) ++ shown)) := by
  rw [← drawn_picture placed positions]
  cases s.engine.entities.mapM (draw assets positions) with
  | error fault => exact ⟨rfl,by intro _ ran; cases ran⟩
  | ok drawn =>
    refine ⟨?_,?_⟩
    · simp only [Except.map,walker,placed.known,Option.getD_some,List.append_assoc]
    · intro result ran
      cases ran
      exact ⟨address,front,back,player,rfl,placed.known,placed.entities,placed.walks,placed.before,placed.behind⟩

theorem update_matches (placed : Placed assets s address front back player) (frame : Frame) :
    Matches assets ((s.engine.update assets frame.isKeyJustPressed).map fun ran => ({s with engine := ran.1},ran.2))
      (match (walker s).walk assets frame with
        | .error fault => .error fault
        | .ok (walker,tested) => (walker.picture assets).map fun shown => (walker,tested ++ shown)) := by
  have here : walker s = ⟨s.indoor,s.engine.positions address⟩ := by rw [walker,placed.known]; rfl
  rw [Engine.update,input_moves placed]
  dsimp only
  rw [system_walks placed frame,Walker.walk]
  cases moveKeys frame.isKeyJustPressed with
  | none =>
    have drawn := draws_match placed s.engine.positions []
    rw [← here] at drawn
    exact drawn
  | some tiles =>
    obtain ⟨xTiles,yTiles⟩ := tiles
    dsimp only
    cases assets.mapOutdoor.tryMove (walker s).position ⟨0,xTiles,yTiles⟩ with
    | error fault => exact ⟨rfl,by intro _ ran; cases ran⟩
    | ok moved =>
      have drawn := draws_match placed (Function.update s.engine.positions address moved.1) [moved.2]
      rw [Function.update_self] at drawn
      exact drawn

-- The return key brings the walker to the spawn point of the other map.
theorem toggle_arrives (stands : Stands assets s) (frame : Frame) :
    Stands assets (s.toggle assets unset frame) ∧
      walker (s.toggle assets unset frame) = (walker s).arrive assets unset frame := by
  obtain ⟨address,front,back,player,placed⟩ := stands
  unfold State.toggle Walker.arrive
  cases frame.isKeyJustPressed .RETURN with
  | false => exact ⟨⟨address,front,back,player,placed⟩,rfl⟩
  | true =>
    change Stands assets (ite _ _ _) ∧ walker (ite _ _ _) = Walker.enter assets unset !s.indoor
    cases inside : s.indoor with
    | true => exact changeToWorld_stands {s with indoor := false} placed.idle rfl
    | false => exact changeToWorld_stands {s with indoor := true} placed.idle rfl

-- A frame that is played, as the walker sees it.
theorem playing_matches (unset : Nat × Nat) (stands : Stands assets s) (frame : Frame) :
    Matches assets (renderPlaying assets unset s frame) (play assets unset (walker s) frame) := by
  obtain ⟨⟨address,front,back,player,placed⟩,arrived⟩ := toggle_arrives stands frame
  have drawn := update_matches placed frame
  rw [arrived] at drawn
  unfold renderPlaying play
  dsimp only
  convert drawn using 1
  cases (s.toggle assets unset frame).engine.update assets frame.isKeyJustPressed <;> rfl

section Frames
variable {build : Client.Build}

-- The other states change the game and the screen, and nothing of the world is seen.
theorem render_unseen (ran : render build assets unset s frame = .ok (next,fresh)) (early : s.screen.gameState ≠ .PLAYING) :
    (∃ game screen, next = {s with game,screen}) ∧ fresh.filterMap onScreen = [] := by
  unfold render at ran
  cases state : s.screen.gameState with
  | LOGIN =>
    simp only [state] at ran
    unfold renderLogin at ran
    split at ran
    · split at ran
      · cases ran
      · rename_i game effects loggedIn login
        obtain ⟨rfl,rfl⟩ := Prod.mk.inj (Except.ok.inj ran)
        refine ⟨?_,Projections.map_silent (fun _ => rfl) effects⟩
        cases loggedIn with
        | false => exact ⟨game,s.screen,rfl⟩
        | true => exact ⟨game,{s.screen with gameState := .CHARACTER_SELECT},rfl⟩
    · split at ran
      · cases ran
        exact ⟨⟨_,s.screen,rfl⟩,rfl⟩
      · cases ran
        exact ⟨⟨s.game,s.screen,rfl⟩,rfl⟩
  | CHARACTER_SELECT =>
    simp only [state] at ran
    unfold renderCharacterSelect at ran
    split at ran
    · split at ran
      · cases ran
      · rename_i screen sent received
        cases ran
        exact ⟨⟨s.game,screen,rfl⟩,Projections.map_silent (fun _ => rfl) _⟩
    · cases ran
      exact ⟨⟨s.game,s.screen,rfl⟩,rfl⟩
  | MAP_SERVER_CONNECT =>
    simp only [state] at ran
    unfold renderMapServerConnect at ran
    split at ran
    · cases ran
    · rename_i screen received
      cases ran
      exact ⟨⟨s.game,screen,rfl⟩,rfl⟩
  | PLAYING => exact absurd state early

-- A turn of the walker by its two halves.
theorem play_parts (ran : play assets unset w frame = .ok (next,fresh)) : ∃ tested shown,
    (w.arrive assets unset frame).walk assets frame = .ok (next,tested) ∧ next.picture assets = .ok shown ∧
      fresh = tested ++ shown := by
  unfold play at ran
  split at ran
  · cases ran
  · rename_i moved tested walked
    cases drawn : moved.picture assets with
    | error fault => simp [drawn,Except.map] at ran
    | ok shown =>
      simp only [drawn,Except.map,Except.ok.injEq,Prod.mk.injEq] at ran
      obtain ⟨rfl,rfl⟩ := ran
      exact ⟨tested,shown,walked,drawn,rfl⟩

theorem walk_tested (walked : Walker.walk assets w frame = .ok (next,tested)) :
    ∀ effect ∈ tested, ∃ read, effect = .tested .outdoor read := by
  unfold Walker.walk at walked
  split at walked
  · cases walked
    intro effect member
    cases member
  · split at walked
    · cases walked
    · rename_i read moved
      cases walked
      intro effect member
      exact ⟨read,List.mem_singleton.mp member⟩

theorem picture_parts (drawn : Walker.picture assets w = .ok shown) :
    shown = .focused ⟨w.position.x - 640,w.position.y - 360⟩ :: (w.layers assets).1.map (.renderLayer .outdoor) ++
      .drawSprite w.position :: (w.layers assets).2.map (.renderLayer .outdoor) := by
  unfold Walker.picture at drawn
  dsimp only at drawn
  split at drawn
  · exact (Except.ok.inj drawn).symm
  · cases drawn

theorem play_seen (ran : play assets unset w frame = .ok (next,fresh)) : fresh.filterMap onScreen = fresh := by
  obtain ⟨tested,shown,walked,drawn,rfl⟩ := play_parts ran
  have seen : ∀ effect ∈ tested ++ shown, onScreen effect = some effect := by
    intro effect member
    rcases List.mem_append.mp member with early | late
    · obtain ⟨read,rfl⟩ := walk_tested walked effect early
      rfl
    · rw [picture_parts drawn] at late
      simp only [List.cons_append,List.mem_cons,List.mem_append,List.mem_map] at late
      obtain rfl | ⟨i,_,rfl⟩ | rfl | ⟨i,_,rfl⟩ := late <;> rfl
  exact (List.filterMap_congr seen).trans List.filterMap_some

variable (build) (unset)

-- The frames that are played are the turns of the walker.
theorem play_part : Projections.Part (render build assets unset) (play assets unset) played walker onScreen (Stands assets) where
  kept := by
    intro s frame next fresh stands ran
    by_cases playing : s.screen.gameState = .PLAYING
    · simp only [render,playing] at ran
      exact (playing_matches unset stands frame).kept _ ran
    · obtain ⟨⟨game,screen,rfl⟩,_⟩ := render_unseen ran playing
      obtain ⟨address,front,back,player,placed⟩ := stands
      exact ⟨address,front,back,player,placed.idle,placed.known,placed.entities,placed.walks,placed.before,placed.behind⟩
  apart := by
    intro s frame next fresh stands ran silent
    have early : s.screen.gameState ≠ .PLAYING := by
      intro playing
      rw [played,if_pos playing] at silent
      cases silent
    obtain ⟨⟨game,screen,rfl⟩,unseen⟩ := render_unseen ran early
    exact ⟨rfl,unseen⟩
  turned := by
    intro s frame next fresh turn stands ran own
    unfold played at own
    split at own
    · rename_i playing
      cases own
      simp only [render,playing] at ran
      have same := (playing_matches unset stands frame).same
      rw [ran] at same
      have turned : play assets unset (walker s) frame = .ok (walker next,fresh) := same.symm
      rw [play_seen turned]
      exact turned
    · cases own

theorem init_stands : Stands assets (init assets unset) ∧ walker (init assets unset) = .enter assets unset false :=
  changeToWorld_stands start rfl rfl

theorem run_stands (path : Runs.Run (render build assets unset) (init assets unset) frames effects s) : Stands assets s :=
  path.invariant (init_stands unset).1 fun stands ran => (play_part unset build).kept stands ran

end Frames

-- However the screens before it went, the game that is played is the walker: its frames move
-- the walker and show what it shows, and a frame fails exactly as its turn does.
theorem play_refined (build : Client.Build) (assets : Assets) (unset : Nat × Nat)
    (path : Runs.Run (render build assets unset) (init assets unset) frames effects s) :
    Runs.Run (play assets unset) (.enter assets unset false)
        (Projections.own (render build assets unset) played (init assets unset) frames) (effects.filterMap onScreen) (walker s) ∧
      (s.screen.gameState = .PLAYING → ∀ frame,
        (render build assets unset s frame).map (fun result => (walker result.1,result.2)) =
          play assets unset (walker s) frame) := by
  obtain ⟨stands,entered⟩ : Stands assets (init assets unset) ∧ _ := init_stands unset
  refine ⟨?_,?_⟩
  · rw [← entered]
    exact (play_part unset build).run stands path
  · intro playing frame
    simp only [render,playing]
    exact (playing_matches unset (run_stands unset build path) frame).same

-- Two frames of the visit are played; the second one enters the indoor map.
theorem play_refined_visit : ∃ (trace : List Effect) (t : State),
    Runs.Run (play worlds (0,0)) (.enter worlds (0,0) false)
      (Projections.own (render shipped worlds (0,0)) played (init worlds (0,0)) (walk ++ [press (some .RETURN)]))
      (trace.filterMap onScreen) (walker t) ∧
    walker t = .enter worlds (0,0) true ∧
    (Projections.own (render shipped worlds (0,0)) played (init worlds (0,0)) (walk ++ [press (some .RETURN)])).length = 2 := by
  obtain ⟨trace,t,path,entered⟩ := Runs.execute_check (render shipped worlds (0,0)) (init worlds (0,0))
    (walk ++ [press (some .RETURN)]) (fun last => walker last.1 = .enter worlds (0,0) true) (by decide +kernel)
  refine ⟨trace,t,(play_refined shipped worlds (0,0) path).1,of_decide_eq_true entered,?_⟩
  decide +kernel

end PlayPG.ClientWorld.Walking
