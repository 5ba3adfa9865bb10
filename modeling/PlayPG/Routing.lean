import PlayPG.FirstCome
import PlayPG.MapAssignment

-- Which map server a map leads to, over all registrations.
namespace PlayPG.Routing
open Bytes IncomingHandler ConnectedHandler ServerSteps MapAssignment

-- The first registered server with a map of that name.
def assigned (servers : List MapServerConnection) (name : Bytes) : Option MapServerConnection :=
  FirstCome.first MapServerConnection.mapNames servers name

def destination (mapIDToName : UnorderedMap UInt64 Bytes) (servers : List MapServerConnection) (character : Character) :
    ServerPacket :=
  match mapIDToName character.locationID with
  | none => .noMapServerError unrecognisedMap
  | some locationName =>
    match assigned servers locationName with
    | none => .noMapServerError noConnectedMapServer
    | some server => .mapServerConnectionInstructions ⟨server.friendlyName,server.hostname,server.port⟩

-- The vector has its reservation, or more servers than that.
structure Routed (allMaps : List Location) (s : LoginServer) : Prop where
  indexes : FirstCome.Indexes MapServerConnection.mapNames s.mapServers s.mapNameToConnection
  placed : (s.mapServers.buffer = 0 ∧ s.mapServers.capacity = allMaps.length) ∨ allMaps.length < s.mapServers.size
  pointed : ∀ name address, s.mapNameToConnection name = some address → address.buffer ≤ s.mapServers.buffer

theorem start_routed : Routed allMaps (.start players characters allMaps mapIDToName) :=
  ⟨FirstCome.indexes_empty _ _,.inl ⟨rfl,rfl⟩,by simp [LoginServer.start]⟩

theorem buffer_grows (v : StdVector α) (item : α) : v.buffer ≤ (v.emplaceBack item).buffer := by
  unfold StdVector.emplaceBack
  split
  · exact Nat.le_refl _
  · exact Nat.le_succ _

theorem emplaceBack_placed {v : StdVector α} (item : α)
    (placed : (v.buffer = 0 ∧ v.capacity = reserved) ∨ reserved < v.size) :
    ((v.emplaceBack item).buffer = 0 ∧ (v.emplaceBack item).capacity = reserved) ∨ reserved < (v.emplaceBack item).size := by
  have grown : (v.emplaceBack item).size = v.size + 1 := by simp [StdVector.size]
  rcases placed with ⟨first,capacity⟩ | outgrown
  · by_cases room : v.size < v.capacity
    · left
      rw [StdVector.emplaceBack_room v item room]
      exact ⟨first,capacity⟩
    · right
      omega
  · right
    omega

theorem routed_step (routed : Routed allMaps s) (ran : LoginServer.step env s event = .ok (t,fresh)) : Routed allMaps t := by
  have mapping := step_mapping ran
  generalize acknowledged s event = acked at mapping
  cases mapping with
  | same servers index => exact ⟨servers ▸ index ▸ routed.indexes,servers ▸ routed.placed,servers ▸ index ▸ routed.pointed⟩
  | added server servers index =>
    refine ⟨?_,?_,?_⟩
    · rw [servers,index]
      exact routed.indexes.add server
    · rw [servers]
      exact emplaceBack_placed server routed.placed
    · intro name address found
      rw [index] at found
      rw [servers]
      rcases UnorderedMap.emplaceAll_parts _ _ _ found with old | ⟨_,rfl,_⟩
      · exact (routed.pointed name address old).trans (buffer_grows _ _)
      · exact Nat.le_refl _

theorem run_routed
    (path : Runs.Run (LoginServer.step env) (.start players characters allMaps mapIDToName) events trace t) :
    Routed allMaps t :=
  path.invariant (P:=Routed allMaps) start_routed (fun routed ran => routed_step routed ran)

theorem Routed.assigned (routed : Routed allMaps s) (found : s.mapNameToConnection name = some address) :
    s.mapServers.deref address = Routing.assigned s.mapServers.items name ∨
      (s.mapServers.deref address = none ∧ allMaps.length < s.mapServers.size) := by
  have looked := routed.indexes.deref found
  by_cases still : address.buffer = s.mapServers.buffer
  · left
    rw [looked,if_pos still]
    rfl
  · right
    rw [looked,if_neg still]
    refine ⟨rfl,?_⟩
    have before := routed.pointed name address found
    rcases routed.placed with ⟨first,_⟩ | outgrown
    · omega
    · exact outgrown

-- A character of the player is sent where its map leads; the pointer of that server dangles only
-- where more servers have registered than there are maps.
theorem selection_destination (routed : Routed allMaps s) (whole : io.characterID.result = 8)
    (row : ownedCharacters s.toWorld session (env.apg.getLong io.characterID.bytes) = [character]) :
    (∃ visited, processCharacterSelect env s.toWorld session io = .ok visited ∧
      visited.effects = [.characterSelect (env.apg.getLong io.characterID.bytes),
        .sent (destination s.mapIDToName s.mapServers.items character) io.sendResult]) ∨
    (processCharacterSelect env s.toWorld session io = .error .danglingPointer ∧ allMaps.length < s.mapServers.size) := by
  have row : ownedCharacters s.toWorld {session with socket := session.socket.raise io.characterIDError}
      (env.apg.getLong io.characterID.bytes) = [character] := row
  unfold processCharacterSelect destination
  simp only [whole,ne_eq,not_true_eq_false,if_false,row]
  cases s.mapIDToName character.locationID with
  | none => exact .inl ⟨_,rfl,rfl⟩
  | some locationName =>
    dsimp only
    cases found : s.mapNameToConnection locationName with
    | none =>
      have none : Routing.assigned s.mapServers.items locationName = none := routed.indexes.absent.mp found
      rw [none]
      exact .inl ⟨_,rfl,rfl⟩
    | some address =>
      dsimp only
      rcases routed.assigned found with same | ⟨moved,outgrown⟩
      · cases served : Routing.assigned s.mapServers.items locationName with
        | none =>
          have absent := routed.indexes.absent.mpr served
          rw [found] at absent
          cases absent
        | some server =>
          rw [same,served]
          left
          dsimp only
          split
          · exact ⟨_,rfl,rfl⟩
          · exact ⟨_,rfl,rfl⟩
      · rw [moved]
        exact .inr ⟨rfl,outgrown⟩

theorem requiredMap_unassigned (routed : Routed allMaps s) (mapID : Location) : requiredMap s.toWorld mapID =
    (s.allMaps.find? (fun ours => mapID.locationName == ours.locationName)).filter (fun ours =>
      decide (mapID.knownMD5Hash = ours.knownMD5Hash) && (assigned s.mapServers.items mapID.locationName).isNone) := by
  apply Option.ext
  intro ours
  rw [requiredMap_exact,Option.filter_eq_some_iff,Bool.and_eq_true,decide_eq_true_eq,Option.isNone_iff_eq_none]
  rw [routed.indexes.absent]
  rfl

-- In every run maps go to the map server that registers them first: its players are sent there, and
-- only maps without one are asked of the next map server.
theorem first_come
    (path : Runs.Run (LoginServer.step env) (.start players characters allMaps mapIDToName) events trace t) :
    (∀ name, (t.mapNameToConnection name).bind (fun address => t.mapServers.items[address.index]?) =
      assigned t.mapServers.items name) ∧
    (∀ session io character, io.characterID.result = 8 →
      ownedCharacters t.toWorld session (env.apg.getLong io.characterID.bytes) = [character] →
      (∃ visited, processCharacterSelect env t.toWorld session io = .ok visited ∧
        visited.effects = [.characterSelect (env.apg.getLong io.characterID.bytes),
          .sent (destination t.mapIDToName t.mapServers.items character) io.sendResult]) ∨
      (processCharacterSelect env t.toWorld session io = .error .danglingPointer ∧ allMaps.length < t.mapServers.size)) ∧
    ∀ mapID, requiredMap t.toWorld mapID =
      (t.allMaps.find? (fun ours => mapID.locationName == ours.locationName)).filter (fun ours =>
        decide (mapID.knownMD5Hash = ours.knownMD5Hash) && (assigned t.mapServers.items mapID.locationName).isNone) := by
  have routed := run_routed path
  exact ⟨routed.indexes.first,fun session io character whole row => selection_destination routed whole row,
    requiredMap_unassigned routed⟩

-- The first of two servers for the town, at the place in the vector that the index has for it.
theorem first_come_together : ∃ trace t,
    Runs.Run (LoginServer.step towns) (.start .empty [] [town] .empty) together trace t ∧
    t.mapServers.items.map (·.connection.id) = [0,1] ∧ (assigned t.mapServers.items town.locationName).map (·.connection.id) = some 0 ∧
    (t.mapNameToConnection town.locationName).bind (fun address => t.mapServers.items[address.index]?) =
      assigned t.mapServers.items town.locationName := by
  obtain ⟨trace,t,path,both⟩ := Runs.execute_check (LoginServer.step towns) (.start .empty [] [town] .empty) together
    (fun last => decide (last.1.mapServers.items.map (·.connection.id) = [0,1] ∧
      (assigned last.1.mapServers.items town.locationName).map (·.connection.id) = some 0)) (by decide +kernel)
  obtain ⟨servers,first⟩ := of_decide_eq_true both
  exact ⟨trace,t,path,servers,first,(first_come path).1 town.locationName⟩

end PlayPG.Routing
