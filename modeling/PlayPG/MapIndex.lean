import PlayPG.Acknowledgement

namespace PlayPG.MapIndex
open Bytes IncomingHandler Visits ServerSteps Connections MapAssignment Acknowledgement LoginServer

-- Among what arrived on a socket, a map list with the name and the hash of one of our maps.
def Offered (env : Env) (packets : List Bytes) (ours : Location) : Prop :=
  ∃ packet ∈ packets, env.apg.getShort packet = ServerOpcode.MAP_SERVER_MAP_LIST.code ∧
    ∃ mapHashes, MapServerMapList.fromJSON env.parse (receivedJSON env packet) = .ok mapHashes ∧
      ∃ mapID ∈ mapHashes, mapID.locationName = ours.locationName ∧ mapID.knownMD5Hash = ours.knownMD5Hash

theorem Offered.grow {id : Nat} {fresh : List (Nat × Effect)} (offered : Offered env (receivedBy id trace) ours) :
    Offered env (receivedBy id (trace ++ fresh)) ours := by
  obtain ⟨packet,member,evidence⟩ := offered
  exact ⟨packet,by rw [receivedBy_append]; exact List.mem_append_left _ member,evidence⟩

def Waits (env : Env) (trace : List (Nat × Effect)) (c : IncomingConnection) : Prop :=
  c.state = .MAP_WAIT_ACK → ∀ locations, c.maps = some locations → ∀ map ∈ locations,
    Offered env (receivedBy (connectionId c) trace) map

theorem Waits.idle (elsewhere : c.state ≠ .MAP_WAIT_ACK) : Waits env trace c := fun waiting => absurd waiting elsewhere

theorem visit_waits (waits : Waits env trace c) (visit : Visit env world io c handled) :
    Waits env (trace ++ handled.effects.map (Prod.mk (connectionId c))) handled.connection := by
  cases visit_registration visit with
  | elsewhere others => exact .idle others.2
  | @quiet socket owned =>
    have same : connectionId {c with socket := some (polled socket io)} = connectionId c :=
      (connectionId_owned owned).symm
    intro waiting locations maps map within
    rw [same]
    exact (waits waiting locations maps map within).grow
  | requested turn request tried => exact .idle (by simp)
  | @listed socket mapHashes listing turn opcode decoded =>
    intro _ locations maps map within
    cases Option.some.inj maps
    obtain ⟨mapID,sent,required⟩ := List.mem_filterMap.mp within
    obtain ⟨_,name,hash⟩ := requiredMap_parts required
    have key : connectionId {c with
        socket := some (answered socket io),maps := some (requiredMaps world mapHashes),state := .MAP_WAIT_ACK} =
          connectionId c := (connectionId_owned turn.owned).symm
    refine ⟨io.recv.bytes,?_,opcode,mapHashes,decoded,mapID,sent,name,hash⟩
    rw [key,receivedBy_append]
    apply List.mem_append_right
    rw [receivedBy_tagged]
    simp [receivedIn]

-- What was sent for the maps of the connections that wait and of the servers that registered.
structure Sent (env : Env) (trace : List (Nat × Effect)) (s : LoginServer) : Prop where
  waiting : ∀ c ∈ s.incomingConnections, Waits env trace c
  served : ∀ server ∈ s.mapServers.items, ∀ map ∈ server.maps,
    Offered env (receivedBy server.connection.id trace) map

theorem step_served (sent : Sent env trace s) (ran : LoginServer.step env s event = .ok (t,fresh))
    (member : server ∈ t.mapServers.items) (within : map ∈ server.maps) :
    Offered env (receivedBy server.connection.id (trace ++ fresh)) map := by
  have stays : t.mapServers = s.mapServers → Offered env (receivedBy server.connection.id (trace ++ fresh)) map :=
    fun same => (sent.served server (same ▸ member) map within).grow
  cases event with
  | accept | purge | database => cases Except.ok.inj ran; exact stays rfl
  | connected ios => exact stays (step_connected ran).1.frame.mapServers
  | incoming index io =>
    rcases step_incoming ran with ⟨_,rfl,rfl⟩ | ⟨c,handled,present,visit,rfl,rfl⟩
    · exact stays rfl
    · cases visit with
      | registered waiting turn got maps name port address =>
        rcases List.mem_append.mp (StdVector.emplaceBack_items s.mapServers _ ▸ member) with old | new
        · exact (sent.served server old map within).grow
        · obtain rfl := List.mem_singleton.mp new
          have offered := sent.waiting c (List.mem_of_getElem? present) waiting _ maps map within
          rw [connectionId_owned turn.owned] at offered
          exact offered.grow
      | _ => exact stays rfl

theorem sent_step (sent : Sent env trace s) (ran : LoginServer.step env s event = .ok (t,fresh)) :
    Sent env (trace ++ fresh) t := by
  refine ⟨fun c member => ?_,fun server member map within => step_served sent ran member within⟩
  rcases step_entries ran member with rfl | old | ⟨before,io,effects,within,turned,rfl⟩
  · exact .idle (by simp [IncomingConnection.ofSocket])
  · exact fun waiting locations maps map within => (sent.waiting c old waiting locations maps map within).grow
  · obtain ⟨handled,visit,rfl,rfl⟩ := turn_visit turned
    exact visit_waits (sent.waiting before within) visit

theorem run_sent
    (path : Runs.Run (LoginServer.step env) (.start players characters allMaps mapIDToName) events trace t) :
    Sent env trace t :=
  path.history (P:=Sent env) ⟨by simp [LoginServer.start],by simp [LoginServer.start,StdVector.reserved]⟩
    (fun _ sent ran => sent_step sent ran)

-- An entry of the index with the server at its position.
def Entry (s : LoginServer) (name : Bytes) (address : StdVector.Address) (server : MapServerConnection) : Prop :=
  s.mapNameToConnection name = some address ∧ s.mapServers.items[address.index]? = some server

theorem entry_step (entry : Entry s name address server) (ran : LoginServer.step env s event = .ok (t,fresh)) :
    Entry t name address server := by
  obtain ⟨found,placed⟩ := entry
  have mapping := step_mapping ran
  generalize acknowledged s event = acked at mapping
  cases mapping with
  | same servers index => exact ⟨index ▸ found,servers ▸ placed⟩
  | added newest servers index =>
    refine ⟨?_,?_⟩
    · rw [index]
      exact UnorderedMap.emplaceAll_found _ _ _ found
    · rw [servers,StdVector.emplaceBack_items,List.getElem?_append_left (List.getElem?_eq_some_iff.mp placed).1]
      exact placed

-- Each entry is for one of our maps, which its server was given for a list that named it.
theorem map_entries
    (path : Runs.Run (LoginServer.step env) (.start players characters allMaps mapIDToName) events trace t)
    (found : t.mapNameToConnection name = some address) :
    ∃ server, Entry t name address server ∧
      (∃ ours ∈ allMaps, ours.locationName = name ∧ ours ∈ server.maps ∧
        Offered env (receivedBy server.connection.id trace) ours) ∧
      ∀ later rest last, Runs.Run (LoginServer.step env) t later rest last → Entry last name address server := by
  have named := run_named path
  obtain ⟨server,placed,member⟩ := named.indexed name address found
  obtain ⟨ours,within,rfl⟩ := List.mem_map.mp member
  have served := List.mem_of_getElem? placed
  refine ⟨server,⟨found,placed⟩,⟨ours,named.served server served ours within,rfl,within,?_⟩,?_⟩
  · exact (run_sent path).served server served ours within
  · intro later rest last onward
    exact onward.invariant (P:=fun s => Entry s ours.locationName address server) ⟨found,placed⟩
      (fun entry ran => entry_step entry ran)

theorem map_entries_town : ∃ trace t,
    Runs.Run (LoginServer.step towns) (.start .empty [] [town] .empty) (.accept :: listing 0 ++ [acknowledgement 0])
      trace t ∧
    ∃ server, Entry t town.locationName ⟨0,0⟩ server ∧
      (∃ ours ∈ [town], ours.locationName = town.locationName ∧ ours ∈ server.maps ∧
        Offered towns (receivedBy server.connection.id trace) ours) := by
  obtain ⟨trace,t,path,registered⟩ := Runs.execute_check (LoginServer.step towns) (.start .empty [] [town] .empty)
    (.accept :: listing 0 ++ [acknowledgement 0])
    (fun last => last.1.mapNameToConnection town.locationName == some ⟨0,0⟩) (by decide +kernel)
  have found : t.mapNameToConnection town.locationName = some ⟨0,0⟩ := by simpa using registered
  obtain ⟨server,entry,offered,_⟩ := map_entries path found
  exact ⟨trace,t,path,server,entry,offered⟩

end PlayPG.MapIndex
