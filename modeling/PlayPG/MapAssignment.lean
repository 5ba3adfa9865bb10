import Mathlib.Data.List.Nodup
import PlayPG.Connections

namespace PlayPG.MapAssignment
open Bytes IncomingHandler Visits ServerSteps Connections

theorem requiredMap_exact : requiredMap world mapID = some ours ↔
    world.allMaps.find? (fun ours => mapID.locationName == ours.locationName) = some ours ∧
      mapID.knownMD5Hash = ours.knownMD5Hash ∧ world.mapNameToConnection mapID.locationName = none := by
  unfold requiredMap
  cases found : world.allMaps.find? (fun ours => mapID.locationName == ours.locationName) with
  | none => simp
  | some first =>
    by_cases hash : mapID.knownMD5Hash = first.knownMD5Hash
    · cases taken : world.mapNameToConnection mapID.locationName with
      | none =>
        simp only [if_pos hash,Option.some.injEq,and_true]
        constructor
        · rintro rfl
          exact ⟨rfl,hash⟩
        · exact And.left
      | some address => simp [hash]
    · simp only [if_neg hash,reduceCtorEq,Option.some.injEq,false_iff]
      rintro ⟨rfl,same,_⟩
      exact hash same

theorem requiredMap_parts (required : requiredMap world mapID = some map) : map ∈ world.allMaps ∧
    mapID.locationName = map.locationName ∧ mapID.knownMD5Hash = map.knownMD5Hash := by
  obtain ⟨found,hash,_⟩ := requiredMap_exact.mp required
  exact ⟨List.mem_of_find?_eq_some found,by simpa using List.find?_some found,hash⟩

theorem requiredMaps_known (member : map ∈ requiredMaps world mapHashes) : map ∈ world.allMaps := by
  obtain ⟨mapID,_,required⟩ := List.mem_filterMap.mp member
  exact (requiredMap_parts required).1

-- The maps whose acknowledgement an event delivers, as far as the server looks.
def acknowledged (s : LoginServer) : Event → Option (List Location)
  | .incoming index io =>
    match s.incomingConnections[index]? with
    | none => none
    | some c =>
      match c.socket with
      | none => none
      | some socket =>
        if c.state = .MAP_WAIT_ACK ∧ (polled socket io).error = false ∧ io.activity = true ∧ io.recv.result ≠ 0 then c.maps
        else none
  | _ => none

theorem acknowledged_parts (acked : acknowledged s event = some locations) :
    ∃ index io c socket, event = .incoming index io ∧ s.incomingConnections[index]? = some c ∧
      c.state = .MAP_WAIT_ACK ∧ Turn io c socket ∧ io.recv.result ≠ 0 ∧ c.maps = some locations := by
  cases event with
  | incoming index io =>
    simp only [acknowledged] at acked
    split at acked
    · cases acked
    · rename_i c present
      split at acked
      · cases acked
      · rename_i socket owned
        split at acked
        · rename_i met
          exact ⟨index,io,c,socket,rfl,present,met.1,⟨owned,met.2.1,met.2.2.1⟩,met.2.2.2,acked⟩
        · cases acked
  | _ => cases acked

theorem acknowledged_some (present : s.incomingConnections[index]? = some c) (waiting : c.state = .MAP_WAIT_ACK)
    (turn : Turn io c socket) (got : io.recv.result ≠ 0) (maps : c.maps = some locations) :
    acknowledged s (.incoming index io) = some locations := by
  simp [acknowledged,present,turn.owned,waiting,turn.alive,turn.active,got,maps]

inductive Mapping (s t : LoginServer) : Option (List Location) → Prop where
  | same (servers : t.mapServers = s.mapServers) (index : t.mapNameToConnection = s.mapNameToConnection) : Mapping s t none
  | added (server : MapServerConnection) (servers : t.mapServers = s.mapServers.emplaceBack server)
      (index : t.mapNameToConnection = s.mapNameToConnection.emplaceAll server.mapNames
        (s.mapServers.emplaceBack server).backAddress) : Mapping s t (some server.maps)

theorem waiting_registers (waiting : c.state = .MAP_WAIT_ACK) (turn : Turn io c socket) (got : io.recv.result ≠ 0)
    (visit : Visit env world io c handled) :
    ∃ server, c.maps = some server.maps ∧ handled.world = world.addMapServer server := by
  have live : ¬ Login c := by
    intro login
    rcases login with login | login <;> rw [waiting] at login <;> cases login
  cases visit with
  | done finished => rw [waiting] at finished; cases finished
  | dropped met owned failed => exact absurd failed (by simp [turn.healthy owned])
  | greeted fresh owned alive => rw [waiting] at fresh; cases fresh
  | quiet met greeted owned idle => exact absurd turn.active (by simp [idle])
  | closed met again closes => simp [Closes,waiting,got] at closes
  | unexpected login again other => exact absurd login live
  | refused login again identity refuses unlocked => exact absurd login live
  | locked login again identity row locked => exact absurd login live
  | accepted login again identity accepts => exact absurd login live
  | registering challenged again request reached => exact absurd (.inl challenged) live
  | unanswered challenged again request lost => exact absurd (.inl challenged) live
  | notNeeded listing again opcode decoded none => rw [waiting] at listing; cases listing
  | listed listing again opcode decoded some => rw [waiting] at listing; cases listing
  | registered again turn got maps name port address => exact ⟨_,maps,rfl⟩

theorem visit_mapping (present : s.incomingConnections[index]? = some c) (visit : Visit env s.toWorld io c handled) :
    Mapping s (s.store index handled) (acknowledged s (.incoming index io)) := by
  cases acked : acknowledged s (.incoming index io) with
  | none =>
    cases visit with
    | registered waiting turn got maps name port address =>
      exact absurd (acknowledged_some present waiting turn got maps) (by simp [acked])
    | _ => exact .same rfl rfl
  | some locations =>
    obtain ⟨_,_,other,socket,same,found,waiting,turn,got,maps⟩ := acknowledged_parts acked
    cases same
    obtain rfl : c = other := Option.some.inj (present.symm.trans found)
    obtain ⟨server,served,added⟩ := waiting_registers waiting turn got visit
    obtain rfl : locations = server.maps := Option.some.inj (maps.symm.trans served)
    exact .added server (congrArg World.mapServers added) (congrArg World.mapNameToConnection added)

theorem step_mapping (ran : LoginServer.step env s event = .ok (t,fresh)) : Mapping s t (acknowledged s event) := by
  cases event with
  | accept | purge | database => cases Except.ok.inj ran; exact .same rfl rfl
  | connected ios =>
    have frame := (step_connected ran).1.frame
    exact .same frame.mapServers frame.mapNameToConnection
  | incoming index io =>
    rcases step_incoming ran with ⟨missing,rfl,_⟩ | ⟨c,handled,present,visit,rfl,_⟩
    · simp only [acknowledged,missing]; exact .same rfl rfl
    · exact visit_mapping present visit

theorem visit_allMaps (visit : Visit env world io c handled) : handled.world.allMaps = world.allMaps := by
  cases visit <;> rfl

theorem visit_listed (visit : Visit env world io c handled) (set : handled.connection.maps = some locations) :
    c.maps = some locations ∨ ∀ map ∈ locations, map ∈ world.allMaps := by
  cases visit with
  | listed listing turn opcode decoded nonempty =>
    cases Option.some.inj set
    exact .inr (fun map member => requiredMaps_known member)
  | registered waiting turn got maps name port address =>
    cases Option.some.inj set
    exact .inr (by simp)
  | _ => exact .inl set

-- What holds whatever the acknowledgements bring.
structure Named (allMaps : List Location) (s : LoginServer) : Prop where
  maps : s.allMaps = allMaps
  ready : ∀ c ∈ s.incomingConnections, Ready c
  waiting : ∀ c ∈ s.incomingConnections, ∀ locations, c.maps = some locations → ∀ map ∈ locations, map ∈ allMaps
  served : ∀ server ∈ s.mapServers.items, ∀ map ∈ server.maps, map ∈ allMaps
  indexed : ∀ name address, s.mapNameToConnection name = some address →
    ∃ server, s.mapServers.items[address.index]? = some server ∧ name ∈ server.mapNames

theorem start_named : Named allMaps (.start players characters allMaps mapIDToName) :=
  ⟨rfl,by simp [LoginServer.start],by simp [LoginServer.start],by simp [LoginServer.start,StdVector.reserved],
    by simp [LoginServer.start]⟩

theorem Named.known (named : Named allMaps s) (found : s.mapNameToConnection name = some address) :
    name ∈ allMaps.map (·.locationName) := by
  obtain ⟨server,placed,member⟩ := named.indexed name address found
  obtain ⟨map,within,rfl⟩ := List.mem_map.mp member
  exact List.mem_map_of_mem (named.served server (List.mem_of_getElem? placed) map within)

theorem Named.acknowledged (named : Named allMaps s) (acked : acknowledged s event = some locations) :
    locations ≠ [] ∧ ∀ map ∈ locations, map ∈ allMaps := by
  obtain ⟨index,io,c,socket,_,present,waiting,_,_,maps⟩ := acknowledged_parts acked
  have member := List.mem_of_getElem? present
  obtain ⟨others,same,nonempty⟩ := (named.ready c member).listed waiting
  obtain rfl : locations = others := Option.some.inj (maps.symm.trans same)
  exact ⟨nonempty,named.waiting c member locations maps⟩

theorem step_allMaps (ran : LoginServer.step env s event = .ok (t,fresh)) : t.allMaps = s.allMaps := by
  cases event with
  | accept | purge | database => cases Except.ok.inj ran; rfl
  | connected ios => exact (step_connected ran).1.frame.allMaps
  | incoming index io =>
    rcases step_incoming ran with ⟨_,rfl,_⟩ | ⟨c,handled,_,visit,rfl,_⟩
    · rfl
    · exact visit_allMaps visit

theorem step_waiting (named : Named allMaps s) (ran : LoginServer.step env s event = .ok (t,fresh))
    (member : c ∈ t.incomingConnections) (set : c.maps = some locations) : ∀ map ∈ locations, map ∈ allMaps := by
  rcases step_entries ran member with rfl | old | ⟨before,io,effects,within,turned,_⟩
  · cases set
  · exact named.waiting c old locations set
  · obtain ⟨handled,visit,rfl,_⟩ := turn_visit turned
    rcases visit_listed visit set with kept | listed
    · exact named.waiting before within locations kept
    · exact named.maps ▸ listed

theorem named_step (named : Named allMaps s) (ran : LoginServer.step env s event = .ok (t,fresh)) : Named allMaps t := by
  refine ⟨(step_allMaps ran).trans named.maps,step_ready named.ready ran,
    fun c member locations set => step_waiting named ran member set,?_,?_⟩
  · have mapping := step_mapping ran
    cases acked : acknowledged s event with
    | none =>
      rw [acked] at mapping
      cases mapping with
      | same servers index => rw [servers]; exact named.served
    | some locations =>
      have known := (named.acknowledged acked).2
      rw [acked] at mapping
      cases mapping with
      | added server servers index =>
        rw [servers,StdVector.emplaceBack_items]
        intro other member
        rcases List.mem_append.mp member with old | new
        · exact named.served other old
        · obtain rfl := List.mem_singleton.mp new
          exact known
  · have mapping := step_mapping ran
    generalize acknowledged s event = acked at mapping
    cases mapping with
    | same servers index => rw [servers,index]; exact named.indexed
    | added server servers index =>
      rw [servers,index,StdVector.emplaceBack_items]
      intro name address found
      rcases UnorderedMap.emplaceAll_parts _ _ _ found with old | ⟨member,rfl,_⟩
      · obtain ⟨other,placed,within⟩ := named.indexed name address old
        exact ⟨other,by rw [List.getElem?_append_left (List.getElem?_eq_some_iff.mp placed).1]; exact placed,within⟩
      · exact ⟨server,by simp [StdVector.backAddress,StdVector.size],member⟩

theorem run_named
    (path : Runs.Run (LoginServer.step env) (.start players characters allMaps mapIDToName) events trace t) :
    Named allMaps t := path.invariant start_named (fun named ran => named_step named ran)

-- An acknowledgement that brings at least one map that no server has yet, and
-- one that brings nothing else.
def Useful (s : LoginServer) (event : Event) : Prop :=
  ∀ locations, acknowledged s event = some locations → ∃ map ∈ locations, s.mapNameToConnection map.locationName = none

def Unassigned (s : LoginServer) (event : Event) : Prop :=
  ∀ locations, acknowledged s event = some locations → ∀ map ∈ locations, s.mapNameToConnection map.locationName = none

instance (s : LoginServer) (event : Event) : Decidable (Useful s event) :=
  match acked : acknowledged s event with
  | none => isTrue (by simp [Useful,acked])
  | some locations => decidable_of_iff (∃ map ∈ locations, s.mapNameToConnection map.locationName = none)
      (by simp [Useful,acked])

instance (s : LoginServer) (event : Event) : Decidable (Unassigned s event) :=
  match acked : acknowledged s event with
  | none => isTrue (by simp [Unassigned,acked])
  | some locations => decidable_of_iff (∀ map ∈ locations, s.mapNameToConnection map.locationName = none)
      (by simp [Unassigned,acked])

-- The vector never moved, and each of its servers holds a name of its own.
structure Placed (allMaps : List Location) (s : LoginServer) : Prop where
  capacity : s.mapServers.capacity = allMaps.length
  buffer : s.mapServers.buffer = 0
  pointed : ∀ name address, s.mapNameToConnection name = some address → address.buffer = 0
  holds : ∀ i < s.mapServers.size, ∃ name, s.mapNameToConnection name = some ⟨0,i⟩

theorem start_placed : Placed allMaps (.start players characters allMaps mapIDToName) :=
  ⟨rfl,rfl,by simp [LoginServer.start],by simp [LoginServer.start,StdVector.reserved,StdVector.size]⟩

def places (size : Nat) : List StdVector.Address := (List.range size).map (StdVector.Address.mk 0)

theorem places_distinct (size : Nat) : (places size).Nodup :=
  List.Nodup.map (fun _ _ same => (StdVector.Address.mk.inj same).2) List.nodup_range

theorem Placed.held (placed : Placed allMaps s) (named : Named allMaps s) :
    ∀ place ∈ places s.mapServers.size, ∃ name ∈ allMaps.map (·.locationName), s.mapNameToConnection name = some place := by
  intro place member
  obtain ⟨i,within,rfl⟩ := List.mem_map.mp member
  obtain ⟨name,found⟩ := placed.holds i (List.mem_range.mp within)
  exact ⟨name,named.known found,found⟩

theorem placed_step (named : Named allMaps s) (placed : Placed allMaps s) (useful : Useful s event)
    (ran : LoginServer.step env s event = .ok (t,fresh)) : Placed allMaps t := by
  have mapping := step_mapping ran
  cases acked : acknowledged s event with
  | none =>
    rw [acked] at mapping
    cases mapping with
    | same servers index =>
      exact ⟨servers ▸ placed.capacity,servers ▸ placed.buffer,index ▸ placed.pointed,servers ▸ index ▸ placed.holds⟩
  | some locations =>
    obtain ⟨map,within,absent⟩ := useful locations acked
    have known := List.mem_map_of_mem (f:=(·.locationName)) ((named.acknowledged acked).2 map within)
    -- Every server holds a name of its own and the new name is free, so one place is left.
    have room : s.mapServers.size < s.mapServers.capacity := by
      have bound := UnorderedMap.held_room s.mapNameToConnection (allMaps.map (·.locationName))
        (places s.mapServers.size) (places_distinct _) (placed.held named) known absent
      simpa [places,placed.capacity] using bound
    rw [acked] at mapping
    cases mapping with
    | added server servers index =>
      rw [StdVector.emplaceBack_room _ _ room] at servers index
      have back : (StdVector.backAddress ⟨s.mapServers.items ++ [server],s.mapServers.capacity,s.mapServers.buffer⟩) =
          ⟨0,s.mapServers.size⟩ := by simp [StdVector.backAddress,StdVector.size,placed.buffer]
      rw [back] at index
      refine ⟨by rw [servers]; exact placed.capacity,by rw [servers]; exact placed.buffer,?_,?_⟩
      · intro name address found
        rw [index] at found
        rcases UnorderedMap.emplaceAll_parts _ _ _ found with old | ⟨_,rfl,_⟩
        · exact placed.pointed name address old
        · rfl
      · intro i bound
        rw [index]
        by_cases last : i = s.mapServers.size
        · subst i
          have member : map.locationName ∈ server.mapNames := List.mem_map_of_mem within
          exact ⟨_,UnorderedMap.emplaceAll_fresh _ _ _ member absent⟩
        · have before : i < s.mapServers.size := by
            rw [servers] at bound
            simp only [StdVector.size,List.length_append,List.length_singleton] at bound last ⊢
            omega
          obtain ⟨name,found⟩ := placed.holds i before
          exact ⟨name,UnorderedMap.emplaceAll_found _ _ _ found⟩

structure Stable (s : LoginServer) : Prop where
  size : s.mapServers.size ≤ s.allMaps.length
  buffer : s.mapServers.buffer = 0
  pointers : ∀ name address, s.mapNameToConnection name = some address →
    ∃ server, s.mapServers.deref address = some server ∧ name ∈ server.mapNames

theorem placed_stable (named : Named allMaps s) (placed : Placed allMaps s) : Stable s := by
  refine ⟨?_,placed.buffer,?_⟩
  · have bound := UnorderedMap.held_bound s.mapNameToConnection (allMaps.map (·.locationName))
      (places s.mapServers.size) (places_distinct _) (placed.held named)
    have fewer := bound.trans (List.length_filter_le ..)
    simpa [places,named.maps] using fewer
  · intro name address found
    obtain ⟨server,within,member⟩ := named.indexed name address found
    exact ⟨server,by simp [StdVector.deref,placed.pointed name address found,placed.buffer,within],member⟩

theorem servers_stable
    (useful : Runs.StepsMeet (LoginServer.step env) (.start players characters allMaps mapIDToName) events Useful) :
    Runs.StatesMeet (LoginServer.step env) (.start players characters allMaps mapIDToName) events Stable := by
  have both := Runs.Run.guarded_states (P:=fun s => Named allMaps s ∧ Placed allMaps s) useful
    ⟨start_named,start_placed⟩ (fun valid useful ran => ⟨named_step valid.1 ran,placed_step valid.1 valid.2 useful ran⟩)
  intro before after whole trace middle path
  obtain ⟨named,placed⟩ := both before after whole trace middle path
  exact placed_stable named placed

def town : Location := ⟨1,text "town",text "town.tmx",text "5d41402abc4b2a76b9719d911017c592",1⟩

def towns : Env := .plain [MapServerMapList.document [town]]

def listing (index : Nat) : List Event :=
  [.incoming index (.delivers []),
    .incoming index (.delivers ((ServerPacket.mapServerRegistrationRequest (text "Map") (text "localhost") 10420).buffer .network)),
    .incoming index (.delivers ((ServerPacket.mapServerMapList [town]).buffer .network))]

def acknowledgement (index : Nat) : Event := .incoming index (.delivers (ServerPacket.mapServerAck.buffer .network))

theorem servers_stable_one : Runs.StatesMeet (LoginServer.step towns) (.start .empty [] [town] .empty)
    (.accept :: listing 0 ++ [acknowledgement 0]) Stable := servers_stable (Runs.checkSteps_meet (by decide +kernel))

-- Two map servers offer the same map before either acknowledges it.
def together : List Event := [.accept,.accept] ++ listing 0 ++ listing 1 ++ [acknowledgement 0,acknowledgement 1]

theorem servers_stable_together : ∃ trace t,
    Runs.Run (LoginServer.step towns) (.start .empty [] [town] .empty) together trace t ∧
      (t.mapServers.size = 2 ∧ t.allMaps.length = 1 ∧ t.mapServers.buffer = 1 ∧
        t.mapNameToConnection town.locationName = some ⟨0,0⟩ ∧ t.mapServers.deref ⟨0,0⟩ = none) ∧ ¬ Stable t := by
  obtain ⟨trace,t,path,moved⟩ := Runs.execute_check (LoginServer.step towns) (.start .empty [] [town] .empty)
    together (fun last => decide (last.1.mapServers.size = 2 ∧ last.1.allMaps.length = 1 ∧
      last.1.mapServers.buffer = 1 ∧ last.1.mapNameToConnection town.locationName = some ⟨0,0⟩ ∧
      last.1.mapServers.deref ⟨0,0⟩ = none)) (by decide +kernel)
  have moved := of_decide_eq_true moved
  refine ⟨trace,t,path,moved,fun stable => ?_⟩
  have bound := stable.size
  rw [moved.1,moved.2.1] at bound
  omega

-- Every name that a server serves leads to that server.
def Assigned (s : LoginServer) : Prop :=
  ∀ i server name, s.mapServers.items[i]? = some server → name ∈ server.mapNames →
    s.mapNameToConnection name = some ⟨0,i⟩

theorem unassigned_useful (named : Named allMaps s) (fresh : Unassigned s event) : Useful s event := by
  intro locations acked
  obtain ⟨map,within⟩ := List.exists_mem_of_ne_nil locations (named.acknowledged acked).1
  exact ⟨map,within,fresh locations acked map within⟩

theorem assigned_step (placed : Placed allMaps t) (assigned : Assigned s) (unassigned : Unassigned s event)
    (ran : LoginServer.step env s event = .ok (t,fresh)) : Assigned t := by
  have mapping := step_mapping ran
  cases acked : acknowledged s event with
  | none =>
    rw [acked] at mapping
    cases mapping with
    | same servers index => unfold Assigned; rw [servers,index]; exact assigned
  | some locations =>
    have absent := unassigned locations acked
    rw [acked] at mapping
    cases mapping with
    | added server servers index =>
      have back : (s.mapServers.emplaceBack server).backAddress = ⟨0,s.mapServers.size⟩ := by
        have buffer := servers ▸ placed.buffer
        simp [StdVector.backAddress,StdVector.size,buffer]
      rw [back] at index
      intro i other name within member
      rw [servers,StdVector.emplaceBack_items] at within
      rw [index]
      by_cases old : i < s.mapServers.items.length
      · rw [List.getElem?_append_left old] at within
        exact UnorderedMap.emplaceAll_found _ _ _ (assigned i other name within member)
      · obtain ⟨bound,_⟩ := List.getElem?_eq_some_iff.mp within
        have last : i = s.mapServers.size := by
          simp only [List.length_append,List.length_singleton] at bound
          simp only [StdVector.size]
          omega
        subst i
        obtain rfl : server = other := by simpa [StdVector.size] using within
        obtain ⟨map,inside,rfl⟩ := List.mem_map.mp member
        exact UnorderedMap.emplaceAll_fresh _ _ _ (List.mem_map_of_mem inside) (absent map inside)

structure Exclusive (s : LoginServer) : Prop where
  single : ∀ (i j : Nat) (one two : MapServerConnection) name, s.mapServers.items[i]? = some one →
    s.mapServers.items[j]? = some two → name ∈ one.mapNames → name ∈ two.mapNames → i = j
  given : ∀ (i : Nat) (server : MapServerConnection) name, s.mapServers.items[i]? = some server → name ∈ server.mapNames →
    ∃ address, s.mapNameToConnection name = some address ∧ address.index = i ∧
      s.mapServers.deref address = some server

theorem assigned_exclusive (placed : Placed allMaps s) (assigned : Assigned s) : Exclusive s := by
  refine ⟨?_,?_⟩
  · intro i j one two name first second member again
    have left := assigned i one name first member
    have right := assigned j two name second again
    exact (StdVector.Address.mk.inj (Option.some.inj (left.symm.trans right))).2
  · intro i server name within member
    exact ⟨⟨0,i⟩,assigned i server name within member,rfl,by simp [StdVector.deref,placed.buffer,within]⟩

theorem unassigned_exclusive
    (unassigned : Runs.StepsMeet (LoginServer.step env) (.start players characters allMaps mapIDToName) events Unassigned) :
    Runs.StatesMeet (LoginServer.step env) (.start players characters allMaps mapIDToName) events Exclusive := by
  have all := Runs.Run.guarded_states (P:=fun s => Named allMaps s ∧ Placed allMaps s ∧ Assigned s) unassigned
    ⟨start_named,start_placed,by intro i server name within; simp [LoginServer.start,StdVector.reserved] at within⟩
    (fun ⟨named,placed,assigned⟩ unassigned ran =>
      have still := placed_step named placed (unassigned_useful named unassigned) ran
      ⟨named_step named ran,still,assigned_step still assigned unassigned ran⟩)
  intro before after whole trace middle path
  obtain ⟨named,placed,assigned⟩ := all before after whole trace middle path
  exact assigned_exclusive placed assigned

theorem acknowledged_runs (env : Env) (named : Named allMaps s) (acked : acknowledged s event = some locations) :
    ∃ t fresh, LoginServer.step env s event = .ok (t,fresh) := by
  obtain ⟨index,io,c,socket,rfl,present,waiting,turn,got,_⟩ := acknowledged_parts acked
  have ready := named.ready c (List.mem_of_getElem? present)
  cases ran : processIncoming env s.toWorld c io with
  | ok handled =>
    refine ⟨s.store index handled,handled.effects.map (Prod.mk (LoginServer.connectionId c)),?_⟩
    simp [LoginServer.step,present,ran]
  | error fault =>
    have alive := turn.alive
    unfold polled at alive
    simp only [processIncoming,waiting,turn.owned,alive] at ran
    exact absurd (by simpa [waiting] using ran) (mapWaitAck_runs (socket_ready ready) waiting rfl)

theorem assigned_twice (named : Named allMaps s) (acked : acknowledged s event = some locations)
    (within : map ∈ locations) (found : s.mapNameToConnection map.locationName = some address)
    (ran : LoginServer.step env s event = .ok (t,fresh)) : ¬ Exclusive t := by
  intro exclusive
  obtain ⟨holder,placed,member⟩ := named.indexed _ _ found
  have bound := (List.getElem?_eq_some_iff.mp placed).1
  have mapping := step_mapping ran
  rw [acked] at mapping
  cases mapping with
  | added server servers index =>
    have same := exclusive.single address.index s.mapServers.items.length holder server map.locationName
      (by rw [servers,StdVector.emplaceBack_items,List.getElem?_append_left bound]; exact placed)
      (by simp [servers]) member (List.mem_map_of_mem within)
    omega

theorem exclusive_unassigned
    (exclusive : Runs.StatesMeet (LoginServer.step env) (.start players characters allMaps mapIDToName) events Exclusive) :
    Runs.StepsMeet (LoginServer.step env) (.start players characters allMaps mapIDToName) events Unassigned := by
  rintro before event after rfl trace middle path locations acked map within
  have named := run_named path
  cases found : middle.mapNameToConnection map.locationName with
  | none => rfl
  | some address =>
    obtain ⟨next,fresh,ran⟩ := acknowledged_runs env named acked
    exact absurd (exclusive (before ++ [event]) after (by simp) _ next (.snoc path ran))
      (assigned_twice named acked within found ran)

theorem maps_exclusive :
    Runs.StatesMeet (LoginServer.step env) (.start players characters allMaps mapIDToName) events Exclusive ↔
      Runs.StepsMeet (LoginServer.step env) (.start players characters allMaps mapIDToName) events Unassigned :=
  ⟨exclusive_unassigned,unassigned_exclusive⟩

theorem maps_exclusive_together : ∃ trace t,
    Runs.Run (LoginServer.step towns) (.start .empty [] [town] .empty) together trace t ∧
      t.mapServers.items.map MapServerConnection.mapNames = [[town.locationName],[town.locationName]] ∧ ¬ Exclusive t := by
  obtain ⟨trace,t,path,shared⟩ := Runs.execute_check (LoginServer.step towns) (.start .empty [] [town] .empty)
    together (fun last => decide
      (last.1.mapServers.items.map MapServerConnection.mapNames = [[town.locationName],[town.locationName]]))
    (by decide +kernel)
  have shared := of_decide_eq_true shared
  refine ⟨trace,t,path,shared,fun exclusive => ?_⟩
  obtain ⟨one,two,items⟩ : ∃ one two, t.mapServers.items = [one,two] := by
    have size := congrArg List.length shared
    simp only [List.length_map,List.length_cons,List.length_nil] at size
    exact List.length_eq_two.mp size
  simp only [items,List.map_cons,List.map_nil,List.cons.injEq,and_true] at shared
  have same := exclusive.single 0 1 one two town.locationName (by simp [items]) (by simp [items]) (by simp [shared.1])
    (by simp [shared.2])
  omega

end PlayPG.MapAssignment
