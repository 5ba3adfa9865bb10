import PlayPG.Handshake

namespace PlayPG.RegistrationAgreement
open Bytes MapServer MapAssignment Sockets Network Handshake

structure System where
  network : Network
  peers : List Peer

def System.start (server : LoginServer) (configs : List MapServer) : System :=
  ⟨.start server,configs.map (fun config => ⟨config,.connecting,none⟩)⟩

-- Any event of the login server, or a map server that connects or gets past a wait.
inductive Action where
  | server (event : Event)
  | connect (index : Nat) (reached : Bool)
  | proceed (index : Nat) (arrives : Bool)

def System.step (env : Env) (build : Build) : Runs.Machine System Action (Nat × Effect) Fault
  | s,.server event =>
    match s.network.serve env event with
    | .error fault => .error fault
    | .ok (network,fresh) => .ok ({s with network := network},fresh)
  | s,.connect index reached =>
    match s.peers[index]? with
    | none => .ok (s,[])
    | some peer =>
      let next := peer.connect s.network reached
      .ok (⟨next.1,s.peers.set index next.2⟩,[])
  | s,.proceed index arrives =>
    match s.peers[index]? with
    | none => .ok (s,[])
    | some peer =>
      let next := peer.proceed build s.network arrives
      .ok (⟨next.1,s.peers.set index next.2⟩,[])

variable {env : Env} {build : Build} {n m : Network} {id index : Nat}

-- One map server among the others.
structure Placed (env : Env) (build : Build) (configs : List MapServer) (n : Network) (peer : Peer) : Prop where
  member : peer.config ∈ configs
  accepted : ∀ id, peer.socket = some id → id < n.server.socketsAccepted
  linked : ∀ id, peer.socket = some id → peer.point.ended = false → id ∈ n.links
  coupled : Coupled env build n peer

structure Coherent (env : Env) (build : Build) (allMaps : List Location) (configs : List MapServer) (s : System) : Prop where
  accounted : ∃ trace, Ownership.Accounted trace s.network.server
  known : s.network.server.allMaps = allMaps
  placed : ∀ (index : Nat) (peer : Peer), s.peers[index]? = some peer → Placed env build configs s.network peer
  apart : ∀ (one two : Nat) (peer other : Peer) id, s.peers[one]? = some peer → s.peers[two]? = some other →
    peer.socket = some id → other.socket = some id → one = two

theorem start_coherent (env : Env) (build : Build) (configs : List MapServer) :
    Coherent env build allMaps configs (.start (.start players characters allMaps mapIDToName) configs) := by
  have peers : ∀ (index : Nat) (peer : Peer), (System.start (.start players characters allMaps mapIDToName) configs).peers[index]? = some peer →
      ∃ config ∈ configs, peer = ⟨config,.connecting,none⟩ := by
    intro index peer found
    obtain ⟨config,present,same⟩ := List.mem_map.mp (List.mem_of_getElem? found)
    exact ⟨config,present,same.symm⟩
  refine ⟨⟨[],Ownership.start_accounted⟩,rfl,?_,?_⟩
  · intro index peer found
    obtain ⟨config,present,rfl⟩ := peers index peer found
    exact ⟨present,nofun,nofun,.connecting⟩
  · intro one two peer other id first _ owned
    obtain ⟨config,_,rfl⟩ := peers one peer first
    cases owned

-- What a step changes for the map server at an index, and what it may not for the others.
structure Moves (env : Env) (build : Build) (n m : Network) (peer next : Peer) : Prop where
  accounted : ∃ trace, Ownership.Accounted trace m.server
  known : m.server.allMaps = n.server.allMaps
  grown : n.server.socketsAccepted ≤ m.server.socketsAccepted
  config : next.config = peer.config
  own : ∀ id, next.socket = some id → id < m.server.socketsAccepted ∧ (next.point.ended = false → id ∈ m.links) ∧
    (peer.socket = some id ∨ n.server.socketsAccepted ≤ id)
  coupled : Coupled env build m next
  others : ∀ id, id < n.server.socketsAccepted → peer.socket ≠ some id → Unmoved n m id ∧ (id ∈ n.links → id ∈ m.links)

theorem moves_coherent {s : System} (coherent : Coherent env build allMaps configs s) (present : s.peers[index]? = some peer)
    (moves : Moves env build s.network m peer next) : Coherent env build allMaps configs ⟨m,s.peers.set index next⟩ := by
  have entries : ∀ (place : Nat) (entry : Peer), (s.peers.set index next)[place]? = some entry →
      (place = index ∧ entry = next) ∨ (place ≠ index ∧ s.peers[place]? = some entry) := by
    intro place entry found
    by_cases same : index = place
    · obtain rfl := same
      rw [List.getElem?_set_self (List.getElem?_eq_some_iff.mp present).1] at found
      exact .inl ⟨rfl,(Option.some.inj found).symm⟩
    · rw [List.getElem?_set_ne same] at found
      exact .inr ⟨Ne.symm same,found⟩
  -- The socket of another entry is not the one of the entry that moves, before and after.
  have elsewhere : ∀ (place : Nat) (entry : Peer) id, place ≠ index → s.peers[place]? = some entry → entry.socket = some id →
      peer.socket ≠ some id := fun place entry id differs found owned mine =>
    differs (coherent.apart place index entry peer id found present owned mine)
  have fresh : ∀ (place : Nat) (entry : Peer) id, place ≠ index → s.peers[place]? = some entry → entry.socket = some id →
      next.socket ≠ some id := by
    intro place entry id differs found owned mine
    rcases (moves.own id mine).2.2 with old | new
    · exact elsewhere place entry id differs found owned old
    · have accepted := (coherent.placed place entry found).accepted id owned
      omega
  refine ⟨moves.accounted,moves.known.trans coherent.known,?_,?_⟩
  · intro place entry found
    rcases entries place entry found with ⟨rfl,rfl⟩ | ⟨differs,found⟩
    · exact ⟨moves.config ▸ (coherent.placed place peer present).member,fun id owned => (moves.own id owned).1,
        fun id owned => (moves.own id owned).2.1,moves.coupled⟩
    · have placed := coherent.placed place entry found
      have still : ∀ id, entry.socket = some id → Unmoved s.network m id ∧ (id ∈ s.network.links → id ∈ m.links) :=
        fun id owned => moves.others id (placed.accepted id owned) (elsewhere place entry id differs found owned)
      exact ⟨placed.member,fun id owned => Nat.lt_of_lt_of_le (placed.accepted id owned) moves.grown,
        fun id owned live => (still id owned).2 (placed.linked id owned live),placed.coupled.unmoved fun id owned => (still id owned).1⟩
  · intro one two entry other id first second owned mine
    rcases entries one entry first with ⟨rfl,rfl⟩ | ⟨differs,early⟩ <;>
      rcases entries two other second with ⟨rfl,rfl⟩ | ⟨unlike,late⟩
    · rfl
    · exact absurd owned (fresh two other id unlike late mine)
    · exact absurd mine (fresh one entry id differs early owned)
    · exact coherent.apart one two entry other id early late owned mine

theorem Coherent.sole {s : System} (coherent : Coherent env build allMaps configs s) : Sole s.network.server := by
  obtain ⟨trace,valid⟩ := coherent.accounted
  exact accounted_sole valid

theorem server_coherent {s : System} (shared : Shared env build allMaps configs)
    (coherent : Coherent env build allMaps configs s) (ran : serve env s.network event = .ok (m,fresh))
    (whole : ∀ entry ∈ fresh, Whole build entry.2) : Coherent env build allMaps configs ⟨m,s.peers⟩ := by
  have stepped := (serve_parts ran).1
  obtain ⟨trace,valid⟩ := coherent.accounted
  have after := Ownership.step_accounted valid stepped
  have grown := accounted_grows valid after
  refine ⟨⟨_,after⟩,(MapAssignment.step_allMaps stepped).trans coherent.known,?_,coherent.apart⟩
  intro index peer found
  have placed := coherent.placed index peer found
  refine ⟨placed.member,fun id owned => Nat.lt_of_lt_of_le (placed.accepted id owned) grown,
    fun id owned live => serve_links ran ▸ placed.linked id owned live,?_⟩
  obtain ⟨config,point,socket⟩ := peer
  cases socket with
  | none => exact placed.coupled.unmoved nofun
  | some id =>
    exact serve_coupled shared coherent.known coherent.sole (accounted_sole after) placed.coupled placed.member
      (placed.linked id rfl) (placed.accepted id rfl) ran whole

-- A step without effect on the network: the socket stays, and a point that has ended stays ended.
theorem Moves.still (coherent : Coherent env build allMaps configs s) (placed : Placed env build configs s.network peer)
    (config : next.config = peer.config) (socket : next.socket = peer.socket)
    (live : next.point.ended = false → peer.point.ended = false) (coupled : Coupled env build s.network next) :
    Moves env build s.network s.network peer next :=
  ⟨coherent.accounted,rfl,Nat.le_refl _,config,fun id owned => ⟨placed.accepted id (socket ▸ owned),
    fun ended => placed.linked id (socket ▸ owned) (live ended),.inl (socket ▸ owned)⟩,coupled,
    fun _ _ _ => ⟨⟨fun _ holds => holds,fun _ serves => serves,fun finished => finished,rfl,rfl⟩,fun linked => linked⟩⟩

theorem connect_moves {s : System} (coherent : Coherent env build allMaps configs s) (present : s.peers[index]? = some peer)
    (reached : Bool) : Moves env build s.network (peer.connect s.network reached).1 peer (peer.connect s.network reached).2 := by
  have placed := coherent.placed index peer present
  unfold Peer.connect
  split
  · obtain ⟨trace,valid⟩ := coherent.accounted
    have ran : LoginServer.step env s.network.server .accept = .ok s.network.server.acceptSocket := rfl
    refine ⟨⟨_,Ownership.step_accounted valid ran⟩,rfl,Nat.le_succ _,rfl,?_,?_,?_⟩
    · rintro id owned
      obtain rfl := Option.some.inj owned
      exact ⟨Nat.lt_succ_self _,fun _ => List.mem_cons_self ..,.inr (Nat.le_refl _)⟩
    · refine .fresh (c:=.ofSocket ⟨s.network.server.socketsAccepted,false,true⟩) ⟨⟨?_,rfl⟩,rfl,rfl,?_,?_⟩
      · exact List.mem_append_right _ (List.mem_singleton_self _)
      · exact Function.update_self ..
      · exact Function.update_self ..
    · exact fun id accepted _ => ⟨connect_unmoved env coherent.sole accepted,fun linked => List.mem_cons_of_mem _ linked⟩
  · exact .still coherent placed rfl rfl nofun .failed
  · exact .still coherent placed rfl rfl (fun live => live) placed.coupled

theorem local_unmoved {other : Nat} (locally : Local n m id) (differs : other ≠ id) : Unmoved n m other := by
  refine ⟨?_,?_,?_,locally.up other differs,locally.down other differs⟩
  all_goals
    rw [locally.server]
    intros
    assumption

theorem waits_live {point : Point} (waits : point.waits = true) : point.ended = false := by
  cases point <;> first | rfl | cases waits

theorem proceed_moves {s : System} (shared : Shared env build allMaps configs)
    (coherent : Coherent env build allMaps configs s) (present : s.peers[index]? = some peer) (arrives : Bool) :
    Moves env build s.network (peer.proceed build s.network arrives).1 peer (peer.proceed build s.network arrives).2 := by
  have placed := coherent.placed index peer present
  obtain ⟨config,point,socket⟩ := peer
  cases socket with
  | none => exact .still coherent placed rfl rfl (fun live => live) placed.coupled
  | some id =>
    by_cases waits : point.waits = true
    · obtain ⟨sameSocket,sameConfig⟩ := proceed_still build s.network ⟨config,point,some id⟩ arrives
      have locally : Local s.network (Peer.proceed build s.network ⟨config,point,some id⟩ arrives).1 id :=
        proceed_local rfl arrives
      refine ⟨locally.server ▸ coherent.accounted,by rw [locally.server],by rw [locally.server],sameConfig,?_,
        proceed_coupled shared placed.coupled waits arrives,?_⟩
      · intro other owned
        obtain rfl := Option.some.inj (sameSocket.symm.trans owned)
        exact ⟨locally.server ▸ placed.accepted id rfl,proceed_linked rfl (placed.linked id rfl (waits_live waits)),.inl rfl⟩
      · intro other _ differs
        have unlike : other ≠ id := fun same => differs (by rw [same])
        exact ⟨local_unmoved locally unlike,locally.links other unlike⟩
    · have same : Peer.proceed build s.network ⟨config,point,some id⟩ arrives = (s.network,⟨config,point,some id⟩) := by
        simp [Peer.proceed,waits]
      rw [same]
      exact .still coherent placed rfl rfl (fun live => live) placed.coupled

theorem step_coherent {s : System} (shared : Shared env build allMaps configs)
    (coherent : Coherent env build allMaps configs s) (ran : System.step env build s action = .ok (t,fresh))
    (whole : ∀ entry ∈ fresh, Whole build entry.2) : Coherent env build allMaps configs t := by
  cases action with
  | server event =>
    simp only [System.step] at ran
    split at ran
    · cases ran
    · rename_i network served handled
      cases Except.ok.inj ran
      exact server_coherent shared coherent handled whole
  | connect index reached =>
    simp only [System.step] at ran
    split at ran
    · cases Except.ok.inj ran
      exact coherent
    · rename_i peer present
      cases Except.ok.inj ran
      exact moves_coherent coherent present (connect_moves coherent present reached)
  | proceed index arrives =>
    simp only [System.step] at ran
    split at ran
    · cases Except.ok.inj ran
      exact coherent
    · rename_i peer present
      cases Except.ok.inj ran
      exact moves_coherent coherent present (proceed_moves shared coherent present arrives)

-- What the login server has of a map server: its maps, and what was in its request.
structure Recorded (config : MapServer) (responseMapList maps : List Location) (friendlyName hostname : Bytes) (port : UInt16) :
    Prop where
  maps : responseMapList = maps.map unnumbered
  name : friendlyName = config.friendlyName
  address : hostname = config.hostName
  port : port = config.port

def Awaited (build : Build) (n : Network) (id : Nat) (config : MapServer) (responseMapList : List Location) : Prop :=
  ∃ c maps friendlyName hostname port, At n id c .MAP_WAIT_ACK [ServerPacket.mapServerAck.buffer build.apg] [] ∧
    c.maps = some maps ∧ c.mapServerFriendlyName = some friendlyName ∧ c.mapServerListenAddress = some hostname ∧
    c.mapServerPort = some port ∧ Recorded config responseMapList maps friendlyName hostname port

def Entered (n : Network) (id : Nat) (config : MapServer) (responseMapList : List Location) : Prop :=
  ∃ server, Serves n.server id server ∧
    Recorded config responseMapList server.maps server.friendlyName server.hostname server.port

-- Both sides agree once registerWithMasterServer has returned.
structure Agreed (build : Build) (n : Network) (peer : Peer) : Prop where
  registered : ∀ responseMapList, peer.point = .registered responseMapList → ∃ id, peer.socket = some id ∧
    (Awaited build n id peer.config responseMapList ∨ Entered n id peer.config responseMapList)
  notNeeded : peer.point = .notNeeded → ∃ id, peer.socket = some id ∧ Finished n.server id

theorem coupled_agreed (coupled : Coupled env build n peer) : Agreed build n peer := by
  cases coupled with
  | acknowledged at_ request maps =>
    refine ⟨fun responseMapList same => ⟨_,rfl,.inl ?_⟩,nofun⟩
    cases same
    exact ⟨_,_,_,_,_,at_,maps,request.name,request.address,request.port,rfl,rfl,rfl,rfl⟩
  | @served _ _ server serves name address port =>
    refine ⟨fun responseMapList same => ⟨_,rfl,.inr ⟨server,serves,?_⟩⟩,nofun⟩
    cases same
    exact ⟨rfl,name,address,port⟩
  | unneeded finished => exact ⟨nofun,fun _ => ⟨_,rfl,finished⟩⟩
  | _ => exact ⟨nofun,nofun⟩

theorem run_coherent (shared : Shared env build allMaps configs)
    (path : Runs.Run (System.step env build) (.start (.start players characters allMaps mapIDToName) configs) actions trace s) :
    (∀ entry ∈ trace, Whole build entry.2) → Coherent env build allMaps configs s := by
  refine path.history (P:=fun trace s => (∀ entry ∈ trace, Whole build entry.2) → Coherent env build allMaps configs s)
    (fun _ => start_coherent env build configs) ?_
  intro events trace middle action next fresh prior kept ran whole
  obtain ⟨early,late⟩ := List.forall_mem_append.mp whole
  exact step_coherent shared (kept early) ran late

theorem registration_agreement (shared : Shared env build allMaps configs)
    (path : Runs.Run (System.step env build) (.start (.start players characters allMaps mapIDToName) configs) actions trace s)
    (whole : ∀ entry ∈ trace, Whole build entry.2) : ∀ peer ∈ s.peers, Agreed build s.network peer := by
  intro peer member
  obtain ⟨index,found⟩ := List.getElem?_of_mem member
  exact coupled_agreed ((run_coherent shared path whole).placed index peer found).coupled

-- Two servers with the same map; the second one comes late.
def surveyor : MapServer := ⟨text "Map",text "localhost",10420,[town],[]⟩

def surveyors : Build :=
  ⟨.network,Json.known [towns.challenge.document,MapServerMapList.document [town]],text "0.0.1",[]⟩

def exchange (index : Nat) : List Action :=
  .connect index true :: .server (.incoming index (.delivers [])) ::
    (List.replicate 3 [.proceed index true,.server (.incoming index (.delivers []))]).flatten

theorem surveyors_shared : Shared towns surveyors [town] [surveyor,surveyor] := by
  refine ⟨rfl,?_,?_⟩
  · unfold Codecs.Message.Clean
    decide +kernel
  · decide +kernel

theorem town_whole : Codecs.Message.Fits (.mapList [town]) ∧ Codecs.Message.Parsed surveyors.parse (.mapList [town]) := by
  constructor
  · rintro d same
    cases same
    decide +kernel
  · rintro d same
    cases same
    have single : ([towns.challenge.document,MapServerMapList.document [town]].map Json.write).Nodup := by decide +kernel
    exact Codecs.known_member single (List.mem_cons_of_mem _ (List.mem_singleton_self _))

theorem registration_agreement_surveyors : ∃ trace s,
    Runs.Run (System.step towns surveyors) (.start (.start .empty [] [town] .empty) [surveyor,surveyor])
      (exchange 0 ++ exchange 1) trace s ∧
      s.peers.map (·.point.result) = [some true,some false] ∧ ∀ peer ∈ s.peers, Agreed surveyors s.network peer := by
  obtain ⟨trace,s,path,checked⟩ := Runs.execute_check (System.step towns surveyors)
    (.start (.start .empty [] [town] .empty) [surveyor,surveyor]) (exchange 0 ++ exchange 1)
    (fun last => decide (last.1.peers.map (·.point.result) = [some true,some false] ∧
      last.2.filterMap (fun entry => listed entry.2) = [[town]])) (by decide +kernel)
  obtain ⟨results,lists⟩ := of_decide_eq_true checked
  refine ⟨trace,s,path,results,registration_agreement surveyors_shared path fun entry member locations same => ?_⟩
  have found : locations ∈ trace.filterMap (fun entry => listed entry.2) := List.mem_filterMap.mpr ⟨entry,member,same⟩
  obtain rfl := List.mem_singleton.mp (lists ▸ found)
  exact town_whole

end PlayPG.RegistrationAgreement
