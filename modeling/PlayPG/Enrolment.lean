import PlayPG.Passage
import PlayPG.RegistrationAgreement

-- A registration from any state that the login server has come to: it always gets to its decision.
namespace PlayPG.Enrolment
open Bytes IncomingHandler MapServer Handshake Network Codecs Admission

variable {env : Env} {build : Build} {config : MapServer} {world : World} {n : Network} {place index id : Nat}
  {io : SocketIO} {s t : RegistrationAgreement.System}

-- The maps of its that the login server asks for.
def wanted (world : World) (config : MapServer) : List Location := requiredMaps world (config.maps.map unnumbered)

-- The two programs are of one version and one key, and what they send each other is whole.
structure Chartered (env : Env) (build : Build) (config : MapServer) (world : World) : Prop where
  apg : build.apg = env.apg
  key : config.publicKeyPEM = env.crypto.publicKey
  text : 0 ∉ env.crypto.publicKey
  version : cString env.versionString = cString build.versionString
  hash : cString env.gitHash = cString build.gitHash
  challenge : Message.Fits (.challenge env.challenge) ∧ Message.Parsed build.parse (.challenge env.challenge)
  name : config.friendlyName.length < 2^16
  address : config.hostName.length < 2^16
  offer : Carried {build with parse := env.parse} config.maps
  answer : wanted world config ≠ [] → Carried build (wanted world config)

-- The connection of the map server, from packet to packet.
def requested (config : MapServer) (id : Nat) : IncomingConnection := {greeted id with
  state := .MAP_LIST
  mapServerFriendlyName := some config.friendlyName
  mapServerListenAddress := some config.hostName
  mapServerPort := some config.port}

def offered (config : MapServer) (id : Nat) (maps : List Location) : IncomingConnection := {requested config id with
  state := .MAP_WAIT_ACK
  maps := some maps}

def enrolled (config : MapServer) (id : Nat) (maps : List Location) : MapServerConnection :=
  ⟨⟨id,false,true⟩,maps,config.friendlyName,config.hostName,config.port⟩

def request (build : Build) (config : MapServer) : Bytes :=
  (ServerPacket.mapServerRegistrationRequest config.friendlyName config.hostName config.port).buffer build.apg

theorem heard_turn (turns : Turns n place id c world [packet] []) (some : packet ≠ []) (active : io.activity = true) :
    n.heard id io = { SocketIO.delivers packet with diceRoll := io.diceRoll,now := io.now} ∧
      ( SocketIO.delivers packet).recv.result ≠ 0 := by
  have awake : (n.heard id io).activity = true := by
    simp [heard,turns.queues.up,active]
  exact ⟨heard_packet turns.queues.up awake,(PeerRegistration.delivers_got packet).mpr some⟩

theorem request_serve (chartered : Chartered env build config world)
    (turns : Turns n place id (greeted id) world [request build config] []) (active : io.activity = true) :
    ∃ m fresh, serve env n (.incoming place io) = .ok (m,fresh) ∧ Turns m place id (requested config id) world []
      [(ServerPacket.mapServerRegistrationResponse (text "hello, world")).buffer env.apg] := by
  obtain ⟨heard,got⟩ := heard_turn turns (buffer_some _ _) active
  have opcode : env.apg.getShort (request build config) = ServerOpcode.MAP_SERVER_REGISTRATION_REQUEST.code := by
    rw [request,chartered.apg]
    exact ServerPacket.opcode_whole ..
  have read : readRegistrationRequest env (request build config) = ⟨config.friendlyName,config.hostName,config.port⟩ :=
    request_read chartered.apg chartered.name chartered.address
  have ran : processIncoming env world (greeted id) (n.heard id io) = .ok ⟨world,requested config id,
      [.received (request build config),.sent (.mapServerRegistrationResponse (text "hello, world")) 1]⟩ := by
    rw [heard]
    simp [processIncoming,processChallengeSentSocket,processMapAuthenticationRequest,exhausted,Handled.after,greeted,
      IncomingConnection.ofSocket,got,opcode,read,requested,IncomingConnection.MAX_ATTEMPTS_ALLOWED,ClientOpcode.code,
      ServerOpcode.code]
  obtain ⟨m,fresh,served,after⟩ := turns.serve rfl ran
  exact ⟨m,fresh,served,after⟩

def offer (build : Build) (config : MapServer) : Bytes := (ServerPacket.mapServerMapList config.maps).buffer build.apg

theorem offer_decoded (chartered : Chartered env build config world) :
    MapServerMapList.fromJSON env.parse (receivedJSON env (offer build config)) = .ok (config.maps.map unnumbered) := by
  have body : sizedBody env.apg (offer build config) = MapServerMapList.toJSON config.maps := by
    rw [offer,chartered.apg]
    exact sized_read env.apg _ (chartered.offer.fits _ rfl)
  rw [receivedJSON,body]
  exact mapList_read chartered.offer.clean (text_parsed (chartered.offer.parsed _ rfl) (mapList_free _))

-- The login server looks at the list, and asks for what no other map server has.
theorem offer_processed (chartered : Chartered env build config world)
    (turns : Turns n place id (requested config id) world [offer build config] []) (active : io.activity = true) :
    processIncoming env world (requested config id) (n.heard id io) = .ok
      (if wanted world config = [] then
        ⟨world,{requested config id with state := .DONE},[.received (offer build config),.sent .mapServerNotNeeded 1]⟩
      else ⟨world,offered config id (wanted world config),
        [.received (offer build config),.sent (.mapServerMapList (wanted world config)) 1]⟩) := by
  obtain ⟨heard,got⟩ := heard_turn turns (buffer_some _ _) active
  have opcode : env.apg.getShort (offer build config) = ServerOpcode.MAP_SERVER_MAP_LIST.code := by
    rw [offer,chartered.apg]
    exact ServerPacket.opcode_whole ..
  have decoded := offer_decoded chartered
  rw [heard]
  by_cases none : wanted world config = []
  · have nothing : requiredMaps world (config.maps.map unnumbered) = [] := none
    rw [if_pos none]
    simp [processIncoming,processMapListSocket,requested,greeted,IncomingConnection.ofSocket,got,opcode,decoded,nothing]
  · have some : requiredMaps world (config.maps.map unnumbered) ≠ [] := none
    rw [if_neg none]
    simp [processIncoming,processMapListSocket,requested,greeted,IncomingConnection.ofSocket,got,opcode,decoded,some,
      offered,wanted]

theorem refusal_serve (chartered : Chartered env build config world)
    (turns : Turns n place id (requested config id) world [offer build config] []) (active : io.activity = true)
    (none : wanted world config = []) : ∃ m fresh, serve env n (.incoming place io) = .ok (m,fresh) ∧
      Turns m place id {requested config id with state := .DONE} world [] [ServerPacket.mapServerNotNeeded.buffer env.apg] := by
  have ran := offer_processed chartered turns active
  rw [if_pos none] at ran
  obtain ⟨m,fresh,served,after⟩ := turns.serve rfl ran
  exact ⟨m,fresh,served,after⟩

theorem offer_serve (chartered : Chartered env build config world)
    (turns : Turns n place id (requested config id) world [offer build config] []) (active : io.activity = true)
    (some : wanted world config ≠ []) : ∃ m fresh, serve env n (.incoming place io) = .ok (m,fresh) ∧
      Turns m place id (offered config id (wanted world config)) world []
        [(ServerPacket.mapServerMapList (wanted world config)).buffer env.apg] := by
  have ran := offer_processed chartered turns active
  rw [if_neg some] at ran
  obtain ⟨m,fresh,served,after⟩ := turns.serve rfl ran
  exact ⟨m,fresh,served,after⟩

theorem acknowledgement_serve {maps : List Location} (apg : ByteBuffer)
    (turns : Turns n place id (offered config id maps) world [ServerPacket.mapServerAck.buffer apg] [])
    (active : io.activity = true) :
    ∃ m fresh, serve env n (.incoming place io) = .ok (m,fresh) ∧
      m.server.toWorld = world.addMapServer (enrolled config id maps) := by
  obtain ⟨heard,got⟩ := heard_turn turns (buffer_some _ _) active
  have ran : processIncoming env world (offered config id maps) (n.heard id io) =
      .ok ⟨world.addMapServer (enrolled config id maps),{offered config id maps with
          socket := none
          maps := some []
          state := .DONE},[.received (ServerPacket.mapServerAck.buffer apg),.mapServerRegistered]⟩ := by
    rw [heard]
    simp [processIncoming,processMapWaitAckSocket,offered,requested,greeted,IncomingConnection.ofSocket,require,got,bind,
      Except.bind,enrolled]
  obtain ⟨m,fresh,served,after⟩ := turns.serve rfl ran
  exact ⟨m,fresh,served,after.world⟩

-- A turn at a connection that is done.
theorem done_serve {c : IncomingConnection} (env : Env) (io : SocketIO)
    (present : n.server.incomingConnections[place]? = some c) (done : c.state = .DONE) :
    ∃ m fresh, serve env n (.incoming place io) = .ok (m,fresh) ∧ m.server.toWorld = n.server.toWorld := by
  obtain ⟨answers,wired⟩ := n.wired_incoming place io
  have ran : processIncoming env n.server.toWorld c answers = .ok ⟨n.server.toWorld,c,[]⟩ := by
    simp only [processIncoming,done,if_true]
  have stepped : LoginServer.step env n.server (.incoming place answers) =
      .ok (n.server.store place ⟨n.server.toWorld,c,[]⟩,[]) := by
    simp only [LoginServer.step,present,ran,List.map_nil]
  let m := n.absorb env.apg (n.server.store place ⟨n.server.toWorld,c,[]⟩) []
  have served : serve env n (.incoming place io) = .ok (m,[]) := by
    simp only [serve,wired,stepped,m]
  exact ⟨m,[],served,rfl⟩

-- The map server gets past a wait with the packet that has come.
theorem proceed_turns {c : IncomingConnection} {point after : Point} {packet : Bytes} {sent : List Bytes}
    (turns : Turns n place id c world [] [packet]) (waits : point.waits = true) (live : after.ended = false)
    (passes : config.proceed build point ⟨true,.ofBytes packet⟩ = (after,sent)) :
    ∃ m, Peer.proceed build n ⟨config,point,some id⟩ true = (m,⟨config,after,some id⟩) ∧
      Turns m place id c world sent [] := by
  have got : wait n id true = ⟨true,.ofBytes packet⟩ := by
    simp [wait,turns.queues.down]
  refine ⟨(n.receive id).send id sent,?_,turns.present,turns.world,turns.queues.linked,?_,?_⟩
  · simp only [Peer.proceed,waits,if_true,got,passes,live,Bool.false_eq_true,if_false]
  · simp [send,Network.receive,turns.queues.up]
  · simp [send,Network.receive,turns.queues.down]

-- With a packet that ends the call, the process ends too.
theorem proceed_ends {c : IncomingConnection} {point after : Point} {packet : Bytes} {sent up : List Bytes}
    (turns : Turns n place id c world up [packet]) (waits : point.waits = true) (ended : after.ended = true)
    (passes : config.proceed build point ⟨true,.ofBytes packet⟩ = (after,sent)) :
    ∃ m, Peer.proceed build n ⟨config,point,some id⟩ true = (m,⟨config,after,some id⟩) ∧ m.server = n.server := by
  have got : wait n id true = ⟨true,.ofBytes packet⟩ := by
    simp [wait,turns.queues.down]
  refine ⟨((n.receive id).send id sent).close id,?_,rfl⟩
  simp only [Peer.proceed,waits,if_true,got,passes,ended]

theorem challenge_passes (chartered : Chartered env build config world) :
    config.proceed build .challenge ⟨true,.ofBytes ((ServerPacket.authenticationChallenge env.challenge).buffer env.apg)⟩ =
      (.registration,[request build config]) := by
  have present := (ofBytes_got (buffer_some env.apg (.authenticationChallenge env.challenge))).1
  have opcode := ServerPacket.opcode_whole env.apg (.authenticationChallenge env.challenge)
  have decoded := challenge_carried env.apg chartered.challenge.1 chartered.challenge.2
  have key : carried env.challenge.pubKey = config.publicKeyPEM := by
    rw [chartered.key]
    change carried env.crypto.publicKey = _
    rw [carried,cString_of_free chartered.text,cString_of_free chartered.text]
  have version : cString (carried env.challenge.version) = cString build.versionString :=
    (carried_cString _).trans chartered.version
  have hash : cString (carried env.challenge.versionHash) = cString build.gitHash := (carried_cString _).trans chartered.hash
  simp only [MapServer.proceed,receiveChallenge,present,Recv.bytes_ofBytes,chartered.apg,opcode,ServerPacket.opcode,decoded,
    key,version,hash,request]
  simp

theorem response_passes (chartered : Chartered env build config world) :
    config.proceed build .registration
        ⟨true,.ofBytes ((ServerPacket.mapServerRegistrationResponse (text "hello, world")).buffer env.apg)⟩ =
      (.mapList,[offer build config]) := by
  have positive := (ofBytes_got (buffer_some env.apg (.mapServerRegistrationResponse (text "hello, world")))).2
  have opcode := ServerPacket.opcode_whole env.apg (.mapServerRegistrationResponse (text "hello, world"))
  simp only [MapServer.proceed,receiveRegistration,positive,Recv.bytes_ofBytes,chartered.apg,opcode,ServerPacket.opcode,offer]
  simp

theorem refusal_passes (apg : build.apg = env.apg) :
    config.proceed build .mapList ⟨true,.ofBytes (ServerPacket.mapServerNotNeeded.buffer env.apg)⟩ = (.notNeeded,[]) := by
  have present := (ofBytes_got (buffer_some env.apg .mapServerNotNeeded)).1
  have opcode := ServerPacket.opcode_whole env.apg .mapServerNotNeeded
  simp only [MapServer.proceed,receiveMapList,present,Recv.bytes_ofBytes,apg,opcode,ServerPacket.opcode]
  simp

section System
open RegistrationAgreement

-- The system with this map server at its point.
def seated (s : System) (index : Nat) (config : MapServer) (id : Nat) (n : Network) (point : Point) : System :=
  ⟨n,s.peers.set index ⟨config,point,some id⟩⟩

theorem seated_proceeds {m : Network} {point after : Point} (within : index < s.peers.length)
    (moved : Peer.proceed build n ⟨config,point,some id⟩ true = (m,⟨config,after,some id⟩)) :
    System.step env build (seated s index config id n point) (.proceed index true) =
      .ok (seated s index config id m after,[]) := by
  have present : (s.peers.set index ⟨config,point,some id⟩)[index]? = some ⟨config,point,some id⟩ :=
    List.getElem?_set_self within
  simp only [System.step,seated,present,moved,List.set_set]

theorem seated_serves {m : Network} {point : Point} (served : serve env n event = .ok (m,fresh)) :
    System.step env build (seated s index config id n point) (.server event) =
      .ok (seated s index config id m point,fresh) := by
  simp only [System.step,seated,served]

-- The map server connects, and the login server serves its connection between its waits.
def enrolment (index place : Nat) (io : SocketIO) : List Action :=
  [.connect index true,.server (.incoming place io),.proceed index true,.server (.incoming place io),.proceed index true,
    .server (.incoming place io),.proceed index true,.server (.incoming place io)]

-- What the map server comes to, and what the login server then has.
def decision (world : World) (config : MapServer) (id : Nat) : Point × World :=
  if wanted world config = [] then (.notNeeded,world)
  else (.registered ((wanted world config).map unnumbered),world.addMapServer (enrolled config id (wanted world config)))

theorem enrolment_runs (chartered : Chartered env build config s.network.server.toWorld)
    (present : s.peers[index]? = some ⟨config,.connecting,none⟩) (active : io.activity = true) :
    ∃ trace m, Runs.Run (System.step env build) s (enrolment index s.network.server.incomingConnections.length io) trace
        (seated s index config s.network.server.socketsAccepted m
          (decision s.network.server.toWorld config s.network.server.socketsAccepted).1) ∧
      m.server.toWorld = (decision s.network.server.toWorld config s.network.server.socketsAccepted).2 := by
  have within := (List.getElem?_eq_some_iff.mp present).1
  have connects : System.step env build s (.connect index true) =
      .ok (seated s index config s.network.server.socketsAccepted s.network.connect .challenge,[]) := by
    simp only [System.step,present,Peer.connect,seated]
  obtain ⟨one,_,greets,challenged⟩ := greet_serve env (connect_turns s.network) io
  obtain ⟨two,requests,asked⟩ := proceed_turns challenged rfl rfl (challenge_passes chartered)
  obtain ⟨three,_,responds,answered⟩ := request_serve chartered asked active
  obtain ⟨four,offers,listed⟩ := proceed_turns answered rfl rfl (response_passes chartered)
  have onward : ∀ {actions trace t}, Runs.Run (System.step env build)
      (seated s index config s.network.server.socketsAccepted four .mapList) actions trace t →
      ∃ trace, Runs.Run (System.step env build) s (.connect index true ::
        .server (.incoming s.network.server.incomingConnections.length io) :: .proceed index true ::
        .server (.incoming s.network.server.incomingConnections.length io) :: .proceed index true :: actions) trace t := by
    intro actions trace t rest
    exact ⟨_,.cons connects (.cons (seated_serves greets) (.cons (seated_proceeds within requests)
      (.cons (seated_serves responds) (.cons (seated_proceeds within offers) rest))))⟩
  by_cases none : wanted s.network.server.toWorld config = []
  · obtain ⟨five,_,refuses,refused⟩ := refusal_serve chartered listed active none
    obtain ⟨six,leaves,same⟩ := proceed_ends refused rfl rfl (refusal_passes chartered.apg)
    obtain ⟨seven,_,ends,world⟩ := done_serve env io (same ▸ refused.present) rfl
    obtain ⟨trace,path⟩ := onward (.cons (seated_serves refuses) (.cons (seated_proceeds within leaves)
      (.cons (seated_serves ends) .nil)))
    have left : seven.server.toWorld = s.network.server.toWorld := by
      rw [world,same,refused.world]
    simp only [decision,if_pos none]
    exact ⟨trace,seven,path,left⟩
  · obtain ⟨five,_,asks,asked⟩ := offer_serve chartered listed active none
    have takes : config.proceed build .mapList
        ⟨true,.ofBytes ((ServerPacket.mapServerMapList (wanted s.network.server.toWorld config)).buffer env.apg)⟩ =
        (.registered ((wanted s.network.server.toWorld config).map unnumbered),[ServerPacket.mapServerAck.buffer build.apg]) :=
      mapList_received chartered.apg (chartered.answer none)
    obtain ⟨six,acknowledges,acknowledged⟩ := proceed_turns asked rfl rfl takes
    obtain ⟨seven,_,enters,world⟩ := acknowledgement_serve build.apg acknowledged active
    obtain ⟨trace,path⟩ := onward (.cons (seated_serves asks) (.cons (seated_proceeds within acknowledges)
      (.cons (seated_serves enters) .nil)))
    simp only [decision,if_neg none]
    exact ⟨trace,seven,path,world⟩

-- A map of the list that the login server has under the same hash.
def SameHash (world : World) (map : Location) : Prop :=
  ∃ ours, world.allMaps.find? (fun ours => map.locationName == ours.locationName) = some ours ∧
    map.knownMD5Hash = ours.knownMD5Hash

theorem wanted_name {name : Bytes} (member : name ∈ (wanted world config).map (·.locationName)) :
    world.mapNameToConnection name = none := by
  obtain ⟨ours,within,rfl⟩ := List.mem_map.mp member
  obtain ⟨map,_,required⟩ := List.mem_filterMap.mp within
  have unassigned := (MapAssignment.requiredMap_exact.mp required).2.2
  rw [(MapAssignment.requiredMap_parts required).2.1] at unassigned
  exact unassigned

-- A map that is known is asked for, or it has a map server.
theorem known_wanted {map : Location} (offered : map ∈ config.maps) (known : SameHash world map) :
    map.locationName ∈ (wanted world config).map (·.locationName) ∨
      (world.mapNameToConnection map.locationName).isSome = true := by
  obtain ⟨ours,found,hash⟩ := known
  cases assigned : world.mapNameToConnection map.locationName with
  | some address => exact .inr rfl
  | none =>
    have required : requiredMap world (unnumbered map) = some ours :=
      MapAssignment.requiredMap_exact.mpr ⟨found,hash,assigned⟩
    have name : ours.locationName = map.locationName := ((MapAssignment.requiredMap_parts required).2.1).symm
    exact .inl (List.mem_map.mpr ⟨ours,List.mem_filterMap.mpr ⟨_,List.mem_map_of_mem offered,required⟩,name⟩)

-- The new map server is found under each of the names that it was asked for.
theorem decision_found {name : Bytes} (id : Nat) (member : name ∈ (wanted world config).map (·.locationName)) :
    ∃ address, (decision world config id).2.mapNameToConnection name = some address ∧
      (decision world config id).2.mapServers.deref address = some (enrolled config id (wanted world config)) := by
  have some : wanted world config ≠ [] := by
    intro none
    rw [none] at member
    cases member
  simp only [decision,if_neg some]
  refine ⟨_,UnorderedMap.emplaceAll_fresh _ _ _ member (wanted_name member),?_⟩
  simp [World.addMapServer,StdVector.deref,StdVector.backAddress,StdVector.size]

theorem decision_kept {name : Bytes} (assigned : (world.mapNameToConnection name).isSome = true) :
    ((decision world config id).2.mapNameToConnection name).isSome = true := by
  obtain ⟨address,found⟩ := Option.isSome_iff_exists.mp assigned
  unfold decision
  split
  · exact assigned
  · apply Option.isSome_iff_exists.mpr
    exact ⟨address,UnorderedMap.emplaceAll_found _ _ _ found⟩

-- However many programs came before: a map server that starts is registered, or there was nothing left for it to do;
-- then every map of its that the login server knows has a map server.
theorem registration_decides (chartered : Chartered env build config s.network.server.toWorld)
    (present : s.peers[index]? = some ⟨config,.connecting,none⟩) (active : io.activity = true) :
    ∃ trace t, Runs.Run (System.step env build) s (enrolment index s.network.server.incomingConnections.length io) trace t ∧
      t.peers = s.peers.set index ⟨config,(decision s.network.server.toWorld config s.network.server.socketsAccepted).1,
        some s.network.server.socketsAccepted⟩ ∧
      t.network.server.toWorld = (decision s.network.server.toWorld config s.network.server.socketsAccepted).2 ∧
      ∀ map ∈ config.maps, SameHash s.network.server.toWorld map →
        (t.network.server.mapNameToConnection map.locationName).isSome = true := by
  obtain ⟨trace,m,path,world⟩ := enrolment_runs chartered present active
  refine ⟨trace,_,path,rfl,world,?_⟩
  intro map member known
  change (m.server.toWorld.mapNameToConnection map.locationName).isSome = true
  rw [world]
  rcases known_wanted member known with asked | assigned
  · obtain ⟨address,found,_⟩ := decision_found s.network.server.socketsAccepted asked
    rw [found]
    rfl
  · exact decision_kept assigned

def builder : Build := ⟨.network,lodge.parse,text "0.0.1",[]⟩

def warden : MapServer := ⟨text "Map",text "localhost",10420,[MapAssignment.town],text "PEM"⟩

-- Another map server has connected, and a program that says nothing.
def crowd : System := Runs.final (System.step lodge builder) (.start Passage.town [warden,warden])
  [.connect 1 true,.server .accept,.server (.incoming 0 (.delivers []))]

theorem crowd_place : crowd.network.server.incomingConnections.length = 2 := by
  decide +kernel

theorem town_carried : Carried builder [MapAssignment.town] where
  clean := by
    unfold Message.Clean
    decide +kernel
  fits := by
    rintro d same
    cases same
    decide +kernel
  parsed := by
    rintro d same
    change Json.known documents d.write = d
    rw [← Option.some.inj same]
    apply known_member documents_apart
    simp [documents]

theorem warden_chartered : Chartered lodge builder warden crowd.network.server.toWorld where
  apg := rfl
  key := rfl
  text := lodge_keys.text
  version := rfl
  hash := rfl
  challenge := ⟨lodge_keys.fits,lodge_keys.parsed⟩
  name := by decide
  address := by decide
  offer := town_carried
  answer := by
    intro _
    have asked : wanted crowd.network.server.toWorld warden = [MapAssignment.town] := by decide +kernel
    rw [asked]
    exact town_carried

theorem registration_decides_crowd : ∃ trace t, Runs.Run (System.step lodge builder) crowd (enrolment 0 2 (.delivers [])) trace t ∧
    t.peers.map (·.point.result) = [some true,none] ∧
      (t.network.server.mapNameToConnection MapAssignment.town.locationName).isSome = true := by
  obtain ⟨trace,t,path,peers,_,covered⟩ := registration_decides warden_chartered
    (show crowd.peers[0]? = some ⟨warden,.connecting,none⟩ from rfl) (show ( SocketIO.delivers []).activity = true from rfl)
  rw [crowd_place] at path
  refine ⟨trace,t,path,?_,?_⟩
  · rw [peers]
    decide +kernel
  · exact covered _ (List.mem_singleton_self _) ⟨MapAssignment.town,by decide +kernel,rfl⟩

-- A step of the map servers leaves the login server alone, or makes one step of it.
theorem registration_server (ran : System.step env build s action = .ok (t,fresh)) :
    t.network.server = s.network.server ∨
      ∃ event fresh, LoginServer.step env s.network.server event = .ok (t.network.server,fresh) := by
  unfold System.step at ran
  split at ran
  · split at ran
    · cases ran
    · rename_i served
      cases Except.ok.inj ran
      exact .inr ⟨_,_,(serve_parts served).1⟩
  · split at ran
    · cases Except.ok.inj ran
      exact .inl rfl
    · cases Except.ok.inj ran
      dsimp only
      unfold Peer.connect
      split
      · exact .inr ⟨.accept,_,rfl⟩
      · exact .inl rfl
      · exact .inl rfl
  · split at ran
    · cases Except.ok.inj ran
      exact .inl rfl
    · rename_i peer _
      cases Except.ok.inj ran
      left
      dsimp only
      cases owned : peer.socket with
      | none => simp only [Peer.proceed,owned]
      | some id => exact (proceed_local owned _).server

-- The registration leaves the accounts and the characters alone.
theorem decision_tables (world : World) (config : MapServer) (id : Nat) :
    (decision world config id).2.players = world.players ∧ (decision world config id).2.characters = world.characters ∧
      (decision world config id).2.mapIDToName = world.mapIDToName := by
  unfold decision
  split
  · exact ⟨rfl,rfl,rfl⟩
  · exact ⟨rfl,rfl,rfl⟩

variable {client : Client.Build} {person : Player} {salt name : Bytes} {rows : List Character} {c : Character}

theorem enrolled_route (owned : world.characters.filter (·.playerID == person.id) = rows) (first : rows.head? = some c)
    (place : world.mapIDToName c.locationID = some name) (asked : name ∈ (wanted world config).map (·.locationName)) (id : Nat) :
    Passage.Route (decision world config id).2 person.id rows c (enrolled config id (wanted world config)) := by
  obtain ⟨_,characters,mapIDToName⟩ := decision_tables world config id
  obtain ⟨address,indexed,found⟩ := decision_found id asked
  refine ⟨?_,first,name,address,?_,indexed,found⟩
  · rw [characters]
    exact owned
  · rw [mapIDToName]
    exact place

-- A map that nobody serves is opened by a map server that starts: its player gets in, and is sent to that one.
theorem map_opens
    (path : Runs.Run (System.step env build) (.start (.start players characters allMaps mapIDToName) configs) actions trace s)
    (chartered : Chartered env build config s.network.server.toWorld)
    (present : s.peers[index]? = some ⟨config,.connecting,none⟩) (active : io.activity = true)
    (keys : AccountLogin.Keys env client) (shared : LoginAgreement.Shared env client)
    (speaks : Speaks env client (text "test@example.com"))
    (registered : AccountLogin.Registered env s.network.server.toWorld (text "test@example.com") (text "testa") salt person)
    (owned : s.network.server.characters.filter (·.playerID == person.id) = rows) (first : rows.head? = some c)
    (place : s.network.server.mapIDToName c.locationID = some name)
    (asked : name ∈ (wanted s.network.server.toWorld config).map (·.locationName))
    (listed : SelectionAgreement.Listed env client rows)
    (told : Passage.Told client (enrolled config s.network.server.socketsAccepted (wanted s.network.server.toWorld config))) :
    s.network.server.mapNameToConnection name = none ∧ ∃ later t outputs u id,
      Runs.Run (System.step env build) s (enrolment index s.network.server.incomingConnections.length io) later t ∧
      Runs.Run (LoginAgreement.System.step env client) ⟨t.network,.start,none,.idle⟩
        (calling t.network.server.incomingConnections.length io) outputs u ∧
      u.call = .loggedIn (text "test@example.com") ∧ u.socket = some id ∧
      ∃ one two more v, Runs.Run (SelectionAgreement.System.step env client id) ⟨u.network,⟨.CHARACTER_SELECT,false,none⟩⟩
          [.press,.server (.connected one),.receive true,.server (.connected two),.receive true] more v ∧
        v.screen = ⟨.PLAYING,false,some (Codecs.carriedCharacter c)⟩ ∧
        Passage.Instructs (enrolled config s.network.server.socketsAccepted (wanted s.network.server.toWorld config)) id more := by
  refine ⟨wanted_name asked,?_⟩
  obtain ⟨later,m,enrols,world⟩ := enrolment_runs chartered present active
  have accounted : ∃ trace, Ownership.Accounted trace m.server :=
    Passage.accounted_run (fun s => s.network.server) registration_server ⟨[],Ownership.start_accounted⟩ (path.append enrols)
  have row : AccountLogin.Registered env m.server.toWorld (text "test@example.com") (text "testa") salt person := by
    refine ⟨?_,registered.unlocked,registered.password,registered.salt⟩
    rw [world,(decision_tables _ _ _).1]
    exact registered.row
  have route : Passage.Route m.server.toWorld person.id rows c
      (enrolled config s.network.server.socketsAccepted (wanted s.network.server.toWorld config)) := by
    rw [world]
    exact enrolled_route owned first place asked _
  let caller : LoginAgreement.System := ⟨m,.start,none,.idle⟩
  have free : 0 ∉ caller.game.username := by
    change 0 ∉ text "test@example.com"
    decide
  obtain ⟨outputs,u,admits,logged,socket,⟨session,within,own,_,player⟩,same,queues⟩ :=
    calling_admits (s:=caller) keys shared speaks free rfl rfl row active
  have sits : Passage.Sits u.network m.server.socketsAccepted session rows c
      (enrolled config s.network.server.socketsAccepted (wanted s.network.server.toWorld config)) [] [] := by
    refine ⟨Passage.login_accounted (s:=caller) accounted admits,⟨within,congrArg Socket.id own⟩,own,?_,queues⟩
    rw [player]
    exact route.undisturbed same
  obtain ⟨one,two,more,v,selects,screen,instructs,_⟩ :=
    Passage.selection_plays (s:=⟨u.network,⟨.CHARACTER_SELECT,false,none⟩⟩) listed told rfl sits
  exact ⟨later,_,outputs,u,_,enrols,admits,logged,socket,one,two,more,v,selects,screen,instructs⟩

theorem map_opens_town : ∃ later t outputs u id,
    Runs.Run (System.step lodge builder) crowd (enrolment 0 2 (.delivers [])) later t ∧
      Runs.Run (LoginAgreement.System.step lodge traveller) ⟨t.network,.start,none,.idle⟩
        (calling t.network.server.incomingConnections.length (.delivers [])) outputs u ∧
      ∃ steps more v, Runs.Run (SelectionAgreement.System.step lodge traveller id)
          ⟨u.network,⟨.CHARACTER_SELECT,false,none⟩⟩ steps more v ∧ v.screen.gameState = .PLAYING ∧
        Passage.Instructs Passage.landlord id more := by
  obtain ⟨trace,path⟩ : ∃ trace, Runs.Run (System.step lodge builder) (.start Passage.town [warden,warden])
      [.connect 1 true,.server .accept,.server (.incoming 0 (.delivers []))] trace crowd := Runs.final_run (by decide +kernel)
  have registered : AccountLogin.Registered lodge crowd.network.server.toWorld (text "test@example.com") (text "testa")
      [0,10,255] lodger := ⟨by decide +kernel,rfl,rfl,rfl⟩
  have told : Passage.Told traveller (enrolled warden crowd.network.server.socketsAccepted
      (wanted crowd.network.server.toWorld warden)) :=
    ⟨Passage.lodge_told.clean,Passage.lodge_told.fits,Passage.lodge_told.parsed⟩
  obtain ⟨_,later,t,outputs,u,id,enrols,admits,_,_,one,two,more,v,selects,screen,instructs⟩ :=
    map_opens path warden_chartered (show crowd.peers[0]? = some ⟨warden,.connecting,none⟩ from rfl)
      (show ( SocketIO.delivers []).activity = true from rfl) lodge_keys ⟨rfl,by decide +kernel⟩ lodge_guest registered
      (show _ = [CharacterChoice.hero] by decide +kernel) rfl
      (show _ = some MapAssignment.town.locationName by decide +kernel) (by decide +kernel) Passage.lodge_listed told
  rw [crowd_place] at enrols
  exact ⟨later,t,outputs,u,id,enrols,admits,_,more,v,selects,by rw [screen],instructs⟩

end System

end PlayPG.Enrolment
