import PlayPG.MapServer
import PlayPG.Network
import PlayPG.PeerRegistration
import PlayPG.Segments

namespace PlayPG.Handshake
open Bytes IncomingHandler MapServer Sockets Network

structure Peer where
  config : MapServer
  point : Point
  socket : Option Nat

def wait (n : Network) (id : Nat) (arrives : Bool) : Wait :=
  if arrives && !(n.down id).isEmpty then ⟨true,.ofBytes ((n.down id).headD [])⟩ else ⟨false,.nothing 0⟩

def Peer.connect (n : Network) (peer : Peer) (reached : Bool) : Network × Peer :=
  match peer.point,reached with
  | .connecting,true => (n.connect,⟨peer.config,.challenge,some n.server.socketsAccepted⟩)
  | .connecting,false => (n,{peer with point := .failed})
  | _,_ => (n,peer)

def Peer.proceed (build : Build) (n : Network) (peer : Peer) (arrives : Bool) : Network × Peer :=
  match peer.socket with
  | none => (n,peer)
  | some id =>
    if peer.point.waits then
      let wait := wait n id arrives
      let next := peer.config.proceed build peer.point wait
      let sent := (if wait.activity then n.receive id else n).send id next.2
      (if next.1.ended then sent.close id else sent,{peer with point := next.1})
    else (n,peer)

-- The connection of a link, with the packets that are on their way.
structure At (n : Network) (id : Nat) (c : IncomingConnection) (state : IncomingConnectionState)
    (up down : List Bytes) : Prop where
  holds : Holds n.server id c
  owned : c.socket = some ⟨id,false,true⟩
  state : c.state = state
  up : n.up id = up
  down : n.down id = down

structure Requested (c : IncomingConnection) (config : MapServer) : Prop where
  name : c.mapServerFriendlyName = some config.friendlyName
  address : c.mapServerListenAddress = some config.hostName
  port : c.mapServerPort = some config.port

-- The maps of a list as they come off the wire; the id stays at home.
def unnumbered (location : Location) : Location := {location with id := 0}

-- What the packet of a map list has to be for its reader to get the list back.
structure Carried (build : Build) (locations : List Location) : Prop where
  clean : Codecs.Message.Clean (.mapList locations)
  fits : Codecs.Message.Fits (.mapList locations)
  parsed : Codecs.Message.Parsed build.parse (.mapList locations)

-- Where the two sides of a registration stand, and what is in flight between them.
inductive Coupled (env : Env) (build : Build) (n : Network) : Peer → Prop where
  | connecting : Coupled env build n ⟨config,.connecting,none⟩
  | failed : Coupled env build n ⟨config,.failed,socket⟩
  | stopped : Coupled env build n ⟨config,.stopped fault,socket⟩
  | fresh (at_ : At n link c .FRESH [] []) : Coupled env build n ⟨config,.challenge,some link⟩
  | challenged (at_ : At n link c .CHALLENGE_SENT [] [(ServerPacket.authenticationChallenge env.challenge).buffer env.apg]) :
      Coupled env build n ⟨config,.challenge,some link⟩
  | requested (at_ : At n link c .CHALLENGE_SENT
      [(ServerPacket.mapServerRegistrationRequest config.friendlyName config.hostName config.port).buffer build.apg] []) :
      Coupled env build n ⟨config,.registration,some link⟩
  | answered (at_ : At n link c .MAP_LIST [] [(ServerPacket.mapServerRegistrationResponse (text "hello, world")).buffer env.apg])
      (request : Requested c config) : Coupled env build n ⟨config,.registration,some link⟩
  | offered (at_ : At n link c .MAP_LIST [(ServerPacket.mapServerMapList config.maps).buffer build.apg] [])
      (request : Requested c config) : Coupled env build n ⟨config,.mapList,some link⟩
  | listed (at_ : At n link c .MAP_WAIT_ACK [] [(ServerPacket.mapServerMapList locations).buffer env.apg])
      (request : Requested c config) (maps : c.maps = some locations) (carried : Carried build locations) :
      Coupled env build n ⟨config,.mapList,some link⟩
  | refused (finished : Finished n.server link) (down : n.down link = [ServerPacket.mapServerNotNeeded.buffer env.apg]) :
      Coupled env build n ⟨config,.mapList,some link⟩
  | acknowledged (at_ : At n link c .MAP_WAIT_ACK [ServerPacket.mapServerAck.buffer build.apg] [])
      (request : Requested c config) (maps : c.maps = some locations) :
      Coupled env build n ⟨config,.registered (locations.map unnumbered),some link⟩
  | served {server : MapServerConnection} (serves : Serves n.server link server) (name : server.friendlyName = config.friendlyName)
      (address : server.hostname = config.hostName) (port : server.port = config.port) :
      Coupled env build n ⟨config,.registered (server.maps.map unnumbered),some link⟩
  | unneeded (finished : Finished n.server link) : Coupled env build n ⟨config,.notNeeded,some link⟩

variable {env : Env} {build : Build} {config : MapServer} {n m : Network} {id : Nat} {io : SocketIO}
  {state : IncomingConnectionState} {up down : List Bytes}

theorem At.away (at_ : At n id c state up down) (live : state ≠ .DONE) (away : Away n.server m.server id c fresh)
    (same : m.up id = n.up id) (still : m.down id = n.down id) : At m id c state up down := by
  refine ⟨away.stays.resolve_left ?_,at_.owned,at_.state,same.trans at_.up,still.trans at_.down⟩
  rw [at_.state]
  exact live

theorem At.turned (at_ : At n id c state up down) (turn : Network.Turn env n m id c fresh io handled)
    (owned : handled.connection.socket = some ⟨id,false,true⟩) :
    At m id handled.connection handled.connection.state (drained up handled.effects)
      (down ++ packets env.apg handled.effects) := by
  obtain ⟨index,present,stored⟩ := turn.server
  refine ⟨⟨?_,by rw [owned]; rfl⟩,owned,rfl,by rw [turn.up,at_.up],by rw [turn.down,at_.down]⟩
  rw [stored]
  exact List.mem_of_getElem? (PeerRegistration.store_at present handled)

-- With nothing to hear, a connection that was greeted stays as it is.
theorem idle_turn (owned : c.socket = some ⟨id,false,true⟩) (met : c.state ≠ .FRESH)
    (idle : (n.heard id io).activity = false) (ran : processIncoming env world c (n.heard id io) = .ok handled) :
    handled = ⟨world,c,[]⟩ := by
  have still : Visits.polled ⟨id,false,true⟩ (n.heard id io) = ⟨id,false,true⟩ := by simp [Visits.polled,heard]
  have inactive : ∀ {socket}, ¬ Visits.Turn (n.heard id io) c socket := by
    intro socket turn
    rw [turn.active] at idle
    cases idle
  cases Visits.processIncoming_parts ran with
  | done finished => rfl
  | dropped live same failed =>
    obtain rfl := Option.some.inj (owned.symm.trans same)
    rw [still] at failed
    cases failed
  | greeted fresh same alive => exact absurd fresh met
  | quiet live greeted same quiet =>
    obtain rfl := Option.some.inj (owned.symm.trans same)
    rw [still,← owned]
  | closed live turn closes => exact absurd turn inactive
  | unexpected login turn other => exact absurd turn inactive
  | refused login turn identity refuses unlocked => exact absurd turn inactive
  | locked login turn identity row locked => exact absurd turn inactive
  | accepted login turn identity accepts => exact absurd turn inactive
  | registering challenged turn request reached => exact absurd turn inactive
  | unanswered challenged turn request lost => exact absurd turn inactive
  | notNeeded listing turn opcode decoded none => exact absurd turn inactive
  | listed listing turn opcode decoded some => exact absurd turn inactive
  | registered waiting turn got maps name port address => exact absurd turn inactive

theorem heard_packet (up : n.up id = [packet]) (active : (n.heard id io).activity = true) :
    n.heard id io = { SocketIO.delivers packet with diceRoll := io.diceRoll,now := io.now} := by
  have arrives : io.activity = true := by simpa [heard,up] using active
  simp [heard,up,arrives, SocketIO.delivers]

theorem request_turn (at_ : At n id c .CHALLENGE_SENT [packet] []) (ready : Connections.Ready c)
    (opcode : env.apg.getShort packet = ServerOpcode.MAP_SERVER_REGISTRATION_REQUEST.code) (some : packet ≠ [])
    (active : (n.heard id io).activity = true)
    (ran : processIncoming env world c (n.heard id io) = .ok handled) :
    handled = ⟨world,{c with
      mapServerFriendlyName := .some (readRegistrationRequest env packet).name
      mapServerListenAddress := .some (readRegistrationRequest env packet).address
      mapServerPort := .some (readRegistrationRequest env packet).port
      state := .MAP_LIST},[.received packet,.sent (.mapServerRegistrationResponse (text "hello, world")) 1]⟩ := by
  have untried := ready.untried (.inr at_.state)
  have got := (PeerRegistration.delivers_got packet).mpr some
  rw [heard_packet at_.up active] at ran
  simp [processIncoming,processChallengeSentSocket,processMapAuthenticationRequest,exhausted,Handled.after,
    at_.state,at_.owned,got,opcode,untried,IncomingConnection.MAX_ATTEMPTS_ALLOWED,ClientOpcode.code,ServerOpcode.code] at ran
  rw [← ran,at_.owned,untried]

theorem list_turn (at_ : At n id c .MAP_LIST [packet] [])
    (opcode : env.apg.getShort packet = ServerOpcode.MAP_SERVER_MAP_LIST.code) (some : packet ≠ [])
    (active : (n.heard id io).activity = true)
    (ran : processIncoming env world c (n.heard id io) = .ok handled) :
    handled = ⟨world,{c with state := .DONE},[.received packet,.sent .mapServerNotNeeded 1]⟩ ∨
    ∃ mapHashes, handled = ⟨world,{c with maps := .some (requiredMaps world mapHashes),state := .MAP_WAIT_ACK},
      [.received packet,.sent (.mapServerMapList (requiredMaps world mapHashes)) 1]⟩ := by
  have got := (PeerRegistration.delivers_got packet).mpr some
  rw [heard_packet at_.up active] at ran
  cases decoded : MapServerMapList.fromJSON env.parse (receivedJSON env packet) with
  | error fault => simp [processIncoming,processMapListSocket,at_.state,at_.owned,got,opcode,decoded] at ran
  | ok mapHashes =>
    by_cases needed : requiredMaps world mapHashes = []
    · simp [processIncoming,processMapListSocket,at_.state,at_.owned,got,opcode,decoded,needed] at ran
      exact .inl (by rw [← ran,at_.owned])
    · simp [processIncoming,processMapListSocket,at_.state,at_.owned,got,opcode,decoded,needed] at ran
      exact .inr ⟨mapHashes,by rw [← ran,at_.owned]⟩

theorem acknowledge_turn (at_ : At n id c .MAP_WAIT_ACK [packet] []) (request : Requested c config)
    (maps : c.maps = some locations) (some : packet ≠ []) (active : (n.heard id io).activity = true)
    (ran : processIncoming env world c (n.heard id io) = .ok handled) :
    ∃ server : MapServerConnection, handled.world = world.addMapServer server ∧ server.connection.id = id ∧
      server.maps = locations ∧ server.friendlyName = config.friendlyName ∧ server.hostname = config.hostName ∧
      server.port = config.port := by
  have got := (PeerRegistration.delivers_got packet).mpr some
  rw [heard_packet at_.up active] at ran
  simp [processIncoming,processMapWaitAckSocket,at_.state,at_.owned,maps,request.name,request.address,request.port,require,got,
    bind,Except.bind] at ran
  exact ⟨⟨⟨id,false,true⟩,locations,config.friendlyName,config.hostName,config.port⟩,by rw [← ran],rfl,rfl,rfl,rfl,rfl⟩

def listed : Effect → Option (List Location)
  | .sent (.mapServerMapList locations) _ => some locations
  | _ => none

-- A packet with a map list is not cut, and its reader parses what its writer wrote.
def Whole (build : Build) (effect : Effect) : Prop :=
  ∀ locations, listed effect = some locations →
    Codecs.Message.Fits (.mapList locations) ∧ Codecs.Message.Parsed build.parse (.mapList locations)

-- What the login server and the map servers have in common, and the sizes of the names.
structure Shared (env : Env) (build : Build) (allMaps : List Location) (configs : List MapServer) : Prop where
  apg : build.apg = env.apg
  clean : Codecs.Message.Clean (.mapList allMaps)
  names : ∀ config ∈ configs, config.friendlyName.length < 2^16 ∧ config.hostName.length < 2^16

theorem request_read (apg : build.apg = env.apg) (name : config.friendlyName.length < 2^16)
    (address : config.hostName.length < 2^16) :
    readRegistrationRequest env ((ServerPacket.mapServerRegistrationRequest config.friendlyName config.hostName
      config.port).buffer build.apg) = ⟨config.friendlyName,config.hostName,config.port⟩ := by
  rw [apg]
  have fields := (Codecs.registration_fields env ServerOpcode.MAP_SERVER_REGISTRATION_REQUEST.code config.port name address).1
  simpa [ServerPacket.buffer,ServerPacket.payload,ServerPacket.opcode] using fields

theorem buffer_some (apg : ByteBuffer) (packet : ServerPacket) : packet.buffer apg ≠ [] := by
  intro none
  have length := congrArg List.length none
  simp [ServerPacket.buffer,apg.putShort_length] at length

-- A step of the server leaves a greeted connection where it is, or it hears its packet.
theorem at_serve (at_ : At n id c state up down) (sole : Sole n.server) (linked : id ∈ n.links)
    (met : state ≠ .FRESH) (live : state ≠ .DONE) (ran : serve env n event = .ok (m,fresh)) :
    At m id c state up down ∨
      ∃ io handled, Network.Turn env n m id c fresh io handled ∧ (n.heard id io).activity = true := by
  rcases serve_holds sole linked at_.holds ran with ⟨io,handled,turn⟩ | ⟨away,same,still⟩
  · by_cases active : (n.heard id io).activity = true
    · exact .inr ⟨io,handled,turn,active⟩
    · have fresh : c.state ≠ .FRESH := by rw [at_.state]; exact met
      obtain rfl := idle_turn at_.owned fresh (by simpa using active) turn.ran
      have after := at_.turned turn at_.owned
      rw [at_.state] at after
      exact .inl (by simpa [packets,quiet_drained] using after)
  · exact .inl (at_.away live away same still)

theorem empty_idle (up : n.up id = []) : (n.heard id io).activity ≠ true := by simp [heard,up]

theorem at_waits (at_ : At n id c state [] down) (sole : Sole n.server) (linked : id ∈ n.links)
    (met : state ≠ .FRESH) (live : state ≠ .DONE) (ran : serve env n event = .ok (m,fresh)) : At m id c state [] down := by
  rcases at_serve at_ sole linked met live ran with still | ⟨io,handled,turn,active⟩
  · exact still
  · exact absurd active (empty_idle at_.up)

-- One lemma a packet of the map server: what it leaves when the login server takes it.
theorem request_coupled (shared : Shared env build allMaps configs) (member : config ∈ configs) (sole : Sole n.server)
    (at_ : At n id c .CHALLENGE_SENT
      [(ServerPacket.mapServerRegistrationRequest config.friendlyName config.hostName config.port).buffer build.apg] [])
    (turn : Network.Turn env n m id c fresh io handled) (active : (n.heard id io).activity = true) :
    Coupled env build m ⟨config,.registration,some id⟩ := by
  have apg := shared.apg
  have opcode : env.apg.getShort ((ServerPacket.mapServerRegistrationRequest config.friendlyName config.hostName
      config.port).buffer build.apg) = ServerOpcode.MAP_SERVER_REGISTRATION_REQUEST.code := by
    rw [apg]
    exact ServerPacket.opcode_whole ..
  obtain ⟨name,address⟩ := shared.names config member
  have request := request_read apg name address
  obtain rfl := request_turn at_ (sole.ready _ at_.holds.1) opcode (buffer_some _ _) active turn.ran
  refine .answered (by simpa [packets,drained] using at_.turned turn at_.owned) ?_
  rw [request]
  exact ⟨rfl,rfl,rfl⟩

theorem offer_coupled (shared : Shared env build allMaps configs) (known : n.server.allMaps = allMaps) (after : Sole m.server)
    (at_ : At n id c .MAP_LIST [(ServerPacket.mapServerMapList config.maps).buffer build.apg] []) (request : Requested c config)
    (turn : Network.Turn env n m id c fresh io handled) (active : (n.heard id io).activity = true)
    (whole : ∀ entry ∈ fresh, Whole build entry.2) : Coupled env build m ⟨config,.mapList,some id⟩ := by
  have opcode : env.apg.getShort ((ServerPacket.mapServerMapList config.maps).buffer build.apg) =
      ServerOpcode.MAP_SERVER_MAP_LIST.code := by
    rw [shared.apg]
    exact ServerPacket.opcode_whole ..
  rcases list_turn at_ opcode (buffer_some _ _) active turn.ran with rfl | ⟨mapHashes,rfl⟩
  · have left := at_.turned turn at_.owned
    refine .refused (after.finished left.holds rfl) ?_
    simpa [packets] using left.down
  · have sent : (id,Effect.sent (.mapServerMapList (requiredMaps n.server.toWorld mapHashes)) 1) ∈ fresh := by
      rw [turn.fresh]
      simp
    obtain ⟨fits,parsed⟩ := whole _ sent _ rfl
    have left := at_.turned turn at_.owned
    simp [packets,drained] at left
    refine .listed left ⟨request.name,request.address,request.port⟩ rfl ⟨?_,fits,parsed⟩
    intro map within
    exact shared.clean map (known ▸ MapAssignment.requiredMaps_known within)

theorem acknowledgement_coupled
    (at_ : At n id c .MAP_WAIT_ACK [ServerPacket.mapServerAck.buffer build.apg] []) (request : Requested c config)
    (maps : c.maps = some locations) (turn : Network.Turn env n m id c fresh io handled)
    (active : (n.heard id io).activity = true) :
    Coupled env build m ⟨config,.registered (locations.map unnumbered),some id⟩ := by
  obtain ⟨server,added,own,rfl,name,address,port⟩ := acknowledge_turn at_ request maps (buffer_some _ _) active turn.ran
  obtain ⟨index,_,stored⟩ := turn.server
  refine .served ⟨?_,own⟩ name address port
  rw [stored]
  change server ∈ handled.world.mapServers.items
  rw [added,World.addMapServer_mapServers,StdVector.emplaceBack_items]
  exact List.mem_append_right _ (List.mem_singleton_self _)

theorem serve_coupled (shared : Shared env build allMaps configs) (known : n.server.allMaps = allMaps)
    (sole : Sole n.server) (after : Sole m.server) (coupled : Coupled env build n ⟨config,point,some id⟩) (member : config ∈ configs)
    (held : point.ended = false → id ∈ n.links) (accepted : id < n.server.socketsAccepted) (ran : serve env n event = .ok (m,fresh))
    (whole : ∀ entry ∈ fresh, Whole build entry.2) : Coupled env build m ⟨config,point,some id⟩ := by
  have stepped := (serve_parts ran).1
  cases coupled with
  | failed => exact .failed
  | stopped => exact .stopped
  | @fresh _ c _ at_ =>
    rcases serve_holds sole (held rfl) at_.holds ran with ⟨io,handled,turn⟩ | ⟨away,same,still⟩
    · obtain rfl : _ = handled := Except.ok.inj ((heard_fresh env n io _ at_.state at_.owned).symm.trans turn.ran)
      exact .challenged (by simpa [packets,drained] using at_.turned turn at_.owned)
    · exact .fresh (at_.away (by simp) away same still)
  | challenged at_ => exact .challenged (at_waits at_ sole (held rfl) (by simp) (by simp) ran)
  | requested at_ =>
    rcases at_serve at_ sole (held rfl) (by simp) (by simp) ran with still | ⟨io,handled,turn,active⟩
    · exact .requested still
    · exact request_coupled shared member sole at_ turn active
  | answered at_ request => exact .answered (at_waits at_ sole (held rfl) (by simp) (by simp) ran) request
  | offered at_ request =>
    rcases at_serve at_ sole (held rfl) (by simp) (by simp) ran with still | ⟨io,handled,turn,active⟩
    · exact .offered still request
    · exact offer_coupled shared known after at_ request turn active whole
  | listed at_ request maps carried => exact .listed (at_waits at_ sole (held rfl) (by simp) (by simp) ran) request maps carried
  | refused finished down =>
    obtain ⟨still,_,same⟩ := serve_finished sole finished accepted ran
    exact .refused still (same.trans down)
  | acknowledged at_ request maps =>
    rcases at_serve at_ sole (held rfl) (by simp) (by simp) ran with still | ⟨io,handled,turn,active⟩
    · exact .acknowledged still request maps
    · exact acknowledgement_coupled at_ request maps turn active
  | served serves name address port => exact .served (serves_step serves stepped) name address port
  | unneeded finished => exact .unneeded (finished_step sole finished accepted stepped).1

-- What the other map servers and the connects leave alone.
structure Unmoved (n m : Network) (id : Nat) : Prop where
  holds : ∀ c, Holds n.server id c → Holds m.server id c
  serves : ∀ server, Serves n.server id server → Serves m.server id server
  finished : Finished n.server id → Finished m.server id
  up : m.up id = n.up id
  down : m.down id = n.down id

theorem At.unmoved (at_ : At n id c state up down) (unmoved : Unmoved n m id) : At m id c state up down :=
  ⟨unmoved.holds c at_.holds,at_.owned,at_.state,unmoved.up.trans at_.up,unmoved.down.trans at_.down⟩

theorem Coupled.unmoved {peer : Peer} (coupled : Coupled env build n peer)
    (unmoved : ∀ id, peer.socket = some id → Unmoved n m id) : Coupled env build m peer := by
  cases coupled with
  | connecting => exact .connecting
  | failed => exact .failed
  | stopped => exact .stopped
  | fresh at_ => exact .fresh (at_.unmoved (unmoved _ rfl))
  | challenged at_ => exact .challenged (at_.unmoved (unmoved _ rfl))
  | requested at_ => exact .requested (at_.unmoved (unmoved _ rfl))
  | answered at_ request => exact .answered (at_.unmoved (unmoved _ rfl)) request
  | offered at_ request => exact .offered (at_.unmoved (unmoved _ rfl)) request
  | listed at_ request maps carried => exact .listed (at_.unmoved (unmoved _ rfl)) request maps carried
  | refused finished down =>
    have still := unmoved _ rfl
    exact .refused (still.finished finished) (still.down.trans down)
  | acknowledged at_ request maps => exact .acknowledged (at_.unmoved (unmoved _ rfl)) request maps
  | served serves name address port => exact .served ((unmoved _ rfl).serves _ serves) name address port
  | unneeded finished => exact .unneeded ((unmoved _ rfl).finished finished)

theorem connect_unmoved (env : Env) (sole : Sole n.server) (accepted : id < n.server.socketsAccepted) : Unmoved n n.connect id := by
  have ran : LoginServer.step env n.server .accept = .ok n.server.acceptSocket := rfl
  have other : id ≠ n.server.socketsAccepted := by omega
  refine ⟨fun c holds => ⟨List.mem_append_left _ holds.1,holds.2⟩,fun server serves => serves,
    fun finished => (finished_step sole finished accepted ran).1,?_,?_⟩
  · exact Function.update_of_ne other _ _
  · exact Function.update_of_ne other _ _

-- A wait takes at most the oldest packet of the own link, and what is sent goes there.
theorem proceed_local {peer : Peer} (owned : peer.socket = some id) (arrives : Bool) :
    Local n (peer.proceed build n arrives).1 id := by
  unfold Peer.proceed
  rw [owned]
  dsimp only
  split
  · have sent : ∀ packets, Local n ((if (wait n id arrives).activity then n.receive id else n).send id packets) id := by
      intro packets
      split
      · exact (receive_local n id).trans (send_local _ id packets)
      · exact send_local n id packets
    split
    · exact (sent _).trans (close_local _ id)
    · exact sent _
  · exact .refl n id

theorem proceed_still (build : Build) (n : Network) (peer : Peer) (arrives : Bool) :
    (peer.proceed build n arrives).2.socket = peer.socket ∧ (peer.proceed build n arrives).2.config = peer.config := by
  unfold Peer.proceed
  split
  · exact ⟨rfl,rfl⟩
  · split
    · exact ⟨rfl,rfl⟩
    · exact ⟨rfl,rfl⟩

-- Only a process that ends gives up its link.
theorem proceed_linked {peer : Peer} (owned : peer.socket = some id) (linked : id ∈ n.links)
    (live : (peer.proceed build n arrives).2.point.ended = false) : id ∈ (peer.proceed build n arrives).1.links := by
  unfold Peer.proceed at live ⊢
  rw [owned] at live ⊢
  dsimp only at live ⊢
  split
  · rename_i waits
    rw [if_pos waits] at live
    rw [if_neg (by simpa using live)]
    split <;> exact linked
  · exact linked

theorem receiveChallenge_parts (build : Build) (config : MapServer) (wait : Wait) :
    (∃ sent, receiveChallenge build config wait = (.failed,sent)) ∨
    (∃ fault, receiveChallenge build config wait = (.stopped fault,[])) ∨
    receiveChallenge build config wait = (.registration,
      [(ServerPacket.mapServerRegistrationRequest config.friendlyName config.hostName config.port).buffer build.apg]) := by
  unfold receiveChallenge
  split
  · exact .inl ⟨_,rfl⟩
  · split
    · exact .inl ⟨_,rfl⟩
    · split
      · exact .inr (.inl ⟨_,rfl⟩)
      · split
        · exact .inl ⟨_,rfl⟩
        · split
          · exact .inl ⟨_,rfl⟩
          · exact .inr (.inr rfl)

theorem wait_empty (down : n.down id = []) (arrives : Bool) : wait n id arrives = ⟨false,.nothing 0⟩ := by
  simp [wait,down]

theorem wait_packet (down : n.down id = [packet]) (arrives : Bool) :
    wait n id arrives = ⟨false,.nothing 0⟩ ∨ wait n id arrives = ⟨true,.ofBytes packet⟩ := by
  cases arrives <;> simp [wait,down]

theorem timeout_fails (point : Point) (waits : point.waits = true) :
    config.proceed build point ⟨false,.nothing 0⟩ = (.failed,[]) := by
  cases point <;> first | rfl | cases waits

-- After a wait that got nothing, the call returns.
theorem proceed_timeout (waits : point.waits = true) (nothing : wait n id arrives = ⟨false,.nothing 0⟩) :
    Coupled env build (Peer.proceed build n ⟨config,point,some id⟩ arrives).1
      (Peer.proceed build n ⟨config,point,some id⟩ arrives).2 := by
  simp only [Peer.proceed,waits,if_true,nothing,timeout_fails point waits]
  exact .failed

theorem At.proceeded (at_ : At n id c state [] [packet]) : At ((n.receive id).send id sent) id c state sent [] := by
  refine ⟨at_.holds,at_.owned,at_.state,?_,?_⟩
  · simp [send,receive,at_.up]
  · simp [send,receive,at_.down]

theorem ofBytes_got (some : packet ≠ []) : (Recv.ofBytes packet).result ≠ 0 ∧ ¬ (Recv.ofBytes packet).result ≤ 0 := by
  have positive := List.length_pos_iff.mpr some
  rw [Recv.ofBytes_result]
  omega

-- The map server decodes the list that the login server holds for it.
theorem mapList_received (apg : build.apg = env.apg) (carried : Carried build locations) :
    receiveMapList build ⟨true,.ofBytes ((ServerPacket.mapServerMapList locations).buffer env.apg)⟩ =
      (.registered (locations.map unnumbered),[ServerPacket.mapServerAck.buffer build.apg]) := by
  have present := (ofBytes_got (buffer_some env.apg (.mapServerMapList locations))).1
  have opcode := ServerPacket.opcode_whole env.apg (.mapServerMapList locations)
  have body : sizedBody env.apg ((ServerPacket.mapServerMapList locations).buffer env.apg) = MapServerMapList.toJSON locations :=
    Codecs.sized_read env.apg _ (carried.fits _ rfl)
  have decoded : MapServerMapList.fromJSON build.parse (MapServerMapList.toJSON locations) =
      .ok (locations.map unnumbered) :=
    Codecs.mapList_read carried.clean (Codecs.text_parsed (carried.parsed _ rfl) (Codecs.mapList_free locations))
  have other : ServerOpcode.MAP_SERVER_MAP_LIST.code ≠ ServerOpcode.MAP_SERVER_NOT_NEEDED.code := by decide
  simp only [receiveMapList,present,Recv.bytes_ofBytes,apg,opcode,ServerPacket.opcode,body,decoded,other]
  rfl

theorem proceed_coupled (shared : Shared env build allMaps configs) (coupled : Coupled env build n ⟨config,point,some id⟩)
    (waits : point.waits = true) (arrives : Bool) :
    Coupled env build (Peer.proceed build n ⟨config,point,some id⟩ arrives).1
      (Peer.proceed build n ⟨config,point,some id⟩ arrives).2 := by
  have apg := shared.apg
  cases coupled with
  | failed | stopped | acknowledged | served | unneeded => cases waits
  | fresh at_ => exact proceed_timeout waits (wait_empty at_.down arrives)
  | requested at_ => exact proceed_timeout waits (wait_empty at_.down arrives)
  | offered at_ request => exact proceed_timeout waits (wait_empty at_.down arrives)
  | challenged at_ =>
    rcases wait_packet at_.down arrives with nothing | got
    · exact proceed_timeout waits nothing
    · simp only [Peer.proceed,waits,if_true,got,MapServer.proceed]
      rcases receiveChallenge_parts build config ⟨true,.ofBytes ((ServerPacket.authenticationChallenge env.challenge).buffer
        env.apg)⟩ with ⟨sent,same⟩ | ⟨fault,same⟩ | same
      · rw [same]; exact .failed
      · rw [same]; exact .stopped
      · rw [same]; exact .requested at_.proceeded
  | answered at_ request =>
    rcases wait_packet at_.down arrives with nothing | got
    · exact proceed_timeout waits nothing
    · have positive := (ofBytes_got (buffer_some env.apg (.mapServerRegistrationResponse (text "hello, world")))).2
      have opcode := ServerPacket.opcode_whole env.apg (.mapServerRegistrationResponse (text "hello, world"))
      simp only [Peer.proceed,waits,if_true,got,MapServer.proceed,receiveRegistration,positive,Recv.bytes_ofBytes,apg,opcode,
        ServerPacket.opcode]
      exact .offered (apg ▸ at_.proceeded) request
  | listed at_ request maps carried =>
    rcases wait_packet at_.down arrives with nothing | got
    · exact proceed_timeout waits nothing
    · simp only [Peer.proceed,waits,if_true,got,MapServer.proceed,mapList_received apg carried]
      exact .acknowledged (apg ▸ at_.proceeded) request maps
  | refused finished down =>
    rcases wait_packet down arrives with nothing | got
    · exact proceed_timeout waits nothing
    · have present := (ofBytes_got (buffer_some env.apg .mapServerNotNeeded)).1
      have opcode := ServerPacket.opcode_whole env.apg .mapServerNotNeeded
      simp only [Peer.proceed,waits,if_true,got,MapServer.proceed,receiveMapList,present,Recv.bytes_ofBytes,apg,opcode,
        ServerPacket.opcode]
      exact .unneeded finished

end PlayPG.Handshake
