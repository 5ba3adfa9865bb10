import PlayPG.MapAssignment

namespace PlayPG.PeerRegistration
open Bytes IncomingHandler Visits ServerSteps Connections MapAssignment SocketIO

def speech (index : Nat) (messages : List Bytes) : List Event :=
  messages.map (fun message => .incoming index (.delivers message))

-- The connection of a peer is accepted and greeted, and then it talks.
def talk (s : LoginServer) (messages : List Bytes) : List Event :=
  .accept :: speech s.incomingConnections.length ([] :: messages)

def Adds (env : Env) (s : LoginServer) (id : Nat) (events : List Event) : Prop :=
  ∃ trace t server, Runs.Run (LoginServer.step env) s events trace t ∧
    t.mapServers.items = s.mapServers.items ++ [server] ∧ server.connection.id = id

def Enters (env : Env) (s : LoginServer) (messages : List Bytes) : Prop :=
  Adds env s s.socketsAccepted (talk s messages)

-- A registration by what each state looks at: its last message is any packet at all.
def Third : List Bytes → Prop
  | third :: _ => third ≠ []
  | [] => False

def Offer (env : Env) (world : World) : List Bytes → Prop
  | list :: rest => (list ≠ [] ∧ env.apg.getShort list = ServerOpcode.MAP_SERVER_MAP_LIST.code ∧
      ∃ mapHashes, MapServerMapList.fromJSON env.parse (receivedJSON env list) = .ok mapHashes ∧
        requiredMaps world mapHashes ≠ []) ∧ Third rest
  | [] => False

def Registration (env : Env) (world : World) : List Bytes → Prop
  | request :: rest => (request ≠ [] ∧
      env.apg.getShort request = ServerOpcode.MAP_SERVER_REGISTRATION_REQUEST.code) ∧ Offer env world rest
  | [] => False

@[simp] theorem delivers_pollError (message : Bytes) : (delivers message).pollError = false := rfl
@[simp] theorem delivers_activity (message : Bytes) : (delivers message).activity = true := rfl
@[simp] theorem delivers_recvError (message : Bytes) : (delivers message).recvError = false := rfl
@[simp] theorem delivers_sendResult (message : Bytes) : (delivers message).sendResult = 1 := rfl
@[simp] theorem delivers_sendError (message : Bytes) : (delivers message).sendError = false := rfl

@[simp] theorem delivers_bytes (message : Bytes) : (delivers message).recv.bytes = message := by
  simp [delivers]

theorem delivers_got (message : Bytes) : (delivers message).recv.result ≠ 0 ↔ message ≠ [] := by
  simp [delivers,Recv.ofBytes_result]

@[simp] theorem delivers_polled (socket : Socket) (message : Bytes) : polled socket (.delivers message) = socket := by
  simp [polled]

@[simp] theorem delivers_read (socket : Socket) (message : Bytes) : Visits.read socket (.delivers message) = socket := by
  simp [Visits.read]

@[simp] theorem delivers_answered (socket : Socket) (message : Bytes) : answered socket (.delivers message) = socket := by
  simp [answered]

def At (s : LoginServer) (index : Nat) (c : IncomingConnection) : Prop := s.incomingConnections[index]? = some c

theorem step_at (here : At s index c) (ran : LoginServer.step env s (.incoming index io) = .ok (t,fresh)) :
    ∃ handled, processIncoming env s.toWorld c io = .ok handled ∧ t = s.store index handled := by
  rcases ServerSteps.step_incoming_parts ran with ⟨missing,_⟩ | ⟨d,handled,present,visited,stored,_⟩
  · cases missing.symm.trans here
  · obtain rfl := Option.some.inj (present.symm.trans here)
    exact ⟨handled,visited,stored⟩

theorem at_step (env : Env) (here : At s index c) (ran : processIncoming env s.toWorld c io = .ok handled) :
    ∃ fresh, LoginServer.step env s (.incoming index io) = .ok (s.store index handled,fresh) := by
  refine ⟨handled.effects.map (Prod.mk (LoginServer.connectionId c)),?_⟩
  have present : s.incomingConnections[index]? = some c := here
  simp [LoginServer.step,present,ran]

theorem store_at (here : At s index c) (handled : Handled) : At (s.store index handled) index handled.connection := by
  have bound := (List.getElem?_eq_some_iff.mp here).1
  simp [At,LoginServer.store,bound]

theorem adds_nil : ¬ Adds env s owner [] := by
  intro adds
  obtain ⟨trace,t,server,path,items,_⟩ := adds
  obtain ⟨rfl,_⟩ := path.nil_inv
  simp at items

theorem adds_step (ran : LoginServer.step env s event = .ok (next,fresh))
    (same : next.mapServers = s.mapServers) : Adds env s owner (event :: events) ↔ Adds env next owner events := by
  constructor
  · intro adds
    obtain ⟨_,t,server,path,added,mine⟩ := adds
    obtain ⟨other,_,tail,stepped,onward,_⟩ := path.cons_inv
    obtain ⟨rfl,_⟩ := Prod.mk.inj (Except.ok.inj (ran.symm.trans stepped))
    exact ⟨tail,t,server,onward,by rw [same]; exact added,mine⟩
  · intro adds
    obtain ⟨tail,t,server,onward,added,mine⟩ := adds
    exact ⟨fresh ++ tail,t,server,.cons ran onward,by rw [same] at added; exact added,mine⟩

theorem adds_cons (here : At s index c) (ran : processIncoming env s.toWorld c (.delivers message) = .ok handled)
    (same : handled.world.mapServers = s.mapServers) :
    Adds env s owner (speech index (message :: rest)) ↔ Adds env (s.store index handled) owner (speech index rest) := by
  obtain ⟨fresh,stepped⟩ := at_step env here ran
  exact adds_step stepped same

theorem adds_fault (here : At s index c) (failed : processIncoming env s.toWorld c (.delivers message) = .error fault) :
    ¬ Adds env s owner (speech index (message :: rest)) := by
  intro adds
  obtain ⟨_,_,_,path,_,_⟩ := adds
  obtain ⟨_,_,_,stepped,_,_⟩ := path.cons_inv
  obtain ⟨_,visited,_⟩ := step_at here stepped
  rw [failed] at visited
  cases visited

-- Once it failed a login or finished, a connection never registers.
def Barred (c : IncomingConnection) : Prop := c.state = .LOGIN_FAILED ∨ c.state = .DONE

theorem failedOnce_barred (c : IncomingConnection) (socket : Socket) : Barred (failedOnce c socket) := by
  simp only [Barred,failedOnce]
  split <;> simp

theorem visit_barred (barred : Barred c) (visit : Visit env world io c handled) :
    Barred handled.connection ∧ handled.world.mapServers = world.mapServers := by
  cases visit with
  | done finished => exact ⟨barred,rfl⟩
  | dropped live owned failed => exact ⟨.inr rfl,rfl⟩
  | greeted fresh owned alive => rcases barred with state | state <;> simp [state] at fresh
  | quiet live met owned idle => exact ⟨barred,rfl⟩
  | closed live turn closes => exact ⟨.inr rfl,rfl⟩
  | unexpected login turn other => exact ⟨failedOnce_barred _ _,rfl⟩
  | refused login turn identity refuses unlocked => exact ⟨failedOnce_barred _ _,rfl⟩
  | locked login turn identity row locked => exact ⟨.inr rfl,rfl⟩
  | accepted login turn identity accepts => exact ⟨.inr rfl,rfl⟩
  | registering challenged turn request reached => rcases barred with state | state <;> simp [state] at challenged
  | unanswered challenged turn request lost => rcases barred with state | state <;> simp [state] at challenged
  | notNeeded listing turn opcode decoded none => exact ⟨.inr rfl,rfl⟩
  | listed listing turn opcode decoded some => rcases barred with state | state <;> simp [state] at listing
  | registered waiting turn got maps name port address => rcases barred with state | state <;> simp [state] at waiting

theorem adds_barred (here : At s index c) (barred : Barred c) : ¬ Adds env s owner (speech index messages) := by
  induction messages generalizing s c with
  | nil => exact adds_nil
  | cons message rest ih =>
    cases ran : processIncoming env s.toWorld c (.delivers message) with
    | error fault => exact adds_fault here ran
    | ok handled =>
      obtain ⟨still,same⟩ := visit_barred barred (processIncoming_parts ran)
      rw [adds_cons here ran same]
      exact ih (store_at here handled) still

theorem done_runs (env : Env) (here : At s index c) (finished : c.state = .DONE) (messages : List Bytes) :
    ∃ trace t, Runs.Run (LoginServer.step env) s (speech index messages) trace t ∧ t.mapServers = s.mapServers := by
  induction messages generalizing s c with
  | nil => exact ⟨[],s,.nil,rfl⟩
  | cons message rest ih =>
    have ran : processIncoming env s.toWorld c (.delivers message) = .ok ⟨s.toWorld,c,[]⟩ := by
      simp [processIncoming,finished]
    obtain ⟨fresh,stepped⟩ := at_step env here ran
    obtain ⟨trace,t,path,same⟩ := ih (store_at here ⟨s.toWorld,c,[]⟩) finished
    exact ⟨fresh ++ trace,t,.cons stepped path,same⟩

structure Stage (s : LoginServer) (index : Nat) (c : IncomingConnection) (socket : Socket)
    (stage : IncomingConnectionState) : Prop where
  here : At s index c
  ready : Ready c
  owned : c.socket = some socket
  healthy : socket.error = false
  state : c.state = stage

theorem Stage.turn (placed : Stage s index c socket stage) (message : Bytes) : Turn (.delivers message) c socket :=
  ⟨placed.owned,by simp [placed.healthy],rfl⟩

-- A message bars the connection, or it is the packet that the registration needs next.
inductive Spoken (env : Env) (world : World) (c : IncomingConnection) (message : Bytes) (handled : Handled) : Prop where
  | barred (barred : Barred handled.connection) (same : handled.world.mapServers = world.mapServers)
  | request (challenged : c.state = .CHALLENGE_SENT) (some : message ≠ [])
      (opcode : env.apg.getShort message = ServerOpcode.MAP_SERVER_REGISTRATION_REQUEST.code)
  | list (listing : c.state = .MAP_LIST) (some : message ≠ [])
      (opcode : env.apg.getShort message = ServerOpcode.MAP_SERVER_MAP_LIST.code)
      (decoded : MapServerMapList.fromJSON env.parse (receivedJSON env message) = .ok mapHashes)
      (needed : requiredMaps world mapHashes ≠ [])
  | third (waiting : c.state = .MAP_WAIT_ACK) (some : message ≠ [])

theorem spoken_parts (met : c.state ≠ .FRESH) (visit : Visit env world (.delivers message) c handled) :
    Spoken env world c message handled := by
  cases visit with
  | done finished => exact .barred (.inr finished) rfl
  | dropped live owned failed => exact .barred (.inr rfl) rfl
  | greeted fresh owned alive => exact absurd fresh met
  | quiet live met owned idle => cases idle
  | closed live turn closes => exact .barred (.inr rfl) rfl
  | unexpected login turn other => exact .barred (failedOnce_barred _ _) rfl
  | refused login turn identity refuses unlocked => exact .barred (failedOnce_barred _ _) rfl
  | locked login turn identity row locked => exact .barred (.inr rfl) rfl
  | accepted login turn identity accepts => exact .barred (.inr rfl) rfl
  | registering challenged turn request reached got =>
    exact .request challenged ((delivers_got message).mp got) (by simpa using request)
  | unanswered challenged turn request lost => simp at lost
  | notNeeded listing turn opcode decoded none => exact .barred (.inr rfl) rfl
  | listed listing turn opcode decoded needed got =>
    exact .list listing ((delivers_got message).mp got) (by simpa using opcode) (by simpa using decoded) needed
  | registered waiting turn got maps name port address => exact .third waiting ((delivers_got message).mp got)

theorem third_runs (env : Env) (placed : Stage s index c socket .MAP_WAIT_ACK) (some : message ≠ []) :
    ∃ handled server, processIncoming env s.toWorld c (.delivers message) = .ok handled ∧
      handled.world = s.toWorld.addMapServer server ∧ server.connection.id = socket.id ∧
      handled.connection.state = .DONE := by
  have got := (delivers_got message).mpr some
  obtain ⟨_,name,address,port⟩ := placed.ready.request (.inr placed.state)
  obtain ⟨locations,maps,_⟩ := placed.ready.listed placed.state
  obtain ⟨friendlyName,name⟩ := Option.isSome_iff_exists.mp name
  obtain ⟨hostname,address⟩ := Option.isSome_iff_exists.mp address
  obtain ⟨number,port⟩ := Option.isSome_iff_exists.mp port
  let server : MapServerConnection := ⟨socket,locations,friendlyName,hostname,number⟩
  refine ⟨⟨s.toWorld.addMapServer server,{c with socket := none,maps := .some [],state := .DONE},
    [.received message,.mapServerRegistered]⟩,server,?_,rfl,rfl,rfl⟩
  simp [processIncoming,processMapWaitAckSocket,placed.state,placed.owned,placed.healthy,maps,name,address,port,require,got,
    bind,Except.bind,server]

theorem list_runs (env : Env) (placed : Stage s index c socket .MAP_LIST) (some : message ≠ [])
    (opcode : env.apg.getShort message = ServerOpcode.MAP_SERVER_MAP_LIST.code)
    (decoded : MapServerMapList.fromJSON env.parse (receivedJSON env message) = .ok mapHashes)
    (needed : requiredMaps s.toWorld mapHashes ≠ []) :
    ∃ handled, processIncoming env s.toWorld c (.delivers message) = .ok handled ∧ handled.world = s.toWorld ∧
      Stage (s.store index handled) index handled.connection socket .MAP_WAIT_ACK := by
  have got := (delivers_got message).mpr some
  have ran : processIncoming env s.toWorld c (.delivers message) = .ok ⟨s.toWorld,{c with
      socket := .some socket,maps := .some (requiredMaps s.toWorld mapHashes),state := .MAP_WAIT_ACK},
      [.received message,.sent (.mapServerMapList (requiredMaps s.toWorld mapHashes)) 1]⟩ := by
    simp [processIncoming,processMapListSocket,placed.state,placed.owned,placed.healthy,got,opcode,decoded,needed]
  exact ⟨_,ran,rfl,store_at placed.here _,visit_ready placed.ready (processIncoming_parts ran),rfl,placed.healthy,rfl⟩

theorem request_runs (env : Env) (placed : Stage s index c socket .CHALLENGE_SENT) (some : message ≠ [])
    (opcode : env.apg.getShort message = ServerOpcode.MAP_SERVER_REGISTRATION_REQUEST.code) :
    ∃ handled, processIncoming env s.toWorld c (.delivers message) = .ok handled ∧ handled.world = s.toWorld ∧
      Stage (s.store index handled) index handled.connection socket .MAP_LIST := by
  have got := (delivers_got message).mpr some
  have untried := placed.ready.untried (.inr placed.state)
  have ran : processIncoming env s.toWorld c (.delivers message) = .ok ⟨s.toWorld,
      {requested env (.delivers message) c socket with state := .MAP_LIST},
      [.received message,.sent (.mapServerRegistrationResponse (text "hello, world")) 1]⟩ := by
    simp [processIncoming,processChallengeSentSocket,processMapAuthenticationRequest,exhausted,Handled.after,requested,
      placed.state,placed.owned,placed.healthy,got,opcode,untried,IncomingConnection.MAX_ATTEMPTS_ALLOWED,
      ClientOpcode.code,ServerOpcode.code]
  exact ⟨_,ran,rfl,store_at placed.here _,visit_ready placed.ready (processIncoming_parts ran),rfl,placed.healthy,rfl⟩

theorem adds_other (here : At s index c) (met : c.state ≠ .FRESH)
    (other : ∀ handled, Spoken env s.toWorld c message handled → Barred handled.connection ∧
      handled.world.mapServers = s.mapServers) : ¬ Adds env s owner (speech index (message :: rest)) := by
  cases ran : processIncoming env s.toWorld c (.delivers message) with
  | error fault => exact adds_fault here ran
  | ok handled =>
    obtain ⟨barred,same⟩ := other handled (spoken_parts met (processIncoming_parts ran))
    rw [adds_cons here ran same]
    exact adds_barred (store_at here handled) barred

theorem waiting_adds (placed : Stage s index c socket .MAP_WAIT_ACK) :
    Adds env s socket.id (speech index messages) ↔ Third messages := by
  cases messages with
  | nil => exact iff_of_false adds_nil id
  | cons message rest =>
    by_cases some : message ≠ []
    · obtain ⟨handled,server,ran,added,mine,finished⟩ := third_runs env placed some
      obtain ⟨fresh,stepped⟩ := at_step env placed.here ran
      obtain ⟨trace,t,path,same⟩ := done_runs env (store_at placed.here handled) finished rest
      refine iff_of_true ⟨fresh ++ trace,t,server,.cons stepped path,?_,mine⟩ some
      rw [same]
      change handled.world.mapServers.items = _
      rw [added]
      exact StdVector.emplaceBack_items _ _
    · refine iff_of_false (adds_other placed.here (by simp [placed.state]) ?_) some
      intro handled spoken
      rcases spoken with ⟨barred,same⟩ | ⟨challenged,_,_⟩ | ⟨listing,_,_,_,_⟩ | ⟨_,present⟩
      · exact ⟨barred,same⟩
      · rw [placed.state] at challenged; cases challenged
      · rw [placed.state] at listing; cases listing
      · exact absurd present some

theorem listing_adds (placed : Stage s index c socket .MAP_LIST) :
    Adds env s socket.id (speech index messages) ↔ Offer env s.toWorld messages := by
  cases messages with
  | nil => exact iff_of_false adds_nil id
  | cons message rest =>
    by_cases next : message ≠ [] ∧ env.apg.getShort message = ServerOpcode.MAP_SERVER_MAP_LIST.code ∧
        ∃ mapHashes, MapServerMapList.fromJSON env.parse (receivedJSON env message) = .ok mapHashes ∧
          requiredMaps s.toWorld mapHashes ≠ []
    · obtain ⟨some,opcode,mapHashes,decoded,needed⟩ := next
      obtain ⟨handled,ran,still,waiting⟩ := list_runs env placed some opcode decoded needed
      rw [adds_cons placed.here ran (by rw [still]),waiting_adds waiting]
      exact (and_iff_right ⟨some,opcode,mapHashes,decoded,needed⟩).symm
    · refine iff_of_false (adds_other placed.here (by simp [placed.state]) ?_) (fun offer => next offer.1)
      intro handled spoken
      rcases spoken with ⟨barred,same⟩ | ⟨challenged,_,_⟩ | ⟨_,some,opcode,decoded,needed⟩ | ⟨waiting,_⟩
      · exact ⟨barred,same⟩
      · rw [placed.state] at challenged; cases challenged
      · exact absurd ⟨some,opcode,_,decoded,needed⟩ next
      · rw [placed.state] at waiting; cases waiting

theorem challenged_adds (placed : Stage s index c socket .CHALLENGE_SENT) :
    Adds env s socket.id (speech index messages) ↔ Registration env s.toWorld messages := by
  cases messages with
  | nil => exact iff_of_false adds_nil id
  | cons message rest =>
    by_cases next : message ≠ [] ∧
        env.apg.getShort message = ServerOpcode.MAP_SERVER_REGISTRATION_REQUEST.code
    · obtain ⟨some,opcode⟩ := next
      obtain ⟨handled,ran,still,listing⟩ := request_runs env placed some opcode
      rw [adds_cons placed.here ran (by rw [still]),listing_adds listing]
      change Offer env handled.world rest ↔ _
      rw [still]
      exact (and_iff_right ⟨some,opcode⟩).symm
    · refine iff_of_false (adds_other placed.here (by simp [placed.state]) ?_) (fun registration => next registration.1)
      intro handled spoken
      rcases spoken with ⟨barred,same⟩ | ⟨_,some,opcode⟩ | ⟨listing,_,_,_,_⟩ | ⟨waiting,_⟩
      · exact ⟨barred,same⟩
      · exact absurd ⟨some,opcode⟩ next
      · rw [placed.state] at listing; cases listing
      · rw [placed.state] at waiting; cases waiting

theorem enters_exact (env : Env) (s : LoginServer) (messages : List Bytes) :
    Enters env s messages ↔ Registration env s.toWorld messages := by
  let socket : Socket := ⟨s.socketsAccepted,false,true⟩
  let accepted := s.acceptSocket.1
  have here : At accepted s.incomingConnections.length (.ofSocket socket) := by
    simp [At,accepted,LoginServer.acceptSocket,socket]
  have ran : processIncoming env accepted.toWorld (.ofSocket socket) (.delivers []) = .ok ⟨accepted.toWorld,
      {IncomingConnection.ofSocket socket with state := .CHALLENGE_SENT},
      [.sent (.authenticationChallenge env.challenge) 1]⟩ := by
    simp [processIncoming,processFreshSocket,IncomingConnection.ofSocket,socket]
  have challenged : Stage _ s.incomingConnections.length
      {IncomingConnection.ofSocket socket with state := .CHALLENGE_SENT} socket .CHALLENGE_SENT :=
    ⟨store_at here ⟨accepted.toWorld,{IncomingConnection.ofSocket socket with state := .CHALLENGE_SENT},
      [.sent (.authenticationChallenge env.challenge) 1]⟩,visit_ready (ofSocket_ready socket) (processIncoming_parts ran),
      rfl,rfl,rfl⟩
  have first : LoginServer.step env s .accept = .ok s.acceptSocket := rfl
  unfold Enters talk
  rw [adds_step first rfl]
  change Adds env accepted _ (speech _ ([] :: messages)) ↔ _
  rw [adds_cons here ran rfl]
  exact challenged_adds challenged

-- Some key pair keeps a peer out exactly when every key pair does.
theorem registration_keys (env : Env) (s : LoginServer) (messages : List Bytes) :
    (∃ crypto, ¬ Enters {env with crypto := crypto} s messages) ↔ ¬ Registration env s.toWorld messages := by
  constructor
  · intro kept registration
    obtain ⟨crypto,out⟩ := kept
    exact out ((enters_exact {env with crypto := crypto} s messages).mpr registration)
  · intro none
    exact ⟨env.crypto,fun enters => none ((enters_exact env s messages).mp enters)⟩

-- The messages of an ordinary map server, which hold nothing of any key.
def stranger : List Bytes :=
  [(ServerPacket.mapServerRegistrationRequest (text "Map") (text "localhost") 10420).buffer .network,
    (ServerPacket.mapServerMapList [town]).buffer .network,ServerPacket.mapServerAck.buffer .network]

theorem stranger_registration : Registration towns (LoginServer.start .empty [] [town] .empty).toWorld stranger := by
  refine ⟨⟨by decide +kernel,by decide +kernel⟩,⟨by decide +kernel,by decide +kernel,[{town with id := 0}],?_,?_⟩,?_⟩
  · decide +kernel
  · decide +kernel
  · change ServerPacket.mapServerAck.buffer .network ≠ []
    decide +kernel

theorem registration_keys_stranger : ¬ ∃ crypto,
    ¬ Enters {towns with crypto := crypto} (.start .empty [] [town] .empty) stranger := by
  rintro ⟨crypto,out⟩
  exact out ((enters_exact {towns with crypto := crypto} _ _).mpr stranger_registration)

end PlayPG.PeerRegistration
