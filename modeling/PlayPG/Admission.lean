import PlayPG.AccountLogin
import PlayPG.LoginAgreement

namespace PlayPG.Admission
open Bytes Client ClientScreens IncomingHandler Visits Sockets Network Segments Codecs AccountLogin LoginAgreement

variable {env : Env} {build : Build} {n m : Network} {index id : Nat} {s t : System} {io : SocketIO} {c : IncomingConnection}
  {world : World} {up down : List Bytes} {username salt : Bytes} {person : Player}

-- What every run of a client keeps, with any answers and any timeouts.
structure Known (s : System) : Prop where
  named : s.game.username = text "test@example.com" ∨ s.game.username = text "SgtCoDFish@example.com"
  socket : s.game.isConnected = true ∨ s.call ≠ .idle → s.socket.isSome = true
  closed : s.call = .challenge → s.game.isConnected = false

theorem Known.free (known : Known s) : 0 ∉ s.game.username := by
  rcases known.named with same | same
  · rw [same]
    decide
  · rw [same]
    decide

theorem Known.calls (known : Known s) (calling : s.call ≠ .idle) : ∃ id, s.socket = some id :=
  Option.isSome_iff_exists.mp (known.socket (.inr calling))

-- A step of the client at its own end of the link that it has.
theorem Known.local_ (known : Known s) (owned : s.socket = some id) (named : game.username = s.game.username)
    (waits : call ≠ .challenge) : Known ⟨n,game,s.socket,call⟩ := by
  refine ⟨?_,?_,?_⟩
  · rw [named]
    exact known.named
  · intro _
    rw [owned]
    rfl
  · intro waiting
    exact absurd waiting waits

theorem identify_known (known : Known s) (owned : s.socket = some id) (ran : s.identify build id early = .ok (t,outputs)) :
    Known t := by
  obtain ⟨effects,_,same⟩ := map_ok ran
  obtain ⟨rfl,_⟩ := Prod.mk.inj same
  apply known.local_ owned rfl
  intro waiting
  cases waiting

theorem doLogin_known (known : Known s) (ran : s.doLogin build reached = .ok (t,outputs)) : Known t := by
  unfold System.doLogin at ran
  split at ran
  · rename_i owned
    exact identify_known known owned ran
  · cases Except.ok.inj ran
    exact known
  · rename_i closed
    cases Except.ok.inj ran
    refine ⟨known.named,?_,?_⟩
    · intro _
      rfl
    · intro _
      exact closed
  · cases Except.ok.inj ran
    exact ⟨known.named,known.socket,known.closed⟩

theorem receiveChallenge_known (known : Known s) (owned : s.socket = some id)
    (ran : s.receiveChallenge build id came = .ok (t,outputs)) : Known t := by
  unfold System.receiveChallenge at ran
  dsimp only at ran
  split at ran
  · cases ran
  · rename_i game early passed
    unfold System.identify at ran
    obtain ⟨effects,_,same⟩ := map_ok ran
    obtain ⟨rfl,_⟩ := Prod.mk.inj same
    apply known.local_ owned (handshake_kept passed).1
    intro waiting
    cases waiting
  · rename_i game early failed
    obtain ⟨rfl,_⟩ := Prod.mk.inj (Except.ok.inj ran)
    apply known.local_ owned (handshake_kept failed).1
    intro waiting
    cases waiting

theorem receiveResponse_known (known : Known s) (owned : s.socket = some id)
    (ran : s.receiveResponse build id username came = .ok (t,outputs)) : Known t := by
  unfold System.receiveResponse at ran
  dsimp only at ran
  split at ran
  · cases ran
  · rename_i game read
    obtain ⟨rfl,_⟩ := Prod.mk.inj (Except.ok.inj ran)
    apply known.local_ owned (readResponse_parts read).1
    intro waiting
    cases waiting
  · rename_i game read
    obtain ⟨rfl,_⟩ := Prod.mk.inj (Except.ok.inj ran)
    apply known.local_ owned (readResponse_parts read).1
    intro waiting
    cases waiting

theorem step_known (known : Known s) (ran : System.step env build s action = .ok (t,outputs)) : Known t := by
  unfold System.step at ran
  split at ran
  · obtain ⟨⟨network,effects⟩,_,same⟩ := map_ok ran
    obtain ⟨rfl,_⟩ := Prod.mk.inj same
    exact ⟨known.named,known.socket,known.closed⟩
  · split at ran
    · cases Except.ok.inj ran
      exact ⟨.inr rfl,known.socket,known.closed⟩
    · exact doLogin_known known ran
    · rename_i owned _
      exact receiveChallenge_known known owned ran
    · rename_i owned _
      exact receiveResponse_known known owned ran
    · rename_i still owned _
      cases Except.ok.inj ran
      refine known.local_ owned ?_ ?_
      · rfl
      · intro waiting
        cases still.symm.trans waiting
    · cases Except.ok.inj ran
      exact known

theorem run_known {first : LoginServer} (path : Runs.Run (System.step env build) (.start first) actions outputs s) : Known s := by
  refine path.invariant ⟨.inl rfl,?_,?_⟩ step_known
  · rintro (connected | calling)
    · cases connected
    · exact absurd rfl calling
  · intro waiting
    cases waiting

-- The wait that the client is in runs out, and then its connection is lost.
def hangUp : Call → List Action
  | .challenge => [.receiveChallenge false,.lost]
  | .response _ => [.receiveResponse false,.lost]
  | _ => [.lost]

-- Outside of a call and not connected, with the server and the username of before.
structure Freed (s t : System) : Prop where
  idle : t.call = .idle
  closed : t.game.isConnected = false
  server : t.network.server = s.network.server
  named : t.game.username = s.game.username

theorem lost_freed (env : Env) (build : Build) (known : Known s) (idle : s.call = .idle) :
    ∃ t, System.step env build s .lost = .ok (t,[]) ∧ Freed s t := by
  cases owned : s.socket with
  | some id =>
    let t : System := {s with network := s.network.close id,game := {s.game with isConnected := false,challenge := none}}
    have ran : System.step env build s .lost = .ok (t,[]) := by
      simp only [System.step,idle,owned,t]
    exact ⟨t,ran,idle,rfl,rfl,rfl⟩
  | none =>
    have closed : s.game.isConnected = false := by
      cases connected : s.game.isConnected with
      | false => rfl
      | true =>
        have present := known.socket (.inl connected)
        rw [owned] at present
        cases present
    have ran : System.step env build s .lost = .ok (s,[]) := by
      simp only [System.step,idle,owned]
    exact ⟨s,ran,idle,closed,rfl,rfl⟩

theorem challenge_expires (env : Env) (build : Build) (known : Known s) (waiting : s.call = .challenge) :
    ∃ t, System.step env build s (.receiveChallenge false) = .ok (t,[]) ∧ t.call = .idle ∧
      t.network.server = s.network.server ∧ t.game.username = s.game.username := by
  obtain ⟨id,owned⟩ := known.calls (by rw [waiting]; intro idle; cases idle)
  have closed := known.closed waiting
  have unread : handshake build s.game ⟨true,false,false,.nothing 0,.nothing 0⟩ =
      .ok ({s.game with isConnected := true,challenge := none},[.opened],false) := by
    simp [handshake,closed]
  let game : Game := {s.game with isConnected := true,challenge := none}
  let t : System := {s with network := s.send build id [],game := game,call := .idle}
  have ran : System.step env build s (.receiveChallenge false) = .ok (t,[]) := by
    simp [System.step,waiting,owned,System.receiveChallenge,collect,unread,Recv.result,sentPackets,System.send,t,game]
  exact ⟨t,ran,rfl,rfl,rfl⟩

theorem response_expires (shared : Shared env build) (known : Known s) (waiting : s.call = .response username) :
    ∃ t, System.step env build s (.receiveResponse false) = .ok (t,[]) ∧ t.call = .idle ∧
      t.network.server = s.network.server ∧ t.game.username = s.game.username := by
  obtain ⟨id,owned⟩ := known.calls (by rw [waiting]; intro idle; cases idle)
  have unread : readResponse build s.game (.nothing 0) = .ok (s.game,false) := if_pos shared.blank
  let t : System := {s with
    network := if s.game.isConnected then s.network else s.network.close id
    call := .idle}
  have ran : System.step env build s (.receiveResponse false) = .ok (t,[]) := by
    simp [System.step,waiting,owned,System.receiveResponse,collect,unread,t]
  refine ⟨t,ran,rfl,?_,rfl⟩
  dsimp only [t]
  split
  · rfl
  · rfl

theorem hangUp_runs (shared : Shared env build) (known : Known s) (outside : ∀ name, s.call ≠ .loggedIn name) :
    ∃ t, Runs.Run (System.step env build) s (hangUp s.call) [] t ∧ Freed s t := by
  -- A wait that ends without an answer leaves the call.
  have through : ∀ action, (∃ t, System.step env build s action = .ok (t,[]) ∧ t.call = .idle ∧
      t.network.server = s.network.server ∧ t.game.username = s.game.username) →
      ∃ t, Runs.Run (System.step env build) s [action,.lost] [] t ∧ Freed s t := by
    intro action expires
    obtain ⟨middle,ran,idle,server,named⟩ := expires
    obtain ⟨t,lost,freed⟩ := lost_freed env build (step_known known ran) idle
    exact ⟨t,.cons ran (.cons lost .nil),freed.idle,freed.closed,freed.server.trans server,freed.named.trans named⟩
  cases calling : s.call with
  | idle =>
    obtain ⟨t,lost,freed⟩ := lost_freed env build known calling
    exact ⟨t,.cons lost .nil,freed⟩
  | challenge => exact through _ (challenge_expires env build known calling)
  | response name => exact through _ (response_expires shared known calling)
  | loggedIn name => exact absurd calling (outside name)

-- The link of a client, with what is on its way in both directions.
structure Queues (n : Network) (id : Nat) (up down : List Bytes) : Prop where
  linked : id ∈ n.links
  up : n.up id = up
  down : n.down id = down

-- The client takes the one packet that has come, and it may send some.
theorem Queues.collect (queues : Queues n id up [packet]) :
    n.collect id true = (.ofBytes packet,n.receive id) ∧ Queues (n.receive id) id up [] := by
  refine ⟨?_,queues.linked,queues.up,?_⟩
  · simp only [Network.collect,queues.down]
  · simp [Network.receive,queues.down]

theorem Queues.send (queues : Queues n id up down) (sent : List Bytes) : Queues (n.send id sent) id (up ++ sent) down := by
  refine ⟨queues.linked,?_,queues.down⟩
  simp [Network.send,queues.up]

-- The login server at a turn of the connection at this index, whose socket ends the link.
structure Turns (n : Network) (index id : Nat) (c : IncomingConnection) (world : World) (up down : List Bytes) : Prop where
  present : n.server.incomingConnections[index]? = some c
  world : n.server.toWorld = world
  queues : Queues n id up down

theorem Turns.serve (turns : Turns n index id c world up down) (owned : c.socket = some ⟨id,false,true⟩)
    (ran : processIncoming env world c (n.heard id io) = .ok handled) :
    ∃ m fresh, serve env n (.incoming index io) = .ok (m,fresh) ∧
      Turns m index id handled.connection handled.world (drained up handled.effects) (down ++ packets env.apg handled.effects) := by
  have wired : n.wired (.incoming index io) = .incoming index (n.heard id io) := by
    simp only [Network.wired,turns.present,Option.bind_some,owned,if_pos turns.queues.linked]
  have named : LoginServer.connectionId c = id := LoginServer.connectionId_owned owned
  have stepped : LoginServer.step env n.server (.incoming index (n.heard id io)) =
      .ok (n.server.store index handled,handled.effects.map (Prod.mk id)) := by
    simp only [LoginServer.step,turns.present,turns.world,ran,named]
  let fresh := handled.effects.map (Prod.mk id)
  refine ⟨n.absorb env.apg (n.server.store index handled) fresh,fresh,?_,?_,rfl,turns.queues.linked,?_,?_⟩
  · simp only [Network.serve,wired,stepped,fresh]
  · have within := (List.getElem?_eq_some_iff.mp turns.present).1
    simp [absorb,LoginServer.store,within]
  · simp [absorb,effectsOf_own,turns.queues.up,fresh]
  · simp [absorb,effectsOf_own,turns.queues.down,fresh]

def greeted (id : Nat) : IncomingConnection := {IncomingConnection.ofSocket ⟨id,false,true⟩ with state := .CHALLENGE_SENT}

theorem connect_turns (n : Network) : Turns n.connect n.server.incomingConnections.length n.server.socketsAccepted
    (.ofSocket ⟨n.server.socketsAccepted,false,true⟩) n.server.toWorld [] [] := by
  refine ⟨?_,rfl,List.mem_cons_self,?_,?_⟩
  · simp [Network.connect,LoginServer.acceptSocket]
  · simp [Network.connect]
  · simp [Network.connect]

theorem greet_serve (env : Env) (turns : Turns n index id (.ofSocket ⟨id,false,true⟩) world [] []) (io : SocketIO) :
    ∃ m fresh, serve env n (.incoming index io) = .ok (m,fresh) ∧
      Turns m index id (greeted id) world [] [(ServerPacket.authenticationChallenge env.challenge).buffer env.apg] := by
  obtain ⟨m,fresh,ran,after⟩ := turns.serve rfl (heard_fresh env n io world rfl rfl)
  exact ⟨m,fresh,ran,after⟩

def success : AuthenticationResponse := ⟨true,3,text "Authentication successful."⟩

-- The two programs are of one version, and the documents of a login under this name are whole.
structure Speaks (env : Env) (build : Build) (username : Bytes) : Prop where
  matched : Matches build env.challenge
  identity : ∀ identity, submit build ((ServerPacket.authenticationChallenge env.challenge).buffer env.apg) username
    (text "testa") = .ok identity → Message.Fits (.identity identity) ∧ Message.Parsed env.parse (.identity identity)
  response : Message.Fits (.response success) ∧ Message.Parsed build.parse (.response success)

-- The writer and the reader of a challenge each take a field as a C string.
def carried (field : Bytes) : Bytes := cString (cString field)

theorem carried_cString (field : Bytes) : cString (carried field) = cString field := by
  rw [carried,cString_of_free (cString_free _),cString_of_free (cString_free _)]

theorem challenge_carried (apg : ByteBuffer) (fits : Message.Fits (.challenge challenge))
    (parsed : Message.Parsed parse (.challenge challenge)) :
    AuthenticationChallenge.fromJSON parse (sizedBody apg ((ServerPacket.authenticationChallenge challenge).buffer apg)) =
      .ok ⟨carried challenge.version,carried challenge.versionHash,carried challenge.name,carried challenge.pubKey⟩ := by
  have body : sizedBody apg ((ServerPacket.authenticationChallenge challenge).buffer apg) = challenge.toJSON :=
    sized_read apg _ (fits _ rfl)
  have free : 0 ∉ challenge.document.write := object_free (by simp [string_free])
  have whole : parse (cString challenge.toJSON) = challenge.document := text_parsed (parsed _ rfl) free
  rw [body]
  unfold AuthenticationChallenge.fromJSON
  rw [whole]
  rfl

theorem challenge_decoded (keys : Keys env build) (matched : Matches build env.challenge) : ∃ challenge,
    AuthenticationChallenge.fromJSON build.parse
        (sizedBody build.apg ((ServerPacket.authenticationChallenge env.challenge).buffer env.apg)) = .ok challenge ∧
      Matches build challenge := by
  rw [keys.library]
  obtain ⟨version,hash⟩ := matched
  exact ⟨_,challenge_carried env.apg keys.fits keys.parsed,(carried_cString _).trans version,(carried_cString _).trans hash⟩

-- What the client answers to the challenge under this name.
structure Offered (env : Env) (build : Build) (username : Bytes) (identity : AuthenticationIdentity) : Prop where
  submitted : submit build ((ServerPacket.authenticationChallenge env.challenge).buffer env.apg) username (text "testa") =
    .ok identity
  named : identity.username = username
  decrypts : env.crypto.decryptStringPrivate identity.password = .ok (text "testa")

theorem challenge_passes {game : Game} (keys : Keys env build) (matched : Matches build env.challenge)
    (closed : game.isConnected = false) : ∃ next effects identity,
    handshake build game ⟨true,false,true,.ofBytes ((ServerPacket.authenticationChallenge env.challenge).buffer env.apg),
        .nothing 0⟩ = .ok (next,[.opened],true) ∧ next.username = game.username ∧
      sendIdentity next = .ok effects ∧ sentPackets effects = [.authenticationIdentity identity] ∧
      Offered env build game.username identity := by
  obtain ⟨challenge,decoded,same⟩ := challenge_decoded keys matched
  have short : (text "testa").length ≤ 470 := by decide
  obtain ⟨identity,submitted,named,decrypts⟩ := submit_runs keys game.username short
  have opcode : build.apg.getShort ((ServerPacket.authenticationChallenge env.challenge).buffer env.apg) =
      ServerOpcode.LOGIN_AUTHENTICATION_CHALLENGE.code := by
    rw [keys.library]
    exact ServerPacket.opcode_whole ..
  let next : Game := {game with
    isConnected := true
    serverPubKey := challenge.pubKey
    crypto := some (.ofPublicKey build.readPublicKey challenge.pubKey)
    challenge := some challenge}
  have shaken : handshake build game ⟨true,false,true,
      .ofBytes ((ServerPacket.authenticationChallenge env.challenge).buffer env.apg),.nothing 0⟩ =
      .ok (next,[.opened],true) := by
    simp [handshake,closed,opcode,decoded,same,next]
  have whole := submitted
  unfold submit at whole
  rw [decoded] at whole
  obtain ⟨_,first,rest⟩ := bind_ok.mp whole
  obtain rfl := Except.ok.inj first
  obtain ⟨encPass,encrypted,last⟩ := bind_ok.mp rest
  obtain rfl := Except.ok.inj last
  let crypto : RSACrypto := .ofPublicKey build.readPublicKey challenge.pubKey
  refine ⟨next,[.encrypted crypto,.sent (.authenticationIdentity ⟨game.username,encPass⟩)],⟨game.username,encPass⟩,shaken,rfl,
    ?_,rfl,submitted,rfl,decrypts⟩
  simp only [sendIdentity,next,encrypted,crypto]

theorem buffer_received (apg : ByteBuffer) (packet : ServerPacket) : ¬ (Recv.ofBytes (packet.buffer apg)).result = 0 := by
  rw [Recv.ofBytes_result,ServerPacket.buffer,List.length_append,apg.putShort_length]
  omega

theorem challenge_answered (keys : Keys env build) (matched : Matches build env.challenge) (owned : s.socket = some id)
    (waiting : s.call = .challenge) (closed : s.game.isConnected = false)
    (turns : Turns s.network index id c world [] [(ServerPacket.authenticationChallenge env.challenge).buffer env.apg]) :
    ∃ t outputs identity, System.step env build s (.receiveChallenge true) = .ok (t,outputs) ∧
      Offered env build s.game.username identity ∧
      Turns t.network index id c world [(ClientPacket.authenticationIdentity identity).buffer env.apg] [] ∧
      t.socket = some id ∧ t.call = .response s.game.username := by
  obtain ⟨next,effects,identity,shaken,named,sent,only,offered⟩ := challenge_passes keys matched closed
  obtain ⟨got,after⟩ := turns.queues.collect
  have some := buffer_received env.apg (.authenticationChallenge env.challenge)
  have quiet : sentPackets [.opened] = [] := rfl
  let network := (s.network.receive id).send id [(ClientPacket.authenticationIdentity identity).buffer build.apg]
  let t : System := ⟨network,next,.some id,.response next.username⟩
  have ran : System.step env build s (.receiveChallenge true) = .ok (t,[.client (.authenticationIdentity identity)]) := by
    simp [System.step,waiting,owned,System.receiveChallenge,got,some,shaken,System.identify,sent,only,
      quiet,Except.map,System.send,t,network]
  refine ⟨t,_,identity,ran,offered,?_,rfl,?_⟩
  · rw [← keys.library]
    exact ⟨turns.present,turns.world,after.send _⟩
  · rw [← named]

-- The server has a session of this connection, for the account and under its name.
def Admitted (world : World) (id : Nat) (username : Bytes) (person : Player) : Prop :=
  ∃ session, some session ∈ world.playerSessions ∧ session.socket = ⟨id,false,true⟩ ∧ session.username = username ∧
    session.playerID = person.id

-- What the selection of a character reads.
structure Undisturbed (before after : World) : Prop where
  characters : after.characters = before.characters
  mapIDToName : after.mapIDToName = before.mapIDToName
  mapNameToConnection : after.mapNameToConnection = before.mapNameToConnection
  mapServers : after.mapServers = before.mapServers

def welcome : ServerPacket := .authenticationResponse success

theorem admit_serve (keys : Keys env build) (speaks : Speaks env build username) (free : 0 ∉ username)
    (registered : Registered env world username (text "testa") salt person) (offered : Offered env build username identity)
    (turns : Turns n index id (greeted id) world [(ClientPacket.authenticationIdentity identity).buffer env.apg] [])
    (active : io.activity = true) :
    ∃ m fresh c after, serve env n (.incoming index io) = .ok (m,fresh) ∧
      Turns m index id c after [] [welcome.buffer env.apg] ∧ Admitted after id username person ∧ Undisturbed world after := by
  obtain rfl := offered.named
  obtain ⟨fits,parsed⟩ := speaks.identity identity offered.submitted
  let packet := (ClientPacket.authenticationIdentity identity).buffer env.apg
  let healthy : SocketIO := {io with pollError := false,recvError := false,sendResult := 1,sendError := false}
  have heard : n.heard id io = arrives healthy packet := by
    simp [Network.heard,arrives,turns.queues.up,active,healthy,packet]
  have some : packet ≠ [] := by
    intro none
    have length := congrArg List.length none
    simp [packet,ClientPacket.buffer,env.apg.putShort_length] at length
  have login : Login (greeted id) := .inl rfl
  have turn : Visits.Turn (arrives healthy packet) (greeted id) ⟨id,false,true⟩ := ⟨rfl,rfl,rfl⟩
  have identifies : Identifies env (arrives healthy packet) identity :=
    identity_identifies healthy free (fits _ rfl) (parsed _ rfl)
  have keyed : Keyed env.crypto := by
    obtain ⟨keyPair,_,held,_⟩ := keys.pair
    intro _
    rw [held]
    rfl
  obtain ⟨handled,ran⟩ := identity_runs world keyed login turn identifies some
  have opened := got_open login (arrives_got healthy some) identifies.1
  have accepted : Accepts env world.players identity person := (accepts_exact registered offered.decrypts).mpr ⟨rfl,rfl⟩
  rcases identity_visit login turn opened identifies (processIncoming_parts ran) with
    ⟨refuses,_⟩ | ⟨other,row,locked,_⟩ | ⟨other,accepts,rfl⟩
  · exact absurd accepted (refuses person)
  · obtain rfl := Option.some.inj (row.symm.trans accepted.1)
    cases locked.symm.trans accepted.2.1
  · obtain rfl := Option.some.inj (accepts.1.symm.trans accepted.1)
    obtain ⟨m,fresh,served,after⟩ := turns.serve rfl (heard ▸ ran)
    refine ⟨m,fresh,_,_,served,after,⟨_,List.mem_append_right _ (List.mem_singleton_self _),rfl,rfl,rfl⟩,?_⟩
    exact ⟨rfl,rfl,rfl,rfl⟩

theorem welcome_read (speaks : Speaks env build username) (shared : Shared env build) (game : Game) :
    readResponse build game (.ofBytes (welcome.buffer env.apg)) = .ok (game,true) := by
  obtain ⟨fits,parsed⟩ := speaks.response
  have opcode : build.apg.getShort (welcome.buffer env.apg) = ServerOpcode.LOGIN_AUTHENTICATION_RESPONSE.code := by
    rw [shared.apg]
    exact ServerPacket.opcode_whole ..
  have body : sizedBody build.apg (welcome.buffer env.apg) = success.toJSON := by
    rw [shared.apg]
    exact sized_read env.apg _ (fits _ rfl)
  have free : 0 ∉ success.document.write := object_free (by simp [bool_free,integer_free,string_free])
  have decoded : AuthenticationResponse.fromJSON build.parse success.toJSON = .ok success :=
    response_read ⟨by decide,by decide,by decide⟩ (text_parsed (parsed _ rfl) free)
  simp only [readResponse,opcode,Recv.bytes_ofBytes,body,decoded]
  rfl

theorem answer_returns (speaks : Speaks env build username) (shared : Shared env build) (owned : s.socket = some id)
    (waiting : s.call = .response username) (turns : Turns s.network index id c world [] [welcome.buffer env.apg]) :
    ∃ t, System.step env build s (.receiveResponse true) = .ok (t,[]) ∧ t.call = .loggedIn username ∧ t.socket = some id ∧
      t.network.server.toWorld = world ∧ Queues t.network id [] [] := by
  obtain ⟨got,after⟩ := turns.queues.collect
  let t : System := ⟨s.network.receive id,s.game,some id,.loggedIn username⟩
  have ran : System.step env build s (.receiveResponse true) = .ok (t,[]) := by
    simp [System.step,waiting,owned,System.receiveResponse,got,welcome_read speaks shared,t]
  exact ⟨t,ran,rfl,rfl,turns.world,after⟩

-- One call of doLogin on a new connection, the server serving that connection between its waits.
def calling (index : Nat) (io : SocketIO) : List Action :=
  [.doLogin true,.server (.incoming index io),.receiveChallenge true,.server (.incoming index io),.receiveResponse true]

theorem calling_admits (keys : Keys env build) (shared : Shared env build) (speaks : Speaks env build s.game.username)
    (free : 0 ∉ s.game.username) (idle : s.call = .idle) (closed : s.game.isConnected = false)
    (registered : Registered env s.network.server.toWorld s.game.username (text "testa") salt person)
    (active : io.activity = true) :
    ∃ outputs t, Runs.Run (System.step env build) s (calling s.network.server.incomingConnections.length io) outputs t ∧
      t.call = .loggedIn s.game.username ∧ t.socket = some s.network.server.socketsAccepted ∧
      Admitted t.network.server.toWorld s.network.server.socketsAccepted s.game.username person ∧
      Undisturbed s.network.server.toWorld t.network.server.toWorld ∧ Queues t.network s.network.server.socketsAccepted [] [] := by
  let id := s.network.server.socketsAccepted
  let dialled : System := {s with network := s.network.connect,socket := some id,call := .challenge}
  have dials : System.step env build s (.doLogin true) = .ok (dialled,[]) := by
    simp only [System.step,idle,System.doLogin,closed,dialled,id]
  obtain ⟨one,greeting,greets,asked⟩ := greet_serve env (connect_turns s.network) io
  let challenged : System := {dialled with network := one}
  obtain ⟨two,_,identity,answers,offered,sent,socket,response⟩ :=
    challenge_answered (s:=challenged) keys speaks.matched rfl rfl closed asked
  obtain ⟨three,admission,c,after,admits,queued,admitted,same⟩ := admit_serve keys speaks free registered offered sent active
  let told : System := {two with network := three}
  obtain ⟨t,returns,logged,owned,world,queues⟩ := answer_returns (s:=told) speaks shared socket response queued
  have first : System.step env build dialled (.server (.incoming s.network.server.incomingConnections.length io)) =
      .ok (challenged,greeting.map .server) := by
    simp only [System.step,dialled,greets,Except.map,challenged]
  have second : System.step env build two (.server (.incoming s.network.server.incomingConnections.length io)) =
      .ok (told,admission.map .server) := by
    simp only [System.step,admits,Except.map,told]
  refine ⟨_,t,.cons dials (.cons first (.cons answers (.cons second (.cons returns .nil)))),logged,owned,?_,?_,queues⟩
  · rw [world]
    exact admitted
  · rw [world]
    exact same

-- From whatever a client and the login server have come to: once the wait is over and the connection gone,
-- one call gets the account in.
theorem login_recovers {first : LoginServer} (keys : Keys env build) (shared : Shared env build)
    (path : Runs.Run (System.step env build) (.start first) actions trace s) (outside : ∀ name, s.call ≠ .loggedIn name)
    (speaks : Speaks env build s.game.username)
    (registered : Registered env s.network.server.toWorld s.game.username (text "testa") salt person)
    (active : io.activity = true) :
    ∃ outputs t, Runs.Run (System.step env build) s
        (hangUp s.call ++ calling s.network.server.incomingConnections.length io) outputs t ∧
      t.call = .loggedIn s.game.username ∧ ∃ id, t.socket = some id ∧
        Admitted t.network.server.toWorld id s.game.username person := by
  have known := run_known path
  obtain ⟨middle,ended,freed⟩ := hangUp_runs shared known outside
  have free : 0 ∉ middle.game.username := freed.named ▸ known.free
  obtain ⟨outputs,t,admits,logged,owned,admitted,_⟩ := calling_admits (s:=middle) keys shared (freed.named ▸ speaks) free
    freed.idle freed.closed (by rw [freed.server,freed.named]; exact registered) active
  rw [freed.server] at admits
  rw [freed.named] at logged admitted
  exact ⟨_,t,ended.append admits,logged,_,owned,admitted⟩

def guest (username : Bytes) : AuthenticationIdentity := ⟨username,(carrier.publicEncrypt (text "testa")).getD []⟩

def lodger : Player := {ann with username := text "test@example.com"}

def documents : List Json := [greeting.document,success.document,MapServerMapList.document [MapAssignment.town],
  PlayerCharacters.document [CharacterChoice.hero],
  MapServerConnectionInstructions.document ⟨text "Map",text "localhost",10420⟩,(guest (text "test@example.com")).document,
  (guest (text "SgtCoDFish@example.com")).document]

def lodge : Env := {Env.plain documents with crypto := ⟨text "PEM",some carrier,true,true⟩,hasher := keeping}

def traveller : Build := ⟨.network,lodge.parse,fun _ => some carrier,text "0.0.1",[]⟩

theorem documents_apart : (documents.map Json.write).Nodup := by
  decide +kernel

theorem lodge_keys : Keys lodge traveller where
  pair := ⟨carrier,carrier,rfl,rfl,rfl,carrier_inverts⟩
  library := rfl
  text := by
    change 0 ∉ text "PEM"
    decide
  fits := by
    intro d same
    cases same
    change greeting.document.write.length < 2^16
    decide +kernel
  parsed := by
    intro d same
    cases same
    exact known_member documents_apart List.mem_cons_self

theorem lodge_speaks (submitted : submit traveller ((ServerPacket.authenticationChallenge greeting).buffer .network) username
      (text "testa") = .ok (guest username))
    (fits : (guest username).document.write.length < 2^16) (member : (guest username).document ∈ documents) :
    Speaks lodge traveller username where
  matched := by
    change Matches traveller greeting
    decide
  identity := by
    intro identity also
    obtain rfl := Except.ok.inj (also.symm.trans submitted)
    constructor
    · intro d same
      cases same
      exact fits
    · intro d same
      change Json.known documents d.write = d
      rw [← Option.some.inj same]
      exact known_member documents_apart member
  response := by
    constructor
    · intro d same
      cases same
      decide +kernel
    · intro d same
      change Json.known documents d.write = d
      rw [← Option.some.inj same]
      exact known_member documents_apart (List.mem_cons_of_mem _ List.mem_cons_self)

theorem lodge_guest : Speaks lodge traveller (text "test@example.com") :=
  lodge_speaks (by decide +kernel) (by decide +kernel) (by simp [documents])

-- The challenge comes too late for the first call; the connection stays open without it.
def missed : List Action := [.doLogin true,.receiveChallenge false]

theorem login_recovers_missed : ∃ trace s outputs t,
    Runs.Run (System.step lodge traveller) (.start (.start ⟨[lodger],by simp,by simp⟩ [] [] .empty)) missed trace s ∧
      s.game.isConnected = true ∧ s.game.challenge = none ∧
      Runs.Run (System.step lodge traveller) s (hangUp s.call ++ calling 1 (.delivers [])) outputs t ∧
      t.call = .loggedIn (text "test@example.com") := by
  obtain ⟨trace,s,path,checked⟩ := Runs.execute_check (System.step lodge traveller)
    (.start (.start ⟨[lodger],by simp,by simp⟩ [] [] .empty)) missed
    (fun last => decide (last.1.call = .idle ∧ last.1.game.isConnected = true ∧ last.1.game.challenge = none ∧
      last.1.game.username = text "test@example.com" ∧ last.1.network.server.incomingConnections.length = 1 ∧
      last.1.network.server.players.query (text "test@example.com") = [lodger])) (by decide +kernel)
  obtain ⟨idle,connected,unread,named,one,row⟩ := of_decide_eq_true checked
  have outside : ∀ name, s.call ≠ .loggedIn name := by
    intro name logged
    cases idle.symm.trans logged
  have shared : Shared lodge traveller := ⟨rfl,by decide +kernel⟩
  have active : ( SocketIO.delivers []).activity = true := rfl
  have registered : Registered lodge s.network.server.toWorld s.game.username (text "testa") [0,10,255] lodger := by
    rw [named]
    exact ⟨row,rfl,rfl,rfl⟩
  obtain ⟨outputs,t,admits,logged,_⟩ := login_recovers lodge_keys shared path outside (named ▸ lodge_guest)
    registered active
  rw [one] at admits
  rw [named] at logged
  exact ⟨trace,s,outputs,t,path,connected,unread,admits,logged⟩

end PlayPG.Admission
