import PlayPG.Admission
import PlayPG.SelectionAgreement

namespace PlayPG.Passage
open Bytes Client ClientScreens ConnectedHandler ServerSteps SessionIndex SessionStream Sockets Network SelectionAgreement Admission

variable {env : Env} {build : Build} {n m : Network} {id : Nat} {s t : System} {session after : PlayerSession}
  {rows : List Character} {c : Character} {server : MapServerConnection} {world next : World} {up down : List Bytes}

def attentive : SessionIO := { SessionIO.quiet with activity := true}

-- The answers of the sockets in a pass that finds something to read on this one only.
def attention (id : Nat) (sessions : List (Option PlayerSession)) : List SessionIO :=
  sessions.map (fun slot => if slot.map (·.socket.id) = some id then attentive else SessionIO.quiet)

theorem attention_turn (n : Network) (member : (session,io) ∈ turns sessions (n.hears sessions (attention id sessions))) :
    (session.socket.id = id → id ∈ n.links → io = n.heardSession id attentive) ∧
      (session.socket.id ≠ id → io.activity = false) := by
  induction sessions with
  | nil => cases member
  | cons head rest ih =>
    cases head with
    | none => exact ih member
    | some first =>
      simp only [attention,List.map_cons,hears,turns,List.headD_cons,List.tail_cons,List.mem_cons,Prod.mk.injEq] at member
      rcases member with ⟨rfl,rfl⟩ | later
      · constructor
        · rintro rfl linked
          simp [linked]
        · intro differs
          simp only [Option.map_some,Option.some.injEq,if_neg differs]
          split
          · rfl
          · rfl
      · exact ih later

theorem quiet_visit (env : Env) (world : World) (quiet : io.activity = false) :
    ∃ visited, (visitSession env world session io).map Prod.snd = .ok visited := by
  unfold visitSession
  dsimp only
  split
  · exact ⟨_,rfl⟩
  · simp only [serveSession,quiet,Bool.not_false,if_true]
    exact ⟨_,rfl⟩

-- No other session keeps the server from this one.
theorem attention_serves (sole : Sole n.server) (present : none ∉ n.server.playerSessions) (linked : id ∈ n.links)
    (plays : Plays n.server id session) (alive : session.socket.error = false)
    (runs : serveSession env n.server.toWorld session (n.heardSession id attentive) = .ok visited) :
    ∃ m fresh, serve env n (.connected (attention id n.server.playerSessions)) = .ok (m,fresh) ∧
      SessionTurn env n m id session fresh attentive visited := by
  let ios := n.hears n.server.playerSessions (attention id n.server.playerSessions)
  have each : ∀ turn ∈ turns n.server.playerSessions ios,
      ∃ visited, (visitSession env n.server.toWorld turn.1 turn.2).map Prod.snd = .ok visited := by
    rintro ⟨other,io⟩ member
    obtain ⟨mine,others⟩ := attention_turn n member
    by_cases same : other.socket.id = id
    · obtain rfl : other = session := sole.player ⟨CharacterChoice.turns_member member,same⟩ plays
      obtain rfl := mine same linked
      have calm : other.socket.raise (n.heardSession id attentive).pollError = other.socket := Socket.raise_false _
      simp only [visitSession,calm,alive,Bool.false_eq_true,if_false,runs]
      exact ⟨_,rfl⟩
    · exact quiet_visit env _ (others same)
  obtain ⟨⟨last,sessions,fresh⟩,loop⟩ := visitSessions_runs present each
  have stepped : ∃ next, LoginServer.step env n.server (.connected ios) = .ok (next,fresh) := by
    simp only [LoginServer.step,processConnected,loop]
    exact ⟨_,rfl⟩
  obtain ⟨next,stepped⟩ := stepped
  have ran : serve env n (.connected (attention id n.server.playerSessions)) = .ok (n.absorb env.apg next fresh,fresh) := by
    have same : LoginServer.step env n.server (n.wired (.connected (attention id n.server.playerSessions))) =
        .ok (next,fresh) := stepped
    simp only [serve,same]
  obtain ⟨io,own,turn,⟨users,world,visit⟩,left,effects⟩ := connected_plays sole plays stepped
  obtain rfl := (attention_turn n turn).1 plays.2 linked
  have again := visit_served alive visit
  obtain rfl : own = visited := Except.ok.inj (again.symm.trans runs)
  refine ⟨_,fresh,ran,⟨users,world,visit⟩,left,effects,?_,?_⟩
  · rw [← effects]
    rfl
  · rw [← effects]
    rfl

-- The first character of the player is on a map that a map server is connected for.
structure Route (world : World) (playerID : UInt64) (rows : List Character) (c : Character) (server : MapServerConnection) :
    Prop where
  owned : world.characters.filter (·.playerID == playerID) = rows
  first : rows.head? = some c
  place : ∃ name address, world.mapIDToName c.locationID = some name ∧ world.mapNameToConnection name = some address ∧
    world.mapServers.deref address = some server

theorem Route.undisturbed (route : Route world playerID rows c server) (same : Undisturbed world next) :
    Route next playerID rows c server := by
  obtain ⟨name,address,named,indexed,found⟩ := route.place
  refine ⟨?_,route.first,name,address,?_,?_,?_⟩
  · rw [same.characters]
    exact route.owned
  · rw [same.mapIDToName]
    exact named
  · rw [same.mapNameToConnection]
    exact indexed
  · rw [same.mapServers]
    exact found

-- The session of a client that its link leads to, with a route for it.
structure Sits (n : Network) (id : Nat) (session : PlayerSession) (rows : List Character) (c : Character)
    (server : MapServerConnection) (up down : List Bytes) : Prop where
  accounted : ∃ trace, Ownership.Accounted trace n.server
  plays : Plays n.server id session
  socket : session.socket = ⟨id,false,true⟩
  route : Route n.server.toWorld session.playerID rows c server
  queues : Queues n id up down

-- One pass for the session, which answers what was on its way.
theorem Sits.attend (sits : Sits n id session rows c server up down)
    (runs : serveSession env n.server.toWorld session (n.heardSession id attentive) = .ok visited)
    (left : visited.session = some after) (socket : after.socket = session.socket) (player : after.playerID = session.playerID) :
    ∃ ios m fresh, serve env n (.connected ios) = .ok (m,fresh) ∧ effectsOf id fresh = visited.effects ∧
      Sits m id after rows c server (drained up visited.effects) (down ++ packets env.apg visited.effects) := by
  obtain ⟨trace,valid⟩ := sits.accounted
  have alive : session.socket.error = false := by rw [sits.socket]
  obtain ⟨m,fresh,ran,turn⟩ := attention_serves (accounted_sole valid) valid.present sits.queues.linked sits.plays alive runs
  have stepped := (serve_parts ran).1
  have frame := (step_connected stepped).1.frame
  refine ⟨_,m,fresh,ran,turn.effects,⟨_,Ownership.step_accounted valid stepped⟩,?_,socket.trans sits.socket,?_,?_,?_,?_⟩
  · apply turn.left after left
    rw [socket,sits.socket]
  · rw [player]
    exact sits.route.undisturbed ⟨frame.characters,frame.mapIDToName,frame.mapNameToConnection,frame.mapServers⟩
  · rw [serve_links ran]
    exact sits.queues.linked
  · rw [turn.up,sits.queues.up]
  · rw [turn.down,sits.queues.down]

theorem Sits.send (sits : Sits n id session rows c server up down) (sent : List Bytes) :
    Sits (n.send id sent) id session rows c server (up ++ sent) down :=
  ⟨sits.accounted,sits.plays,sits.socket,sits.route,sits.queues.send sent⟩

theorem Sits.collect (sits : Sits n id session rows c server up [packet]) :
    n.collect id true = (.ofBytes packet,n.receive id) ∧ Sits (n.receive id) id session rows c server up [] := by
  obtain ⟨got,after⟩ := sits.queues.collect
  exact ⟨got,sits.accounted,sits.plays,sits.socket,sits.route,after⟩

theorem request_attends
    (sits : Sits n id session rows c server [ClientPacket.clientRequestCharacters.buffer env.apg] []) :
    ∃ ios m fresh, serve env n (.connected ios) = .ok (m,fresh) ∧
      Sits m id session rows c server [] [(ServerPacket.playerCharacters rows).buffer env.apg] := by
  have active : (n.heardSession id attentive).activity = true := by simp [heardSession,attentive,sits.queues.up]
  have runs : ∃ visited, serveSession env n.server.toWorld session (n.heardSession id attentive) = .ok visited := by
    cases ran : serveSession env n.server.toWorld session (n.heardSession id attentive) with
    | ok visited => exact ⟨visited,rfl⟩
    | error fault =>
      have opcode := heard_opcode attentive .clientRequestCharacters sits.queues.up
      simp [serveSession,active,opcode,short_result,env.apg.getShort_exact,ClientPacket.opcode] at ran
  obtain ⟨visited,runs⟩ := runs
  obtain rfl := request_serve active sits.queues.up runs
  obtain ⟨ios,m,fresh,ran,_,after⟩ := sits.attend runs rfl rfl rfl
  rw [drained_request,sits.route.owned] at after
  exact ⟨ios,m,fresh,ran,after⟩

def instructions (server : MapServerConnection) : MapServerConnectionInstructions :=
  ⟨server.friendlyName,server.hostname,server.port⟩

-- The server has sent this client the way to this map server.
def Instructs (server : MapServerConnection) (id : Nat) (outputs : List (Nat × Effect)) : Prop :=
  (id,Effect.sent (.mapServerConnectionInstructions (instructions server)) 1) ∈ outputs

theorem effectsOf_mem {effect : Effect} (fresh : List (Nat × Effect)) (member : effect ∈ effectsOf id fresh) :
    (id,effect) ∈ fresh := by
  obtain ⟨⟨other,_⟩,within,same⟩ := List.mem_filterMap.mp member
  dsimp only at same
  split at same
  · rename_i own
    obtain rfl := own
    obtain rfl := Option.some.inj same
    exact within
  · cases same

theorem select_attends (single : (rows.map (·.id)).Nodup)
    (sits : Sits n id session rows c server [(ClientPacket.characterSelect c.id).buffer env.apg] []) :
    ∃ ios m fresh, serve env n (.connected ios) = .ok (m,fresh) ∧ Instructs server id fresh ∧
      Sits m id {session with characterID := c.id} rows c server []
        [(ServerPacket.mapServerConnectionInstructions (instructions server)).buffer env.apg] := by
  have active : (n.heardSession id attentive).activity = true := by simp [heardSession,attentive,sits.queues.up]
  have calm := heard_healthy n id attentive
  have opcode := heard_opcode attentive (.characterSelect c.id) sits.queues.up
  have payload := heard_payload attentive (.characterSelect c.id) sits.queues.up
  simp only [ClientPacket.payload,List.take_of_length_le (Nat.le_of_eq (env.apg.putLong_length c.id))] at payload
  obtain ⟨name,address,named,indexed,found⟩ := sits.route.place
  have one : ownedCharacters n.server.toWorld session c.id = [c] :=
    (owned_rows _ rfl sits.route.owned c.id).trans (owned_one single sits.route.first)
  let chose : PlayerSession := {session with characterID := c.id}
  have chosen : processCharacterSelect env n.server.toWorld session (n.heardSession id attentive) =
      .ok ⟨some chose,[.characterSelect c.id,.sent (.mapServerConnectionInstructions (instructions server)) 1]⟩ := by
    simp only [processCharacterSelect,calm.characterIDError,calm.sendResult,Socket.raise_false,reply_healthy calm,payload,
      long_result,Recv.bytes_ofBytes,long_exact,one,named,indexed,found,ne_eq,not_true_eq_false,if_false]
    rfl
  have runs : serveSession env n.server.toWorld session (n.heardSession id attentive) = _ := serve_select calm active opcode
  rw [chosen] at runs
  obtain ⟨ios,m,fresh,ran,effects,after⟩ := sits.attend runs (rfl : some chose = some chose) rfl rfl
  rw [drained_select] at after
  have sent : Instructs server id fresh := by
    apply effectsOf_mem
    rw [effects]
    simp
  exact ⟨ios,m,fresh,ran,sent,after⟩

theorem list_taken (listed : Listed env build rows) (first : rows.head? = some c) (screen : Screen) :
    receiveCharacters build screen (.ofBytes ((ServerPacket.playerCharacters rows).buffer env.apg)) =
      .ok ({screen with
          awaiting := false
          currentCharacter := some (Codecs.carriedCharacter c)
          gameState := .MAP_SERVER_CONNECT},[(ClientPacket.characterSelect c.id).buffer env.apg]) := by
  obtain ⟨rest,same⟩ := List.head?_eq_some_iff.mp first
  have body : sizedBody env.apg ((ServerPacket.playerCharacters rows).buffer env.apg) = PlayerCharacters.toJSON rows :=
    Codecs.sized_read env.apg _ listed.short
  have read : PlayerCharacters.fromJSON build.parse (PlayerCharacters.toJSON rows) = .ok (rows.map Codecs.carriedCharacter) :=
    Codecs.characters_read (Codecs.text_parsed listed.parsed (Codecs.characters_free rows))
  have opcode : env.apg.getShort ((ServerPacket.playerCharacters rows).buffer env.apg) =
      ServerOpcode.PLAYER_CHARACTERS.code := ServerPacket.opcode_whole ..
  have some := buffer_received env.apg (.playerCharacters rows)
  have listing : rows.map Codecs.carriedCharacter = Codecs.carriedCharacter c :: rest.map Codecs.carriedCharacter := by
    rw [same,List.map_cons]
  rw [listing] at read
  simp only [receiveCharacters,if_neg some,listed.apg,Recv.bytes_ofBytes,opcode,body,read,ne_eq,not_true_eq_false,if_false]
  rfl

-- The instructions for the map server arrive whole.
structure Told (build : Build) (server : MapServerConnection) : Prop where
  clean : Codecs.Message.Clean (.instructions (instructions server))
  fits : Codecs.Message.Fits (.instructions (instructions server))
  parsed : Codecs.Message.Parsed build.parse (.instructions (instructions server))

theorem instructions_taken (apg : build.apg = env.apg) (told : Told build server) (screen : Screen) :
    receiveInstructions build screen
        (.ofBytes ((ServerPacket.mapServerConnectionInstructions (instructions server)).buffer env.apg)) =
      .ok {screen with gameState := .PLAYING} := by
  have body : sizedBody env.apg ((ServerPacket.mapServerConnectionInstructions (instructions server)).buffer env.apg) =
      (instructions server).toJSON := Codecs.sized_read env.apg _ (told.fits _ rfl)
  have free : 0 ∉ (instructions server).document.write :=
    Codecs.object_free (by simp [Codecs.string_free,Codecs.integer_free])
  have read : MapServerConnectionInstructions.fromJSON build.parse (instructions server).toJSON = .ok (instructions server) :=
    Codecs.instructions_read told.clean (Codecs.text_parsed (told.parsed _ rfl) free)
  have opcode : env.apg.getShort ((ServerPacket.mapServerConnectionInstructions (instructions server)).buffer env.apg) =
      ServerOpcode.MAP_SERVER_CONNECTION_INSTRUCTIONS.code := ServerPacket.opcode_whole ..
  have some := buffer_received env.apg (.mapServerConnectionInstructions (instructions server))
  have other : ServerOpcode.MAP_SERVER_CONNECTION_INSTRUCTIONS.code ≠ ServerOpcode.NO_MAP_SERVER_ERROR.code := by decide
  simp only [receiveInstructions,if_neg some,apg,Recv.bytes_ofBytes,opcode,body,read,if_neg other,if_true]

-- A client that has just logged in, with its session: it asks for the characters and takes the first of them.
theorem selection_plays (listed : Listed env build rows) (told : Told build server)
    (screen : s.screen = ⟨.CHARACTER_SELECT,false,none⟩) (sits : Sits s.network id session rows c server [] []) :
    ∃ one two outputs t, Runs.Run (System.step env build id) s
        [.press,.server (.connected one),.receive true,.server (.connected two),.receive true] outputs t ∧
      t.screen = ⟨.PLAYING,false,some (Codecs.carriedCharacter c)⟩ ∧ Instructs server id outputs ∧
      Plays t.network.server id {session with characterID := c.id} := by
  let asked : System := ⟨s.network.send id [ClientPacket.clientRequestCharacters.buffer env.apg],⟨.CHARACTER_SELECT,true,none⟩⟩
  have presses : System.step env build id s .press = .ok (asked,[]) := by
    simp only [System.step,System.press,screen,listed.apg,asked]
  obtain ⟨one,first,lists,listing,here⟩ := request_attends (sits.send [ClientPacket.clientRequestCharacters.buffer env.apg])
  let listedOnce : System := ⟨first,asked.screen⟩
  have served : System.step env build id asked (.server (.connected one)) = .ok (listedOnce,lists) := by
    simp only [System.step,asked,listing,Except.map,listedOnce]
  obtain ⟨got,emptied⟩ := here.collect
  let choosing : System := ⟨(first.receive id).send id [(ClientPacket.characterSelect c.id).buffer env.apg],
    ⟨.MAP_SERVER_CONNECT,false,some (Codecs.carriedCharacter c)⟩⟩
  have chooses : System.step env build id listedOnce (.receive true) = .ok (choosing,[]) := by
    simp only [System.step,System.receive,listedOnce,asked,got,list_taken listed sits.route.first,Except.map,choosing]
  obtain ⟨two,second,instructs,answering,sent,there⟩ :=
    select_attends listed.single (emptied.send [(ClientPacket.characterSelect c.id).buffer env.apg])
  let instructed : System := ⟨second,choosing.screen⟩
  have answered : System.step env build id choosing (.server (.connected two)) = .ok (instructed,instructs) := by
    simp only [System.step,choosing,answering,Except.map,instructed]
  obtain ⟨told_,last⟩ := there.collect
  let playing : System := ⟨second.receive id,⟨.PLAYING,false,some (Codecs.carriedCharacter c)⟩⟩
  have plays : System.step env build id instructed (.receive true) = .ok (playing,[]) := by
    simp only [System.step,System.receive,instructed,choosing,told_,instructions_taken listed.apg told,Except.map,playing]
  refine ⟨one,two,_,playing,.cons presses (.cons served (.cons chooses (.cons answered (.cons plays .nil)))),rfl,?_,last.plays⟩
  unfold Instructs at sent ⊢
  simp [sent]

theorem collect_server (n : Network) (id : Nat) (came : Bool) : (n.collect id came).2.server = n.server :=
  (collect_parts rfl).server

-- A step of a client that logs in leaves the server alone, or makes one step of it.
theorem login_server {s t : LoginAgreement.System} (ran : LoginAgreement.System.step env build s action = .ok (t,outputs)) :
    t.network.server = s.network.server ∨
      ∃ event fresh, LoginServer.step env s.network.server event = .ok (t.network.server,fresh) := by
  have identified : ∀ {s : LoginAgreement.System} {id early}, s.identify build id early = .ok (t,outputs) →
      t.network.server = s.network.server := by
    intro s id early sent
    obtain ⟨effects,_,same⟩ := map_ok sent
    obtain ⟨rfl,_⟩ := Prod.mk.inj same
    rfl
  unfold LoginAgreement.System.step at ran
  split at ran
  · obtain ⟨⟨network,effects⟩,served,same⟩ := map_ok ran
    obtain ⟨rfl,_⟩ := Prod.mk.inj same
    exact .inr ⟨_,_,(serve_parts served).1⟩
  · split at ran
    · cases Except.ok.inj ran
      exact .inl rfl
    · unfold LoginAgreement.System.doLogin at ran
      split at ran
      · exact .inl (identified ran)
      · cases Except.ok.inj ran
        exact .inl rfl
      · cases Except.ok.inj ran
        exact .inr ⟨.accept,_,rfl⟩
      · cases Except.ok.inj ran
        exact .inl rfl
    · left
      unfold LoginAgreement.System.receiveChallenge at ran
      dsimp only at ran
      split at ran
      · cases ran
      · exact (identified ran).trans (collect_server ..)
      · cases Except.ok.inj ran
        exact collect_server ..
    · left
      unfold LoginAgreement.System.receiveResponse at ran
      dsimp only at ran
      split at ran
      · cases ran
      · cases Except.ok.inj ran
        exact collect_server ..
      · cases Except.ok.inj ran
        dsimp only
        split
        · exact collect_server ..
        · exact collect_server ..
    · cases Except.ok.inj ran
      exact .inl rfl
    · cases Except.ok.inj ran
      exact .inl rfl

theorem accounted_run {step : Runs.Machine σ ε ω φ} {first last : σ} (part : σ → LoginServer)
    (moves : ∀ {s event t fresh}, step s event = .ok (t,fresh) →
      part t = part s ∨ ∃ event fresh, LoginServer.step env (part s) event = .ok (part t,fresh))
    (start : ∃ trace, Ownership.Accounted trace (part first)) (path : Runs.Run step first events trace last) :
    ∃ trace, Ownership.Accounted trace (part last) := by
  refine path.invariant (P:=fun s => ∃ trace, Ownership.Accounted trace (part s)) start ?_
  intro s event t fresh valid ran
  rcases moves ran with same | ⟨event,effects,stepped⟩
  · rw [same]
    exact valid
  · obtain ⟨trace,accounted⟩ := valid
    exact ⟨_,Ownership.step_accounted accounted stepped⟩

theorem login_accounted {s t : LoginAgreement.System} (start : ∃ trace, Ownership.Accounted trace s.network.server)
    (path : Runs.Run (LoginAgreement.System.step env build) s actions outputs t) :
    ∃ trace, Ownership.Accounted trace t.network.server :=
  accounted_run (fun s => s.network.server) login_server start path

-- From whatever a client and the login server have come to, its player can still get into the game.
theorem journey {s : LoginAgreement.System} {io : SocketIO} {person : Player} {salt : Bytes} (keys : AccountLogin.Keys env build)
    (shared : LoginAgreement.Shared env build)
    (path : Runs.Run (LoginAgreement.System.step env build) (.start (.start players characters allMaps mapIDToName)) actions
      trace s)
    (outside : ∀ name, s.call ≠ .loggedIn name) (speaks : Speaks env build s.game.username)
    (registered : AccountLogin.Registered env s.network.server.toWorld s.game.username (text "testa") salt person)
    (active : io.activity = true) (route : Route s.network.server.toWorld person.id rows c server)
    (listed : Listed env build rows) (told : Told build server) :
    ∃ outputs t id, Runs.Run (LoginAgreement.System.step env build) s
        (hangUp s.call ++ calling s.network.server.incomingConnections.length io) outputs t ∧
      t.call = .loggedIn s.game.username ∧ t.socket = some id ∧
      ∃ one two more u, Runs.Run (System.step env build id) ⟨t.network,⟨.CHARACTER_SELECT,false,none⟩⟩
          [.press,.server (.connected one),.receive true,.server (.connected two),.receive true] more u ∧
        u.screen = ⟨.PLAYING,false,some (Codecs.carriedCharacter c)⟩ ∧
        ∃ session, Plays u.network.server id session ∧ session.username = s.game.username ∧ session.playerID = person.id ∧
          session.characterID = c.id := by
  have known := run_known path
  obtain ⟨middle,ended,freed⟩ := hangUp_runs shared known outside
  have free : 0 ∉ middle.game.username := freed.named ▸ known.free
  have row : AccountLogin.Registered env middle.network.server.toWorld middle.game.username (text "testa") salt person := by
    rw [freed.server,freed.named]
    exact registered
  obtain ⟨outputs,t,admits,logged,owned,⟨session,within,socket,named,player⟩,same,queues⟩ :=
    calling_admits keys shared (freed.named ▸ speaks) free freed.idle freed.closed row active
  rw [freed.server] at admits owned socket same queues
  rw [freed.named] at logged named
  have onward := ended.append admits
  have plays : Plays t.network.server s.network.server.socketsAccepted session := ⟨within,congrArg Socket.id socket⟩
  have reached : Route t.network.server.toWorld session.playerID rows c server := player ▸ route.undisturbed same
  have sits : Sits t.network s.network.server.socketsAccepted session rows c server [] [] :=
    ⟨login_accounted ⟨[],Ownership.start_accounted⟩ (path.append onward),plays,socket,reached,queues⟩
  obtain ⟨one,two,more,u,selects,screen,_,last⟩ :=
    selection_plays (s:=⟨t.network,⟨.CHARACTER_SELECT,false,none⟩⟩) listed told rfl sits
  exact ⟨_,t,_,onward,logged,owned,one,two,more,u,selects,screen,_,last,named,player,rfl⟩

-- The town has a map server before the client misses its challenge.
def arrivals : List LoginAgreement.Action :=
  (Event.accept :: MapAssignment.listing 0 ++ [MapAssignment.acknowledgement 0]).map .server ++ missed

def town : LoginServer := .start ⟨[lodger],by simp,by simp⟩ [CharacterChoice.hero] [MapAssignment.town]
  (UnorderedMap.empty.emplace CharacterChoice.hero.locationID MapAssignment.town.locationName)

def landlord : MapServerConnection :=
  ⟨⟨0,false,true⟩,[MapAssignment.town],text "Map",text "localhost",10420⟩

theorem lodge_listed : Listed lodge traveller [CharacterChoice.hero] := by
  refine ⟨rfl,by decide,by decide +kernel,?_⟩
  change Json.known documents (PlayerCharacters.document [CharacterChoice.hero]).write = _
  apply Codecs.known_member documents_apart
  simp [documents]

theorem lodge_told : Told traveller landlord := by
  refine ⟨⟨by decide,by decide⟩,?_,?_⟩
  · intro d same
    cases same
    decide +kernel
  · intro d same
    change Json.known documents d.write = d
    rw [← Option.some.inj same]
    apply Codecs.known_member documents_apart
    simp [documents,instructions,landlord]

theorem journey_town : ∃ trace s outputs t id, Runs.Run (LoginAgreement.System.step lodge traveller) (.start town) arrivals trace s ∧
    Runs.Run (LoginAgreement.System.step lodge traveller) s (hangUp s.call ++ calling 2 (.delivers [])) outputs t ∧
      ∃ more after u, Runs.Run (System.step lodge traveller id) ⟨t.network,⟨.CHARACTER_SELECT,false,none⟩⟩ more after u ∧
        u.screen.gameState = .PLAYING := by
  obtain ⟨trace,s,path,checked⟩ := Runs.execute_check (LoginAgreement.System.step lodge traveller) (.start town) arrivals
    (fun last => decide (last.1.call = .idle ∧ last.1.game.username = text "test@example.com" ∧
      last.1.network.server.incomingConnections.length = 2 ∧
      last.1.network.server.players.query (text "test@example.com") = [lodger] ∧
      last.1.network.server.characters = [CharacterChoice.hero] ∧
      last.1.network.server.mapIDToName CharacterChoice.hero.locationID = some MapAssignment.town.locationName ∧
      last.1.network.server.mapNameToConnection MapAssignment.town.locationName = some ⟨0,0⟩ ∧
      last.1.network.server.mapServers.deref ⟨0,0⟩ = some landlord)) (by decide +kernel)
  obtain ⟨idle,named,two,row,characters,place,indexed,found⟩ := of_decide_eq_true checked
  have outside : ∀ name, s.call ≠ .loggedIn name := by
    intro name logged
    cases idle.symm.trans logged
  have shared : LoginAgreement.Shared lodge traveller := ⟨rfl,by decide +kernel⟩
  have active : ( SocketIO.delivers []).activity = true := rfl
  have registered : AccountLogin.Registered lodge s.network.server.toWorld s.game.username (text "testa") [0,10,255] lodger := by
    rw [named]
    exact ⟨row,rfl,rfl,rfl⟩
  have route : Route s.network.server.toWorld lodger.id [CharacterChoice.hero] CharacterChoice.hero landlord := by
    refine ⟨?_,rfl,_,_,place,indexed,found⟩
    rw [characters]
    decide
  obtain ⟨outputs,t,id,admits,_,_,one,other,more,u,selects,screen,_⟩ := journey lodge_keys shared path outside
    (named ▸ lodge_guest) registered active route lodge_listed lodge_told
  rw [two] at admits
  exact ⟨trace,s,outputs,t,id,path,admits,_,more,u,selects,by rw [screen]⟩

end PlayPG.Passage
