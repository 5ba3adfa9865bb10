import PlayPG.ClientScreens
import PlayPG.Segments
import PlayPG.SessionLinks
import PlayPG.SessionStream

namespace PlayPG.SelectionAgreement
open Bytes Client ClientScreens ConnectedHandler Sockets Network SessionStream

-- A client and the login server; id is the socket of their connection.
structure System where
  network : Network
  screen : Screen

inductive Action where
  | server (event : Event)
  | press
  | receive (arrives : Bool)

def System.press (build : Build) (id : Nat) (s : System) : System :=
  match s.screen.gameState,s.screen.awaiting with
  | .CHARACTER_SELECT,false =>
    ⟨s.network.send id [ClientPacket.clientRequestCharacters.buffer build.apg],{s.screen with awaiting := true}⟩
  | _,_ => s

def System.receive (build : Build) (id : Nat) (s : System) (arrives : Bool) : Except Fault System :=
  let (recv,network) := s.network.collect id arrives
  match s.screen.gameState,s.screen.awaiting with
  | .CHARACTER_SELECT,true => (receiveCharacters build s.screen recv).map (fun next => ⟨network.send id next.2,next.1⟩)
  | .MAP_SERVER_CONNECT,_ => (receiveInstructions build s.screen recv).map (fun next => ⟨network,next⟩)
  | _,_ => .ok s

def System.step (env : Env) (build : Build) (id : Nat) : Runs.Machine System Action (Nat × Effect) Fault
  | s,.server event => (s.network.serve env event).map (fun served => ({s with network := served.1},served.2))
  | s,.press => .ok (s.press build id,[])
  | s,.receive arrives => (s.receive build id arrives).map (fun next => (next,[]))

-- A client after its login, with nothing of the selection on its way.
structure LoggedIn (env : Env) (id : Nat) (playerID : UInt64) (rows : List Character) (s : System) : Prop where
  reached : ∃ players characters allMaps mapIDToName events trace,
    Runs.Run (LoginServer.step env) (.start players characters allMaps mapIDToName) events trace s.network.server
  linked : id ∈ s.network.links
  kept : s.network.server.characters.filter (·.playerID == playerID) = rows
  session : ∃ session, Plays s.network.server id session ∧ session.socket = ⟨id,false,true⟩ ∧ session.playerID = playerID
  up : s.network.up id = []
  down : ∀ packet ∈ s.network.down id, env.apg.getShort packet ≠ ServerOpcode.PLAYER_CHARACTERS.code ∧
    env.apg.getShort packet ≠ ServerOpcode.MAP_SERVER_CONNECTION_INSTRUCTIONS.code
  screen : s.screen = ⟨.CHARACTER_SELECT,false,none⟩

-- The rows of the player stay; their ids are a primary key, and the list of them fits its packet.
structure Listed (env : Env) (build : Build) (rows : List Character) : Prop where
  apg : build.apg = env.apg
  single : (rows.map (·.id)).Nodup
  short : (PlayerCharacters.toJSON rows).length < 2^16
  parsed : build.parse (PlayerCharacters.toJSON rows) = PlayerCharacters.document rows

def Keeps (playerID : UInt64) (rows : List Character) : Action → Prop
  | .server (.database _ characters) => characters.filter (·.playerID == playerID) = rows
  | _ => True

-- The client asks for its characters, or selects the first one.
inductive Ask (build : Build) (rows : List Character) : Bytes → Prop where
  | request : Ask build rows (ClientPacket.clientRequestCharacters.buffer build.apg)
  | select (first : rows.head? = some c) : Ask build rows ((ClientPacket.characterSelect c.id).buffer build.apg)

-- Connection instructions are on their way, or the client has read some.
def Instructed (env : Env) (id : Nat) (s : System) : Prop :=
  s.screen.gameState = .PLAYING ∨
    ∃ packet ∈ s.network.down id, env.apg.getShort packet = ServerOpcode.MAP_SERVER_CONNECTION_INSTRUCTIONS.code

def Chose (rows : List Character) (characterID : UInt64) : Prop := ∃ c, rows.head? = some c ∧ characterID = c.id

structure Coherent (env : Env) (build : Build) (id : Nat) (playerID : UInt64) (rows : List Character) (s : System) : Prop where
  accounted : ∃ trace, Ownership.Accounted trace s.network.server
  linked : id ∈ s.network.links
  kept : s.network.server.characters.filter (·.playerID == playerID) = rows
  session : ∃ session, Plays s.network.server id session ∧ session.socket = ⟨id,false,true⟩ ∧ session.playerID = playerID ∧
    (Instructed env id s → Chose rows session.characterID)
  up : ∀ packet ∈ s.network.up id, Ask build rows packet
  down : ∀ packet ∈ s.network.down id, env.apg.getShort packet = ServerOpcode.PLAYER_CHARACTERS.code →
    packet = (ServerPacket.playerCharacters rows).buffer env.apg
  screen : s.screen.gameState = .MAP_SERVER_CONNECT ∨ s.screen.gameState = .PLAYING →
    ∃ character, s.screen.currentCharacter = some character ∧ Chose rows character.id

variable {env : Env} {build : Build} {n m : Network} {id : Nat} {playerID : UInt64} {rows : List Character} {s : System}
  {session : PlayerSession}

theorem loggedIn_coherent (start : LoggedIn env id playerID rows s) : Coherent env build id playerID rows s := by
  obtain ⟨players,characters,allMaps,mapIDToName,events,trace,path⟩ := start.reached
  obtain ⟨session,plays,owned,player⟩ := start.session
  have shown := start.screen
  refine ⟨⟨trace,Ownership.run_accounted path⟩,start.linked,start.kept,⟨session,plays,owned,player,?_⟩,?_,?_,?_⟩
  · rintro (playing | ⟨packet,member,opcode⟩)
    · rw [shown] at playing
      cases playing
    · exact absurd opcode (start.down packet member).2
  · rw [start.up]
    exact fun packet member => nomatch member
  · exact fun packet member opcode => absurd opcode (start.down packet member).1
  · rw [shown]
    rintro (connect | playing)
    · cases connect
    · cases playing

theorem owned_one (single : (rows.map (·.id)).Nodup) (first : rows.head? = some c) :
    rows.filter (·.id == c.id) = [c] := by
  cases rows with
  | nil => cases first
  | cons head rest =>
    obtain rfl := Option.some.inj first
    obtain ⟨apart,_⟩ := List.nodup_cons.mp single
    have others : rest.filter (·.id == head.id) = [] := by
      refine List.filter_eq_nil_iff.mpr fun other within same => apart ?_
      exact List.mem_map.mpr ⟨other,within,beq_iff_eq.mp same⟩
    simp [others]

theorem owned_rows (world : World) (player : session.playerID = playerID)
    (kept : world.characters.filter (·.playerID == playerID) = rows) (characterID : UInt64) :
    ownedCharacters world session characterID = rows.filter (·.id == characterID) := by
  rw [← kept,List.filter_filter,ownedCharacters,player]
  congr
  funext c
  exact Bool.and_comm _ _

theorem heard_healthy (n : Network) (id : Nat) (io : SessionIO) : Healthy (n.heardSession id io) := ⟨rfl,rfl,rfl,rfl⟩

theorem heard_opcode (io : SessionIO) (packet : ClientPacket) (up : n.up id = packet.buffer env.apg :: rest) :
    (n.heardSession id io).opcode = .ofBytes (env.apg.putShort packet.opcode.code) := by
  simp only [heardSession,up,List.headD_cons,ClientPacket.buffer]
  rw [List.take_left' (env.apg.putShort_length _)]

theorem heard_payload (io : SessionIO) (packet : ClientPacket) (up : n.up id = packet.buffer env.apg :: rest) :
    (n.heardSession id io).characterID = .ofBytes ((packet.payload env.apg).take 8) := by
  simp only [heardSession,up,List.headD_cons,ClientPacket.buffer]
  rw [List.drop_left' (env.apg.putShort_length _)]

theorem request_serve (active : (n.heardSession id io).activity = true)
    (up : n.up id = ClientPacket.clientRequestCharacters.buffer env.apg :: rest)
    (ran : serveSession env world session (n.heardSession id io) = .ok visited) :
    visited = ⟨some session,[.opcodeRead (env.apg.putShort ClientOpcode.REQUEST_CHARACTERS.code),.characterRequest,
      .sent (.playerCharacters (world.characters.filter (·.playerID == session.playerID))) 1]⟩ := by
  have calm := heard_healthy n id io
  have opcode := heard_opcode io .clientRequestCharacters up
  simp only [serveSession,active,calm.opcodeError,Socket.raise_false,opcode,short_result,Recv.bytes_ofBytes,
    env.apg.getShort_exact,ClientPacket.opcode,processCharacterRequest,reply_healthy calm,calm.sendResult,Bool.not_true,
    Bool.false_eq_true,ne_eq,not_true_eq_false,if_false,if_true] at ran
  exact (Except.ok.inj ran).symm

-- A selection of an own row is answered, and taken when the answer is an address.
theorem select_answer (calm : Healthy io) (received : io.characterID = .ofBytes (env.apg.putLong c.id))
    (one : ownedCharacters world session c.id = [c]) (ran : processCharacterSelect env world session io = .ok visited) :
    ∃ packet after, visited = ⟨some after,[.characterSelect c.id,.sent packet 1]⟩ ∧
      ((packet.opcode = .NO_MAP_SERVER_ERROR ∧ after = session) ∨
        (packet.opcode = .MAP_SERVER_CONNECTION_INSTRUCTIONS ∧ after = {session with characterID := c.id})) := by
  simp only [processCharacterSelect,calm.characterIDError,calm.sendResult,Socket.raise_false,reply_healthy calm,received,
    long_result,Recv.bytes_ofBytes,long_exact,one,ne_eq,not_true_eq_false,if_false] at ran
  split at ran
  · cases Except.ok.inj ran
    exact ⟨_,_,rfl,.inl ⟨rfl,rfl⟩⟩
  · split at ran
    · cases Except.ok.inj ran
      exact ⟨_,_,rfl,.inl ⟨rfl,rfl⟩⟩
    · split at ran
      · cases ran
      · cases Except.ok.inj ran
        exact ⟨_,_,rfl,.inr ⟨rfl,rfl⟩⟩

theorem select_serve (active : (n.heardSession id io).activity = true)
    (up : n.up id = (ClientPacket.characterSelect c.id).buffer env.apg :: rest)
    (one : ownedCharacters world session c.id = [c])
    (ran : serveSession env world session (n.heardSession id io) = .ok visited) :
    ∃ packet after, visited = ⟨some after,[.opcodeRead (env.apg.putShort ClientOpcode.CHARACTER_SELECT.code),
        .characterSelect c.id,.sent packet 1]⟩ ∧
      ((packet.opcode = .NO_MAP_SERVER_ERROR ∧ after = session) ∨
        (packet.opcode = .MAP_SERVER_CONNECTION_INSTRUCTIONS ∧ after = {session with characterID := c.id})) := by
  have calm := heard_healthy n id io
  have opcode := heard_opcode io (.characterSelect c.id) up
  have payload := heard_payload io (.characterSelect c.id) up
  simp only [ClientPacket.payload,List.take_of_length_le (Nat.le_of_eq (env.apg.putLong_length c.id))] at payload
  have different : ClientOpcode.CHARACTER_SELECT.code ≠ ClientOpcode.REQUEST_CHARACTERS.code := by decide
  simp only [serveSession,active,calm.opcodeError,Socket.raise_false,opcode,short_result,Recv.bytes_ofBytes,
    env.apg.getShort_exact,ClientPacket.opcode,different,Bool.not_true,Bool.false_eq_true,ne_eq,not_true_eq_false,if_false,
    if_true] at ran
  split at ran
  · cases ran
  · rename_i answered chose
    cases Except.ok.inj ran
    obtain ⟨packet,after,rfl,answer⟩ := select_answer calm payload one chose
    exact ⟨packet,after,rfl,answer⟩

theorem step_characters (ran : LoginServer.step env t event = .ok (u,fresh))
    (other : ∀ players characters, event ≠ .database players characters) : u.characters = t.characters := by
  cases event with
  | accept | purge => cases Except.ok.inj ran; rfl
  | database players characters => exact absurd rfl (other players characters)
  | connected ios => exact (ServerSteps.step_connected ran).1.frame.characters
  | incoming index io =>
    rcases ServerSteps.step_incoming ran with ⟨_,rfl,_⟩ | ⟨c,handled,_,visit,rfl,_⟩
    · rfl
    · cases visit <;> rfl

theorem drained_request (apg : ByteBuffer) (rest : List Bytes) (effects : List Effect) :
    drained (ClientPacket.clientRequestCharacters.buffer apg :: rest)
      (.opcodeRead (apg.putShort ClientOpcode.REQUEST_CHARACTERS.code) :: .characterRequest :: effects) = rest := by
  simp [drained,leave,ClientPacket.buffer,ClientPacket.payload,ClientPacket.opcode]

theorem drained_select (apg : ByteBuffer) (characterID : UInt64) (rest : List Bytes) (effects : List Effect) :
    drained ((ClientPacket.characterSelect characterID).buffer apg :: rest)
      (.opcodeRead (apg.putShort ClientOpcode.CHARACTER_SELECT.code) :: .characterSelect characterID :: effects) = rest := by
  have all : (apg.putLong characterID).drop 8 = [] := List.drop_of_length_le (Nat.le_of_eq (apg.putLong_length _))
  simp [drained,leave,ClientPacket.buffer,ClientPacket.payload,ClientPacket.opcode,all]

-- A turn after which the session is after, and added has been sent to the client.
structure Turned (env : Env) (playerID : UInt64) (rows : List Character) (n m : Network) (id : Nat)
    (session after : PlayerSession) (added : List Bytes) (effects : List Effect) : Prop where
  plays : Plays m.server id after
  socket : after.socket = ⟨id,false,true⟩
  player : after.playerID = playerID
  up : ∀ packet ∈ m.up id, packet ∈ n.up id
  down : m.down id = n.down id ++ added
  lists : ∀ packet ∈ added, env.apg.getShort packet = ServerOpcode.PLAYER_CHARACTERS.code →
    packet = (ServerPacket.playerCharacters rows).buffer env.apg
  choice : (after.characterID = session.characterID ∧ ∀ packet ∈ added,
    env.apg.getShort packet ≠ ServerOpcode.MAP_SERVER_CONNECTION_INSTRUCTIONS.code) ∨ Chose rows after.characterID
  single : ∀ x, Effect.characterSelect x ∈ effects → ∃ c, ownedCharacters n.server.toWorld session x = [c]

theorem idle_turned (turn : SessionTurn env n m id session fresh io ⟨some session,[]⟩)
    (owned : session.socket = ⟨id,false,true⟩) (player : session.playerID = playerID) :
    Turned env playerID rows n m id session session [] [] := by
  have up := turn.up
  rw [quiet_drained (fun effect within => (List.not_mem_nil within).elim)] at up
  exact {
    plays := turn.left session rfl (by rw [owned])
    socket := owned
    player := player
    up := fun packet member => up ▸ member
    down := turn.down
    lists := nofun
    choice := .inl ⟨rfl,nofun⟩
    single := nofun }

theorem request_turned (turn : SessionTurn env n m id session fresh io
      ⟨some session,[.opcodeRead (env.apg.putShort ClientOpcode.REQUEST_CHARACTERS.code),.characterRequest,
        .sent (.playerCharacters rows) 1]⟩)
    (queue : n.up id = ClientPacket.clientRequestCharacters.buffer env.apg :: rest)
    (owned : session.socket = ⟨id,false,true⟩) (player : session.playerID = playerID) :
    Turned env playerID rows n m id session session [(ServerPacket.playerCharacters rows).buffer env.apg]
      [.opcodeRead (env.apg.putShort ClientOpcode.REQUEST_CHARACTERS.code),.characterRequest,
        .sent (.playerCharacters rows) 1] := by
  have up := turn.up
  rw [queue,drained_request] at up
  have other : ServerOpcode.PLAYER_CHARACTERS.code ≠ ServerOpcode.MAP_SERVER_CONNECTION_INSTRUCTIONS.code := by decide
  exact {
    plays := turn.left session rfl (by rw [owned])
    socket := owned
    player := player
    up := fun packet member => queue ▸ List.mem_cons_of_mem _ (up ▸ member)
    down := turn.down
    lists := fun packet member _ => List.mem_singleton.mp member
    choice := by
      refine .inl ⟨rfl,fun packet member => ?_⟩
      obtain rfl := List.mem_singleton.mp member
      rw [ServerPacket.opcode_whole]
      exact other
    single := by
      intro x member
      simp at member }

theorem select_turned (turn : SessionTurn env n m id session fresh io
      ⟨some after,[.opcodeRead (env.apg.putShort ClientOpcode.CHARACTER_SELECT.code),.characterSelect c.id,.sent packet 1]⟩)
    (answer : (packet.opcode = .NO_MAP_SERVER_ERROR ∧ after = session) ∨
      (packet.opcode = .MAP_SERVER_CONNECTION_INSTRUCTIONS ∧ after = {session with characterID := c.id}))
    (queue : n.up id = (ClientPacket.characterSelect c.id).buffer env.apg :: rest) (first : rows.head? = some c)
    (one : ownedCharacters n.server.toWorld session c.id = [c])
    (owned : session.socket = ⟨id,false,true⟩) (player : session.playerID = playerID) :
    Turned env playerID rows n m id session after [packet.buffer env.apg]
      [.opcodeRead (env.apg.putShort ClientOpcode.CHARACTER_SELECT.code),.characterSelect c.id,.sent packet 1] := by
  have up := turn.up
  rw [queue,drained_select] at up
  have kept : after.socket = session.socket ∧ after.playerID = session.playerID := by
    rcases answer with ⟨_,rfl⟩ | ⟨_,rfl⟩ <;> exact ⟨rfl,rfl⟩
  exact {
    plays := turn.left after rfl (by rw [kept.1,owned])
    socket := kept.1.trans owned
    player := kept.2.trans player
    up := fun packet member => queue ▸ List.mem_cons_of_mem _ (up ▸ member)
    down := turn.down
    lists := by
      intro other member opcode
      obtain rfl := List.mem_singleton.mp member
      rw [ServerPacket.opcode_whole] at opcode
      rcases answer with ⟨same,_⟩ | ⟨same,_⟩
      · rw [same] at opcode; exact absurd opcode (by decide)
      · rw [same] at opcode; exact absurd opcode (by decide)
    choice := by
      rcases answer with ⟨same,rfl⟩ | ⟨_,rfl⟩
      · refine .inl ⟨rfl,fun other member => ?_⟩
        obtain rfl := List.mem_singleton.mp member
        rw [ServerPacket.opcode_whole,same]
        decide
      · exact .inr ⟨c,first,rfl⟩
    single := by
      intro x member
      obtain rfl : x = c.id := by simpa using member
      exact ⟨c,one⟩ }

-- A turn of the session takes at most the oldest request, and answers it.
theorem session_turn (listed : Listed env build rows) (coherent : Coherent env build id playerID rows s)
    (owned : session.socket = ⟨id,false,true⟩) (player : session.playerID = playerID)
    (turn : SessionTurn env s.network m id session fresh io visited) :
    ∃ after added, Turned env playerID rows s.network m id session after added visited.effects := by
  obtain ⟨users,next,ran⟩ := turn.ran
  have served := visit_served (by rw [owned]) ran
  by_cases active : (s.network.heardSession id io).activity = true
  · cases queue : s.network.up id with
    | nil => simp [heardSession,queue] at active
    | cons head rest =>
      cases coherent.up head (queue ▸ List.mem_cons_self ..) with
      | request =>
        rw [listed.apg] at queue
        obtain rfl := request_serve active queue served
        rw [player,coherent.kept] at turn ⊢
        exact ⟨session,_,request_turned turn queue owned player⟩
      | @select c first =>
        rw [listed.apg] at queue
        have one : ownedCharacters s.network.server.toWorld session c.id = [c] :=
          (owned_rows _ player coherent.kept c.id).trans (owned_one listed.single first)
        obtain ⟨packet,after,rfl,answer⟩ := select_serve active queue one served
        exact ⟨after,_,select_turned turn answer queue first one owned player⟩
  · obtain rfl := idle_serve (by simpa using active) served
    exact ⟨session,[],idle_turned turn owned player⟩

-- Only the database may change the rows of the player, and it keeps to them.
theorem serve_rows (keeps : Keeps playerID rows (.server event))
    (kept : n.server.characters.filter (·.playerID == playerID) = rows)
    (stepped : LoginServer.step env n.server (n.wired event) = .ok (t,fresh)) :
    t.characters.filter (·.playerID == playerID) = rows := by
  cases event with
  | database players characters =>
    simp only [wired,LoginServer.step,Except.ok.injEq,Prod.mk.injEq] at stepped
    rw [← stepped.1]
    exact keeps
  | incoming index io =>
    obtain ⟨_,wires⟩ := n.wired_incoming index io
    rw [wires] at stepped
    rw [step_characters stepped (by intro _ _ same; cases same),kept]
  | accept | purge | connected => rw [step_characters stepped (by intro _ _ same; cases same),kept]

theorem server_coherent (listed : Listed env build rows) (coherent : Coherent env build id playerID rows s)
    (keeps : Keeps playerID rows (.server event)) (ran : serve env s.network event = .ok (m,fresh)) :
    Coherent env build id playerID rows ⟨m,s.screen⟩ ∧
      ∀ x, (id,Effect.characterSelect x) ∈ fresh → ∃ session c, Plays s.network.server id session ∧
        ownedCharacters s.network.server.toWorld session x = [c] := by
  have stepped := (serve_parts ran).1
  obtain ⟨trace,valid⟩ := coherent.accounted
  have sole := accounted_sole valid
  have kept := serve_rows keeps coherent.kept stepped
  obtain ⟨session,plays,owned,player,chosen⟩ := coherent.session
  rcases serve_plays sole coherent.linked plays ran with ⟨io,visited,turn⟩ | apart
  · obtain ⟨after,added,turned⟩ := session_turn listed coherent owned player turn
    obtain ⟨still,socket,same,up,down,lists,choice,single⟩ := turned
    refine ⟨⟨⟨_,Ownership.step_accounted valid stepped⟩,serve_links ran ▸ coherent.linked,kept,⟨after,still,socket,same,?_⟩,
      fun packet member => coherent.up packet (up packet member),fun packet member => ?_,coherent.screen⟩,fun x member => ?_⟩
    · intro instructed
      rcases choice with ⟨unchanged,silent⟩ | chose
      · refine unchanged ▸ chosen ?_
        rcases instructed with playing | ⟨packet,member,opcode⟩
        · exact .inl playing
        · rw [down] at member
          rcases List.mem_append.mp member with old | new
          · exact .inr ⟨packet,old,opcode⟩
          · exact absurd opcode (silent packet new)
      · exact chose
    · rw [down] at member
      rcases List.mem_append.mp member with old | new
      · exact coherent.down packet old
      · exact lists packet new
    · have own : Effect.characterSelect x ∈ effectsOf id fresh :=
        List.mem_filterMap.mpr ⟨_,member,if_pos rfl⟩
      obtain ⟨c,one⟩ := single x (turn.effects ▸ own)
      exact ⟨session,c,plays,one⟩
  · refine ⟨⟨⟨_,Ownership.step_accounted valid stepped⟩,serve_links ran ▸ coherent.linked,kept,⟨session,apart.plays,owned,player,?_⟩,
      fun packet member => coherent.up packet (apart.up ▸ member),fun packet member => coherent.down packet (apart.down ▸ member),
      coherent.screen⟩,fun x member => by cases apart.quiet _ member⟩
    rintro (playing | ⟨packet,member,opcode⟩)
    · exact chosen (.inl playing)
    · exact chosen (.inr ⟨packet,apart.down ▸ member,opcode⟩)

-- A step of the client: it may only ask, and only read what was on its way.
theorem client_coherent (coherent : Coherent env build id playerID rows s) (server : n.server = s.network.server)
    (linked : id ∈ n.links) (up : ∀ packet ∈ n.up id, packet ∈ s.network.up id ∨ Ask build rows packet)
    (down : ∀ packet ∈ n.down id, packet ∈ s.network.down id) (playing : screen.gameState = .PLAYING → Instructed env id s)
    (picked : screen.gameState = .MAP_SERVER_CONNECT ∨ screen.gameState = .PLAYING →
      ∃ character, screen.currentCharacter = some character ∧ Chose rows character.id) :
    Coherent env build id playerID rows ⟨n,screen⟩ := by
  obtain ⟨session,plays,owned,player,chosen⟩ := coherent.session
  refine ⟨server ▸ coherent.accounted,linked,server ▸ coherent.kept,⟨session,server ▸ plays,owned,player,?_⟩,
    fun packet member => ?_,fun packet member => coherent.down packet (down packet member),picked⟩
  · rintro (now | ⟨packet,member,opcode⟩)
    · exact chosen (playing now)
    · exact chosen (.inr ⟨packet,down packet member,opcode⟩)
  · rcases up packet member with old | ask
    · exact coherent.up packet old
    · exact ask

theorem press_coherent (coherent : Coherent env build id playerID rows s) :
    Coherent env build id playerID rows (s.press build id) := by
  unfold System.press
  split
  · rename_i select idle
    refine client_coherent coherent rfl coherent.linked ?_ (fun packet member => member) (fun playing => .inl playing)
      coherent.screen
    intro packet member
    simp only [send,Function.update_self] at member
    rcases List.mem_append.mp member with old | new
    · exact .inl old
    · obtain rfl := List.mem_singleton.mp new
      exact .inr .request
  · exact coherent

theorem receiveCharacters_parts (ran : receiveCharacters build screen recv = .ok (next,sent)) :
    (next = {screen with awaiting := false} ∧ sent = []) ∨
    ∃ character rest, build.apg.getShort recv.bytes = ServerOpcode.PLAYER_CHARACTERS.code ∧ recv.result ≠ 0 ∧
      PlayerCharacters.fromJSON build.parse (sizedBody build.apg recv.bytes) = .ok (character :: rest) ∧
      next.currentCharacter = some character ∧ next.gameState = .MAP_SERVER_CONNECT ∧
      sent = [(ClientPacket.characterSelect character.id).buffer build.apg] := by
  unfold receiveCharacters at ran
  dsimp only at ran
  split at ran
  · cases Except.ok.inj ran
    exact .inl ⟨rfl,rfl⟩
  · rename_i some
    split at ran
    · cases Except.ok.inj ran
      exact .inl ⟨rfl,rfl⟩
    · rename_i opcode
      split at ran
      · cases ran
      · cases Except.ok.inj ran
        exact .inl ⟨rfl,rfl⟩
      · rename_i character rest decoded
        cases Except.ok.inj ran
        exact .inr ⟨character,rest,not_not.mp opcode,some,decoded,rfl,rfl,rfl⟩

theorem receiveInstructions_parts (ran : receiveInstructions build screen recv = .ok next) :
    next = screen ∨ next = {screen with gameState := .CHARACTER_SELECT} ∨
      (build.apg.getShort recv.bytes = ServerOpcode.MAP_SERVER_CONNECTION_INSTRUCTIONS.code ∧ recv.result ≠ 0 ∧
        next = {screen with gameState := .PLAYING}) := by
  unfold receiveInstructions at ran
  dsimp only at ran
  split at ran
  · exact .inl (Except.ok.inj ran).symm
  · rename_i some
    split at ran
    · exact .inr (.inl (Except.ok.inj ran).symm)
    · split at ran
      · rename_i opcode
        split at ran
        · cases ran
        · exact .inr (.inr ⟨opcode,some,(Except.ok.inj ran).symm⟩)
      · exact .inr (.inl (Except.ok.inj ran).symm)

-- The list of the rows is read as the rows, so the client takes the first of them.
theorem list_read (listed : Listed env build rows)
    (decoded : PlayerCharacters.fromJSON build.parse (sizedBody build.apg
      ((ServerPacket.playerCharacters rows).buffer env.apg)) = .ok (character :: rest)) : Chose rows character.id := by
  have body : sizedBody env.apg ((ServerPacket.playerCharacters rows).buffer env.apg) = PlayerCharacters.toJSON rows :=
    Codecs.sized_read env.apg _ listed.short
  have read : PlayerCharacters.fromJSON build.parse (PlayerCharacters.toJSON rows) = .ok (rows.map Codecs.carriedCharacter) :=
    Codecs.characters_read (Codecs.text_parsed listed.parsed (Codecs.characters_free rows))
  rw [listed.apg,body,read] at decoded
  cases rows with
  | nil => cases Except.ok.inj decoded
  | cons c others =>
    obtain ⟨rfl,_⟩ := List.cons.inj (Except.ok.inj decoded)
    exact ⟨c,rfl,rfl⟩

theorem characters_coherent (listed : Listed env build rows) (coherent : Coherent env build id playerID rows s)
    (got : s.network.collect id arrives = (recv,network))
    (received : receiveCharacters build s.screen recv = .ok (next,sent)) :
    Coherent env build id playerID rows ⟨network.send id sent,next⟩ := by
  obtain ⟨server,links,up,down,oldest,_⟩ := collect_parts got
  rcases receiveCharacters_parts received with ⟨rfl,rfl⟩ | ⟨character,rest,opcode,some,decoded,current,connect,rfl⟩
  · refine client_coherent coherent server (links ▸ coherent.linked) ?_ down (fun playing => .inl playing) coherent.screen
    intro packet member
    simp only [send,Function.update_self,List.append_nil] at member
    exact .inl (up ▸ member)
  · have member := oldest some
    rw [listed.apg] at opcode
    have packet := coherent.down _ member opcode
    rw [packet] at decoded
    obtain ⟨c,first,same⟩ := list_read listed decoded
    refine client_coherent coherent server (links ▸ coherent.linked) ?_ down ?_ fun _ => ⟨character,current,c,first,same⟩
    · intro packet member
      simp only [send,Function.update_self] at member
      rcases List.mem_append.mp member with old | new
      · exact .inl (up ▸ old)
      · obtain rfl := List.mem_singleton.mp new
        exact .inr (same ▸ .select first)
    · intro playing
      rw [connect] at playing
      cases playing

theorem instructions_coherent (listed : Listed env build rows) (coherent : Coherent env build id playerID rows s)
    (got : s.network.collect id arrives = (recv,network)) (connect : s.screen.gameState = .MAP_SERVER_CONNECT)
    (received : receiveInstructions build s.screen recv = .ok next) : Coherent env build id playerID rows ⟨network,next⟩ := by
  obtain ⟨server,links,up,down,oldest,_⟩ := collect_parts got
  have asked : ∀ packet ∈ network.up id, packet ∈ s.network.up id ∨ Ask build rows packet :=
    fun packet member => .inl (up ▸ member)
  rcases receiveInstructions_parts received with rfl | rfl | ⟨opcode,some,rfl⟩
  · exact client_coherent coherent server (links ▸ coherent.linked) asked down (fun playing => .inl playing) coherent.screen
  · refine client_coherent coherent server (links ▸ coherent.linked) asked down nofun ?_
    rintro (connect | playing)
    · cases connect
    · cases playing
  · refine client_coherent coherent server (links ▸ coherent.linked) asked down
      (fun _ => .inr ⟨recv.bytes,oldest some,listed.apg ▸ opcode⟩) fun _ => coherent.screen (.inl connect)

theorem receive_coherent (listed : Listed env build rows) (coherent : Coherent env build id playerID rows s)
    (ran : s.receive build id arrives = .ok t) : Coherent env build id playerID rows t := by
  unfold System.receive at ran
  rcases got : s.network.collect id arrives with ⟨recv,network⟩
  rw [got] at ran
  dsimp only at ran
  split at ran
  · obtain ⟨⟨next,sent⟩,received,rfl⟩ := map_ok ran
    exact characters_coherent listed coherent got received
  · rename_i connect
    obtain ⟨next,received,rfl⟩ := map_ok ran
    exact instructions_coherent listed coherent got connect received
  · cases Except.ok.inj ran
    exact coherent

theorem step_coherent (listed : Listed env build rows) (coherent : Coherent env build id playerID rows s)
    (keeps : Keeps playerID rows action) (ran : System.step env build id s action = .ok (t,fresh)) :
    Coherent env build id playerID rows t := by
  cases action with
  | server event =>
    obtain ⟨⟨network,effects⟩,served,same⟩ := map_ok ran
    obtain ⟨rfl,rfl⟩ := Prod.mk.inj same
    exact (server_coherent listed coherent keeps served).1
  | press =>
    obtain ⟨rfl,_⟩ := Prod.mk.inj (Except.ok.inj ran)
    exact press_coherent coherent
  | receive arrives =>
    obtain ⟨next,received,same⟩ := map_ok ran
    obtain ⟨rfl,_⟩ := Prod.mk.inj same
    exact receive_coherent listed coherent received

theorem run_coherent (listed : Listed env build rows) (start : LoggedIn env id playerID rows s)
    (path : Runs.Run (System.step env build id) s actions trace t) (keeps : ∀ action ∈ actions, Keeps playerID rows action) :
    Coherent env build id playerID rows t := by
  have met : Runs.StepsMeet (System.step env build id) s actions (fun _ action => Keeps playerID rows action) := by
    intro before action after whole _ _ _
    exact keeps action (by simp [whole])
  exact path.guarded met (loggedIn_coherent start) fun coherent kept ran => step_coherent listed coherent kept ran

-- The one session of the connection is alive, and has the character of a client that plays.
def Agreed (id : Nat) (playerID : UInt64) (s : System) : Prop :=
  ∃ session, (∀ other, Plays s.network.server id other ↔ other = session) ∧ session.socket = ⟨id,false,true⟩ ∧
    session.playerID = playerID ∧ (s.screen.gameState = .PLAYING →
      ∃ character, s.screen.currentCharacter = some character ∧ session.characterID = character.id)

-- A selection finds the one row that it names among the rows of the player.
def Own (id : Nat) (s : System) (fresh : List (Nat × Effect)) : Prop :=
  ∀ x, (id,Effect.characterSelect x) ∈ fresh → ∃ session character, Plays s.network.server id session ∧
    ownedCharacters s.network.server.toWorld session x = [character]

theorem coherent_agreed (coherent : Coherent env build id playerID rows s) : Agreed id playerID s := by
  obtain ⟨trace,valid⟩ := coherent.accounted
  obtain ⟨session,plays,owned,player,chosen⟩ := coherent.session
  refine ⟨session,fun other => ⟨fun also => (accounted_sole valid).player also plays,?_⟩,owned,player,fun playing => ?_⟩
  · rintro rfl
    exact plays
  · obtain ⟨character,current,c,first,same⟩ := coherent.screen (.inr playing)
    obtain ⟨d,also,recorded⟩ := chosen (.inl playing)
    obtain rfl := Option.some.inj (first.symm.trans also)
    exact ⟨character,current,recorded.trans same.symm⟩

theorem selection_agreement (listed : Listed env build rows) (start : LoggedIn env id playerID rows s)
    (path : Runs.Run (System.step env build id) s actions trace t) (keeps : ∀ action ∈ actions, Keeps playerID rows action) :
    Agreed id playerID t ∧ ∀ action next fresh, Keeps playerID rows action →
      System.step env build id t action = .ok (next,fresh) → Own id t fresh := by
  have coherent := run_coherent listed start path keeps
  refine ⟨coherent_agreed coherent,fun action next fresh kept ran => ?_⟩
  cases action with
  | server event =>
    obtain ⟨⟨network,effects⟩,served,same⟩ := map_ok ran
    obtain ⟨rfl,rfl⟩ := Prod.mk.inj same
    exact (server_coherent listed coherent kept served).2
  | press =>
    obtain ⟨rfl,rfl⟩ := Prod.mk.inj (Except.ok.inj ran)
    exact fun x member => nomatch member
  | receive arrives =>
    obtain ⟨next,received,same⟩ := map_ok ran
    obtain ⟨rfl,rfl⟩ := Prod.mk.inj same
    exact fun x member => nomatch member

-- Two answers come late; the instructions that the client reads at last are those for its first selection.
def arrival : List Event := [.accept,.accept] ++ MapAssignment.listing 0 ++ [MapAssignment.acknowledgement 0,
  .incoming 1 (.delivers []),.incoming 1 (.delivers ((ClientPacket.authenticationIdentity Decoders.credentials).buffer .network))]

@[irreducible] def settled : LoginServer := Runs.final (LoginServer.step CharacterChoice.playing) CharacterChoice.world arrival

def hopeful : System := ⟨⟨settled,[1],fun _ => [],fun _ => []⟩,⟨.CHARACTER_SELECT,false,none⟩⟩

def hopes : Build := ⟨.network,Json.known [PlayerCharacters.document [CharacterChoice.hero],
  MapServerConnectionInstructions.document ⟨text "Map",text "localhost",10420⟩],fun _ => none,text "0.0.1",[]⟩

def serving : Action := .server (.connected [{ SessionIO.quiet with activity := true}])

def overtaken : List Action := [.press,.receive false,.press,.receive false,.press,serving,serving,serving,.receive true,
  .receive true,serving,.press,.receive true,.receive true]

theorem hopeful_loggedIn : LoggedIn CharacterChoice.playing 1 7 [CharacterChoice.hero] hopeful := by
  have start : hopeful.network.server.playerSessions.map (Option.map (fun session => (session.socket,session.playerID))) =
      [some (⟨1,false,true⟩,7)] := by decide +kernel
  obtain ⟨found,within,same⟩ := List.mem_map.mp (start ▸ List.mem_singleton_self (some ((⟨1,false,true⟩ : Socket),(7 : UInt64))))
  obtain ⟨session,rfl,both⟩ := Option.map_eq_some_iff.mp same
  obtain ⟨owned,player⟩ := Prod.mk.inj both
  have rows : hopeful.network.server.characters.filter (·.playerID == 7) = [CharacterChoice.hero] := by decide +kernel
  have plays : Plays hopeful.network.server 1 session := ⟨within,congrArg Socket.id owned⟩
  obtain ⟨trace,path⟩ : ∃ trace, Runs.Run (LoginServer.step CharacterChoice.playing) CharacterChoice.world arrival trace settled := by
    unfold settled
    exact Runs.final_run (by decide +kernel)
  exact ⟨⟨_,_,_,_,arrival,trace,path⟩,List.mem_singleton_self 1,rows,⟨session,plays,owned,player⟩,rfl,nofun,rfl⟩

theorem hopes_listed : Listed CharacterChoice.playing hopes [CharacterChoice.hero] := by
  refine ⟨rfl,by decide,by decide +kernel,?_⟩
  simp [hopes,PlayerCharacters.toJSON,Json.known]

theorem selection_agreement_hero : ∃ trace t, Runs.Run (System.step CharacterChoice.playing hopes 1) hopeful overtaken trace t ∧
    t.screen.gameState = .PLAYING ∧ Agreed 1 7 t := by
  obtain ⟨trace,t,path,playing⟩ := Runs.execute_check (System.step CharacterChoice.playing hopes 1) hopeful overtaken
    (fun last => last.1.screen.gameState == .PLAYING) (by decide +kernel)
  have keeps : ∀ action ∈ overtaken, Keeps 7 [CharacterChoice.hero] action := by
    simp [overtaken,serving,Keeps]
  exact ⟨trace,t,path,by simpa using playing,(selection_agreement hopes_listed hopeful_loggedIn path keeps).1⟩

end PlayPG.SelectionAgreement
