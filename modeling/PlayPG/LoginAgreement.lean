import PlayPG.ClientScreens
import PlayPG.Segments
import PlayPG.SessionLinks

namespace PlayPG.LoginAgreement
open Bytes Client ClientScreens IncomingHandler Visits Sockets Network

-- Where the LOGIN screen stands: outside of doLogin, at its first or its second wait, or past a call
-- that returned true. The usernames are those that the call sent.
inductive Call where
  | idle
  | challenge
  | response (username : Bytes)
  | loggedIn (username : Bytes)
  deriving DecidableEq

-- A client and the login server; socket is the last connection that the client opened.
structure System where
  network : Network
  game : Game
  socket : Option Nat
  call : Call

def System.start (server : LoginServer) : System := ⟨.start server,.start,none,.idle⟩

inductive Action where
  | server (event : Event)
  | selectUsername
  | doLogin (reached : Bool)
  | receiveChallenge (arrives : Bool)
  | receiveResponse (arrives : Bool)
  | lost

inductive Output where
  | server (entry : Nat × Effect)
  | client (packet : ClientPacket)

def sentPackets (effects : List Client.Effect) : List ClientPacket :=
  effects.filterMap (fun effect => match effect with
    | .sent packet => some packet
    | _ => none)

def System.send (build : Build) (s : System) (id : Nat) (packets : List ClientPacket) : Network :=
  s.network.send id (packets.map (·.buffer build.apg))

-- The identity goes out, and the call gets to its second wait.
def System.identify (build : Build) (s : System) (id : Nat) (early : List ClientPacket) : Except Fault (System × List Output) :=
  (sendIdentity s.game).map (fun effects =>
    let packets := early ++ sentPackets effects
    ({s with network := s.send build id packets,call := .response s.game.username},packets.map .client))

def System.doLogin (build : Build) (s : System) (reached : Bool) : Except Fault (System × List Output) :=
  match s.game.isConnected,s.socket,reached with
  | true,some id,_ => s.identify build id []
  | true,none,_ => .ok (s,[])
  | false,_,true => .ok ({s with network := s.network.connect,socket := some s.network.server.socketsAccepted,call := .challenge},[])
  | false,_,false => .ok ({s with game := {s.game with challenge := none}},[])

def System.receiveChallenge (build : Build) (s : System) (id : Nat) (arrives : Bool) : Except Fault (System × List Output) :=
  let (recv,network) := s.network.collect id arrives
  match handshake build s.game ⟨true,false,recv.result ≠ 0,recv,.nothing 0⟩ with
  | .error fault => .error fault
  | .ok (game,early,true) => {s with network := network,game := game}.identify build id (sentPackets early)
  | .ok (game,early,false) =>
    let s := {s with network := network,game := game,call := .idle}
    .ok ({s with network := s.send build id (sentPackets early)},(sentPackets early).map .client)

-- A disconnect() of the client closes the link.
def System.receiveResponse (build : Build) (s : System) (id : Nat) (username : Bytes) (arrives : Bool) :
    Except Fault (System × List Output) :=
  let (recv,network) := s.network.collect id arrives
  match readResponse build s.game recv with
  | .error fault => .error fault
  | .ok (game,true) => .ok ({s with network := network,game := game,call := .loggedIn username},[])
  | .ok (game,false) =>
    .ok ({s with network := if game.isConnected then network else network.close id,game := game,call := .idle},[])

def System.step (env : Env) (build : Build) : Runs.Machine System Action Output Fault
  | s,.server event =>
    (s.network.serve env event).map (fun served => ({s with network := served.1},served.2.map .server))
  | s,action =>
    match action,s.call,s.socket with
    | .selectUsername,.idle,_ => .ok ({s with game := {s.game with username := text "SgtCoDFish@example.com"}},[])
    | .doLogin reached,.idle,_ => s.doLogin build reached
    | .receiveChallenge arrives,.challenge,some id => s.receiveChallenge build id arrives
    | .receiveResponse arrives,.response username,some id => s.receiveResponse build id username arrives
    | .lost,.idle,some id =>
      .ok ({s with network := s.network.close id,game := {s.game with isConnected := false,challenge := none}},[])
    | _,_,_ => .ok (s,[])

def Identity (build : Build) (packet : Bytes) : Prop :=
  build.apg.getShort packet = ClientOpcode.LOGIN_AUTHENTICATION_IDENTITY.code

-- A packet that makes doLogin return true.
def Success (build : Build) (packet : Bytes) : Prop :=
  build.apg.getShort packet = ServerOpcode.LOGIN_AUTHENTICATION_RESPONSE.code ∧
    ∃ response, AuthenticationResponse.fromJSON build.parse (sizedBody build.apg packet) = .ok response ∧
      response.successful = true

-- One byte order, and no response in a buffer that got nothing.
structure Shared (env : Env) (build : Build) : Prop where
  apg : build.apg = env.apg
  blank : build.apg.getShort [] ≠ ServerOpcode.LOGIN_AUTHENTICATION_RESPONSE.code

def Output.response : Output → Option AuthenticationResponse
  | .server (_,.sent (.authenticationResponse response) _) => some response
  | _ => none

def Output.identity : Output → Option AuthenticationIdentity
  | .client (.authenticationIdentity identity) => some identity
  | _ => none

-- The documents of responses and identities are not cut, and their readers parse what was written.
structure Whole (env : Env) (build : Build) (output : Output) : Prop where
  response : ∀ response, output.response = some response →
    Codecs.Message.Fits (.response response) ∧ Codecs.Message.Parsed build.parse (.response response)
  identity : ∀ identity, output.identity = some identity →
    Codecs.Message.Fits (.identity identity) ∧ Codecs.Message.Parsed env.parse (.identity identity)

variable {env : Env} {build : Build} {n m : Network} {id : Nat} {s : System} {username : Bytes}

theorem response_only {packet : ServerPacket} (opcode : packet.opcode.code = ServerOpcode.LOGIN_AUTHENTICATION_RESPONSE.code) :
    ∃ response, packet = .authenticationResponse response := by
  cases packet with
  | authenticationResponse response => exact ⟨response,rfl⟩
  | _ => exact absurd opcode (by simp only [ServerPacket.opcode]; decide)

theorem response_successful (whole : Codecs.Message.Fits (.response response) ∧ Codecs.Message.Parsed build.parse (.response response))
    (success : Success build ((ServerPacket.authenticationResponse response).buffer build.apg)) : response.successful = true := by
  obtain ⟨_,read,decoded,successful⟩ := success
  have body : sizedBody build.apg ((ServerPacket.authenticationResponse response).buffer build.apg) = response.toJSON :=
    Codecs.sized_read build.apg _ (whole.1 _ rfl)
  have free : 0 ∉ response.document.write :=
    Codecs.object_free (by simp [Codecs.bool_free,Codecs.integer_free,Codecs.string_free])
  have parsed : build.parse (cString response.toJSON) = response.document := Codecs.text_parsed (whole.2 _ rfl) free
  rw [body] at decoded
  unfold AuthenticationResponse.fromJSON at decoded
  rw [parsed] at decoded
  obtain ⟨done,first,rest⟩ := bind_ok.mp decoded
  obtain ⟨_,_,rest⟩ := bind_ok.mp rest
  obtain ⟨_,_,rest⟩ := bind_ok.mp rest
  have same : getField Json.getBool response.document (text "successful") = .ok response.successful :=
    getField_ok.mpr ⟨.bool response.successful,rfl,rfl⟩
  cases Except.ok.inj rest
  rw [← Except.ok.inj (same.symm.trans first)] at successful
  exact successful

-- What a step adds to the link are the packets of its effects; a success among them is the answer to a login.
theorem serve_success (shared : Shared env build) (ran : serve env n event = .ok (m,fresh))
    (whole : ∀ entry ∈ fresh, Whole env build (.server entry)) (member : packet ∈ m.down id) (success : Success build packet) :
    packet ∈ n.down id ∨ ∃ response result, (id,Effect.sent (.authenticationResponse response) result) ∈ fresh ∧
      response.successful = true := by
  obtain ⟨_,absorbed⟩ := serve_parts ran
  rw [absorbed] at member
  rcases List.mem_append.mp member with old | new
  · exact .inl old
  · obtain ⟨effect,within,carried⟩ := List.mem_filterMap.mp new
    obtain ⟨⟨tag,other⟩,entry,own⟩ := List.mem_filterMap.mp within
    dsimp only at own
    split at own
    · rename_i same
      obtain rfl := Option.some.inj own
      obtain rfl : tag = id := same
      split at carried
      · rename_i sent result
        split at carried
        · obtain rfl := Option.some.inj carried
          rw [← shared.apg] at success
          obtain ⟨response,rfl⟩ := response_only ((ServerPacket.opcode_whole build.apg sent).symm.trans success.1)
          exact .inr ⟨response,result,entry,response_successful ((whole _ entry).response response rfl) success⟩
        · cases carried
      · cases carried
    · cases own

theorem serve_silent (ran : ConnectedHandler.serveSession env world session io = .ok visited) :
    ∀ response result, Effect.sent (.authenticationResponse response) result ∉ visited.effects := by
  cases ServerSteps.serveSession_parts ran with
  | idle | short | unknown => simp
  | characters active two opcode listed =>
    rw [listed]
    unfold ConnectedHandler.processCharacterRequest
    dsimp only
    split <;> simp
  | selection active two opcode chose =>
    cases ServerSteps.characterSelect_parts chose with
    | malformed | unavailable | instructed | refused => simp

-- Only the handler of a login answers with a response.
theorem connected_silent {t u : LoginServer} (ran : LoginServer.step env t (.connected ios) = .ok (u,fresh)) :
    ∀ response result, (id,Effect.sent (.authenticationResponse response) result) ∉ fresh := by
  intro response result member
  obtain ⟨visits,served,_⟩ := CharacterChoice.step_served ran
  rw [served.effects] at member
  obtain ⟨visit,within,tagged⟩ := List.mem_flatMap.mp member
  obtain ⟨effect,own,same⟩ := List.mem_map.mp tagged
  obtain ⟨_,rfl⟩ := Prod.mk.inj same
  obtain ⟨users,next,turn⟩ := served.visited visit within
  rcases ServerSteps.visitSession_turn turn with ⟨_,_,ran⟩ | ⟨_,gone,_⟩
  · exact serve_silent ran response result own
  · rw [gone] at own
    simp at own

-- No connection answers on the socket: those that hold it are done.
def Deaf (s : LoginServer) (id : Nat) : Prop :=
  ∀ c ∈ s.incomingConnections, c.socket.map Socket.id = some id → c.state = .DONE

theorem deaf_step {t u : LoginServer} (ready : ∀ c ∈ t.incomingConnections, Connections.Ready c)
    (known : id < t.socketsAccepted) (deaf : Deaf t id) (ran : LoginServer.step env t event = .ok (u,fresh)) :
    Deaf u id ∧ ∀ response result, (id,Effect.sent (.authenticationResponse response) result) ∉ fresh := by
  refine ⟨fun c within owned => ?_,fun response result member => ?_⟩
  · obtain ⟨d,held,same⟩ := held_before known ran ⟨within,owned⟩
    have done := deaf d held.1 held.2
    rw [same done]
    exact done
  · cases event with
    | accept =>
      cases Except.ok.inj ran
      cases (Prod.mk.inj (List.mem_singleton.mp member)).2
    | purge =>
      cases Except.ok.inj ran
      obtain ⟨_,_,same⟩ := List.mem_map.mp member
      cases (Prod.mk.inj same).2
    | database players characters =>
      cases Except.ok.inj ran
      cases member
    | connected ios => exact connected_silent ran response result member
    | incoming index io =>
      rcases ServerSteps.step_incoming ran with ⟨_,rfl,rfl⟩ | ⟨d,handled,present,visit,rfl,rfl⟩
      · cases member
      · have here := List.mem_of_getElem? present
        obtain ⟨owned,within⟩ := visit_effect (ready d here) visit member
        rw [done_visit (deaf d here owned) visit] at within
        cases within

def LoggedIn (n : Network) (id : Nat) (username : Bytes) : Prop :=
  ∃ session, Plays n.server id session ∧ session.username = username ∧ session.socket.error = false

theorem loggedIn_serve (sole : Sole n.server) (linked : id ∈ n.links) (up : n.up id = []) (logged : LoggedIn n id username)
    (ran : serve env n event = .ok (m,fresh)) : LoggedIn m id username ∧ m.up id = [] := by
  obtain ⟨session,plays,named,alive⟩ := logged
  rcases serve_plays sole linked plays ran with ⟨io,visited,turn⟩ | apart
  · obtain ⟨users,next,visits⟩ := turn.ran
    have idle : (n.heardSession id io).activity = false := by simp [heardSession,up]
    obtain rfl := idle_serve idle (visit_served alive visits)
    exact ⟨⟨session,turn.left session rfl plays.2,named,alive⟩,by rw [turn.up,up]; rfl⟩
  · exact ⟨⟨session,apart.plays,named,alive⟩,apart.up.trans up⟩

-- The effects of a visit begin with the packet that it heard; one that heard nothing can only greet.
theorem visit_hears (visit : Visit env world io c handled) :
    (io.activity = true ∧ ∃ rest, handled.effects = .received io.recv.bytes :: rest) ∨ handled.effects = [] ∨
      ∃ result, handled.effects = [.sent (.authenticationChallenge env.challenge) result] := by
  cases visit with
  | done | dropped | quiet => exact .inr (.inl rfl)
  | greeted => exact .inr (.inr ⟨_,rfl⟩)
  | closed live turn | unexpected login turn | refused login turn | locked login turn | accepted login turn
  | registering challenged turn | unanswered challenged turn | notNeeded listing turn | listed listing turn
  | registered waiting turn => exact .inl ⟨turn.active,_,rfl⟩

-- A successful response goes to the identity that was heard, and leaves its session.
theorem turn_success (turn : Network.Turn env n m id c fresh io handled) (mine : c.socket.map Socket.id = some id)
    (member : Effect.sent (.authenticationResponse response) result ∈ handled.effects) (successful : response.successful = true) :
    ∃ authID, Identifies env (n.heard id io) authID ∧ LoggedIn m id authID.username := by
  cases processIncoming_parts turn.ran with
  | @accepted socket authID person login reached identity accepts =>
    obtain ⟨index,present,stored⟩ := turn.server
    let session := n.server.toWorld.newSession env.md5 person authID.username (answered socket (n.heard id io)) io.diceRoll
    have alive : (answered socket (n.heard id io)).error = false := by
      change (((polled socket (n.heard id io)).raise false).raise false).error = false
      simpa only [Socket.raise_false] using reached.alive
    refine ⟨authID,identity,session,⟨?_,?_⟩,rfl,alive⟩
    · rw [stored]
      exact List.mem_append_right _ (List.mem_singleton_self _)
    · rw [reached.owned] at mine
      exact Option.some.inj mine
  | done | dropped | quiet | greeted | closed | registering | unanswered | notNeeded | listed | registered => simp at member
  | unexpected | refused | locked =>
    simp [failureResponse] at member
    rw [member.1] at successful
    cases successful

-- A call at its second wait: its identity comes after packets that are no identities, or nobody answers, or
-- the identity was heard and a success is its answer.
inductive Waiting (env : Env) (build : Build) (n : Network) (id : Nat) (username : Bytes) : Prop where
  | asked (up : n.up id = early ++ [(ClientPacket.authenticationIdentity ⟨username,password⟩).buffer build.apg])
      (others : ∀ packet ∈ early, ¬ Identity build packet)
      (whole : Codecs.Message.Fits (.identity ⟨username,password⟩) ∧ Codecs.Message.Parsed env.parse (.identity ⟨username,password⟩))
      (none : ∀ packet ∈ n.down id, ¬ Success build packet) : Waiting env build n id username
  | unheard (deaf : Deaf n.server id) (none : ∀ packet ∈ n.down id, ¬ Success build packet) :
      Waiting env build n id username
  | answered (up : n.up id = []) (logged : ∀ packet ∈ n.down id, Success build packet → LoggedIn n id username) :
      Waiting env build n id username

theorem success_effect (shared : Shared env build) (turn : Network.Turn env n m id c fresh io handled)
    (ran : serve env n event = .ok (m,fresh)) (whole : ∀ entry ∈ fresh, Whole env build (.server entry))
    (mine : c.socket.map Socket.id = some id) (none : ∀ packet ∈ n.down id, ¬ Success build packet)
    (member : packet ∈ m.down id) (success : Success build packet) :
    ∃ authID, Identifies env (n.heard id io) authID ∧ LoggedIn m id authID.username := by
  rcases serve_success shared ran whole member success with old | ⟨response,result,entry,successful⟩
  · exact absurd success (none packet old)
  · rw [turn.fresh] at entry
    obtain ⟨effect,within,same⟩ := List.mem_map.mp entry
    obtain ⟨_,rfl⟩ := Prod.mk.inj same
    exact turn_success turn mine within successful

theorem identity_heard (shared : Shared env build) (free : 0 ∉ username)
    (up : n.up id = [(ClientPacket.authenticationIdentity ⟨username,password⟩).buffer build.apg])
    (whole : Codecs.Message.Fits (.identity ⟨username,password⟩) ∧ Codecs.Message.Parsed env.parse (.identity ⟨username,password⟩))
    (identity : Identifies env (n.heard id io) authID) : authID.username = username := by
  have heard : (n.heard id io).recv.bytes = (ClientPacket.authenticationIdentity ⟨username,password⟩).buffer env.apg := by
    simp [Network.heard,up,shared.apg]
  have body : receivedJSON env (n.heard id io).recv.bytes = AuthenticationIdentity.toJSON ⟨username,password⟩ := by
    rw [heard]
    exact Codecs.sized_read env.apg _ (whole.1 _ rfl)
  have read : AuthenticationIdentity.fromJSON env.parse (AuthenticationIdentity.toJSON ⟨username,password⟩) =
      .ok ⟨username,password⟩ :=
    Codecs.identity_read free (Codecs.text_parsed (whole.2 _ rfl) (Codecs.identity_free _))
  have decoded := identity.2
  rw [body,read] at decoded
  rw [← Except.ok.inj decoded]

theorem other_heard (shared : Shared env build) (up : n.up id = head :: rest) (identity : Identifies env (n.heard id io) authID) :
    Identity build head := by
  have opcode := identity.1
  simp only [Network.heard,up,List.headD_cons,Recv.bytes_ofBytes] at opcode
  unfold Identity
  rw [shared.apg]
  exact opcode

-- A visit that hears nothing does not answer either.
theorem quiet_silent (turn : Network.Turn env n m id c fresh io handled) (quiet : handled.effects = [] ∨
    ∃ result, handled.effects = [.sent (.authenticationChallenge env.challenge) result]) :
    (∀ response result, (id,Effect.sent (.authenticationResponse response) result) ∉ fresh) ∧ m.up id = n.up id := by
  rw [turn.fresh,turn.up]
  rcases quiet with none | ⟨_,greeted⟩
  · rw [none]
    exact ⟨by simp,quiet_drained (by simp) _⟩
  · rw [greeted]
    refine ⟨fun response result member => ?_,?_⟩
    · cases (Prod.mk.inj (List.mem_singleton.mp member)).2
    · cases n.up id <;> rfl

theorem unheard_silent (sole : Sole n.server) (linked : id ∈ n.links) (known : id < n.server.socketsAccepted)
    (up : n.up id = []) (ran : serve env n event = .ok (m,fresh)) :
    ∀ response result, (id,Effect.sent (.authenticationResponse response) result) ∉ fresh := by
  obtain ⟨stepped,_⟩ := serve_parts ran
  by_cases held : ∃ c, Holds n.server id c
  · obtain ⟨c,holds⟩ := held
    rcases serve_holds sole linked holds ran with ⟨io,handled,turn⟩ | ⟨away,_,_⟩
    · rcases visit_hears (processIncoming_parts turn.ran) with ⟨active,_⟩ | quiet
      · simp [Network.heard,up] at active
      · exact (quiet_silent turn quiet).1
    · exact fun response result member => by cases away.quiet _ member
  · exact (deaf_step sole.ready known (fun c within owned => absurd ⟨c,within,owned⟩ held) stepped).2

theorem waiting_serve (shared : Shared env build) (sole : Sole n.server) (linked : id ∈ n.links)
    (known : id < n.server.socketsAccepted) (free : 0 ∉ username) (waiting : Waiting env build n id username)
    (ran : serve env n event = .ok (m,fresh)) (whole : ∀ entry ∈ fresh, Whole env build (.server entry)) :
    Waiting env build m id username := by
  have silent : (∀ response result, (id,Effect.sent (.authenticationResponse response) result) ∉ fresh) →
      (∀ packet ∈ n.down id, ¬ Success build packet) → ∀ packet ∈ m.down id, ¬ Success build packet := by
    intro quiet none packet member success
    rcases serve_success shared ran whole member success with old | ⟨response,result,entry,_⟩
    · exact none packet old success
    · exact quiet response result entry
  have unheard : Deaf n.server id → (∀ packet ∈ n.down id, ¬ Success build packet) → Waiting env build m id username := by
    intro deaf none
    obtain ⟨still,quiet⟩ := deaf_step sole.ready known deaf (serve_parts ran).1
    exact .unheard still (silent quiet none)
  cases waiting with
  | unheard deaf none => exact unheard deaf none
  | @asked early password up others packet none =>
    by_cases held : ∃ c, Holds n.server id c
    · obtain ⟨c,holds⟩ := held
      rcases serve_holds sole linked holds ran with ⟨io,handled,turn⟩ | ⟨away,same,still⟩
      · have success : ∀ packet ∈ m.down id, Success build packet →
            ∃ authID, Identifies env (n.heard id io) authID ∧ LoggedIn m id authID.username :=
          fun packet member success => success_effect shared turn ran whole holds.2 none member success
        rcases visit_hears (processIncoming_parts turn.ran) with ⟨_,rest,heard⟩ | quiet
        · cases early with
          | nil =>
            refine .answered (by rw [turn.up,up,heard]; rfl) fun other member successful => ?_
            obtain ⟨authID,identity,logged⟩ := success other member successful
            exact identity_heard shared free up packet identity ▸ logged
          | cons head tail =>
            obtain ⟨first,later⟩ := List.forall_mem_cons.mp others
            refine .asked (by rw [turn.up,up,heard]; rfl) later packet fun other member successful => ?_
            obtain ⟨authID,identity,_⟩ := success other member successful
            exact first (other_heard shared up identity)
        · obtain ⟨still,same⟩ := quiet_silent turn quiet
          exact .asked (same.trans up) others packet (silent still none)
      · exact .asked (same.trans up) others packet (still ▸ none)
    · exact unheard (fun c within owned => absurd ⟨c,within,owned⟩ held) none
  | answered up logged =>
    refine .answered (serve_emptied up ran) fun packet member success => ?_
    rcases serve_success shared ran whole member success with old | ⟨response,result,entry,_⟩
    · exact (loggedIn_serve sole linked up (logged packet old success) ran).1
    · exact absurd entry (unheard_silent sole linked known up ran response result)

-- A call on an open connection starts with no success on its way, and no identity of an earlier call that
-- could still be answered.
def Settled (build : Build) (s : System) : Action → Prop
  | .doLogin _ => s.call = .idle → s.game.isConnected = true → ∀ id ∈ s.socket,
    ((∀ packet ∈ s.network.up id, ¬ Identity build packet) ∨ Deaf s.network.server id) ∧
      ∀ packet ∈ s.network.down id, ¬ Success build packet
  | _ => True

instance (build : Build) (packet : Bytes) : Decidable (Identity build packet) := by unfold Identity; infer_instance

instance (s : LoginServer) (id : Nat) : Decidable (Deaf s id) := by unfold Deaf; infer_instance

instance (build : Build) (packet : Bytes) : Decidable (Success build packet) :=
  decidable_of_iff (build.apg.getShort packet = ServerOpcode.LOGIN_AUTHENTICATION_RESPONSE.code ∧
    (AuthenticationResponse.fromJSON build.parse (sizedBody build.apg packet)).toOption.any (·.successful) = true) (by
      unfold Success
      cases AuthenticationResponse.fromJSON build.parse (sizedBody build.apg packet) <;> simp [Except.toOption])

instance (build : Build) (s : System) (action : Action) : Decidable (Settled build s action) := by
  cases action <;> (unfold Settled; infer_instance)

inductive Stands (env : Env) (build : Build) (n : Network) : Option Nat → Call → Prop where
  | idle : Stands env build n socket .idle
  | challenge (up : n.up link = []) (none : ∀ packet ∈ n.down link, ¬ Success build packet) :
      Stands env build n (some link) .challenge
  | response (waiting : Waiting env build n link name) : Stands env build n (some link) (.response name)
  | loggedIn (up : n.up link = []) (logged : LoggedIn n link name) : Stands env build n (some link) (.loggedIn name)

structure Coherent (env : Env) (build : Build) (s : System) : Prop where
  accounted : ∃ trace, Ownership.Accounted trace s.network.server
  named : s.game.username = text "test@example.com" ∨ s.game.username = text "SgtCoDFish@example.com"
  called : ∀ username, s.call = .response username → 0 ∉ username
  known : ∀ id, s.socket = some id → id < s.network.server.socketsAccepted
  linked : ∀ id, s.socket = some id → s.game.isConnected = true ∨ s.call ≠ .idle → id ∈ s.network.links
  stands : Stands env build s.network s.socket s.call

theorem start_coherent (env : Env) (build : Build) :
    Coherent env build (.start (.start players characters allMaps mapIDToName)) :=
  ⟨⟨[],Ownership.start_accounted⟩,.inl rfl,nofun,nofun,nofun,.idle⟩

theorem Coherent.free (coherent : Coherent env build s) : 0 ∉ s.game.username := by
  rcases coherent.named with same | same
  · rw [same]; decide
  · rw [same]; decide

theorem server_coherent (shared : Shared env build) (coherent : Coherent env build s)
    (ran : serve env s.network event = .ok (m,fresh)) (whole : ∀ entry ∈ fresh, Whole env build (.server entry)) :
    Coherent env build {s with network := m} := by
  obtain ⟨trace,valid⟩ := coherent.accounted
  have after := Ownership.step_accounted valid (serve_parts ran).1
  have sole := accounted_sole valid
  refine ⟨⟨_,after⟩,coherent.named,coherent.called,
    fun id owned => Nat.lt_of_lt_of_le (coherent.known id owned) (accounted_grows valid after),
    fun id owned live => serve_links ran ▸ coherent.linked id owned live,?_⟩
  obtain ⟨network,game,socket,call⟩ := s
  cases coherent.stands with
  | idle => exact .idle
  | @challenge link up none =>
    have linked := coherent.linked link rfl (.inr nofun)
    refine .challenge (serve_emptied up ran) fun packet member success => ?_
    rcases serve_success shared ran whole member success with old | ⟨response,result,entry,_⟩
    · exact none packet old success
    · exact unheard_silent sole linked (coherent.known link rfl) up ran response result entry
  | @response link username waiting =>
    exact .response (waiting_serve shared sole (coherent.linked link rfl (.inr nofun)) (coherent.known link rfl)
      (coherent.called username rfl) waiting ran whole)
  | @loggedIn link username up logged =>
    exact .loggedIn (serve_emptied up ran) (loggedIn_serve sole (coherent.linked link rfl (.inr nofun)) up logged ran).1

theorem sendIdentity_parts (sent : sendIdentity game = .ok effects) :
    ∃ password, sentPackets effects = [.authenticationIdentity ⟨game.username,password⟩] := by
  unfold sendIdentity at sent
  split at sent
  · cases sent
  · split at sent
    · cases sent
    · cases Except.ok.inj sent
      exact ⟨_,rfl⟩

-- The identity is the only one on its way that could be answered, and no success is on its way back.
theorem identify_coherent (coherent : Coherent env build s) (owned : s.socket = some id) (linked : id ∈ s.network.links)
    (others : (∀ packet ∈ s.network.up id, ¬ Identity build packet) ∨ Deaf s.network.server id) (none : ∀ packet ∈ s.network.down id, ¬ Success build packet)
    (ran : s.identify build id [] = .ok (t,outputs)) (whole : ∀ output ∈ outputs, Whole env build output) :
    Coherent env build t := by
  obtain ⟨effects,sent,same⟩ := map_ok ran
  obtain ⟨password,identity⟩ := sendIdentity_parts sent
  obtain ⟨rfl,rfl⟩ := Prod.mk.inj same
  rw [identity] at whole ⊢
  refine ⟨coherent.accounted,coherent.named,fun username same => ?_,coherent.known,fun other mine _ => ?_,?_⟩
  · cases same
    exact coherent.free
  · obtain rfl := Option.some.inj (owned.symm.trans mine)
    exact linked
  · change Stands env build _ s.socket _
    rw [owned]
    rcases others with others | deaf
    · have last : (s.send build id [.authenticationIdentity ⟨s.game.username,password⟩]).up id = s.network.up id ++
          [(ClientPacket.authenticationIdentity ⟨s.game.username,password⟩).buffer build.apg] := by
        simp [System.send,Network.send]
      exact .response (.asked last others ((whole _ (List.mem_singleton_self _)).identity _ rfl) none)
    · exact .response (.unheard deaf none)

theorem doLogin_coherent (coherent : Coherent env build s) (settled : Settled build s (.doLogin reached)) (still : s.call = .idle)
    (ran : s.doLogin build reached = .ok (t,outputs)) (whole : ∀ output ∈ outputs, Whole env build output) :
    Coherent env build t := by
  unfold System.doLogin at ran
  split at ran
  · rename_i id connected owned
    obtain ⟨others,none⟩ := settled still connected id owned
    exact identify_coherent coherent owned (coherent.linked id owned (.inl connected)) others none ran whole
  · cases Except.ok.inj ran
    exact coherent
  · cases Except.ok.inj ran
    obtain ⟨trace,valid⟩ := coherent.accounted
    have accepted : LoginServer.step env s.network.server .accept = .ok s.network.server.acceptSocket := rfl
    refine ⟨⟨_,Ownership.step_accounted valid accepted⟩,coherent.named,nofun,fun id owned => ?_,fun id owned _ => ?_,?_⟩
    · obtain rfl := Option.some.inj owned
      exact Nat.lt_succ_self _
    · obtain rfl := Option.some.inj owned
      exact List.mem_cons_self ..
    · refine .challenge (Function.update_self ..) fun packet member => ?_
      simp only [connect,Function.update_self] at member
      cases member
  · cases Except.ok.inj ran
    exact ⟨coherent.accounted,coherent.named,coherent.called,coherent.known,coherent.linked,coherent.stands⟩

theorem handshake_kept (ran : handshake build game io = .ok (next,effects,passed)) :
    next.username = game.username ∧ (passed = true → sentPackets effects = []) := by
  cases handshake_shaken ran with
  | connected | unanswered => exact ⟨rfl,fun _ => rfl⟩
  | challenged closed connects clean active opcode decoded same outcome =>
    refine ⟨by rw [same],fun through => ?_⟩
    rcases outcome with ⟨_,rfl,_⟩ | ⟨_,_,stopped⟩
    · rfl
    · cases stopped.symm.trans through

-- A wait of a call is over, and the call goes on or returns.
theorem waited_coherent (coherent : Coherent env build s) (owned : s.socket = some id) (calling : s.call ≠ .idle)
    (collected : Collected s.network m id recv) (server : n.server = m.server)
    (linked : game.isConnected = true ∨ call ≠ .idle → n.links = m.links) (named : game.username = s.game.username)
    (called : ∀ username, call = .response username → 0 ∉ username) (stands : Stands env build n (some id) call) :
    Coherent env build ⟨n,game,some id,call⟩ := by
  have same : n.server = s.network.server := server.trans collected.server
  refine ⟨same ▸ coherent.accounted,by rw [named]; exact coherent.named,called,fun other mine => ?_,fun other mine live => ?_,stands⟩
  · exact same ▸ coherent.known other (owned.trans mine)
  · rw [linked live,collected.links]
    exact coherent.linked other (owned.trans mine) (.inr calling)

theorem receiveChallenge_coherent (coherent : Coherent env build s) (owned : s.socket = some id) (waiting : s.call = .challenge)
    (ran : s.receiveChallenge build id arrives = .ok (t,outputs)) (whole : ∀ output ∈ outputs, Whole env build output) :
    Coherent env build t := by
  unfold System.receiveChallenge at ran
  rcases got : s.network.collect id arrives with ⟨recv,network⟩
  have collected := collect_parts got
  have calling : s.call ≠ .idle := by rw [waiting]; nofun
  rw [got] at ran
  dsimp only at ran
  split at ran
  · cases ran
  · rename_i game early passed
    obtain ⟨named,silent⟩ := handshake_kept passed
    rw [silent rfl] at ran
    have stands := coherent.stands
    rw [owned,waiting] at stands
    cases stands with
    | challenge up none =>
      have quiet : ∀ packet ∈ network.down id, ¬ Success build packet := fun packet member => none packet (collected.down packet member)
      have empty : network.up id = [] := by rw [collected.up]; exact up
      have onward : Coherent env build ⟨network,game,some id,.challenge⟩ :=
        waited_coherent coherent owned calling collected rfl (fun _ => rfl) named nofun (.challenge empty quiet)
      rw [owned,waiting] at ran
      have others : ∀ packet ∈ network.up id, ¬ Identity build packet := by
        rw [empty]
        exact fun packet member => absurd member (List.not_mem_nil)
      exact identify_coherent onward rfl (onward.linked id rfl (.inr nofun)) (.inl others) quiet ran whole
  · rename_i game early failed
    cases Except.ok.inj ran
    rw [owned]
    exact waited_coherent coherent owned calling collected rfl (fun _ => rfl) (handshake_kept failed).1 nofun .idle

theorem readResponse_parts (ran : readResponse build game recv = .ok (next,result)) :
    next.username = game.username ∧ (result = true → Success build recv.bytes) := by
  unfold readResponse at ran
  split at ran
  · cases Except.ok.inj ran
    exact ⟨rfl,nofun⟩
  · rename_i opcode
    split at ran
    · cases ran
    · rename_i response decoded
      split at ran
      · rename_i successful
        cases Except.ok.inj ran
        exact ⟨rfl,fun _ => ⟨not_not.mp opcode,response,decoded,successful⟩⟩
      · split at ran
        · cases Except.ok.inj ran
          exact ⟨rfl,nofun⟩
        · cases Except.ok.inj ran
          exact ⟨rfl,nofun⟩

theorem receiveResponse_coherent (shared : Shared env build) (coherent : Coherent env build s) (owned : s.socket = some id)
    (waiting : s.call = .response username) (ran : s.receiveResponse build id username arrives = .ok (t,outputs)) :
    Coherent env build t := by
  unfold System.receiveResponse at ran
  rcases got : s.network.collect id arrives with ⟨recv,network⟩
  have collected := collect_parts got
  have calling : s.call ≠ .idle := by rw [waiting]; nofun
  rw [got] at ran
  dsimp only at ran
  split at ran
  · cases ran
  · rename_i game read
    obtain ⟨named,success⟩ := readResponse_parts read
    cases Except.ok.inj ran
    rw [owned]
    refine waited_coherent coherent owned calling collected rfl (fun _ => rfl) named nofun ?_
    -- The success came over the link, so the identity of this call was accepted.
    have successful := success rfl
    have member : recv.bytes ∈ s.network.down id := by
      refine collected.got fun none => ?_
      have opcode := successful.1
      rw [collected.empty none] at opcode
      exact shared.blank opcode
    have stands := coherent.stands
    rw [owned,waiting] at stands
    cases stands with
    | response waits =>
      cases waits with
      | asked up others packet none => exact absurd successful (none _ member)
      | unheard deaf none => exact absurd successful (none _ member)
      | answered up logged =>
        obtain ⟨session,plays,same,alive⟩ := logged _ member successful
        exact .loggedIn (by rw [collected.up]; exact up) ⟨session,collected.server ▸ plays,same,alive⟩
  · rename_i game read
    obtain ⟨named,_⟩ := readResponse_parts read
    cases Except.ok.inj ran
    rw [owned]
    cases connected : game.isConnected with
    | true => exact waited_coherent coherent owned calling collected rfl (fun _ => rfl) named nofun .idle
    | false =>
      refine waited_coherent coherent owned calling collected rfl ?_ named nofun .idle
      rintro (open_ | call)
      · rw [connected] at open_
        cases open_
      · exact absurd rfl call

theorem step_coherent (shared : Shared env build) (coherent : Coherent env build s) (settled : Settled build s action)
    (ran : System.step env build s action = .ok (t,outputs)) (whole : ∀ output ∈ outputs, Whole env build output) :
    Coherent env build t := by
  unfold System.step at ran
  split at ran
  · rename_i event
    obtain ⟨⟨network,fresh⟩,served,same⟩ := map_ok ran
    obtain ⟨rfl,rfl⟩ := Prod.mk.inj same
    exact server_coherent shared coherent served fun entry member => whole _ (List.mem_map_of_mem member)
  · split at ran
    · cases Except.ok.inj ran
      exact ⟨coherent.accounted,.inr rfl,coherent.called,coherent.known,coherent.linked,coherent.stands⟩
    · rename_i still _
      exact doLogin_coherent coherent settled still ran whole
    · rename_i waiting owned _
      exact receiveChallenge_coherent coherent owned waiting ran whole
    · rename_i waiting owned _
      exact receiveResponse_coherent shared coherent owned waiting ran
    · rename_i still owned _
      cases Except.ok.inj ran
      refine ⟨coherent.accounted,coherent.named,coherent.called,coherent.known,fun id mine live => ?_,?_⟩
      · rcases live with closed | calling
        · cases closed
        · exact absurd still calling
      · change Stands env build _ s.socket s.call
        rw [still]
        exact .idle
    · cases Except.ok.inj ran
      exact coherent

-- The server has a session of the connection, under the username of the call that returned true.
def Matched (s : System) : Prop :=
  ∀ username, s.call = .loggedIn username → ∃ id session, s.socket = some id ∧ Plays s.network.server id session ∧
    session.username = username

theorem coherent_matched (coherent : Coherent env build s) : Matched s := by
  intro username returned
  have stands := coherent.stands
  rw [returned] at stands
  generalize owned : s.socket = socket at stands
  cases stands with
  | loggedIn up logged =>
    obtain ⟨session,plays,named,_⟩ := logged
    exact ⟨_,session,rfl,plays,named⟩

theorem run_coherent (shared : Shared env build)
    (path : Runs.Run (System.step env build) (.start (.start players characters allMaps mapIDToName)) actions trace s)
    (settled : Runs.StepsMeet (System.step env build) (.start (.start players characters allMaps mapIDToName)) actions (Settled build))
    (whole : ∀ output ∈ trace, Whole env build output) : Coherent env build s := by
  induction path with
  | nil => exact start_coherent env build
  | snoc prior ran ih =>
    obtain ⟨early,late⟩ := List.forall_mem_append.mp whole
    exact step_coherent shared (ih settled.early early) ((Runs.StepsMeet.snoc prior).mp settled).2 ran late

theorem login_agreement (shared : Shared env build)
    (path : Runs.Run (System.step env build) (.start (.start players characters allMaps mapIDToName)) actions trace s)
    (settled : Runs.StepsMeet (System.step env build) (.start (.start players characters allMaps mapIDToName)) actions (Settled build))
    (whole : ∀ output ∈ trace, Whole env build output) : Matched s :=
  coherent_matched (run_coherent shared path settled whole)

def attempt (username : Bytes) : AuthenticationIdentity := ⟨username,RSACrypto.filled 32 (text "testa")⟩

def attempts : List AuthenticationIdentity := [attempt (text "test@example.com"),attempt (text "SgtCoDFish@example.com")]

def answers : List AuthenticationResponse := [⟨true,3,text "Authentication successful."⟩,
  ⟨false,2,text "Authentication failure."⟩,⟨true,2,text "Authentication successful."⟩]

def slow : Env := .plain (attempts.map (·.document))

def patient : Build := ⟨.network,Json.known (slow.challenge.document :: answers.map (·.document)),fun _ => some (.plain 32),
  text "0.0.1",[]⟩

theorem patient_shared : Shared slow patient := ⟨rfl,by decide +kernel⟩

theorem patient_whole {trace : List Output} (responses : ∀ response ∈ trace.filterMap Output.response, response ∈ answers)
    (identities : ∀ identity ∈ trace.filterMap Output.identity, identity ∈ attempts) :
    ∀ output ∈ trace, Whole slow patient output := by
  have shortAnswers : ∀ response ∈ answers, response.document.write.length < 2^16 := by decide +kernel
  have shortAttempts : ∀ identity ∈ attempts, identity.document.write.length < 2^16 := by decide +kernel
  have knownAnswers : ((slow.challenge.document :: answers.map (·.document)).map Json.write).Nodup := by decide +kernel
  have knownAttempts : ((attempts.map (·.document)).map Json.write).Nodup := by decide +kernel
  intro output member
  refine ⟨fun response same => ?_,fun identity same => ?_⟩
  · have answer := responses response (List.mem_filterMap.mpr ⟨output,member,same⟩)
    constructor
    · intro d document
      exact Option.some.inj document ▸ shortAnswers response answer
    · intro d document
      exact Option.some.inj document ▸ Codecs.known_member knownAnswers (List.mem_cons_of_mem _ (List.mem_map_of_mem answer))
  · have sent := identities identity (List.mem_filterMap.mpr ⟨output,member,same⟩)
    constructor
    · intro d document
      exact Option.some.inj document ▸ shortAttempts identity sent
    · intro d document
      exact Option.some.inj document ▸ Codecs.known_member knownAttempts (List.mem_map_of_mem sent)

def served : Action := .server (.incoming 0 (.delivers []))

-- The answer to the first attempt comes after the second one has begun, under another name.
def overlap : List Action := [.doLogin true,served,.receiveChallenge true,.receiveResponse false,.selectUsername,served,
  .doLogin true,.receiveResponse true]

theorem login_agreement_overlap : ∃ trace s,
    Runs.Run (System.step slow patient) (.start (.start LoginOrigins.members [] [] .empty)) overlap trace s ∧
      (∀ output ∈ trace, Whole slow patient output) ∧ s.call = .loggedIn (text "SgtCoDFish@example.com") ∧
      s.network.server.playerSessions.map (Option.map (·.username)) = [some (text "test@example.com")] ∧ ¬ Matched s := by
  obtain ⟨trace,s,path,checked⟩ := Runs.execute_check (System.step slow patient)
    (.start (.start LoginOrigins.members [] [] .empty)) overlap
    (fun last => decide (last.1.call = .loggedIn (text "SgtCoDFish@example.com") ∧
      last.1.network.server.playerSessions.map (Option.map (·.username)) = [some (text "test@example.com")] ∧
      (∀ response ∈ last.2.filterMap Output.response, response ∈ answers) ∧
      ∀ identity ∈ last.2.filterMap Output.identity, identity ∈ attempts)) (by decide +kernel)
  obtain ⟨returned,sessions,responses,identities⟩ := of_decide_eq_true checked
  refine ⟨trace,s,path,patient_whole responses identities,returned,sessions,fun matched => ?_⟩
  obtain ⟨id,session,_,plays,named⟩ := matched _ returned
  have within : some session.username ∈ s.network.server.playerSessions.map (Option.map (·.username)) :=
    List.mem_map.mpr ⟨some session,plays.1,rfl⟩
  rw [sessions,named] at within
  exact absurd within (by decide)

-- The second attempt waits for the answer to the first.
def patience : List Action := [.doLogin true,served,.receiveChallenge true,served,.receiveResponse true,.selectUsername,
  .doLogin true,served,.receiveResponse true]

def fisher : PlayersTable := ⟨[⟨8,text "SgtCoDFish@example.com",List.replicate 64 48,[],0,false,0,0⟩],by simp,by simp⟩

theorem login_agreement_patience : ∃ trace s,
    Runs.Run (System.step slow patient) (.start (.start fisher [] [] .empty)) patience trace s ∧
      s.call = .loggedIn (text "SgtCoDFish@example.com") ∧ Matched s := by
  obtain ⟨trace,s,path,checked⟩ := Runs.execute_check (System.step slow patient) (.start (.start fisher [] [] .empty)) patience
    (fun last => decide (last.1.call = .loggedIn (text "SgtCoDFish@example.com") ∧
      (∀ response ∈ last.2.filterMap Output.response, response ∈ answers) ∧
      ∀ identity ∈ last.2.filterMap Output.identity, identity ∈ attempts)) (by decide +kernel)
  obtain ⟨returned,responses,identities⟩ := of_decide_eq_true checked
  exact ⟨trace,s,path,returned,login_agreement patient_shared path (Runs.checkSteps_meet (by decide +kernel))
    (patient_whole responses identities)⟩

end PlayPG.LoginAgreement
