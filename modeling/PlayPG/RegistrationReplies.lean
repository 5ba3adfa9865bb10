import PlayPG.PeerRegistration
import PlayPG.ReceiveFailures
import PlayPG.Sockets

-- The two answers of a registration that carry it on, and what becomes of a
-- map server that one of them was not sent to.
namespace PlayPG.RegistrationReplies
open Bytes IncomingHandler Visits ServerSteps Connections MapAssignment Sockets

def carriesOn : ServerPacket → Bool
  | .mapServerRegistrationResponse _ => true
  | .mapServerMapList _ => true
  | _ => false

-- A step in which one of them was given to send, and send failed.
def Unsent (fresh : List (Nat × Effect)) (id : Nat) : Prop :=
  ∃ packet result, carriesOn packet = true ∧ result ≤ 0 ∧ (id,.sent packet result) ∈ fresh

-- The connection is given up: it is done, and its socket serves no map in anything that follows.
structure GivenUp (env : Env) (s : LoginServer) (index id : Nat) : Prop where
  done : ∃ c, s.incomingConnections[index]? = some c ∧ c.state = .DONE
  never : ∀ events trace t, Runs.Run (LoginServer.step env) s events trace t → ∀ server, ¬Serves t id server

def OneAttempt (env : Env) (s : LoginServer) (events : List Event) : Prop :=
  ∀ before index io after, events = before ++ .incoming index io :: after → ∀ trace middle next fresh id,
    Runs.Run (LoginServer.step env) s before trace middle →
    LoginServer.step env middle (.incoming index io) = .ok (next,fresh) → Unsent fresh id → GivenUp env next index id

-- What was received is answered by one of the two in the state of the connection.
def asks (env : Env) (world : World) (state : IncomingConnectionState) (recv : Recv) : Bool :=
  match state with
  | .CHALLENGE_SENT => env.apg.getShort recv.bytes == ServerOpcode.MAP_SERVER_REGISTRATION_REQUEST.code
  | .MAP_LIST => env.apg.getShort recv.bytes == ServerOpcode.MAP_SERVER_MAP_LIST.code &&
    match MapServerMapList.fromJSON env.parse (receivedJSON env recv.bytes) with
    | .error _ => false
    | .ok mapHashes => !(requiredMaps world mapHashes).isEmpty
  | _ => false

-- The event lets the answer to such a request fail.
def loses (env : Env) (s : LoginServer) : Event → Bool
  | .incoming index io =>
    match s.incomingConnections[index]? with
    | none => false
    | some c =>
      match c.socket with
      | none => false
      | some socket => !(polled socket io).error && io.activity && io.recv.result != 0 && io.sendResult ≤ 0 &&
        asks env s.toWorld c.state io.recv
  | _ => false

structure Loses (env : Env) (s : LoginServer) (index : Nat) (io : SocketIO) (c : IncomingConnection)
    (socket : Socket) : Prop where
  present : s.incomingConnections[index]? = some c
  turn : Turn io c socket
  got : io.recv.result ≠ 0
  failed : io.sendResult ≤ 0
  asks : asks env s.toWorld c.state io.recv = true

theorem loses_parts : loses env s (.incoming index io) = true ↔ ∃ c socket, Loses env s index io c socket := by
  constructor
  · intro lost
    simp only [loses] at lost
    split at lost
    · cases lost
    · rename_i c present
      split at lost
      · cases lost
      · rename_i socket owned
        simp only [Bool.and_eq_true,Bool.not_eq_true',bne_iff_ne,ne_eq,decide_eq_true_eq] at lost
        obtain ⟨⟨⟨⟨alive,active⟩,got⟩,failed⟩,asked⟩ := lost
        exact ⟨c,socket,present,⟨owned,alive,active⟩,got,failed,asked⟩
  · intro lost
    obtain ⟨c,socket,lost⟩ := lost
    simp [loses,lost.present,lost.turn.owned,lost.turn.alive,lost.turn.active,lost.got,lost.failed,lost.asks]

-- Nothing received drops the connection before it is answered.
theorem unanswered_got (challenged : c.state = .CHALLENGE_SENT) (turn : Turn io c socket)
    (ran : processIncoming env world c io = .ok handled) (sent : .sent packet result ∈ handled.effects) :
    io.recv.result ≠ 0 := by
  intro none
  have required : ReceiveFailures.Required c := by
    intro waiting
    rw [challenged] at waiting
    cases waiting
  have dropped : processIncoming env world c io = .ok (ReceiveFailures.dropped world c io socket) := by
    apply ReceiveFailures.checked_drops (.inl challenged) turn required (by omega)
    exact .inl none
  rw [ran] at dropped
  rw [Except.ok.inj dropped] at sent
  simp [ReceiveFailures.dropped] at sent

theorem unsent_asks (ran : processIncoming env world c io = .ok handled) (sent : .sent packet result ∈ handled.effects)
    (reply : carriesOn packet = true) (failed : result ≤ 0) :
    ∃ socket, Turn io c socket ∧ io.recv.result ≠ 0 ∧ io.sendResult ≤ 0 ∧ asks env world c.state io.recv = true := by
  have visit := processIncoming_parts ran
  cases visit with
  | greeted | unexpected | refused | locked | accepted | notNeeded =>
    -- What these send carries nothing on.
    obtain ⟨rfl,rfl⟩ : packet = _ ∧ result = _ := by simpa using sent
    cases reply
  | registering challenged turn request reached got =>
    obtain ⟨rfl,rfl⟩ : packet = _ ∧ result = _ := by simpa using sent
    omega
  | @unanswered socket challenged turn request lost =>
    have got := unanswered_got challenged turn ran sent
    exact ⟨socket,turn,got,lost,by simp [asks,challenged,request]⟩
  | @listed socket mapHashes listing turn opcode decoded some got =>
    obtain ⟨rfl,rfl⟩ : packet = _ ∧ result = _ := by simpa using sent
    exact ⟨socket,turn,got,failed,by simp [asks,listing,opcode,decoded,some]⟩
  | _ => simp at sent

theorem unsent_loses {id : Nat} (ran : LoginServer.step env s (.incoming index io) = .ok (t,fresh)) (unsent : Unsent fresh id) :
    loses env s (.incoming index io) = true := by
  obtain ⟨packet,result,reply,failed,member⟩ := unsent
  rcases step_incoming_parts ran with ⟨_,_,rfl⟩ | ⟨c,handled,present,visited,_,rfl⟩
  · cases member
  · obtain ⟨effect,within,same⟩ := List.mem_map.mp member
    cases same
    obtain ⟨socket,turn,got,lost,asked⟩ := unsent_asks visited within reply failed
    exact loses_parts.mpr ⟨c,socket,present,turn,got,lost,asked⟩

theorem asks_parts {c : IncomingConnection} {io : SocketIO} (asked : asks env world c.state io.recv = true) :
    (c.state = .CHALLENGE_SENT ∧
      env.apg.getShort io.recv.bytes = ServerOpcode.MAP_SERVER_REGISTRATION_REQUEST.code) ∨
    (c.state = .MAP_LIST ∧ env.apg.getShort io.recv.bytes = ServerOpcode.MAP_SERVER_MAP_LIST.code ∧
      ∃ mapHashes, MapServerMapList.fromJSON env.parse (receivedJSON env io.recv.bytes) = .ok mapHashes ∧
        requiredMaps world mapHashes ≠ []) := by
  unfold asks at asked
  split at asked
  · rename_i challenged
    exact .inl ⟨challenged,by simpa using asked⟩
  · rename_i listing
    obtain ⟨opcode,rest⟩ := Bool.and_eq_true_iff.mp asked
    split at rest
    · cases rest
    · rename_i mapHashes decoded
      exact .inr ⟨listing,by simpa using opcode,mapHashes,decoded,by simpa using rest⟩
  · cases asked

theorem response_lost (challenged : c.state = .CHALLENGE_SENT) (turn : Turn io c socket) (got : io.recv.result ≠ 0)
    (failed : io.sendResult ≤ 0)
    (request : env.apg.getShort io.recv.bytes = ServerOpcode.MAP_SERVER_REGISTRATION_REQUEST.code) :
    processIncoming env world c io = .ok ⟨world,requested env io c (answered socket io),
      [.received io.recv.bytes,.sent (.mapServerRegistrationResponse (text "hello, world")) io.sendResult]⟩ := by
  have active := turn.active
  have notLogin : ServerOpcode.MAP_SERVER_REGISTRATION_REQUEST.code ≠ ClientOpcode.LOGIN_AUTHENTICATION_IDENTITY.code := by
    decide
  have notMismatch : ServerOpcode.MAP_SERVER_REGISTRATION_REQUEST.code ≠ ClientOpcode.VERSION_MISMATCH.code := by decide
  rw [ReceiveFailures.recv_reached (.inl challenged) turn]
  simp only [challenged,processChallengeSentSocket,active,got,request,notLogin,notMismatch,
    processMapAuthenticationRequest,failed,if_true,if_false,Bool.not_true,Bool.false_eq_true]
  simp [requested,challenged,answered,Visits.read,Handled.after]

theorem list_lost (listing : c.state = .MAP_LIST) (turn : Turn io c socket) (got : io.recv.result ≠ 0)
    (opcode : env.apg.getShort io.recv.bytes = ServerOpcode.MAP_SERVER_MAP_LIST.code)
    (decoded : MapServerMapList.fromJSON env.parse (receivedJSON env io.recv.bytes) = .ok mapHashes)
    (some : requiredMaps world mapHashes ≠ []) :
    processIncoming env world c io = .ok ⟨world,{c with
        socket := .some (answered socket io)
        maps := .some (requiredMaps world mapHashes)
        state := .MAP_WAIT_ACK},
      [.received io.recv.bytes,.sent (.mapServerMapList (requiredMaps world mapHashes)) io.sendResult]⟩ := by
  have active := turn.active
  rw [ReceiveFailures.recv_reached (.inr (.inr (.inl listing))) turn]
  simp only [listing,processMapListSocket,active,got,opcode,decoded,some,ne_eq,not_true_eq_false,if_false,
    Bool.not_true,Bool.false_eq_true,List.isEmpty_iff]
  rfl

-- A failed answer leaves the connection as it was, or waiting for the ACK.
theorem loses_visit (turn : Turn io c socket) (got : io.recv.result ≠ 0) (failed : io.sendResult ≤ 0)
    (asked : asks env world c.state io.recv = true) : ∃ handled, processIncoming env world c io = .ok handled ∧
      (handled.connection.state = .CHALLENGE_SENT ∨ handled.connection.state = .MAP_WAIT_ACK) ∧
      ∃ packet, carriesOn packet = true ∧ .sent packet io.sendResult ∈ handled.effects := by
  rcases asks_parts asked with ⟨challenged,request⟩ | ⟨listing,opcode,mapHashes,decoded,some⟩
  · exact ⟨_,response_lost challenged turn got failed request,.inl challenged,_,rfl,
      List.mem_cons_of_mem _ List.mem_cons_self⟩
  · exact ⟨_,list_lost listing turn got opcode decoded some,.inr rfl,.mapServerMapList _,rfl,
      List.mem_cons_of_mem _ List.mem_cons_self⟩

theorem loses_live (ran : LoginServer.step env s (.incoming index io) = .ok (t,fresh))
    (lost : loses env s (.incoming index io) = true) :
    ∃ id c, Unsent fresh id ∧ t.incomingConnections[index]? = some c ∧ c.state ≠ .DONE := by
  obtain ⟨c,socket,lost⟩ := loses_parts.mp lost
  obtain ⟨expected,visited,state,packet,reply,sent⟩ := loses_visit lost.turn lost.got lost.failed lost.asks
  obtain ⟨handled,again,rfl⟩ := PeerRegistration.step_at lost.present ran
  obtain rfl : expected = handled := Except.ok.inj (visited.symm.trans again)
  rcases step_incoming_parts ran with ⟨missing,_⟩ | ⟨d,other,present,once,_,rfl⟩
  · cases missing.symm.trans lost.present
  · obtain rfl : c = d := Option.some.inj (lost.present.symm.trans present)
    obtain rfl : expected = other := Except.ok.inj (visited.symm.trans once)
    refine ⟨_,_,⟨packet,io.sendResult,reply,lost.failed,List.mem_map_of_mem sent⟩,
      PeerRegistration.store_at lost.present expected,?_⟩
    rcases state with state | state <;> simp [state]

-- Had the handler given the connection up, nothing that follows could register it.
theorem done_givenUp {id : Nat}
    (path : Runs.Run (LoginServer.step env) (.start players characters allMaps mapIDToName) events trace s)
    (present : s.incomingConnections[index]? = some c) (owned : c.socket.map Socket.id = some id) :
    GivenUp env s index id ↔ c.state = .DONE := by
  constructor
  · intro given
    obtain ⟨other,same,done⟩ := given.done
    obtain rfl := Option.some.inj (present.symm.trans same)
    exact done
  · intro done
    refine ⟨⟨c,present,done⟩,?_⟩
    intro later rest t onward
    have valid := Ownership.run_accounted path
    have holds : Holds s id c := ⟨List.mem_of_getElem? present,owned⟩
    have sole := accounted_sole valid
    have known := sole.known id (List.mem_append_left _ holds.incoming)
    -- A finished connection stays finished, and its socket keeps its number.
    have kept : Finished t id ∧ id < t.socketsAccepted ∧ ∃ before, Ownership.Accounted before t := by
      refine onward.invariant (P:=fun u => Finished u id ∧ id < u.socketsAccepted ∧ ∃ before, Ownership.Accounted before u)
        ⟨sole.finished holds done,known,trace,valid⟩ ?_
      intro middle event next fresh prior ran
      obtain ⟨finished,known,before,accounted⟩ := prior
      have after := Ownership.step_accounted accounted ran
      have grown := accounted_grows accounted after
      exact ⟨(finished_step (accounted_sole accounted) finished known ran).1,by omega,_,after⟩
    exact kept.1.unserved

theorem loses_attempt (path : Runs.Run (LoginServer.step env) s before trace middle)
    (ran : LoginServer.step env middle event = .ok (next,fresh)) (lost : loses env middle event = true) :
    ¬OneAttempt env s (before ++ event :: after) := by
  intro once
  cases event with
  | incoming index io =>
    obtain ⟨id,c,unsent,present,live⟩ := loses_live ran lost
    obtain ⟨other,same,done⟩ := (once before index io after rfl _ _ _ _ id path ran unsent).done
    obtain rfl := Option.some.inj (present.symm.trans same)
    exact live done
  | _ => cases lost

theorem one_attempt
    (path : Runs.Run (LoginServer.step env) (.start players characters allMaps mapIDToName) events trace t) :
    OneAttempt env (.start players characters allMaps mapIDToName) events ↔
      Runs.StepsMeet (LoginServer.step env) (.start players characters allMaps mapIDToName) events
        (fun s event => loses env s event = false) := by
  constructor
  · rintro once before event after rfl early middle reached
    obtain ⟨again,_,_,first,second,_⟩ := path.split
    obtain ⟨_,rfl⟩ := reached.deterministic first
    obtain ⟨next,fresh,_,ran,_,_⟩ := second.cons_inv
    cases lost : loses env middle event with
    | false => rfl
    | true => exact absurd once (loses_attempt reached ran lost)
  · intro met before index io after whole early middle next fresh id reached ran unsent
    have kept : loses env middle (.incoming index io) = false := met before _ after whole early middle reached
    rw [unsent_loses ran unsent] at kept
    cases kept

theorem one_attempt_town : ∃ trace t,
    Runs.Run (LoginServer.step towns) (.start .empty [] [town] .empty) (.accept :: listing 0 ++ [acknowledgement 0]) trace t ∧
      t.mapServers.size = 1 ∧
      OneAttempt towns (.start .empty [] [town] .empty) (.accept :: listing 0 ++ [acknowledgement 0]) := by
  obtain ⟨trace,t,path,registered⟩ := Runs.execute_check (LoginServer.step towns) (.start .empty [] [town] .empty)
    (.accept :: listing 0 ++ [acknowledgement 0]) (fun last => last.1.mapServers.size == 1) (by decide +kernel)
  exact ⟨trace,t,path,by simpa using registered,(one_attempt path).mpr (Runs.checkSteps_meet (by decide +kernel))⟩

-- The required maps are not sent, and whatever the map server says next registers it.
def unlisted : Event := .incoming 0
  { SocketIO.delivers ((ServerPacket.mapServerMapList [town]).buffer .network) with sendResult := 0}

def greeting : List Event := .accept :: (listing 0).take 2

theorem one_attempt_unlisted : (∃ trace t,
      Runs.Run (LoginServer.step towns) (.start .empty [] [town] .empty) (greeting ++ [unlisted,acknowledgement 0]) trace t ∧
        (0,.sent (.mapServerMapList [town]) 0) ∈ trace ∧ ∃ server, Serves t 0 server) ∧
    ¬OneAttempt towns (.start .empty [] [town] .empty) (greeting ++ [unlisted,acknowledgement 0]) := by
  constructor
  · obtain ⟨trace,t,path,registered⟩ := Runs.execute_check (LoginServer.step towns) (.start .empty [] [town] .empty)
      (greeting ++ [unlisted,acknowledgement 0]) (fun last => decide ((0,.sent (.mapServerMapList [town]) 0) ∈ last.2 ∧
        last.1.mapServers.items.map (·.connection.id) = [0])) (by decide +kernel)
    obtain ⟨sent,items⟩ := of_decide_eq_true registered
    refine ⟨trace,t,path,sent,?_⟩
    have member : 0 ∈ t.mapServers.items.map (·.connection.id) := by simp [items]
    obtain ⟨server,within,same⟩ := List.mem_map.mp member
    exact ⟨server,within,same⟩
  · obtain ⟨trace,middle,path,lost⟩ := Runs.execute_check (LoginServer.step towns) (.start .empty [] [town] .empty)
      greeting (fun last => loses towns last.1 unlisted && (LoginServer.step towns last.1 unlisted).toOption.isSome)
      (by decide +kernel)
    obtain ⟨lost,runs⟩ := Bool.and_eq_true_iff.mp lost
    obtain ⟨result,ran⟩ := Option.isSome_iff_exists.mp runs
    cases stepped : LoginServer.step towns middle unlisted with
    | error fault =>
      rw [stepped] at ran
      cases ran
    | ok result => exact loses_attempt path stepped lost

end PlayPG.RegistrationReplies
