import PlayPG.LoginServer
import PlayPG.ConnectedHandler

-- What the handlers of one socket make of a world without the other sessions.
namespace PlayPG.Seclusion
open Bytes IncomingHandler ConnectedHandler

-- The times of the last logins are written and never read.
def unstamped (row : Player) : Player := {row with lastLogin := 0}

def forgetLogins (players : PlayersTable) : PlayersTable where
  rows := players.rows.map unstamped
  uniqueId := by simpa [List.map_map,Function.comp_def,unstamped] using players.uniqueId
  uniqueEmail := by simpa [List.map_map,Function.comp_def,unstamped] using players.uniqueEmail

def secluded (world : World) : World := {world with
  players := forgetLogins world.players
  playerSessions := []
  usernameToPlayerSession := .empty
  sessionsCreated := 0}

-- A session apart from its number among the sessions of the server.
def unnumbered (session : PlayerSession) : PlayerSession := {session with pointer := 0,guid := 0}

-- The owner of an accepted socket.
inductive Peer where
  | unknown
  | connecting (c : IncomingConnection)
  | playing (session : PlayerSession)
  | serving (server : MapServerConnection)
  | gone
  deriving DecidableEq

-- After a turn of a connection: the session or the map server that it became, or itself.
def successor (world : World) (handled : Handled) : Peer :=
  match handled.world.playerSessions.drop world.playerSessions.length with
  | some session :: _ => .playing (unnumbered session)
  | _ =>
    match handled.world.mapServers.items.drop world.mapServers.size with
    | server :: _ => .serving server
    | [] => .connecting handled.connection

def outcome (world : World) (handled : Handled) : Peer × List Effect := (successor world handled,handled.effects)

@[simp] theorem outcome_same (world : World) (c : IncomingConnection) (effects : List Effect) :
    outcome world ⟨world,c,effects⟩ = (.connecting c,effects) := by
  simp [outcome,successor,StdVector.size]

theorem successor_same (same : handled.world = world) : successor world handled = .connecting handled.connection := by
  subst same
  exact congrArg Prod.fst (outcome_same handled.world handled.connection handled.effects)

@[simp] theorem outcome_session (world : World) (session : PlayerSession) (now : Nat) (c : IncomingConnection)
    (effects : List Effect) :
    outcome world ⟨world.addSession session now,c,effects⟩ = (.playing (unnumbered session),effects) := by
  simp [outcome,successor]

@[simp] theorem outcome_server (world : World) (server : MapServerConnection) (c : IncomingConnection) (effects : List Effect) :
    outcome world ⟨world.addMapServer server,c,effects⟩ = (.serving server,effects) := by
  simp [outcome,successor,StdVector.size]

theorem query_forget (players : PlayersTable) (username : Bytes) :
    (forgetLogins players).query username = (players.query username).map unstamped := by
  unfold forgetLogins PlayersTable.query
  rw [List.filter_map]
  rfl

-- The end of a login turn, on the owner that it leaves.
def settle (early : List Effect) : Peer × List Effect → Peer × List Effect
  | (.connecting c,effects) => (.connecting
      (if c.loginAttempts = IncomingConnection.MAX_ATTEMPTS_ALLOWED then {c with state := .DONE} else c),early ++ effects)
  | (peer,effects) => (peer,early ++ effects)

theorem outcome_exhausted (world : World) (early : List Effect) (handled : Handled) :
    outcome world ((exhausted ∘ Handled.after early) handled) = settle early (outcome world handled) := by
  have connection : (exhausted (handled.after early)).world = handled.world ∧
      (exhausted (handled.after early)).effects = early ++ handled.effects ∧
      (exhausted (handled.after early)).connection =
        if handled.connection.loginAttempts = IncomingConnection.MAX_ATTEMPTS_ALLOWED
          then {handled.connection with state := .DONE} else handled.connection := by
    unfold exhausted Handled.after
    dsimp only
    split
    · exact ⟨rfl,rfl,rfl⟩
    · exact ⟨rfl,rfl,rfl⟩
  obtain ⟨same,effects,left⟩ := connection
  simp only [Function.comp_apply,outcome,successor,same,effects,left]
  split
  · rfl
  · split
    · rfl
    · rfl

theorem map_exhausted (world : World) (result : Except Fault Handled) (early : List Effect) :
    (result.map (exhausted ∘ Handled.after early)).map (outcome world) =
      (result.map (outcome world)).map (settle early) := by
  cases result with
  | error fault => rfl
  | ok handled => exact congrArg Except.ok (outcome_exhausted world early handled)

theorem map_after (world : World) (result : Except Fault Handled) (early : List Effect) :
    (result.map (Handled.after early)).map (outcome world) =
      (result.map (outcome world)).map (fun left => (left.1,early ++ left.2)) := by
  cases result <;> rfl

section Handlers
variable (env : Env) (world : World) (c : IncomingConnection) (io : SocketIO)

theorem failAttempt_secluded (message : Bytes) : (failAttempt (secluded world) c io message).map (outcome (secluded world)) =
    (failAttempt world c io message).map (outcome world) := by
  unfold failAttempt
  cases c.socket with
  | none => rfl
  | some socket => simp only [Except.map,outcome_same]

theorem processLoginAttempt_secluded (authID : AuthenticationIdentity) :
    (processLoginAttempt env (secluded world) c authID io).map (outcome (secluded world)) =
      (processLoginAttempt env world c authID io).map (outcome world) := by
  unfold processLoginAttempt
  cases env.crypto.decryptStringPrivate authID.password with
  | error fault => rfl
  | ok decPass =>
    dsimp only
    rw [show (secluded world).players.query authID.username = (world.players.query authID.username).map unstamped
      from query_forget world.players authID.username]
    cases world.players.query authID.username with
    | nil => exact failAttempt_secluded world c io _
    | cons person others =>
      simp only [List.map_cons]
      cases c.socket with
      | none => rfl
      | some socket =>
        dsimp only [unstamped]
        rcases Bool.eq_false_or_eq_true person.locked with locked | locked
        · simp only [locked,if_true,Except.map,outcome_same]
        · simp only [locked,Bool.false_eq_true,if_false]
          by_cases matched : person.password =
              SHACrypto.sha256ToString (env.hasher.hashPasswordSHA256 decPass (SHACrypto.stringToSalt person.salt))
          · simp only [if_pos matched,Except.map,outcome_session]
            rfl
          · simp only [if_neg matched]
            exact failAttempt_secluded world c io _

theorem attemptAuth_secluded : (attemptAuth env (secluded world) c io).map (outcome (secluded world)) =
    (attemptAuth env world c io).map (outcome world) := by
  unfold attemptAuth
  cases AuthenticationIdentity.fromJSON env.parse (receivedJSON env io.recv.bytes) with
  | error fault => rfl
  | ok authID =>
    dsimp only
    rw [map_after,map_after,processLoginAttempt_secluded]

theorem processFreshSocket_secluded : (processFreshSocket env (secluded world) c io).map (outcome (secluded world)) =
    (processFreshSocket env world c io).map (outcome world) := by
  unfold processFreshSocket
  cases c.socket with
  | none => rfl
  | some socket =>
    dsimp only
    split
    · simp only [Except.map,outcome_same]
    · simp only [Except.map,outcome_same]

theorem processMapAuthenticationRequest_secluded (early : List Effect) :
    (match processMapAuthenticationRequest (secluded world) c io with
      | .error fault => .error fault
      | .ok (handled,false) => .ok (handled.after early)
      | .ok (handled,true) => .ok (exhausted (handled.after early)) : Except Fault Handled).map (outcome (secluded world)) =
    (match processMapAuthenticationRequest world c io with
      | .error fault => .error fault
      | .ok (handled,false) => .ok (handled.after early)
      | .ok (handled,true) => .ok (exhausted (handled.after early)) : Except Fault Handled).map (outcome world) := by
  unfold processMapAuthenticationRequest
  cases c.socket with
  | none => rfl
  | some socket =>
    dsimp only
    by_cases lost : io.sendResult ≤ 0
    · simp only [lost,if_true,Handled.after,Except.map,outcome_same]
    · have settled := fun world => outcome_exhausted world early
      simp only [Function.comp_apply] at settled
      simp only [lost,if_false,Except.map,settled,outcome_same]

theorem processChallengeSentSocket_secluded :
    (processChallengeSentSocket env (secluded world) c io).map (outcome (secluded world)) =
      (processChallengeSentSocket env world c io).map (outcome world) := by
  unfold processChallengeSentSocket
  cases c.socket with
  | none => rfl
  | some socket =>
    dsimp only
    split
    · simp only [Except.map,outcome_same]
    · split
      · simp only [Except.map,outcome_same]
      · split
        · rw [map_exhausted,map_exhausted,attemptAuth_secluded]
        · split
          · simp only [Except.map,outcome_same]
          · split
            · exact processMapAuthenticationRequest_secluded world _ io _
            · rw [map_exhausted,map_exhausted,failAttempt_secluded]

theorem processLoginFailedSocket_secluded :
    (processLoginFailedSocket env (secluded world) c io).map (outcome (secluded world)) =
      (processLoginFailedSocket env world c io).map (outcome world) := by
  unfold processLoginFailedSocket
  cases c.socket with
  | none => rfl
  | some socket =>
    dsimp only
    split
    · simp only [Except.map,outcome_same]
    · split
      · simp only [Except.map,outcome_same]
      · split
        · rw [map_exhausted,map_exhausted,attemptAuth_secluded]
        · rw [map_exhausted,map_exhausted,failAttempt_secluded]

theorem processMapListSocket_secluded :
    (processMapListSocket env (secluded world) c io).map (outcome (secluded world)) =
      (processMapListSocket env world c io).map (outcome world) := by
  unfold processMapListSocket
  cases c.socket with
  | none => rfl
  | some socket =>
    dsimp only
    split
    · simp only [Except.map,outcome_same]
    · split
      · simp only [Except.map,outcome_same]
      · split
        · simp only [Except.map,outcome_same]
        · cases MapServerMapList.fromJSON env.parse (receivedJSON env io.recv.bytes) with
          | error fault => rfl
          | ok mapHashes =>
            have maps : requiredMaps (secluded world) mapHashes = requiredMaps world mapHashes := rfl
            simp only [maps]
            split
            · simp only [Except.map,outcome_same]
            · simp only [Except.map,outcome_same]

theorem processMapWaitAckSocket_secluded :
    (processMapWaitAckSocket (secluded world) c io).map (outcome (secluded world)) =
      (processMapWaitAckSocket world c io).map (outcome world) := by
  unfold processMapWaitAckSocket
  cases c.socket with
  | none => rfl
  | some socket =>
    dsimp only
    split
    · simp only [Except.map,outcome_same]
    · cases require "Connection maps must be initialised when waiting for ack." c.maps with
      | error fault => rfl
      | ok maps =>
        cases require "Connection friendly name must be initialised when waiting for ack." c.mapServerFriendlyName with
        | error fault => rfl
        | ok friendlyName =>
          cases require "Connection port must be initialised when waiting for ack." c.mapServerPort with
          | error fault => rfl
          | ok port =>
            cases require "Connection address must be initialised when waiting for ack." c.mapServerListenAddress with
            | error fault => rfl
            | ok address =>
              simp only [bind,Except.bind]
              split
              · simp only [Except.map,outcome_same]
              · simp only [Except.map,outcome_server]

-- A turn of a connection does not depend on who else has a session.
theorem processIncoming_secluded : (processIncoming env (secluded world) c io).map (outcome (secluded world)) =
    (processIncoming env world c io).map (outcome world) := by
  unfold processIncoming
  split
  · simp only [Except.map,outcome_same]
  · cases c.socket with
    | none => rfl
    | some socket =>
      dsimp only
      split
      · simp only [Except.map,outcome_same]
      · cases c.state with
        | FRESH => exact processFreshSocket_secluded env world _ io
        | CHALLENGE_SENT => exact processChallengeSentSocket_secluded env world _ io
        | LOGIN_FAILED => exact processLoginFailedSocket_secluded env world _ io
        | MAP_LIST => exact processMapListSocket_secluded env world _ io
        | MAP_WAIT_ACK => exact processMapWaitAckSocket_secluded world _ io
        | DONE => simp only [Except.map,outcome_same]

end Handlers

-- A session after its turn, or no owner any more.
def lasting (visited : Visited) : Peer × List Effect :=
  (match visited.session with
    | some session => .playing (unnumbered session)
    | none => .gone,visited.effects)

theorem lasting_parts {one other : Except Fault Visited} (same : one.map lasting = other.map lasting) :
    (∃ fault, one = .error fault ∧ other = .error fault) ∨
      ∃ visited again, one = .ok visited ∧ other = .ok again ∧ lasting visited = lasting again := by
  cases one with
  | error fault =>
    cases other with
    | error again => exact .inl ⟨fault,rfl,congrArg Except.error (Except.error.inj same).symm⟩
    | ok again => cases same
  | ok visited =>
    cases other with
    | error fault => cases same
    | ok again => exact .inr ⟨visited,again,rfl,rfl,Except.ok.inj same⟩

section Sessions
variable (env : Env) (world : World) (users : UnorderedMap Bytes Nat) (session : PlayerSession) (io : SessionIO)

theorem processCharacterRequest_secluded :
    lasting (processCharacterRequest (secluded world) (unnumbered session) io) =
      lasting (processCharacterRequest {world with usernameToPlayerSession := users} session io) := by
  unfold processCharacterRequest
  dsimp only
  split
  · rfl
  · rfl

theorem processCharacterSelect_secluded :
    (processCharacterSelect env (secluded world) (unnumbered session) io).map lasting =
      (processCharacterSelect env {world with usernameToPlayerSession := users} session io).map lasting := by
  unfold processCharacterSelect
  dsimp only
  split
  · rfl
  · rw [show ∀ id, ownedCharacters (secluded world) {unnumbered session with
        socket := (unnumbered session).socket.raise io.characterIDError} id =
      ownedCharacters {world with usernameToPlayerSession := users} {session with
        socket := session.socket.raise io.characterIDError} id from fun _ => rfl]
    split
    · rename_i character row
      rw [show (secluded world).mapIDToName = world.mapIDToName from rfl]
      cases world.mapIDToName character.locationID with
      | none => rfl
      | some locationName =>
        rw [show (secluded world).mapNameToConnection = world.mapNameToConnection from rfl]
        dsimp only
        cases world.mapNameToConnection locationName with
        | none => rfl
        | some mapConnectionPtr =>
          rw [show (secluded world).mapServers = world.mapServers from rfl]
          dsimp only
          cases world.mapServers.deref mapConnectionPtr with
          | none => rfl
          | some server =>
            dsimp only
            split
            · rfl
            · rfl
    · rfl

theorem serveSession_secluded : (serveSession env (secluded world) (unnumbered session) io).map lasting =
    (serveSession env {world with usernameToPlayerSession := users} session io).map lasting := by
  unfold serveSession
  dsimp only
  split
  · rfl
  · split
    · rfl
    · split
      · have listed := processCharacterRequest_secluded world users {session with socket := session.socket.raise io.opcodeError} io
        exact congrArg Except.ok (congrArg (fun left : Peer × List Effect => (left.1,[.opcodeRead io.opcode.bytes] ++ left.2)) listed)
      · split
        · have chosen := processCharacterSelect_secluded env world users
            {session with socket := session.socket.raise io.opcodeError} io
          rw [show unnumbered {session with socket := session.socket.raise io.opcodeError} =
            {unnumbered session with socket := (unnumbered session).socket.raise io.opcodeError} from rfl] at chosen
          rcases lasting_parts chosen with ⟨fault,one,other⟩ | ⟨visited,again,one,other,same⟩
          · rw [one,other]
          · rw [one,other]
            exact congrArg Except.ok
              (congrArg (fun left : Peer × List Effect => (left.1,[.opcodeRead io.opcode.bytes] ++ left.2)) same)
        · rfl

-- And no more does a turn of a session depend on the other sessions.
theorem visitSession_secluded :
    (visitSession env (secluded world) (unnumbered session) io).map (fun left => lasting left.2) =
      (visitSession env {world with usernameToPlayerSession := users} session io).map (fun left => lasting left.2) := by
  unfold visitSession
  dsimp only
  split
  · rename_i lost
    have lost : (session.socket.raise io.pollError).error = true := lost
    simp only [lost,if_true]
    rfl
  · rename_i alive
    have alive : ¬(session.socket.raise io.pollError).error = true := alive
    simp only [alive,Bool.false_eq_true,if_false]
    have served := serveSession_secluded env world users {session with socket := session.socket.raise io.pollError} io
    rw [show unnumbered {session with socket := session.socket.raise io.pollError} =
      {unnumbered session with socket := (unnumbered session).socket.raise io.pollError} from rfl] at served
    rcases lasting_parts served with ⟨fault,one,other⟩ | ⟨visited,again,one,other,same⟩
    · rw [one,other]
    · rw [one,other]
      exact congrArg Except.ok same

end Sessions
end PlayPG.Seclusion
