import PlayPG.Decoders
import PlayPG.ServerSteps

namespace PlayPG.LoginSecrecy
open Bytes IncomingHandler Visits

-- The outcome of a handler, with another players table.
def withPlayers (players : PlayersTable) (handled : Handled) : Handled := {handled with world := {handled.world with players}}

-- No row of the name is locked, and none carries the digest of the password.
structure Refused (env : Env) (players : PlayersTable) (authID : AuthenticationIdentity) : Prop where
  refuses : ∀ person, ¬ Accepts env players authID person
  unlocked : ∀ person, found players authID = some person → person.locked = false

-- With no row and with a wrong password an attempt is answered alike.
theorem refused_failAttempt (refused : Refused env world.players authID) : processLoginAttempt env world c authID io =
    (env.crypto.decryptStringPrivate authID.password).bind fun _ => failAttempt world c io (text "Authentication failure.") := by
  unfold processLoginAttempt
  cases decrypted : env.crypto.decryptStringPrivate authID.password with
  | error fault => rfl
  | ok decPass =>
    simp only [Except.bind]
    cases rows : world.players.query authID.username with
    | nil => rfl
    | cons person others =>
      have row : found world.players authID = some person := by rw [found,rows]; rfl
      cases owned : c.socket with
      | none => simp only [failAttempt,owned]
      | some socket =>
        have differs : person.password ≠
            SHACrypto.sha256ToString (env.hasher.hashPasswordSHA256 decPass (SHACrypto.stringToSalt person.salt)) := fun same =>
          refused.refuses person ⟨row,refused.unlocked person row,decPass,decrypted,same.symm⟩
        simp only [refused.unlocked person row,Bool.false_eq_true,if_false,if_neg differs]

section Outcomes
variable (players : PlayersTable)

theorem failAttempt_over (world : World) (c : IncomingConnection) (io : SocketIO) (message : Bytes) :
    failAttempt {world with players} c io message = (failAttempt world c io message).map (withPlayers players) := by
  unfold failAttempt
  cases c.socket <;> rfl

theorem exhausted_over (handled : Handled) (early : List Effect) :
    (exhausted ∘ Handled.after early) (withPlayers players handled) =
      withPlayers players ((exhausted ∘ Handled.after early) handled) := by
  simp only [Function.comp_apply,exhausted_state,Handled.after,withPlayers]

theorem map_over (result : Except Fault Handled) (early : List Effect) :
    (result.map (withPlayers players)).map (exhausted ∘ Handled.after early) =
      (result.map (exhausted ∘ Handled.after early)).map (withPlayers players) := by
  cases result with
  | error fault => rfl
  | ok handled => exact congrArg Except.ok (exhausted_over players handled early)

end Outcomes

-- Neither table accepts or locks what the packet carries.
def Unaccepted (env : Env) (one other : PlayersTable) (io : SocketIO) : Prop :=
  ∀ authID, Identifies env io authID → Refused env one authID ∧ Refused env other authID

section Handlers
variable {env : Env} {world : World} {c : IncomingConnection} {io : SocketIO} {players : PlayersTable}

theorem attemptAuth_over (unaccepted : Unaccepted env world.players players io)
    (opcode : env.apg.getShort io.recv.bytes = ClientOpcode.LOGIN_AUTHENTICATION_IDENTITY.code) :
    attemptAuth env {world with players} c io = (attemptAuth env world c io).map (withPlayers players) := by
  unfold attemptAuth
  cases decoded : AuthenticationIdentity.fromJSON env.parse (receivedJSON env io.recv.bytes) with
  | error fault => rfl
  | ok authID =>
    obtain ⟨here,there⟩ := unaccepted authID ⟨opcode,decoded⟩
    have there : Refused env {world with players : World}.players authID := there
    dsimp only
    rw [refused_failAttempt here,refused_failAttempt there,failAttempt_over]
    cases env.crypto.decryptStringPrivate authID.password with
    | error fault => rfl
    | ok decPass => cases failAttempt world c io (text "Authentication failure.") <;> rfl

theorem processMapAuthenticationRequest_over :
    processMapAuthenticationRequest {world with players} c io =
      (processMapAuthenticationRequest world c io).map fun result => (withPlayers players result.1,result.2) := by
  unfold processMapAuthenticationRequest
  cases c.socket with
  | none => rfl
  | some socket =>
    dsimp only
    split <;> rfl

theorem processChallengeSentSocket_over (unaccepted : Unaccepted env world.players players io) :
    processChallengeSentSocket env {world with players} c io =
      (processChallengeSentSocket env world c io).map (withPlayers players) := by
  unfold processChallengeSentSocket
  cases c.socket with
  | none => rfl
  | some socket =>
    dsimp only
    split
    · rfl
    · split
      · rfl
      · split
        · rename_i opcode
          rw [attemptAuth_over unaccepted opcode,map_over]
        · split
          · rfl
          · split
            · rw [processMapAuthenticationRequest_over]
              cases processMapAuthenticationRequest world _ io with
              | error fault => rfl
              | ok result =>
                obtain ⟨handled,answered⟩ := result
                cases answered with
                | false => rfl
                | true => exact congrArg Except.ok (exhausted_over players handled _)
            · rw [failAttempt_over,map_over]

theorem processLoginFailedSocket_over (unaccepted : Unaccepted env world.players players io) :
    processLoginFailedSocket env {world with players} c io =
      (processLoginFailedSocket env world c io).map (withPlayers players) := by
  unfold processLoginFailedSocket
  cases c.socket with
  | none => rfl
  | some socket =>
    dsimp only
    split
    · rfl
    · split
      · rfl
      · split
        · rename_i opcode
          rw [attemptAuth_over unaccepted opcode,map_over]
        · rw [failAttempt_over,map_over]

-- The handlers of a map server do not look at the players.
theorem processMapListSocket_over :
    processMapListSocket env {world with players} c io = (processMapListSocket env world c io).map (withPlayers players) := by
  unfold processMapListSocket
  cases c.socket with
  | none => rfl
  | some socket =>
    dsimp only
    split
    · rfl
    · split
      · rfl
      · split
        · rfl
        · cases MapServerMapList.fromJSON env.parse (receivedJSON env io.recv.bytes) with
          | error fault => rfl
          | ok mapHashes =>
            change (if (requiredMaps world mapHashes).isEmpty then _ else _) = _
            dsimp only
            split <;> rfl

theorem processMapWaitAckSocket_over :
    processMapWaitAckSocket {world with players} c io = (processMapWaitAckSocket world c io).map (withPlayers players) := by
  unfold processMapWaitAckSocket
  cases c.socket with
  | none => rfl
  | some socket =>
    dsimp only
    split
    · rfl
    · cases c.maps with
      | none => rfl
      | some maps =>
        cases c.mapServerFriendlyName with
        | none => rfl
        | some friendlyName =>
          cases c.mapServerPort with
          | none => rfl
          | some port =>
            cases c.mapServerListenAddress with
            | none => rfl
            | some address =>
              simp only [require,bind,Except.bind]
              split <;> rfl

theorem processIncoming_over (unaccepted : Unaccepted env world.players players io) :
    processIncoming env {world with players} c io = (processIncoming env world c io).map (withPlayers players) := by
  unfold processIncoming
  split
  · rfl
  · cases c.socket with
    | none => rfl
    | some socket =>
      dsimp only
      split
      · rfl
      · cases c.state with
        | FRESH =>
          simp only [processFreshSocket]
          split <;> rfl
        | CHALLENGE_SENT => exact processChallengeSentSocket_over unaccepted
        | LOGIN_FAILED => exact processLoginFailedSocket_over unaccepted
        | MAP_LIST => exact processMapListSocket_over
        | MAP_WAIT_ACK => exact processMapWaitAckSocket_over
        | DONE => rfl

end Handlers

section Sessions
open ConnectedHandler
variable (players : PlayersTable)

theorem processConnected_over (env : Env) (world : World) (ios : List SessionIO) :
    processConnected env {world with players} ios =
      (processConnected env world ios).map fun result => ({result.1 with players},result.2) := by
  unfold processConnected
  rw [show ({world with players : World}).playerSessions = world.playerSessions from rfl,
    (ServerSteps.players_aside env players).visits]
  cases visitSessions env world world.playerSessions ios <;> rfl

end Sessions

-- What the network may bring while the two tables are not told apart.
def Attempts (env : Env) (username : Bytes) (one other : PlayersTable) : Event → Prop
  | .incoming _ io => ∀ authID, Identifies env io authID → authID.username = username ∧
      ∀ person, ¬ Accepts env one authID person ∧ ¬ Accepts env other authID person
  | .database _ _ => False
  | _ => True

-- The name has no row, or one that is not locked.
def Hidden (players : PlayersTable) (username : Bytes) : Prop :=
  ∀ person ∈ players.query username, person.locked = false

theorem attempts_unaccepted (attempts : Attempts env username one other (.incoming index io)) (first : Hidden one username)
    (second : Hidden other username) : Unaccepted env one other io := by
  intro authID identity
  obtain ⟨rfl,refused⟩ := attempts authID identity
  exact ⟨⟨fun person => (refused person).1,fun person row => first person (List.mem_of_head? row)⟩,
    ⟨fun person => (refused person).2,fun person row => second person (List.mem_of_head? row)⟩⟩

def overServer (players : PlayersTable) (server : LoginServer) : LoginServer := {server with players}

theorem step_over (attempts : Attempts env username s.players players event) (first : Hidden s.players username)
    (second : Hidden players username) : LoginServer.step env (overServer players s) event =
      (LoginServer.step env s event).map fun result => (overServer players result.1,result.2) := by
  cases event with
  | accept | purge => rfl
  | database => cases attempts
  | connected ios =>
    simp only [LoginServer.step]
    rw [show (overServer players s).toWorld = {s.toWorld with players} from rfl,processConnected_over]
    cases ConnectedHandler.processConnected env s.toWorld ios <;> rfl
  | incoming index io =>
    simp only [LoginServer.step]
    rw [show (overServer players s).incomingConnections = s.incomingConnections from rfl]
    cases s.incomingConnections[index]? with
    | none => rfl
    | some c =>
      dsimp only
      rw [show (overServer players s).toWorld = {s.toWorld with players} from rfl,
        processIncoming_over (attempts_unaccepted attempts first second)]
      cases processIncoming env s.toWorld c io <;> rfl

-- A visit changes the players only by accepting a login.
theorem visit_players (visit : Visit env world io c handled) (unaccepted : Unaccepted env world.players players io) :
    handled.world.players = world.players := by
  cases visit with
  | accepted login turn identity accepts => exact absurd accepts ((unaccepted _ identity).1.refuses _)
  | _ => rfl

theorem step_players (ran : LoginServer.step env s event = .ok (t,fresh))
    (attempts : Attempts env username s.players players event) (first : Hidden s.players username)
    (second : Hidden players username) : t.players = s.players := by
  cases event with
  | accept | purge =>
    cases Except.ok.inj ran
    rfl
  | database => cases attempts
  | connected ios => exact (ServerSteps.step_connected ran).1.frame.players
  | incoming index io =>
    rcases ServerSteps.step_incoming ran with ⟨_,rfl,_⟩ | ⟨c,handled,_,visit,rfl,_⟩
    · rfl
    · exact visit_players visit (attempts_unaccepted attempts first second)

theorem execute_over (first : Hidden one username) (second : Hidden other username)
    (attempts : ∀ event ∈ events, Attempts env username one other event) :
    Runs.execute (LoginServer.step env) (.start other characters allMaps mapIDToName) events =
      (Runs.execute (LoginServer.step env) (.start one characters allMaps mapIDToName) events).map
        fun last => (overServer other last.1,last.2) := by
  refine Runs.execute_commutes (s:=.start one characters allMaps mapIDToName) (overServer other)
    (fun s => s.players = one) rfl ?_ ?_
  · rintro event member s rfl
    exact step_over (attempts event member) first second
  · rintro event member s t fresh rfl ran
    exact step_players ran (attempts event member) first second

-- What an observer of the connections sees: their entries and the calls on their sockets.
def seen (result : Except Fault (LoginServer × List (Nat × Effect))) :
    Except Fault (List IncomingConnection × List (Nat × Effect)) :=
  result.map fun last => (last.1.incomingConnections,last.2)

-- After every event the two servers have sent the same packets and hold the same connections.
theorem failures_alike (first : Hidden one username) (second : Hidden other username)
    (attempts : ∀ event ∈ events, Attempts env username one other event) :
    ∀ before after, events = before ++ after →
      seen (Runs.execute (LoginServer.step env) (.start one characters allMaps mapIDToName) before) =
        seen (Runs.execute (LoginServer.step env) (.start other characters allMaps mapIDToName) before) := by
  rintro before after rfl
  have early : ∀ event ∈ before, Attempts env username one other event := fun event member => attempts event (by simp [member])
  rw [execute_over first second early]
  cases Runs.execute (LoginServer.step env) (.start one characters allMaps mapIDToName) before <;> rfl

-- The name is known to one table only, and its password is not the one that is sent three times.
def registered : PlayersTable := ⟨[⟨7,Decoders.credentials.username,text "digest",[],0,false,0,0⟩],by simp,by simp⟩

def credentialsEnv : Env := .plain [Decoders.credentials.document]

def attempt : Event := .incoming 0 (.delivers ((ClientPacket.authenticationIdentity Decoders.credentials).buffer .network))

def guesses : List Event := [.accept,.incoming 0 (.delivers []),attempt,attempt,attempt]

theorem attempt_attempts : Attempts credentialsEnv Decoders.credentials.username .empty registered attempt := by
  intro authID identity
  obtain ⟨_,decoded⟩ := identity
  have known : AuthenticationIdentity.fromJSON credentialsEnv.parse (receivedJSON credentialsEnv
      ((ClientPacket.authenticationIdentity Decoders.credentials).buffer .network)) = .ok Decoders.credentials := by decide +kernel
  obtain rfl := Except.ok.inj (known.symm.trans decoded)
  refine ⟨rfl,fun person => ⟨fun accepts => ?_,fun accepts => ?_⟩⟩
  · cases accepts.1
  · obtain ⟨row,_,decPass,_,same⟩ := accepts
    cases row
    have differs : List.replicate 64 48 ≠ text "digest" := by decide
    exact differs same

theorem guesses_attempts : ∀ event ∈ guesses, Attempts credentialsEnv Decoders.credentials.username .empty registered event := by
  intro event member
  simp only [guesses,List.mem_cons,List.not_mem_nil,or_false] at member
  rcases member with rfl | rfl | rfl | rfl | rfl
  · trivial
  · intro authID identity
    obtain ⟨opcode,_⟩ := identity
    exact absurd opcode (by decide +kernel)
  all_goals exact attempt_attempts

theorem registered_hidden : Hidden registered Decoders.credentials.username := by
  intro person member
  rw [List.mem_singleton.mp (List.mem_filter.mp member).1]

theorem failures_alike_guesses :
    seen (Runs.execute (LoginServer.step credentialsEnv) (.start .empty [] [] .empty) guesses) =
      seen (Runs.execute (LoginServer.step credentialsEnv) (.start registered [] [] .empty) guesses) :=
  failures_alike (fun _ member => by cases member) registered_hidden guesses_attempts guesses [] (List.append_nil _).symm

end PlayPG.LoginSecrecy
