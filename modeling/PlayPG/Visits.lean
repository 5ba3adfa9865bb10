import PlayPG.ConnectedHandler

namespace PlayPG.Visits
open Bytes IncomingHandler

-- The socket after the poll, after recv and after send of one visit.
def polled (socket : Socket) (io : SocketIO) : Socket := socket.raise io.pollError
def read (socket : Socket) (io : SocketIO) : Socket := (polled socket io).raise io.recvError
def answered (socket : Socket) (io : SocketIO) : Socket := (read socket io).raise io.sendError

@[simp] theorem read_id (socket : Socket) (io : SocketIO) : (read socket io).id = socket.id := rfl
@[simp] theorem answered_id (socket : Socket) (io : SocketIO) : (answered socket io).id = socket.id := rfl

-- A visit that gets as far as recv.
structure Turn (io : SocketIO) (c : IncomingConnection) (socket : Socket) : Prop where
  owned : c.socket = some socket
  alive : (polled socket io).error = false
  active : io.activity = true

theorem Turn.healthy (turn : Turn io c socket) (owned : c.socket = some other) : (polled other io).error = false := by
  obtain rfl := Option.some.inj (turn.owned.symm.trans owned)
  exact turn.alive

def Login (c : IncomingConnection) : Prop := c.state = .CHALLENGE_SENT ∨ c.state = .LOGIN_FAILED

def Identifies (env : Env) (io : SocketIO) (authID : AuthenticationIdentity) : Prop :=
  env.apg.getShort io.recv.bytes = ClientOpcode.LOGIN_AUTHENTICATION_IDENTITY.code ∧
    AuthenticationIdentity.fromJSON env.parse (receivedJSON env io.recv.bytes) = .ok authID

def found (players : PlayersTable) (authID : AuthenticationIdentity) : Option Player :=
  (players.query authID.username).head?

-- The row found for the name is not locked and carries the digest of the password.
def Accepts (env : Env) (players : PlayersTable) (authID : AuthenticationIdentity) (person : Player) : Prop :=
  found players authID = some person ∧ person.locked = false ∧
    ∃ decPass, env.crypto.decryptStringPrivate authID.password = .ok decPass ∧
      SHACrypto.sha256ToString (env.hasher.hashPasswordSHA256 decPass (SHACrypto.stringToSalt person.salt)) = person.password

def failedOnce (c : IncomingConnection) (socket : Socket) : IncomingConnection := {c with
  state := if c.loginAttempts + 1 = IncomingConnection.MAX_ATTEMPTS_ALLOWED then .DONE else .LOGIN_FAILED
  loginAttempts := c.loginAttempts + 1
  socket := some socket}

def failureResponse (c : IncomingConnection) (message : Bytes) : ServerPacket :=
  .authenticationResponse ⟨false,IncomingConnection.MAX_ATTEMPTS_ALLOWED - (c.loginAttempts + 1),message⟩

def requested (env : Env) (io : SocketIO) (c : IncomingConnection) (socket : Socket) : IncomingConnection := {c with
  socket := some socket
  mapServerFriendlyName := some (readRegistrationRequest env io.recv.bytes).name
  mapServerListenAddress := some (readRegistrationRequest env io.recv.bytes).address
  mapServerPort := some (readRegistrationRequest env io.recv.bytes).port}

-- Nothing was received, or the packet ends the connection in its state.
def Closes (env : Env) (io : SocketIO) (c : IncomingConnection) : Prop :=
  io.recv.result = 0 ∨ (c.state = .LOGIN_FAILED ∧ io.recv.result ≤ 0) ∨
  (c.state = .CHALLENGE_SENT ∧ env.apg.getShort io.recv.bytes = ClientOpcode.VERSION_MISMATCH.code) ∨
  (c.state = .MAP_LIST ∧ env.apg.getShort io.recv.bytes ≠ ServerOpcode.MAP_SERVER_MAP_LIST.code)

-- One rule for each way through the handlers of processIncoming.
inductive Visit (env : Env) (world : World) (io : SocketIO) (c : IncomingConnection) : Handled → Prop where
  | done (finished : c.state = .DONE) : Visit env world io c ⟨world,c,[]⟩
  | dropped (live : c.state ≠ .DONE) (owned : c.socket = some socket) (failed : (polled socket io).error = true) :
      Visit env world io c ⟨world,{c with socket := some (polled socket io),state := .DONE},[]⟩
  | greeted (fresh : c.state = .FRESH) (owned : c.socket = some socket) (alive : (polled socket io).error = false) :
      Visit env world io c ⟨world,{c with
        socket := some ((polled socket io).raise io.sendError)
        state := if ((polled socket io).raise io.sendError).error then .DONE else .CHALLENGE_SENT},
        [.sent (.authenticationChallenge env.challenge) io.sendResult]⟩
  | quiet (live : c.state ≠ .DONE) (met : c.state ≠ .FRESH) (owned : c.socket = some socket) (idle : io.activity = false) :
      Visit env world io c ⟨world,{c with socket := some (polled socket io)},[]⟩
  | closed (live : c.state ≠ .DONE) (turn : Turn io c socket) (closes : Closes env io c) :
      Visit env world io c ⟨world,{c with socket := some (read socket io),state := .DONE},[.received io.recv.bytes]⟩
  | unexpected (login : Login c) (turn : Turn io c socket)
      (other : env.apg.getShort io.recv.bytes ≠ ClientOpcode.LOGIN_AUTHENTICATION_IDENTITY.code) :
      Visit env world io c ⟨world,failedOnce c (answered socket io),
        [.received io.recv.bytes,.sent (failureResponse c (text "Unexpected data.")) io.sendResult]⟩
  | refused (login : Login c) (turn : Turn io c socket) (identity : Identifies env io authID)
      (refuses : ∀ person, ¬ Accepts env world.players authID person)
      (unlocked : ∀ person, found world.players authID = some person → person.locked = false) :
      Visit env world io c ⟨world,failedOnce c (answered socket io),
        [.received io.recv.bytes,.loginAttempt authID,
          .sent (failureResponse c (text "Authentication failure.")) io.sendResult]⟩
  | locked (login : Login c) (turn : Turn io c socket) (identity : Identifies env io authID)
      (row : found world.players authID = some person) (locked : person.locked = true) :
      Visit env world io c ⟨world,{c with socket := some (answered socket io).disconnect,state := .DONE},
        [.received io.recv.bytes,.loginAttempt authID,
          .sent (.authenticationResponse ⟨false,0,lockedMessage⟩) io.sendResult]⟩
  | accepted (login : Login c) (turn : Turn io c socket) (identity : Identifies env io authID)
      (accepts : Accepts env world.players authID person) :
      Visit env world io c ⟨world.addSession (world.newSession env.md5 person authID.username (answered socket io)
          io.diceRoll) io.now,{c with socket := none,state := .DONE},
        [.received io.recv.bytes,.loginAttempt authID,
          .sent (.authenticationResponse ⟨true,c.getAttemptsRemaining,text "Authentication successful."⟩) io.sendResult,
          .sessionCreated]⟩
  | registering (challenged : c.state = .CHALLENGE_SENT) (turn : Turn io c socket)
      (request : env.apg.getShort io.recv.bytes = ServerOpcode.MAP_SERVER_REGISTRATION_REQUEST.code)
      (reached : 0 < io.sendResult) (got : io.recv.result ≠ 0) :
      Visit env world io c ⟨world,{requested env io c (answered socket io) with
        state := if c.loginAttempts = IncomingConnection.MAX_ATTEMPTS_ALLOWED then .DONE else .MAP_LIST},
        [.received io.recv.bytes,.sent (.mapServerRegistrationResponse (text "hello, world")) io.sendResult]⟩
  | unanswered (challenged : c.state = .CHALLENGE_SENT) (turn : Turn io c socket)
      (request : env.apg.getShort io.recv.bytes = ServerOpcode.MAP_SERVER_REGISTRATION_REQUEST.code)
      (lost : io.sendResult ≤ 0) :
      Visit env world io c ⟨world,requested env io c (answered socket io),
        [.received io.recv.bytes,.sent (.mapServerRegistrationResponse (text "hello, world")) io.sendResult]⟩
  | notNeeded (listing : c.state = .MAP_LIST) (turn : Turn io c socket)
      (opcode : env.apg.getShort io.recv.bytes = ServerOpcode.MAP_SERVER_MAP_LIST.code)
      (decoded : MapServerMapList.fromJSON env.parse (receivedJSON env io.recv.bytes) = .ok mapHashes)
      (none : requiredMaps world mapHashes = []) (got : io.recv.result ≠ 0) :
      Visit env world io c ⟨world,{c with socket := some (answered socket io),state := .DONE},
        [.received io.recv.bytes,.sent .mapServerNotNeeded io.sendResult]⟩
  | listed (listing : c.state = .MAP_LIST) (turn : Turn io c socket)
      (opcode : env.apg.getShort io.recv.bytes = ServerOpcode.MAP_SERVER_MAP_LIST.code)
      (decoded : MapServerMapList.fromJSON env.parse (receivedJSON env io.recv.bytes) = .ok mapHashes)
      (some : requiredMaps world mapHashes ≠ []) (got : io.recv.result ≠ 0) :
      Visit env world io c ⟨world,{c with
          socket := .some (answered socket io)
          maps := .some (requiredMaps world mapHashes)
          state := .MAP_WAIT_ACK},
        [.received io.recv.bytes,.sent (.mapServerMapList (requiredMaps world mapHashes)) io.sendResult]⟩
  | registered (waiting : c.state = .MAP_WAIT_ACK) (turn : Turn io c socket) (got : io.recv.result ≠ 0)
      (maps : c.maps = some locations) (name : c.mapServerFriendlyName = some friendlyName)
      (port : c.mapServerPort = some number) (address : c.mapServerListenAddress = some hostname) :
      Visit env world io c ⟨world.addMapServer ⟨read socket io,locations,friendlyName,hostname,number⟩,
        {c with socket := none,maps := some [],state := .DONE},[.received io.recv.bytes,.mapServerRegistered]⟩

-- What a visit leaves that leaves the connection in a registration state.
inductive Registration (env : Env) (world : World) (io : SocketIO) (c : IncomingConnection) : Handled → Prop where
  | elsewhere (others : handled.connection.state ≠ .MAP_LIST ∧ handled.connection.state ≠ .MAP_WAIT_ACK) :
      Registration env world io c handled
  | quiet (owned : c.socket = some socket) :
      Registration env world io c ⟨world,{c with socket := some (polled socket io)},[]⟩
  | requested (turn : Turn io c socket)
      (request : env.apg.getShort io.recv.bytes = ServerOpcode.MAP_SERVER_REGISTRATION_REQUEST.code)
      (tried : c.loginAttempts ≠ IncomingConnection.MAX_ATTEMPTS_ALLOWED) :
      Registration env world io c ⟨world,{requested env io c (answered socket io) with state := .MAP_LIST},
        [.received io.recv.bytes,.sent (.mapServerRegistrationResponse (text "hello, world")) io.sendResult]⟩
  | listed (listing : c.state = .MAP_LIST) (turn : Turn io c socket)
      (opcode : env.apg.getShort io.recv.bytes = ServerOpcode.MAP_SERVER_MAP_LIST.code)
      (decoded : MapServerMapList.fromJSON env.parse (receivedJSON env io.recv.bytes) = .ok mapHashes) :
      Registration env world io c ⟨world,{c with
          socket := .some (answered socket io)
          maps := .some (requiredMaps world mapHashes)
          state := .MAP_WAIT_ACK},
        [.received io.recv.bytes,.sent (.mapServerMapList (requiredMaps world mapHashes)) io.sendResult]⟩

theorem failedOnce_elsewhere (c : IncomingConnection) (socket : Socket) :
    (failedOnce c socket).state ≠ .MAP_LIST ∧ (failedOnce c socket).state ≠ .MAP_WAIT_ACK := by
  simp only [failedOnce]
  split <;> simp

theorem visit_registration (visit : Visit env world io c handled) : Registration env world io c handled := by
  cases visit with
  | done finished => exact .elsewhere (by simp [finished])
  | greeted fresh owned alive => exact .elsewhere (by dsimp only; split <;> simp)
  | quiet live met owned idle => exact .quiet owned
  | unexpected login turn other => exact .elsewhere (failedOnce_elsewhere _ _)
  | refused login turn identity refuses unlocked => exact .elsewhere (failedOnce_elsewhere _ _)
  | registering challenged turn request reached =>
    by_cases tried : c.loginAttempts = IncomingConnection.MAX_ATTEMPTS_ALLOWED
    · exact .elsewhere (by simp [tried])
    · rw [if_neg tried]
      exact .requested turn request tried
  | unanswered challenged turn request lost => exact .elsewhere (by simp [requested,challenged])
  | listed listing turn opcode decoded some => exact .listed listing turn opcode decoded
  | _ => exact .elsewhere (by simp)

theorem exhausted_done (handled : Handled) (finished : handled.connection.state = .DONE) :
    exhausted handled = handled := by
  unfold exhausted
  split
  · rw [← finished]
  · rfl

theorem exhausted_state (handled : Handled) : exhausted handled = {handled with
    connection := {handled.connection with
      state := if handled.connection.loginAttempts = IncomingConnection.MAX_ATTEMPTS_ALLOWED then .DONE
        else handled.connection.state}} := by
  unfold exhausted
  split <;> rfl

theorem failAttempt_parts (owned : c.socket = some socket)
    (ran : (failAttempt world c io message).map (exhausted ∘ Handled.after early) = .ok handled) :
    handled = ⟨world,failedOnce c (socket.raise io.sendError),
      early ++ [.sent (failureResponse c message) io.sendResult]⟩ := by
  simp only [failAttempt,owned,Except.map,Except.ok.injEq] at ran
  subst handled
  by_cases last : c.loginAttempts + 1 = IncomingConnection.MAX_ATTEMPTS_ALLOWED
  all_goals simp [exhausted,Handled.after,failedOnce,failureResponse,IncomingConnection.getAttemptsRemaining,last]

theorem map_after (result : Except Fault Handled) (early late : List Effect) :
    (result.map (Handled.after late)).map (exhausted ∘ Handled.after early) =
      result.map (exhausted ∘ Handled.after (early ++ late)) := by
  cases result <;> simp [Except.map,Handled.after]

theorem processLoginAttempt_parts (ran : processLoginAttempt env world c authID io = .ok handled) :
    ∃ socket, c.socket = some socket ∧
      (((∀ person, ¬ Accepts env world.players authID person) ∧
          (∀ person, found world.players authID = some person → person.locked = false) ∧
          failAttempt world c io (text "Authentication failure.") = .ok handled) ∨
        (∃ person, found world.players authID = some person ∧ person.locked = true ∧
          handled = ⟨world,{c with socket := some (socket.raise io.sendError).disconnect,state := .DONE},
            [.sent (.authenticationResponse ⟨false,0,lockedMessage⟩) io.sendResult]⟩) ∨
        ∃ person, Accepts env world.players authID person ∧
          handled = ⟨world.addSession (world.newSession env.md5 person authID.username (socket.raise io.sendError)
              io.diceRoll) io.now,{c with socket := none,state := .DONE},
            [.sent (.authenticationResponse ⟨true,c.getAttemptsRemaining,text "Authentication successful."⟩)
              io.sendResult,.sessionCreated]⟩) := by
  unfold processLoginAttempt at ran
  cases decrypted : env.crypto.decryptStringPrivate authID.password with
  | error fault => simp [decrypted] at ran
  | ok decPass =>
    simp only [decrypted] at ran
    cases owned : c.socket with
    | none => cases rows : world.players.query authID.username <;> simp [rows,failAttempt,owned] at ran
    | some socket =>
      refine ⟨socket,rfl,?_⟩
      cases rows : world.players.query authID.username with
      | nil =>
        have absent : found world.players authID = none := by rw [found,rows]; rfl
        simp only [rows] at ran
        refine .inl ⟨?_,by simp [absent],ran⟩
        intro person accepts
        exact absurd (absent.symm.trans accepts.1) (by simp)
      | cons person others =>
        have row : found world.players authID = some person := by rw [found,rows]; rfl
        simp only [rows,owned] at ran
        cases locked : person.locked with
        | true =>
          simp only [locked,if_true,Except.ok.injEq] at ran
          exact .inr (.inl ⟨person,row,locked,ran.symm⟩)
        | false =>
          simp only [locked,Bool.false_eq_true,if_false] at ran
          split at ran
          · rename_i matched
            simp only [Except.ok.injEq] at ran
            exact .inr (.inr ⟨person,⟨row,locked,decPass,decrypted,matched.symm⟩,ran.symm⟩)
          · rename_i differs
            refine .inl ⟨?_,?_,ran⟩
            · intro other accepts
              obtain ⟨same,_,pass,again,matched⟩ := accepts
              obtain rfl : person = other := Option.some.inj (row.symm.trans same)
              obtain rfl : decPass = pass := Except.ok.inj (decrypted.symm.trans again)
              exact differs matched.symm
            · intro other same
              obtain rfl : person = other := Option.some.inj (row.symm.trans same)
              exact locked

theorem attemptAuth_parts (login : Login c) (turn : Turn io c socket)
    (opcode : env.apg.getShort io.recv.bytes = ClientOpcode.LOGIN_AUTHENTICATION_IDENTITY.code)
    (ran : (attemptAuth env world {c with socket := some (read socket io)} io).map
      (exhausted ∘ Handled.after [.received io.recv.bytes]) = .ok handled) : Visit env world io c handled := by
  unfold attemptAuth at ran
  cases decoded : AuthenticationIdentity.fromJSON env.parse (receivedJSON env io.recv.bytes) with
  | error fault => simp [decoded,Except.map] at ran
  | ok authID =>
    have identity : Identifies env io authID := ⟨opcode,decoded⟩
    simp only [decoded] at ran
    rw [map_after] at ran
    obtain ⟨attempted,attempt,rfl⟩ := map_ok ran
    obtain ⟨reader,owned,outcome⟩ := processLoginAttempt_parts attempt
    obtain rfl : read socket io = reader := Option.some.inj owned
    rcases outcome with ⟨refuses,unlocked,charged⟩ | ⟨person,row,locked,rfl⟩ | ⟨person,accepts,rfl⟩
    · rw [attempt,← charged] at ran
      rw [failAttempt_parts rfl ran]
      exact .refused login turn identity refuses unlocked
    · rw [Function.comp_apply,exhausted_done _ rfl]
      exact .locked login turn identity row locked
    · rw [Function.comp_apply,exhausted_done _ rfl]
      exact .accepted login turn identity accepts

-- What the handlers of the states after FRESH begin with: without activity they do nothing.
theorem active_parts (live : c.state ≠ .DONE) (met : c.state ≠ .FRESH) (owned : c.socket = some socket)
    (alive : (polled socket io).error = false) {handle : Except Fault Handled}
    (ran : (if !io.activity then .ok ⟨world,{c with socket := some (polled socket io)},[]⟩ else handle) = .ok handled)
    (turned : Turn io c socket → handle = .ok handled → Visit env world io c handled) : Visit env world io c handled := by
  cases active : io.activity with
  | false =>
    simp only [active,Bool.not_false,if_true,Except.ok.injEq] at ran
    subst handled
    exact .quiet live met owned active
  | true =>
    simp only [active,Bool.not_true,Bool.false_eq_true,if_false] at ran
    exact turned ⟨owned,alive,active⟩ ran

theorem challengeSent_parts (challenged : c.state = .CHALLENGE_SENT) (owned : c.socket = some socket)
    (alive : (polled socket io).error = false)
    (ran : processChallengeSentSocket env world {c with socket := some (polled socket io)} io = .ok handled) :
    Visit env world io c handled := by
  have live : c.state ≠ .DONE := by simp [challenged]
  unfold processChallengeSentSocket at ran
  dsimp only at ran
  apply active_parts live (by simp [challenged]) owned alive ran
  intro turn ran
  split at ran
  · rename_i none
    cases Except.ok.inj ran
    exact .closed live turn (.inl none)
  · rename_i got
    split at ran
    · rename_i opcode
      exact attemptAuth_parts (.inl challenged) turn opcode ran
    · rename_i notIdentity
      split at ran
      · rename_i mismatch
        cases Except.ok.inj ran
        exact .closed live turn (.inr (.inr (.inl ⟨challenged,mismatch⟩)))
      · split at ran
        · rename_i request
          simp only [processMapAuthenticationRequest] at ran
          by_cases lost : io.sendResult ≤ 0
          · simp only [lost,if_true,Except.ok.injEq] at ran
            subst handled
            exact .unanswered challenged turn request lost
          · simp only [lost,if_false,Except.ok.injEq] at ran
            have reached : 0 < io.sendResult := by omega
            subst handled
            rw [exhausted_state]
            exact .registering challenged turn request reached got
        · obtain rfl := failAttempt_parts rfl ran
          exact .unexpected (.inl challenged) turn notIdentity

theorem loginFailed_parts (failed : c.state = .LOGIN_FAILED) (owned : c.socket = some socket)
    (alive : (polled socket io).error = false)
    (ran : processLoginFailedSocket env world {c with socket := some (polled socket io)} io = .ok handled) :
    Visit env world io c handled := by
  have live : c.state ≠ .DONE := by simp [failed]
  unfold processLoginFailedSocket at ran
  dsimp only at ran
  apply active_parts live (by simp [failed]) owned alive ran
  intro turn ran
  split at ran
  · rename_i none
    cases Except.ok.inj ran
    exact .closed live turn (.inr (.inl ⟨failed,none⟩))
  · split at ran
    · rename_i opcode
      exact attemptAuth_parts (.inr failed) turn opcode ran
    · rename_i notIdentity
      obtain rfl := failAttempt_parts rfl ran
      exact .unexpected (.inr failed) turn notIdentity

theorem mapList_parts (listing : c.state = .MAP_LIST) (owned : c.socket = some socket)
    (alive : (polled socket io).error = false)
    (ran : processMapListSocket env world {c with socket := some (polled socket io)} io = .ok handled) :
    Visit env world io c handled := by
  have live : c.state ≠ .DONE := by simp [listing]
  unfold processMapListSocket at ran
  dsimp only at ran
  apply active_parts live (by simp [listing]) owned alive ran
  intro turn ran
  split at ran
  · rename_i none
    cases Except.ok.inj ran
    exact .closed live turn (.inl none)
  · rename_i got
    split at ran
    · rename_i other
      cases Except.ok.inj ran
      exact .closed live turn (.inr (.inr (.inr ⟨listing,other⟩)))
    · rename_i opcode
      have opcode := not_not.mp opcode
      cases decoded : MapServerMapList.fromJSON env.parse (receivedJSON env io.recv.bytes) with
      | error fault => simp [decoded] at ran
      | ok mapHashes =>
        simp only [decoded] at ran
        cases required : requiredMaps world mapHashes with
        | nil =>
          simp only [required,List.isEmpty_nil,if_true,Except.ok.injEq] at ran
          subst handled
          exact .notNeeded listing turn opcode decoded required got
        | cons first others =>
          simp only [required,List.isEmpty_cons,Bool.false_eq_true,if_false,Except.ok.injEq] at ran
          subst handled
          have nonempty : requiredMaps world mapHashes ≠ [] := by simp [required]
          have visit := Visit.listed listing turn opcode decoded nonempty got
          rw [required] at visit
          exact visit

theorem require_ok {value : Option α} (required : require message value = .ok a) : value = some a := by
  unfold require at required
  cases value with
  | none => cases required
  | some b => cases required; rfl

theorem mapWaitAck_parts (waiting : c.state = .MAP_WAIT_ACK) (owned : c.socket = some socket)
    (alive : (polled socket io).error = false)
    (ran : processMapWaitAckSocket world {c with socket := some (polled socket io)} io = .ok handled) :
    Visit env world io c handled := by
  have live : c.state ≠ .DONE := by simp [waiting]
  unfold processMapWaitAckSocket at ran
  dsimp only at ran
  apply active_parts live (by simp [waiting]) owned alive ran
  intro turn ran
  obtain ⟨maps,mapsSet,ran⟩ := bind_ok.mp ran
  obtain ⟨friendlyName,nameSet,ran⟩ := bind_ok.mp ran
  obtain ⟨port,portSet,ran⟩ := bind_ok.mp ran
  obtain ⟨address,addressSet,ran⟩ := bind_ok.mp ran
  split at ran
  · rename_i none
    cases Except.ok.inj ran
    exact .closed live turn (.inl none)
  · rename_i got
    cases Except.ok.inj ran
    exact .registered waiting turn got (require_ok mapsSet) (require_ok nameSet) (require_ok portSet)
      (require_ok addressSet)

theorem processIncoming_parts (ran : processIncoming env world c io = .ok handled) : Visit env world io c handled := by
  unfold processIncoming at ran
  split at ran
  · rename_i finished
    cases Except.ok.inj ran
    exact .done finished
  · rename_i live
    cases owned : c.socket with
    | none => simp [owned] at ran
    | some socket =>
      simp only [owned] at ran
      cases alive : (socket.raise io.pollError).error with
      | true =>
        simp only [alive,if_true,Except.ok.injEq] at ran
        subst handled
        exact .dropped live owned alive
      | false =>
        simp only [alive,Bool.false_eq_true,if_false] at ran
        split at ran
        · rename_i fresh
          have visit : Visit env world io c _ := .greeted fresh owned alive
          unfold processFreshSocket at ran
          dsimp only at ran
          split at ran
          · rename_i failed
            cases Except.ok.inj ran
            simpa only [polled,failed,if_true] using visit
          · rename_i sent
            cases Except.ok.inj ran
            simpa only [polled,sent,Bool.false_eq_true,if_false] using visit
        · rename_i state; exact challengeSent_parts state owned alive ran
        · rename_i state; exact loginFailed_parts state owned alive ran
        · rename_i state; exact mapList_parts state owned alive ran
        · rename_i state; exact mapWaitAck_parts state owned alive ran
        · rename_i state; exact absurd state live

theorem got_open (login : Login c) (got : 0 < io.recv.result)
    (opcode : env.apg.getShort io.recv.bytes = ClientOpcode.LOGIN_AUTHENTICATION_IDENTITY.code) : ¬ Closes env io c := by
  rintro (none | ⟨_,none⟩ | ⟨_,mismatch⟩ | ⟨listing,_⟩)
  · omega
  · omega
  · rw [opcode] at mismatch; cases mismatch
  · rcases login with login | login <;> cases listing.symm.trans login

-- What an identity that decodes leads to: it is refused, its account is locked or it is accepted.
theorem identity_visit (login : Login c) (turn : Turn io c socket) (opened : ¬ Closes env io c)
    (identity : Identifies env io authID) (visit : Visit env world io c handled) :
    ((∀ person, ¬ Accepts env world.players authID person) ∧
      (∀ person, found world.players authID = some person → person.locked = false) ∧
      handled = ⟨world,failedOnce c (answered socket io),[.received io.recv.bytes,.loginAttempt authID,
        .sent (failureResponse c (text "Authentication failure.")) io.sendResult]⟩) ∨
    (∃ person, found world.players authID = some person ∧ person.locked = true ∧
      handled = ⟨world,{c with socket := some (answered socket io).disconnect,state := .DONE},
        [.received io.recv.bytes,.loginAttempt authID,
          .sent (.authenticationResponse ⟨false,0,lockedMessage⟩) io.sendResult]⟩) ∨
    ∃ person, Accepts env world.players authID person ∧
      handled = ⟨world.addSession (world.newSession env.md5 person authID.username (answered socket io)
          io.diceRoll) io.now,{c with socket := none,state := .DONE},
        [.received io.recv.bytes,.loginAttempt authID,
          .sent (.authenticationResponse ⟨true,c.getAttemptsRemaining,text "Authentication successful."⟩) io.sendResult,
          .sessionCreated]⟩ := by
  have same : ∀ {other reader}, Identifies env io other → Turn io c reader → other = authID ∧ reader = socket := by
    intro other reader again reads
    exact ⟨Except.ok.inj (again.2.symm.trans identity.2),Option.some.inj (reads.owned.symm.trans turn.owned)⟩
  have elsewhere : ∀ {state}, c.state = state → state ≠ .CHALLENGE_SENT → state ≠ .LOGIN_FAILED → False := by
    intro state here notSent notFailed
    rcases login with login | login
    · exact notSent (here.symm.trans login)
    · exact notFailed (here.symm.trans login)
  cases visit with
  | refused _ reads again refuses unlocked =>
    obtain ⟨rfl,rfl⟩ := same again reads
    exact .inl ⟨refuses,unlocked,rfl⟩
  | locked _ reads again row locked =>
    obtain ⟨rfl,rfl⟩ := same again reads
    exact .inr (.inl ⟨_,row,locked,rfl⟩)
  | accepted _ reads again accepts =>
    obtain ⟨rfl,rfl⟩ := same again reads
    exact .inr (.inr ⟨_,accepts,rfl⟩)
  | done finished => exact (elsewhere finished (by simp) (by simp)).elim
  | dropped live owned failed => rw [turn.healthy owned] at failed; cases failed
  | greeted fresh owned alive => exact (elsewhere fresh (by simp) (by simp)).elim
  | quiet live met owned idle => rw [turn.active] at idle; cases idle
  | closed live again closes => exact absurd closes opened
  | unexpected _ reads other => exact absurd identity.1 other
  | registering challenged reads request reached => rw [identity.1] at request; cases request
  | unanswered challenged reads request lost => rw [identity.1] at request; cases request
  | notNeeded listing reads opcode decoded none => exact (elsewhere listing (by simp) (by simp)).elim
  | listed listing reads opcode decoded some => exact (elsewhere listing (by simp) (by simp)).elim
  | registered waiting reads got maps name port address => exact (elsewhere waiting (by simp) (by simp)).elim

end PlayPG.Visits
