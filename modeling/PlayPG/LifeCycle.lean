import PlayPG.Isolation

-- The protocol that the login server speaks on each socket.
namespace PlayPG.LifeCycle
open Bytes IncomingHandler ConnectedHandler Visits ServerSteps Connections Seclusion Isolation

inductive Phase where
  | unknown
  | greeting
  | challenged
  | retrying (failures : Int)
  | listing
  | acknowledging (maps : List Location)
  | finished
  | member (username : Bytes) (characterID : UInt64)
  | mapServer (maps : List Location)
  | gone
  deriving DecidableEq

namespace Phase

-- The failed logins of a phase in which a login may be tried.
def failures : Phase → Option Int
  | .challenged => some 0
  | .retrying failures => some failures
  | _ => none

-- The phases that a lost socket ends, and those in which packets are read.
def Open : Phase → Prop
  | .greeting | .challenged | .retrying _ | .listing | .acknowledging _ => True
  | _ => False

def Hears : Phase → Prop
  | .challenged | .retrying _ | .listing | .acknowledging _ => True
  | _ => False

end Phase

-- What passes over a socket in one turn, and the phase after it.
inductive Talks (env : Env) : Phase → List Effect → Phase → Prop where
  | idle : Talks env p [] p
  | accepted : Talks env .unknown [.accepted] .greeting
  | greeted (left : q = .challenged ∨ q = .finished) :
      Talks env .greeting [.sent (.authenticationChallenge env.challenge) result] q
  | dropped (waits : p.Open) : Talks env p [] .finished
  | closed (hears : p.Hears) : Talks env p [.received bytes] .finished
  | failed (trying : p.failures = some failures) (attempt : attempted = [] ∨ ∃ authID, attempted = [.loginAttempt authID])
      (left : if failures + 1 = 3 then q = .finished else failures + 1 < 3 ∧ q = .retrying (failures + 1)) :
      Talks env p (.received bytes :: attempted ++ [.sent (.authenticationResponse ⟨false,2 - failures,message⟩) result]) q
  | locked (trying : p.failures = some failures) : Talks env p [.received bytes,.loginAttempt authID,
      .sent (.authenticationResponse ⟨false,0,lockedMessage⟩) result] .finished
  | loggedIn (trying : p.failures = some failures) : Talks env p [.received bytes,.loginAttempt authID,
      .sent (.authenticationResponse ⟨true,3 - failures,text "Authentication successful."⟩) result,.sessionCreated]
      (.member authID.username 0)
  | registering (reached : 0 < result) : Talks env .challenged
      [.received bytes,.sent (.mapServerRegistrationResponse (text "hello, world")) result] .listing
  | unanswered (lost : result ≤ 0) : Talks env .challenged
      [.received bytes,.sent (.mapServerRegistrationResponse (text "hello, world")) result] .challenged
  | notNeeded : Talks env .listing [.received bytes,.sent .mapServerNotNeeded result] .finished
  | listed (some : maps ≠ []) : Talks env .listing [.received bytes,.sent (.mapServerMapList maps) result] (.acknowledging maps)
  | registered : Talks env (.acknowledging maps) [.received bytes,.mapServerRegistered] (.mapServer maps)
  | purged : Talks env .finished [.purged] .gone
  | heard : Talks env (.member username characterID) [.opcodeRead bytes] (.member username characterID)
  | characters : Talks env (.member username characterID)
      [.opcodeRead bytes,.characterRequest,.sent (.playerCharacters characters) result] (.member username characterID)
  | malformed : Talks env (.member username characterID) [.opcodeRead bytes,.sent .malformedPacket result]
      (.member username characterID)
  | unavailable : Talks env (.member username characterID)
      [.opcodeRead bytes,.characterSelect chosen,.sent (.noMapServerError message) result] (.member username characterID)
  | instructed : Talks env (.member username characterID) [.opcodeRead bytes,.characterSelect chosen,
      .sent (.mapServerConnectionInstructions instructions) result]
      (.member username (if result = 0 then characterID else chosen))
  | refused : Talks env (.member username characterID) [.opcodeRead bytes,.characterSelect chosen] (.member username characterID)
  | lost : Talks env (.member username characterID) [.purged] .gone

def connecting (c : IncomingConnection) : Phase :=
  match c.state with
  | .FRESH => .greeting
  | .CHALLENGE_SENT => .challenged
  | .LOGIN_FAILED => .retrying c.loginAttempts
  | .MAP_LIST => .listing
  | .MAP_WAIT_ACK => .acknowledging (c.maps.getD [])
  | .DONE => .finished

def phase : Peer → Phase
  | .unknown => .unknown
  | .connecting c => connecting c
  | .playing session => .member session.username session.characterID
  | .serving server => .mapServer server.maps
  | .gone => .gone

-- A connection in a login state counts its failures, and stops at three.
structure Counting (c : IncomingConnection) : Prop where
  ready : Ready c
  failures : Login c → (connecting c).failures = some c.loginAttempts ∧ c.loginAttempts + 1 ≤ 3

def Valid : Peer → Prop
  | .connecting c => Counting c
  | _ => True

theorem untried_counting (ready : Ready c) (met : c.state ≠ .LOGIN_FAILED) : Counting c := by
  refine ⟨ready,fun login => ?_⟩
  rcases login with challenged | failed
  · have untried := ready.untried (.inr challenged)
    refine ⟨?_,by omega⟩
    simp [connecting,challenged,Phase.failures,untried]
  · exact absurd failed met

theorem failedOnce_counting (c : IncomingConnection) (socket : Socket) (bound : c.loginAttempts + 1 ≤ 3) :
    Counting (failedOnce c socket) := by
  refine ⟨failedOnce_ready c socket,fun login => ?_⟩
  by_cases last : c.loginAttempts + 1 = 3
  · rcases login with login | login
    · simp [failedOnce,last,IncomingConnection.MAX_ATTEMPTS_ALLOWED] at login
    · simp [failedOnce,last,IncomingConnection.MAX_ATTEMPTS_ALLOWED] at login
  · refine ⟨?_,?_⟩
    · simp [connecting,failedOnce,last,IncomingConnection.MAX_ATTEMPTS_ALLOWED,Phase.failures]
    · have count : (failedOnce c socket).loginAttempts = c.loginAttempts + 1 := rfl
      omega

theorem failed_talks (counting : Counting c) (login : Login c) (socket : Socket) (bytes message : Bytes) (result : Int)
    (attempt : attempted = [] ∨ ∃ authID, attempted = [Effect.loginAttempt authID]) :
    Talks env (connecting c) (.received bytes :: attempted ++ [.sent (failureResponse c message) result])
      (connecting (failedOnce c socket)) := by
  obtain ⟨trying,bound⟩ := counting.failures login
  have remaining : failureResponse c message = .authenticationResponse ⟨false,2 - c.loginAttempts,message⟩ := by
    have left : IncomingConnection.MAX_ATTEMPTS_ALLOWED - (c.loginAttempts + 1) = 2 - c.loginAttempts := by
      simp only [IncomingConnection.MAX_ATTEMPTS_ALLOWED]
      omega
    rw [failureResponse,left]
  rw [remaining]
  apply Talks.failed trying attempt
  by_cases last : c.loginAttempts + 1 = 3
  · simp [last,connecting,failedOnce,IncomingConnection.MAX_ATTEMPTS_ALLOWED]
  · rw [if_neg last]
    refine ⟨by omega,?_⟩
    simp [last,connecting,failedOnce,IncomingConnection.MAX_ATTEMPTS_ALLOWED]

theorem open_connecting (live : c.state ≠ .DONE) : (connecting c).Open := by
  unfold connecting
  cases state : c.state with
  | DONE => exact absurd state live
  | FRESH | CHALLENGE_SENT | LOGIN_FAILED | MAP_LIST | MAP_WAIT_ACK => trivial

theorem hears_connecting (live : c.state ≠ .DONE) (met : c.state ≠ .FRESH) : (connecting c).Hears := by
  unfold connecting
  cases state : c.state with
  | DONE => exact absurd state live
  | FRESH => exact absurd state met
  | CHALLENGE_SENT | LOGIN_FAILED | MAP_LIST | MAP_WAIT_ACK => trivial

theorem visit_greeted (visit : Visit env world io c handled) : handled.connection.state ≠ .FRESH := by
  cases visit with
  | done finished => simp [finished]
  | greeted fresh owned alive => dsimp only; split <;> simp
  | quiet live met owned idle => exact met
  | unexpected | refused => simp only [failedOnce]; split <;> simp
  | registering challenged turn request reached got => dsimp only; split <;> simp
  | unanswered challenged turn request lost => simp [requested,challenged]
  | dropped | closed | locked | accepted | notNeeded | listed | registered => simp

-- A fresh connection is greeted, or dropped; it is not read from.
theorem fresh_parts (fresh : c.state = .FRESH) (ran : processIncoming env world c io = .ok handled) :
    handled.world = world ∧ ((connecting handled.connection = .finished ∧ handled.effects = []) ∨
      ((connecting handled.connection = .challenged ∨ connecting handled.connection = .finished) ∧
        handled.effects = [.sent (.authenticationChallenge env.challenge) io.sendResult])) := by
  unfold processIncoming at ran
  rw [if_neg (by simp [fresh])] at ran
  cases owned : c.socket with
  | none => simp [owned] at ran
  | some socket =>
    simp only [owned,fresh] at ran
    split at ran
    · cases Except.ok.inj ran
      exact ⟨rfl,.inl ⟨rfl,rfl⟩⟩
    · unfold processFreshSocket at ran
      dsimp only at ran
      split at ran
      · cases Except.ok.inj ran
        exact ⟨rfl,.inr ⟨.inr rfl,rfl⟩⟩
      · cases Except.ok.inj ran
        exact ⟨rfl,.inr ⟨.inl rfl,rfl⟩⟩

theorem fresh_talks (fresh : c.state = .FRESH) (ran : processIncoming env world c io = .ok handled) :
    handled.world = world ∧ Talks env (connecting c) handled.effects (connecting handled.connection) := by
  obtain ⟨same,⟨left,effects⟩ | ⟨left,effects⟩⟩ := fresh_parts fresh ran
  · refine ⟨same,?_⟩
    rw [left,effects]
    exact .dropped (open_connecting (by simp [fresh]))
  · refine ⟨same,?_⟩
    rw [effects,show connecting c = .greeting by simp only [connecting,fresh]]
    exact .greeted left

theorem still_talks (same : handled.world = world) (talks : Talks env (connecting c) handled.effects (connecting handled.connection)) :
    Talks env (connecting c) handled.effects (phase (successor world handled)) := by
  rw [successor_same same]
  exact talks

theorem visit_talks (counting : Counting c) (met : c.state ≠ .FRESH) (visit : Visit env world io c handled) :
    Talks env (connecting c) handled.effects (phase (successor world handled)) := by
  have quiet : ∀ socket, connecting {c with socket := some socket} = connecting c := fun _ => rfl
  cases visit with
  | done finished => exact still_talks rfl .idle
  | dropped live owned failed => exact still_talks rfl (.dropped (open_connecting live))
  | greeted fresh owned alive => exact absurd fresh met
  | quiet live _ owned idle => exact still_talks rfl .idle
  | closed live turn closes => exact still_talks rfl (.closed (hears_connecting live met))
  | unexpected login turn other => exact still_talks rfl (failed_talks counting login _ _ _ _ (.inl rfl))
  | refused login turn identity refuses unlocked => exact still_talks rfl (failed_talks counting login _ _ _ _ (.inr ⟨_,rfl⟩))
  | locked login turn identity row locked =>
    obtain ⟨trying,_⟩ := counting.failures login
    exact still_talks rfl (.locked trying)
  | @accepted socket authID person login turn identity accepts =>
    obtain ⟨trying,_⟩ := counting.failures login
    have new := outcome_session world (world.newSession env.md5 person authID.username (answered socket io) io.diceRoll) io.now
    have member := congrArg Prod.fst (new {c with socket := none,state := .DONE} [.received io.recv.bytes,.loginAttempt authID,
      .sent (.authenticationResponse ⟨true,c.getAttemptsRemaining,text "Authentication successful."⟩) io.sendResult,.sessionCreated])
    simp only [outcome] at member
    rw [member]
    exact .loggedIn trying
  | registering challenged turn request reached got =>
    have untried := counting.ready.untried (.inr challenged)
    apply still_talks rfl
    simp only [connecting,challenged,untried,IncomingConnection.MAX_ATTEMPTS_ALLOWED]
    exact .registering reached
  | unanswered challenged turn request lost =>
    apply still_talks rfl
    simp only [connecting,requested,challenged]
    exact .unanswered lost
  | notNeeded listing turn opcode decoded none got =>
    apply still_talks rfl
    simp only [connecting,listing]
    exact .notNeeded
  | listed listing turn opcode decoded some got =>
    apply still_talks rfl
    simp only [connecting,listing]
    exact .listed some
  | @registered socket locations friendlyName number hostname waiting turn got maps name port address =>
    have new := outcome_server world ⟨read socket io,locations,friendlyName,hostname,number⟩
    have server := congrArg Prod.fst (new {c with socket := none,maps := some [],state := .DONE}
      [.received io.recv.bytes,.mapServerRegistered])
    simp only [outcome] at server
    rw [server]
    simp only [connecting,waiting,maps]
    exact .registered

theorem visit_counting (counting : Counting c) (visit : Visit env world io c handled) : Counting handled.connection := by
  have ready := visit_ready counting.ready visit
  have done : handled.connection.state = .DONE → Counting handled.connection :=
    fun finished => untried_counting ready (by simp [finished])
  cases visit with
  | done finished => exact counting
  | greeted fresh owned alive => exact untried_counting ready (by dsimp only; split <;> simp)
  | quiet live met owned idle => exact ⟨ready,counting.failures⟩
  | unexpected login turn other => exact failedOnce_counting c _ (counting.failures login).2
  | refused login turn identity refuses unlocked => exact failedOnce_counting c _ (counting.failures login).2
  | registering challenged turn request reached got => exact untried_counting ready (by dsimp only; split <;> simp)
  | unanswered challenged turn request lost => exact untried_counting ready (by simp [requested,challenged])
  | listed listing turn opcode decoded some got => exact untried_counting ready (by simp)
  | dropped | closed | locked | accepted | notNeeded | registered => exact done rfl

-- The turn of a session.
theorem session_talks (ran : visitSession env world session io = .ok (next,visited)) :
    Talks env (.member session.username session.characterID) visited.effects (phase (lasting visited).1) := by
  rcases visitSession_turn ran with ⟨_,_,served⟩ | ⟨_,rfl,_⟩
  · cases serveSession_parts served with
    | idle => exact .idle
    | short | unknown => exact .heard
    | characters active two opcode listed =>
      rw [listed]
      unfold processCharacterRequest
      dsimp only
      split
      · exact .characters
      · exact .characters
    | selection active two opcode chose =>
      cases characterSelect_parts chose with
      | malformed => exact .malformed
      | unavailable => exact .unavailable
      | refused => exact .refused
      | @instructed character locationName address server after whole row named indexed found taken =>
        have left : phase (.playing (unnumbered after)) = .member session.username
            (if io.sendResult = 0 then session.characterID else env.apg.getLong io.characterID.bytes) := by
          rw [taken]
          split
          · rfl
          · rfl
        change Talks env _ _ (phase (.playing (unnumbered after)))
        rw [left]
        exact .instructed
  · exact .lost

theorem solo_talks {concern : Concern} (valid : Valid who) {id : Nat} (ran : solo env id who concern = .ok (next,effects)) :
    Talks env (phase who) effects (phase next) ∧ Valid next := by
  have stays : ∀ {who}, Valid who → .ok (who,[]) = Except.ok (ε:=Fault) (next,effects) →
      Talks env (phase who) effects (phase next) ∧ Valid next := by
    intro who valid same
    cases Except.ok.inj same
    exact ⟨.idle,valid⟩
  cases who with
  | unknown =>
    cases concern with
    | accept =>
      cases Except.ok.inj ran
      exact ⟨.accepted,untried_counting (ofSocket_ready _) (by simp [IncomingConnection.ofSocket])⟩
    | turn | purge | session => exact stays valid ran
  | connecting c =>
    cases concern with
    | turn world io =>
      obtain ⟨handled,visited,same⟩ := map_ok ran
      cases same
      have visit := processIncoming_parts visited
      have counting := visit_counting valid visit
      refine ⟨?_,?_⟩
      · by_cases fresh : c.state = .FRESH
        · obtain ⟨same,talks⟩ := fresh_talks fresh visited
          exact still_talks same talks
        · exact visit_talks valid fresh visit
      · unfold successor
        split
        · trivial
        · split
          · trivial
          · exact counting
    | purge =>
      simp only [solo] at ran
      split at ran
      · rename_i done
        cases Except.ok.inj ran
        have finished : connecting c = .finished := by simp only [connecting,done]
        simp only [phase,finished]
        exact ⟨.purged,trivial⟩
      · exact stays valid ran
    | accept | session => exact stays valid ran
  | playing session =>
    cases concern with
    | session world io =>
      obtain ⟨left,visited,same⟩ := map_ok ran
      obtain ⟨after,outcome⟩ := left
      cases same
      refine ⟨session_talks visited,?_⟩
      split
      · trivial
      · trivial
    | accept | turn | purge => exact stays valid ran
  | serving | gone => exact stays valid (by cases concern <;> exact ran)

theorem run_valid
    (path : Runs.Run (LoginServer.step env) (.start players characters allMaps mapIDToName) events trace t) (id : Nat) :
    Valid (peer t id) :=
  Runs.Run.invariant (P:=Valid) (run_solo path id) trivial (fun valid ran => (solo_talks valid ran).2)

theorem run_talks
    (path : Runs.Run (LoginServer.step env) (.start players characters allMaps mapIDToName) events trace t) (id : Nat) :
    Projections.Walk (Talks env) .unknown (trace.filterMap (tagged id)) (phase (peer t id)) :=
  Projections.run_walk phase (I:=Valid) (run_solo path id) trivial (fun valid ran => (solo_talks valid ran).2)
    (fun valid ran => (solo_talks valid ran).1)

theorem step_talks
    (path : Runs.Run (LoginServer.step env) (.start players characters allMaps mapIDToName) events trace t) (id : Nat)
    (ran : LoginServer.step env t event = .ok (next,fresh)) :
    Talks env (phase (peer t id)) (fresh.filterMap (tagged id)) (phase (peer next id)) := by
  have accounted : ∃ trace, Ownership.Accounted trace t := ⟨trace,Ownership.run_accounted path⟩
  cases concerned : concern id t event with
  | none =>
    obtain ⟨same,silent⟩ := (projected env id).apart accounted ran concerned
    rw [silent,same]
    exact .idle
  | some what => exact (solo_talks (run_valid path id) ((projected env id).turned accounted ran concerned)).1

-- Whatever the other sockets do, what passes over a socket is a sentence of the protocol, a turn at a time.
theorem socket_protocol
    (path : Runs.Run (LoginServer.step env) (.start players characters allMaps mapIDToName) events trace t) (id : Nat) :
    Projections.Walk (Talks env) .unknown (trace.filterMap (tagged id)) (phase (peer t id)) ∧
    ∀ event next fresh, LoginServer.step env t event = .ok (next,fresh) →
      Talks env (phase (peer t id)) (fresh.filterMap (tagged id)) (phase (peer next id)) :=
  ⟨run_talks path id,fun _ _ _ ran => step_talks path id ran⟩

theorem socket_protocol_hero : ∃ trace t,
    Runs.Run (LoginServer.step CharacterChoice.playing) CharacterChoice.world CharacterChoice.picking trace t ∧
    Projections.Walk (Talks CharacterChoice.playing) .unknown (trace.filterMap (tagged 1)) (phase (peer t 1)) ∧
    phase (peer t 1) = .member Decoders.credentials.username 9 := by
  obtain ⟨trace,t,path,left⟩ := Runs.execute_check (LoginServer.step CharacterChoice.playing) CharacterChoice.world
    CharacterChoice.picking (fun last => phase (peer last.1 1) == .member Decoders.credentials.username 9) (by decide +kernel)
  exact ⟨trace,t,path,(socket_protocol path 1).1,by simpa using left⟩

end PlayPG.LifeCycle
