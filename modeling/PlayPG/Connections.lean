import PlayPG.Decoders
import PlayPG.ServerSteps

namespace PlayPG.Connections
open Bytes IncomingHandler Visits ServerSteps Decoders

-- One connection by itself; the shared members may be anything at each of its turns.
def turn (env : Env) : Runs.Machine IncomingConnection (World × SocketIO) Effect Fault :=
  fun c event => (processIncoming env event.1 c event.2).map (fun handled => (handled.connection,handled.effects))

theorem turn_visit (ran : turn env c (world,io) = .ok (next,fresh)) :
    ∃ handled, Visit env world io c handled ∧ next = handled.connection ∧ fresh = handled.effects := by
  obtain ⟨handled,visited,same⟩ := map_ok ran
  obtain ⟨rfl,rfl⟩ := Prod.mk.inj same
  exact ⟨handled,processIncoming_parts visited,rfl,rfl⟩

theorem step_entries (ran : LoginServer.step env s event = .ok (t,fresh)) (member : c ∈ t.incomingConnections) :
    c = .ofSocket ⟨s.socketsAccepted,false,true⟩ ∨ c ∈ s.incomingConnections ∨
    ∃ before io effects, before ∈ s.incomingConnections ∧ turn env before (s.toWorld,io) = .ok (c,effects) ∧
      fresh = effects.map (Prod.mk (LoginServer.connectionId before)) := by
  cases event with
  | accept =>
    cases Except.ok.inj ran
    rcases List.mem_append.mp member with old | new
    · exact .inr (.inl old)
    · exact .inl (List.mem_singleton.mp new)
  | purge => cases Except.ok.inj ran; exact .inr (.inl (List.mem_filter.mp member).1)
  | database players characters => cases Except.ok.inj ran; exact .inr (.inl member)
  | connected ios => exact .inr (.inl ((step_connected ran).2.1 ▸ member))
  | incoming index io =>
    rcases step_incoming_parts ran with ⟨_,rfl,_⟩ | ⟨before,handled,present,visited,rfl,rfl⟩
    · exact .inr (.inl member)
    · rcases List.mem_or_eq_of_mem_set member with old | rfl
      · exact .inr (.inl old)
      · exact .inr (.inr ⟨before,io,handled.effects,List.mem_of_getElem? present,by simp [turn,visited,Except.map],rfl⟩)

-- Whatever the other connections do, an entry is where its own turns led it.
theorem entry_run
    (path : Runs.Run (LoginServer.step env) (.start players characters allMaps mapIDToName) events trace t)
    (member : c ∈ t.incomingConnections) :
    ∃ socket turns effects, Runs.Run (turn env) (.ofSocket socket) turns effects c := by
  induction path generalizing c with
  | nil => cases member
  | snoc prior ran ih =>
    rcases step_entries ran member with rfl | old | ⟨before,io,effects,old,turned,_⟩
    · exact ⟨_,[],[],.nil⟩
    · exact ih old
    · obtain ⟨socket,turns,early,own⟩ := ih old
      exact ⟨socket,_,_,.snoc own turned⟩

-- What each state of a connection promises to the handlers of that state.
structure Ready (c : IncomingConnection) : Prop where
  owned : c.state ≠ .DONE → ∃ socket, c.socket = some socket
  untried : c.state = .FRESH ∨ c.state = .CHALLENGE_SENT → c.loginAttempts = 0
  request : c.state = .MAP_LIST ∨ c.state = .MAP_WAIT_ACK → c.loginAttempts = 0 ∧
    c.mapServerFriendlyName.isSome ∧ c.mapServerListenAddress.isSome ∧ c.mapServerPort.isSome
  listed : c.state = .MAP_WAIT_ACK → ∃ locations, c.maps = some locations ∧ locations ≠ []

theorem ofSocket_ready (socket : Socket) : Ready (.ofSocket socket) where
  owned _ := ⟨socket,rfl⟩
  untried _ := rfl
  request listing := by rcases listing with listing | listing <;> cases listing
  listed waiting := by cases waiting

theorem done_ready (finished : c.state = .DONE) : Ready c where
  owned live := absurd finished live
  untried early := by rw [finished] at early; rcases early with early | early <;> cases early
  request listing := by rw [finished] at listing; rcases listing with listing | listing <;> cases listing
  listed waiting := by rw [finished] at waiting; cases waiting

theorem socket_ready (ready : Ready c) : Ready {c with socket := some socket} :=
  ⟨fun _ => ⟨socket,rfl⟩,ready.untried,ready.request,ready.listed⟩

theorem failedOnce_ready (c : IncomingConnection) (socket : Socket) : Ready (failedOnce c socket) := by
  by_cases last : c.loginAttempts + 1 = IncomingConnection.MAX_ATTEMPTS_ALLOWED
  · exact done_ready (by simp [failedOnce,last])
  · exact {
      owned := fun _ => ⟨socket,rfl⟩
      untried := by simp [failedOnce,last]
      request := by simp [failedOnce,last]
      listed := by simp [failedOnce,last] }

theorem visit_ready (ready : Ready c) (visit : Visit env world io c handled) : Ready handled.connection := by
  cases visit with
  | done finished => exact ready
  | dropped live owned failed => exact done_ready rfl
  | greeted fresh owned alive =>
    exact {
      owned := fun _ => ⟨_,rfl⟩
      untried := fun _ => ready.untried (.inl fresh)
      request := by dsimp only; split <;> simp
      listed := by dsimp only; split <;> simp }
  | quiet live met owned idle => exact socket_ready ready
  | closed live turn closes => exact done_ready rfl
  | unexpected login turn other => exact failedOnce_ready _ _
  | refused login turn identity refuses unlocked => exact failedOnce_ready _ _
  | locked login turn identity row locked => exact done_ready rfl
  | accepted login turn identity accepts => exact done_ready rfl
  | registering challenged turn request reached =>
    have untried := ready.untried (.inr challenged)
    exact {
      owned := fun _ => ⟨_,rfl⟩
      untried := by simp [untried,requested,IncomingConnection.MAX_ATTEMPTS_ALLOWED]
      request := fun _ => ⟨untried,rfl,rfl,rfl⟩
      listed := by simp [untried,IncomingConnection.MAX_ATTEMPTS_ALLOWED] }
  | unanswered challenged turn request lost =>
    exact {
      owned := fun _ => ⟨_,rfl⟩
      untried := fun _ => ready.untried (.inr challenged)
      request := by simp [requested,challenged]
      listed := by simp [requested,challenged] }
  | notNeeded listing turn opcode decoded none => exact done_ready rfl
  | listed listing turn opcode decoded some =>
    exact {
      owned := fun _ => ⟨_,rfl⟩
      untried := by simp
      request := fun _ => ready.request (.inl listing)
      listed := fun _ => ⟨_,rfl,some⟩ }
  | registered waiting turn got maps name port address => exact done_ready rfl

theorem step_ready (ready : ∀ c ∈ s.incomingConnections, Ready c) (ran : LoginServer.step env s event = .ok (t,fresh)) :
    ∀ c ∈ t.incomingConnections, Ready c := by
  intro c member
  rcases step_entries ran member with rfl | old | ⟨before,io,effects,within,turned,_⟩
  · exact ofSocket_ready _
  · exact ready c old
  · obtain ⟨handled,visit,rfl,_⟩ := turn_visit turned
    exact visit_ready (ready before within) visit

-- A decoder's precondition on what was received, or a login server without its key.
def External (fault : Fault) : Prop := fault.ofDecoder = true ∨ fault = .nullKey

theorem map_error {result : Except Fault α} (failed : result.map f = .error fault) : result = .error fault := by
  cases result with
  | error other => simpa [Except.map] using failed
  | ok a => cases failed

theorem failAttempt_runs (owned : c.socket = some socket) : failAttempt world c io message ≠ .error fault := by
  intro failed
  simp [(failAttempt_fault failed).2] at owned

theorem attemptAuth_fault (owned : c.socket = some socket) (failed : attemptAuth env world c io = .error fault) :
    External fault := by
  unfold attemptAuth at failed
  split at failed
  · rename_i other decoded
    cases failed
    exact .inl (identity_fault decoded)
  · rcases attempt_fault (map_error failed) with key | ⟨_,missing⟩
    · exact .inr key
    · rw [owned] at missing; cases missing

theorem challengeSent_fault (owned : c.socket = some socket)
    (failed : processChallengeSentSocket env world c io = .error fault) : External fault := by
  unfold processChallengeSentSocket at failed
  simp only [owned] at failed
  split at failed
  · cases failed
  · split at failed
    · cases failed
    · split at failed
      · exact attemptAuth_fault rfl (map_error failed)
      · split at failed
        · cases failed
        · split at failed
          · simp only [processMapAuthenticationRequest] at failed
            by_cases lost : io.sendResult ≤ 0
            · simp [lost] at failed
            · simp [lost] at failed
          · exact absurd (map_error failed) (failAttempt_runs rfl)

theorem loginFailed_fault (owned : c.socket = some socket)
    (failed : processLoginFailedSocket env world c io = .error fault) : External fault := by
  unfold processLoginFailedSocket at failed
  simp only [owned] at failed
  split at failed
  · cases failed
  · split at failed
    · cases failed
    · split at failed
      · exact attemptAuth_fault rfl (map_error failed)
      · exact absurd (map_error failed) (failAttempt_runs rfl)

theorem mapList_external (owned : c.socket = some socket)
    (failed : processMapListSocket env world c io = .error fault) : External fault := by
  unfold processMapListSocket at failed
  simp only [owned] at failed
  split at failed
  · cases failed
  · split at failed
    · cases failed
    · split at failed
      · cases failed
      · split at failed
        · rename_i other decoded
          cases failed
          exact .inl (mapList_fault decoded)
        · split at failed <;> cases failed

theorem mapWaitAck_runs (ready : Ready c) (waiting : c.state = .MAP_WAIT_ACK) (owned : c.socket = some socket) :
    processMapWaitAckSocket world c io ≠ .error fault := by
  obtain ⟨_,name,address,port⟩ := ready.request (.inr waiting)
  obtain ⟨locations,maps,_⟩ := ready.listed waiting
  obtain ⟨friendlyName,name⟩ := Option.isSome_iff_exists.mp name
  obtain ⟨hostname,address⟩ := Option.isSome_iff_exists.mp address
  obtain ⟨number,port⟩ := Option.isSome_iff_exists.mp port
  unfold processMapWaitAckSocket
  simp only [owned,maps,name,address,port,require]
  split
  · simp
  · simp only [bind,Except.bind]
    split <;> simp

-- No handler breaks a REQUIRE or reads a socket that was moved away.
theorem ready_fault (ready : Ready c) (failed : processIncoming env world c io = .error fault) : External fault := by
  unfold processIncoming at failed
  split at failed
  · cases failed
  · rename_i live
    obtain ⟨socket,owned⟩ := ready.owned live
    simp only [owned] at failed
    split at failed
    · cases failed
    · split at failed
      · unfold processFreshSocket at failed
        dsimp only at failed
        split at failed <;> cases failed
      · exact challengeSent_fault rfl failed
      · exact loginFailed_fault rfl failed
      · exact mapList_external rfl failed
      · rename_i waiting
        exact absurd failed (mapWaitAck_runs (socket_ready ready) waiting rfl)
      · cases failed

end PlayPG.Connections
