import PlayPG.Connections

namespace PlayPG.ReceiveFailures
open Bytes IncomingHandler Visits

-- The states whose handlers call recv.
def Receiving (c : IncomingConnection) : Prop :=
  c.state = .CHALLENGE_SENT ∨ c.state = .LOGIN_FAILED ∨ c.state = .MAP_LIST ∨ c.state = .MAP_WAIT_ACK

-- The REQUIREs that stand before the recv of MAP_WAIT_ACK.
def Required (c : IncomingConnection) : Prop := c.state = .MAP_WAIT_ACK →
  c.maps.isSome ∧ c.mapServerFriendlyName.isSome ∧ c.mapServerPort.isSome ∧ c.mapServerListenAddress.isSome

theorem ready_required (ready : Connections.Ready c) : Required c := by
  intro waiting
  obtain ⟨locations,listed,_⟩ := ready.listed waiting
  obtain ⟨_,name,address,port⟩ := ready.request (.inr waiting)
  exact ⟨by simp [listed],name,port,address⟩

-- Every connection that a run of the server reaches meets them.
theorem reached_required
    (path : Runs.Run (LoginServer.step env) (.start players characters allMaps mapIDToName) events trace t)
    (member : c ∈ t.incomingConnections) : Required c := by
  have ready : ∀ c ∈ t.incomingConnections, Connections.Ready c :=
    path.invariant (P:=fun s => ∀ c ∈ s.incomingConnections, Connections.Ready c)
      (by intro c none; cases none) Connections.step_ready
  exact ready_required (ready c member)

def dropped (world : World) (c : IncomingConnection) (io : SocketIO) (socket : Socket) : Handled :=
  ⟨world,{c with socket := some (Visits.read socket io),state := .DONE},[.received io.recv.bytes]⟩

-- Only the state and the socket's error flag change, and nothing is decoded:
-- the handler does the same whatever its gets and the JSON reader would give.
structure Drops (env : Env) (world : World) (io : SocketIO) (c : IncomingConnection) (socket : Socket) : Prop where
  done : processIncoming env world c io = .ok (dropped world c io socket)
  undecoded : ∀ apg parse, processIncoming {env with apg := apg,parse := parse} world c io = processIncoming env world c io

theorem nothing_bytes {recv : Recv} (failed : recv.result ≤ 0) : recv.bytes = [] := by
  cases recv with
  | data first rest =>
    simp only [Recv.result] at failed
    omega
  | nothing shortfall => rfl

theorem recv_reached (receiving : Receiving c) (turn : Turn io c socket) : processIncoming env world c io =
    (let polling := {c with socket := some (polled socket io)}
    match c.state with
    | .CHALLENGE_SENT => processChallengeSentSocket env world polling io
    | .LOGIN_FAILED => processLoginFailedSocket env world polling io
    | .MAP_LIST => processMapListSocket env world polling io
    | _ => processMapWaitAckSocket world polling io) := by
  have alive := turn.alive
  unfold polled at alive
  rcases receiving with state | state | state | state
  all_goals simp [processIncoming,state,turn.owned,alive,polled]

theorem checked_drops (receiving : Receiving c) (turn : Turn io c socket) (required : Required c)
    (failed : io.recv.result ≤ 0) (checked : io.recv.result = 0 ∨ c.state = .LOGIN_FAILED) :
    processIncoming env world c io = .ok (dropped world c io socket) := by
  have active := turn.active
  rw [recv_reached receiving turn]
  rcases receiving with state | state | state | state
  · have none : io.recv.result = 0 := by simpa [state] using checked
    simp [state,processChallengeSentSocket,active,none,dropped,Visits.read]
  · simp [state,processLoginFailedSocket,active,failed,dropped,Visits.read]
  · have none : io.recv.result = 0 := by simpa [state] using checked
    simp [state,processMapListSocket,active,none,dropped,Visits.read]
  · have none : io.recv.result = 0 := by simpa [state] using checked
    obtain ⟨maps,name,port,address⟩ := required state
    obtain ⟨locations,maps⟩ := Option.isSome_iff_exists.mp maps
    obtain ⟨friendlyName,name⟩ := Option.isSome_iff_exists.mp name
    obtain ⟨number,port⟩ := Option.isSome_iff_exists.mp port
    obtain ⟨hostname,address⟩ := Option.isSome_iff_exists.mp address
    simp [state,processMapWaitAckSocket,require,maps,name,port,address,active,none,dropped,Visits.read,bind,Except.bind]

-- A visit that received and did nothing more took one of the branches that close.
theorem dropped_closes (live : c.state ≠ .DONE)
    (ran : processIncoming env world c io = .ok (dropped world c io socket)) : Closes env io c := by
  have visit := processIncoming_parts ran
  generalize handled_eq : dropped world c io socket = handled at visit
  have effects : handled.effects = [.received io.recv.bytes] := by rw [← handled_eq]; rfl
  cases visit with
  | closed _ _ closes => exact closes
  | done finished => exact absurd finished live
  | _ => simp at effects

-- What a get past the end gives is left open, so it may be the code of a map list.
def pastEnd (apg : ByteBuffer) (code : UInt16) : ByteBuffer := {apg with
  getShort := fun bytes => if bytes = [] then code else apg.getShort bytes
  getShort_put := by
    intro v rest
    have nonempty : apg.putShort v ++ rest ≠ [] := by
      intro empty
      have length := apg.putShort_length v
      rw [(List.append_eq_nil_iff.mp empty).1] at length
      cases length
    rw [if_neg nonempty,apg.getShort_put] }

theorem drops_checked (receiving : Receiving c) (failed : io.recv.result ≤ 0)
    (drops : Drops env world io c socket) : io.recv.result = 0 ∨ c.state = .LOGIN_FAILED := by
  have live : c.state ≠ .DONE := by rcases receiving with state | state | state | state <;> simp [state]
  have unread := (drops.undecoded (pastEnd env.apg ServerOpcode.MAP_SERVER_MAP_LIST.code) env.parse).trans drops.done
  have opcode : (pastEnd env.apg ServerOpcode.MAP_SERVER_MAP_LIST.code).getShort io.recv.bytes =
      ServerOpcode.MAP_SERVER_MAP_LIST.code := by
    rw [nothing_bytes failed]
    rfl
  rcases dropped_closes live unread with none | ⟨state,_⟩ | ⟨_,mismatch⟩ | ⟨_,other⟩
  · exact .inl none
  · exact .inr state
  · cases opcode.symm.trans mismatch
  · exact absurd opcode other

-- Three of the four handlers test for zero only, and go on after an error.
theorem failed_receives (receiving : Receiving c) (turn : Turn io c socket) (required : Required c)
    (failed : io.recv.result ≤ 0) :
    Drops env world io c socket ↔ io.recv.result = 0 ∨ c.state = .LOGIN_FAILED := by
  constructor
  · exact drops_checked receiving failed
  · intro checked
    have drops : ∀ other, processIncoming other world c io = .ok (dropped world c io socket) :=
      fun other => checked_drops receiving turn required failed checked
    exact ⟨drops env,fun _ _ => (drops _).trans (drops env).symm⟩

def lostSocket : Socket := ⟨0,false,true⟩
def lost (shortfall : Nat) : SocketIO := ⟨false,true,.nothing shortfall,true,1,false,0,0⟩

def waiting : IncomingConnection :=
  ⟨some lostSocket,.MAP_WAIT_ACK,0,some (text "Map Server"),some 10419,some (text "localhost"),some [⟨1,text "town",[],[],0⟩]⟩

def idle : World := (LoginServer.start .empty [] [] .empty).toWorld

theorem failed_receives_login : Drops (.plain []) idle (lost 1) {waiting with state := .LOGIN_FAILED} lostSocket :=
  (failed_receives (.inr (.inl rfl)) ⟨rfl,rfl,rfl⟩ (by intro state; cases state) (by decide)).mpr (.inr rfl)

-- A map server whose connection failed before its ACK is registered.
theorem failed_ack_registers : (lost 1).recv.result = -1 ∧ Turn (lost 1) waiting lostSocket ∧ Required waiting ∧
    (∃ handled, processIncoming (.plain []) idle waiting (lost 1) = .ok handled ∧ handled.world.mapServers.size = 1) ∧
    ¬Drops (.plain []) idle (lost 1) waiting lostSocket := by
  have turn : Turn (lost 1) waiting lostSocket := ⟨rfl,rfl,rfl⟩
  refine ⟨rfl,turn,fun _ => ⟨rfl,rfl,rfl,rfl⟩,⟨_,rfl,rfl⟩,?_⟩
  intro drops
  rcases drops_checked (.inr (.inr (.inr rfl))) (by decide) drops with none | state
  · cases none
  · cases state

end PlayPG.ReceiveFailures
