import PlayPG.ServerSteps

namespace PlayPG.SessionStream
open Bytes ConnectedHandler ServerSteps

-- Whether bytes arrive for a turn, and how many each recv returns beyond the first.
structure Cut where
  arrives : Bool
  second : Fin 2
  idBytes : Fin 8
  deriving DecidableEq

structure Stream where
  session : Option PlayerSession
  pending : Bytes

def Cut.opcode (cut : Cut) (pending : Bytes) : Bytes := pending.take (1 + cut.second)

-- A healthy socket: a session that was disconnected sees nothing arrive any more.
def Cut.io (cut : Cut) (pending : Bytes) (session : PlayerSession) : SessionIO where
  pollError := false
  activity := cut.arrives && session.socket.connected && !pending.isEmpty
  opcode := .ofBytes (cut.opcode pending)
  opcodeError := false
  characterID := .ofBytes ((pending.drop 2).take (1 + cut.idBytes))
  characterIDError := false
  sendResult := 1
  sendError := false

-- The bytes of recv(2), and those of recv(8) when the opcode leads to it.
def Cut.taken (apg : ByteBuffer) (cut : Cut) (pending : Bytes) : Nat :=
  if (cut.opcode pending).length = 2 ∧ apg.getShort (cut.opcode pending) = ClientOpcode.CHARACTER_SELECT.code then
    2 + (1 + cut.idBytes)
  else 1 + cut.second

-- The shared members and the database may be anything at each turn of the loop.
def turn (env : Env) : Runs.Machine Stream (World × Cut) Effect Fault
  | s,(world,cut) =>
    match s.session with
    | none => .ok (s,[])
    | some session =>
      match visitSession env world session (cut.io s.pending session) with
      | .error fault => .error fault
      | .ok (_,visited) =>
        let io := cut.io s.pending session
        .ok (⟨visited.session,if io.activity && !session.socket.error then s.pending.drop (cut.taken env.apg s.pending)
          else s.pending⟩,visited.effects)

-- What the loop is for: one whole packet a turn, handed on with its id. A select of
-- a character that is not the player's ends the session.
structure Reader where
  rest : List ClientPacket
  served : Bool

def calls : ClientPacket → List Effect
  | .clientRequestCharacters => [.characterRequest]
  | .characterSelect characterID => [.characterSelect characterID]
  | .authenticationIdentity _ | .versionMismatch => []

def owns (world : World) (playerID characterID : UInt64) : Bool :=
  (world.characters.filter (fun c => c.playerID == playerID && c.id == characterID)).length == 1

def serves (world : World) (playerID : UInt64) : ClientPacket → Bool
  | .characterSelect characterID => owns world playerID characterID
  | _ => true

def read (apg : ByteBuffer) (playerID : UInt64) : Runs.Machine Reader (World × Cut) Effect Fault
  | r,(world,cut) =>
    match r.rest with
    | [] => .ok (r,[])
    | packet :: rest =>
      if r.served && cut.arrives then
        .ok (⟨rest,serves world playerID packet⟩,.opcodeRead (apg.putShort packet.opcode.code) :: calls packet)
      else .ok (r,[])

def observed : Effect → Bool
  | .opcodeRead _ | .characterRequest | .characterSelect _ => true
  | _ => false

-- The bytes not read yet are exactly the packets not read yet.
structure Tracks (apg : ByteBuffer) (playerID : UInt64) (s : Stream) (r : Reader) : Prop where
  alive : ∃ session, s.session = some session ∧ session.playerID = playerID ∧ session.socket.error = false ∧
    session.socket.connected = r.served
  pending : s.pending = r.rest.flatMap (ClientPacket.buffer apg)

-- A selected character whose map server is indexed finds that server in the vector.
def Answerable (world : World) (playerID characterID : UInt64) : Prop :=
  ∀ character, world.characters.filter (fun c => c.playerID == playerID && c.id == characterID) = [character] →
    ∀ name address, world.mapIDToName character.locationID = some name →
      world.mapNameToConnection name = some address → world.mapServers.deref address ≠ none

def Handles (world : World) (playerID : UInt64) (cut : Cut) : ClientPacket → Prop
  | .authenticationIdentity _ => False
  | .versionMismatch | .clientRequestCharacters => cut.second = 1
  | .characterSelect characterID => cut.second = 1 ∧ cut.idBytes = 7 ∧ Answerable world playerID characterID

-- Every turn that finds bytes handles the next packet as a whole.
def Whole (playerID : UInt64) : Reader → List (World × Cut) → Prop
  | _,[] => True
  | ⟨[],_⟩,_ :: _ => True
  | ⟨packet :: rest,served⟩,(world,cut) :: events =>
    if served && cut.arrives then
      Handles world playerID cut packet ∧ Whole playerID ⟨rest,serves world playerID packet⟩ events
    else Whole playerID ⟨packet :: rest,served⟩ events

theorem buffer_append (apg : ByteBuffer) (packet : ClientPacket) (tail : Bytes) : packet.buffer apg ++ tail =
    apg.putShort packet.opcode.code ++ (packet.payload apg ++ tail) := by simp [ClientPacket.buffer]

theorem opcode_whole (cut : Cut) (apg : ByteBuffer) (packet : ClientPacket) (tail : Bytes) (both : cut.second = 1) :
    cut.opcode (packet.buffer apg ++ tail) = apg.putShort packet.opcode.code := by
  rw [buffer_append,Cut.opcode,both]
  exact List.take_left' (apg.putShort_length _)

theorem turn_idle (env : Env) (world : World) (cut : Cut) (present : s.session = some session)
    (healthy : session.socket.error = false) (idle : (cut.io s.pending session).activity = false) :
    turn env s (world,cut) = .ok (s,[]) := by
  obtain ⟨_,pending⟩ := s
  obtain rfl : _ = some session := present
  have poll : (cut.io pending session).pollError = false := rfl
  simp only at idle
  simp [turn,visitSession,serveSession,poll,healthy,idle]

theorem turn_active (env : Env) (world : World) (cut : Cut) (present : s.session = some session)
    (healthy : session.socket.error = false) (active : (cut.io s.pending session).activity = true) :
    turn env s (world,cut) = (serveSession env world session (cut.io s.pending session)).map
      (fun visited => (⟨visited.session,s.pending.drop (cut.taken env.apg s.pending)⟩,visited.effects)) := by
  obtain ⟨_,pending⟩ := s
  obtain rfl : _ = some session := present
  have poll : (cut.io pending session).pollError = false := rfl
  simp only at active
  cases served : serveSession env world session (cut.io pending session) with
  | error fault => simp [turn,visitSession,poll,healthy,served,Except.map]
  | ok visited => simp [turn,visitSession,poll,healthy,active,served,Except.map]

theorem serveSession_reads (active : io.activity = true) (ran : serveSession env world session io = .ok visited) :
    ∃ more, visited.effects = .opcodeRead io.opcode.bytes :: more := by
  cases serveSession_parts ran with
  | idle quiet => cases quiet.symm.trans active
  | short | characters | selection | unknown => exact ⟨_,rfl⟩

theorem io_opcode (cut : Cut) (apg : ByteBuffer) (packet : ClientPacket) (tail : Bytes) (session : PlayerSession)
    (both : cut.second = 1) :
    (cut.io (packet.buffer apg ++ tail) session).opcode = .ofBytes (apg.putShort packet.opcode.code) := by
  simp only [Cut.io]
  rw [opcode_whole cut apg packet tail both]

theorem io_characterID (cut : Cut) (apg : ByteBuffer) (characterID : UInt64) (tail : Bytes) (session : PlayerSession)
    (all : cut.idBytes = 7) : (cut.io ((ClientPacket.characterSelect characterID).buffer apg ++ tail) session).characterID =
      .ofBytes (apg.putLong characterID) := by
  simp only [Cut.io]
  rw [buffer_append,List.drop_left' (apg.putShort_length _),all]
  exact congrArg Recv.ofBytes (List.take_left' (apg.putLong_length _))

structure Served (world : World) (session : PlayerSession) (packet : ClientPacket) (first : Bytes) (visited : Visited) :
    Prop where
  alive : ∃ after, visited.session = some after ∧ after.playerID = session.playerID ∧ after.socket.error = false ∧
    after.socket.connected = (session.socket.connected && serves world session.playerID packet)
  calls : visited.effects.filter observed = .opcodeRead first :: calls packet

theorem short_result (apg : ByteBuffer) (v : UInt16) : (Recv.ofBytes (apg.putShort v)).result = 2 := by
  rw [Recv.ofBytes_result,apg.putShort_length]; rfl

theorem long_result (apg : ByteBuffer) (v : UInt64) : (Recv.ofBytes (apg.putLong v)).result = 8 := by
  rw [Recv.ofBytes_result,apg.putLong_length]; rfl

structure Healthy (io : SessionIO) : Prop where
  opcodeError : io.opcodeError = false
  characterIDError : io.characterIDError = false
  sendResult : io.sendResult = 1
  sendError : io.sendError = false

theorem reply_healthy (calm : Healthy io) : reply session io = session := by
  simp [reply,calm.sendError]

theorem long_exact (apg : ByteBuffer) (v : UInt64) : apg.getLong (apg.putLong v) = v := by
  simpa using apg.getLong_put v []

theorem select_parts (calm : Healthy io) (received : io.characterID = .ofBytes (env.apg.putLong characterID))
    (ran : processCharacterSelect env world session io = .ok visited) :
    (∃ after, visited.session = some after ∧ after.playerID = session.playerID ∧
      after.socket.error = session.socket.error ∧
      after.socket.connected = (session.socket.connected && owns world session.playerID characterID)) ∧
    visited.effects.filter observed = [.characterSelect characterID] := by
  have kept : reply session io = session := reply_healthy calm
  have read : env.apg.getLong io.characterID.bytes = characterID := by rw [received,Recv.bytes_ofBytes,long_exact]
  have mine : ∀ character, ownedCharacters world session characterID = [character] →
      session.socket.connected = (session.socket.connected && owns world session.playerID characterID) := by
    intro character row
    unfold ownedCharacters at row
    simp [owns,row]
  have selection := characterSelect_parts ran
  simp only [calm.characterIDError,Socket.raise_false] at selection
  cases selection with
  | malformed short => simp [received,long_result] at short
  | unavailable whole row message =>
    rw [kept,read]
    exact ⟨⟨session,rfl,rfl,rfl,mine _ (read ▸ row)⟩,rfl⟩
  | instructed whole row named indexed found taken =>
    rw [calm.sendResult,kept] at taken
    obtain rfl := taken
    rw [read]
    exact ⟨⟨_,rfl,rfl,rfl,mine _ (read ▸ row)⟩,rfl⟩
  | refused whole others =>
    have foreign : owns world session.playerID characterID = false := by
      rw [read] at others
      unfold ownedCharacters at others
      simp only [owns,beq_eq_false_iff_ne]
      intro one
      obtain ⟨character,single⟩ := List.length_eq_one_iff.mp one
      exact others character single
    rw [foreign,Bool.and_false,read]
    exact ⟨⟨_,rfl,rfl,rfl,rfl⟩,rfl⟩

theorem select_runs (answerable : Answerable world session.playerID characterID)
    (received : io.characterID = .ofBytes (env.apg.putLong characterID)) :
    ∃ visited, processCharacterSelect env world session io = .ok visited := by
  cases ran : processCharacterSelect env world session io with
  | ok visited => exact ⟨visited,rfl⟩
  | error fault =>
    simp only [processCharacterSelect,received,long_result,Recv.bytes_ofBytes,long_exact,ne_eq,not_true,if_false] at ran
    split at ran
    · rename_i character one
      split at ran
      · cases ran
      · rename_i name named
        split at ran
        · cases ran
        · rename_i address indexed
          split at ran
          · rename_i dangling
            exact absurd dangling (answerable character one name address named indexed)
          · split at ran <;> cases ran
    · cases ran

theorem select_answers (received : io.characterID = .ofBytes (env.apg.putLong characterID))
    (ran : processCharacterSelect env world session io = .ok visited) : Answerable world session.playerID characterID := by
  intro character found name address named indexed dangling
  simp [processCharacterSelect,received,long_result,long_exact,ownedCharacters,found,named,indexed,dangling] at ran

theorem cut_healthy (cut : Cut) (pending : Bytes) (session : PlayerSession) : Healthy (cut.io pending session) :=
  ⟨rfl,rfl,rfl,rfl⟩

theorem serve_select (calm : Healthy io) (active : io.activity = true)
    (opcode : io.opcode = .ofBytes (env.apg.putShort ClientOpcode.CHARACTER_SELECT.code)) :
    serveSession env world session io = (processCharacterSelect env world session io).map (fun visited =>
      ⟨visited.session,.opcodeRead (env.apg.putShort ClientOpcode.CHARACTER_SELECT.code) :: visited.effects⟩) := by
  cases chose : processCharacterSelect env world session io <;>
    simp [serveSession,active,opcode,calm.opcodeError,short_result,env.apg.getShort_exact,ClientOpcode.code,chose,Except.map]

theorem whole_served (env : Env) (cut : Cut) (tail : Bytes) (healthy : session.socket.error = false)
    (handles : Handles world session.playerID cut packet)
    (active : (cut.io (packet.buffer env.apg ++ tail) session).activity = true) :
    ∃ visited, serveSession env world session (cut.io (packet.buffer env.apg ++ tail) session) = .ok visited ∧
      Served world session packet (env.apg.putShort packet.opcode.code) visited := by
  have both : cut.second = 1 := by
    cases packet with
    | authenticationIdentity identity => cases handles
    | versionMismatch | clientRequestCharacters => exact handles
    | characterSelect characterID => exact handles.1
  have opcode := io_opcode cut env.apg packet tail session both
  have calm := cut_healthy cut (packet.buffer env.apg ++ tail) session
  cases packet with
  | authenticationIdentity identity => cases handles
  | versionMismatch =>
    refine ⟨⟨some session,[.opcodeRead (env.apg.putShort ClientOpcode.VERSION_MISMATCH.code)]⟩,?_,?_⟩
    · simp [serveSession,active,opcode,calm.opcodeError,short_result,ClientPacket.opcode,env.apg.getShort_exact,
        ClientOpcode.code]
    · exact ⟨⟨session,rfl,rfl,healthy,by simp [serves]⟩,rfl⟩
  | clientRequestCharacters =>
    refine ⟨⟨some session,[.opcodeRead (env.apg.putShort ClientOpcode.REQUEST_CHARACTERS.code),.characterRequest,
      .sent (.playerCharacters (world.characters.filter (·.playerID == session.playerID))) 1]⟩,?_,?_⟩
    · simp [serveSession,processCharacterRequest,reply,active,opcode,calm.opcodeError,calm.sendError,calm.sendResult,
        short_result,ClientPacket.opcode,env.apg.getShort_exact]
    · exact ⟨⟨session,rfl,rfl,healthy,by simp [serves]⟩,rfl⟩
  | characterSelect characterID =>
    obtain ⟨_,all,answerable⟩ := handles
    have received := io_characterID cut env.apg characterID tail session all
    obtain ⟨visited,ran⟩ := select_runs answerable received
    obtain ⟨⟨after,same,player,error,connected⟩,called⟩ := select_parts calm received ran
    refine ⟨⟨visited.session,.opcodeRead (env.apg.putShort ClientOpcode.CHARACTER_SELECT.code) :: visited.effects⟩,?_,?_⟩
    · rw [serve_select calm active opcode,ran]; rfl
    · exact ⟨⟨after,same,player,error.trans healthy,connected⟩,(List.filter_cons_of_pos rfl).trans (congrArg (List.cons _) called)⟩

theorem taken_whole (apg : ByteBuffer) (cut : Cut) (packet : ClientPacket) (tail : Bytes) (both : cut.second = 1) :
    cut.taken apg (packet.buffer apg ++ tail) =
      if packet.opcode = .CHARACTER_SELECT then 2 + (1 + cut.idBytes.val) else 2 := by
  unfold Cut.taken
  rw [opcode_whole cut apg packet tail both,apg.putShort_length,apg.getShort_exact,both]
  cases packet <;> simp [ClientPacket.opcode,ClientOpcode.code]

theorem handles_taken (apg : ByteBuffer) (tail : Bytes) (handles : Handles world playerID cut packet) :
    (packet.buffer apg ++ tail).drop (cut.taken apg (packet.buffer apg ++ tail)) = tail := by
  cases packet with
  | authenticationIdentity identity => cases handles
  | versionMismatch | clientRequestCharacters =>
    rw [taken_whole apg cut _ tail handles]
    exact List.drop_left' (by simp [ClientPacket.buffer,ClientPacket.payload,ClientPacket.opcode,apg.putShort_length])
  | characterSelect characterID =>
    rw [taken_whole apg cut _ tail handles.1,handles.2.1]
    apply List.drop_left'
    rw [ClientPacket.buffer,List.length_append,apg.putShort_length,ClientPacket.payload,apg.putLong_length]
    rfl

theorem io_activity (cut : Cut) (some_ : pending ≠ []) :
    (cut.io pending session).activity = (session.socket.connected && cut.arrives) := by
  cases pending with
  | nil => exact absurd rfl some_
  | cons byte rest => simp [Cut.io,Bool.and_comm]

theorem buffer_nonempty (apg : ByteBuffer) (packet : ClientPacket) (tail : Bytes) : packet.buffer apg ++ tail ≠ [] := by
  intro none
  have := congrArg List.length none
  simp [ClientPacket.buffer,apg.putShort_length] at this

theorem tracks_active {cut : Cut} (tracks : Tracks apg playerID s ⟨packet :: rest,true⟩) (arrives : cut.arrives = true) :
    ∃ session, s.session = some session ∧ session.playerID = playerID ∧ session.socket.error = false ∧
      session.socket.connected = true ∧ s.pending = packet.buffer apg ++ rest.flatMap (ClientPacket.buffer apg) ∧
      (cut.io s.pending session).activity = true := by
  obtain ⟨⟨session,present,player,healthy,connected⟩,pending⟩ := tracks
  rw [List.flatMap_cons] at pending
  refine ⟨session,present,player,healthy,connected,pending,?_⟩
  rw [io_activity cut (by rw [pending]; exact buffer_nonempty _ _ _),connected,arrives]
  rfl

theorem turn_handles (tracks : Tracks env.apg playerID s ⟨packet :: rest,true⟩) (arrives : cut.arrives = true)
    (handles : Handles world playerID cut packet) :
    ∃ next fresh, turn env s (world,cut) = .ok (next,fresh) ∧
      fresh.filter observed = .opcodeRead (env.apg.putShort packet.opcode.code) :: calls packet ∧
      Tracks env.apg playerID next ⟨rest,serves world playerID packet⟩ := by
  obtain ⟨session,present,rfl,healthy,connected,pending,active⟩ := tracks_active tracks arrives
  obtain ⟨visited,ran,⟨after,left,player,error,still⟩,called⟩ :=
    whole_served env cut _ healthy handles (pending ▸ active)
  refine ⟨_,_,by rw [turn_active env world cut present healthy active,pending,ran]; rfl,called,?_,?_⟩
  · exact ⟨after,left,player,error,by rw [still,connected,Bool.true_and]⟩
  · exact handles_taken env.apg _ handles

-- The opcode read fixes recv(2), and what is left over fixes recv(8).
theorem turn_handled (tracks : Tracks env.apg playerID s ⟨packet :: rest,true⟩) (arrives : cut.arrives = true)
    (ran : turn env s (world,cut) = .ok (next,fresh))
    (called : fresh.filter observed = .opcodeRead (env.apg.putShort packet.opcode.code) :: calls packet)
    (onward : next.pending = rest.flatMap (ClientPacket.buffer env.apg)) : Handles world playerID cut packet := by
  obtain ⟨session,present,rfl,healthy,_,pending,active⟩ := tracks_active tracks arrives
  rw [turn_active env world cut present healthy active] at ran
  obtain ⟨visited,served,same⟩ := map_ok ran
  obtain ⟨rfl,rfl⟩ := Prod.mk.inj same
  have opcode : cut.opcode s.pending = env.apg.putShort packet.opcode.code := by
    obtain ⟨more,read⟩ := serveSession_reads active served
    rw [read] at called
    exact (Recv.bytes_ofBytes _).symm.trans (Effect.opcodeRead.inj (List.cons.inj called).1)
  have both : cut.second = 1 := by
    have := congrArg List.length opcode
    rw [env.apg.putShort_length,Cut.opcode,List.length_take] at this
    omega
  dsimp only at onward
  rw [pending] at onward active served
  rw [taken_whole env.apg cut packet _ both] at onward
  have lengths := congrArg List.length onward
  rw [List.length_drop,List.length_append,ClientPacket.buffer,List.length_append,env.apg.putShort_length] at lengths
  cases packet with
  | versionMismatch | clientRequestCharacters => exact both
  | authenticationIdentity identity =>
    simp [ClientPacket.opcode,ClientPacket.payload,putSized,env.apg.putShort_length] at lengths
    omega
  | characterSelect characterID =>
    simp only [ClientPacket.opcode,ClientPacket.payload,env.apg.putLong_length,if_true] at lengths
    have all : cut.idBytes = 7 := by omega
    refine ⟨both,all,?_⟩
    have io := io_opcode cut env.apg (.characterSelect characterID) (rest.flatMap (·.buffer env.apg)) session both
    rw [serve_select (cut_healthy cut _ session) active io] at served
    obtain ⟨chosen,answered,_⟩ := map_ok served
    exact select_answers (io_characterID cut env.apg characterID _ session all) answered

theorem turn_waits (env : Env) (world : World) (tracks : Tracks env.apg playerID s r) (waits : r.rest = [] ∨ (r.served && cut.arrives) = false) :
    turn env s (world,cut) = .ok (s,[]) := by
  obtain ⟨⟨session,present,rfl,healthy,connected⟩,pending⟩ := tracks
  apply turn_idle env world cut present healthy
  rcases waits with none | quiet
  · rw [none] at pending
    simp [Cut.io,pending]
  · rw [← connected] at quiet
    simp [Cut.io,Bool.and_comm cut.arrives,quiet]

theorem read_waits (apg : ByteBuffer) (playerID : UInt64) (world : World) (waits : r.rest = [] ∨ (r.served && cut.arrives) = false) :
    read apg playerID r (world,cut) = .ok (r,[]) := by
  obtain ⟨rest,served⟩ := r
  cases rest with
  | nil => rfl
  | cons packet rest =>
    rcases waits with none | quiet
    · cases none
    · simp only at quiet
      simp [read,quiet]

theorem whole_waits (waits : r.rest = [] ∨ (r.served && cut.arrives) = false) :
    Whole playerID r ((world,cut) :: events) ↔ Whole playerID r events := by
  obtain ⟨rest,served⟩ := r
  cases rest with
  | nil => cases events <;> simp [Whole]
  | cons packet rest =>
    rcases waits with none | quiet
    · cases none
    · simp only at quiet
      simp [Whole,quiet]

theorem read_packet (apg : ByteBuffer) (playerID : UInt64) (world : World) (packet : ClientPacket)
    (rest : List ClientPacket) (arrives : cut.arrives = true) : read apg playerID ⟨packet :: rest,true⟩ (world,cut) =
    .ok (⟨rest,serves world playerID packet⟩,.opcodeRead (apg.putShort packet.opcode.code) :: calls packet) := by
  simp [read,arrives]

theorem whole_packet (arrives : cut.arrives = true) : Whole playerID ⟨packet :: rest,true⟩ ((world,cut) :: events) ↔
    Handles world playerID cut packet ∧ Whole playerID ⟨rest,serves world playerID packet⟩ events := by
  simp [Whole,arrives]

theorem refines_whole (tracks : Tracks env.apg playerID s r) :
    Runs.Refines (turn env) (read env.apg playerID) observed (Tracks env.apg playerID) s r events ↔
      Whole playerID r events := by
  -- Tracks is what each turn hands on to the next, on both sides.
  induction events generalizing s r with
  | nil =>
    rw [Runs.refines_nil]
    exact iff_of_true tracks (by simp [Whole])
  | cons event events ih =>
    obtain ⟨world,cut⟩ := event
    by_cases waits : r.rest = [] ∨ (r.served && cut.arrives) = false
    · have still := turn_waits env world tracks waits
      have unread := read_waits env.apg playerID world waits
      rw [whole_waits waits,← ih tracks]
      constructor
      · intro refines
        obtain ⟨next,fresh,last,seen,ran,matched,_,onward⟩ := refines.head
        obtain ⟨rfl,rfl⟩ := Prod.mk.inj (Except.ok.inj (still.symm.trans ran))
        obtain ⟨rfl,rfl⟩ := Prod.mk.inj (Except.ok.inj (unread.symm.trans matched))
        exact onward
      · exact fun refines => .cons tracks still unread rfl refines
    · obtain ⟨_ | ⟨packet,rest⟩,served⟩ := r
      · exact absurd (.inl rfl) waits
      · obtain ⟨rfl,arrives⟩ : served = true ∧ cut.arrives = true := by simpa using waits
        have reading := read_packet env.apg playerID world packet rest arrives
        rw [whole_packet arrives]
        constructor
        · intro refines
          obtain ⟨next,fresh,last,seen,ran,matched,called,onward⟩ := refines.head
          obtain ⟨rfl,rfl⟩ := Prod.mk.inj (Except.ok.inj (reading.symm.trans matched))
          have later := onward.start
          exact ⟨turn_handled tracks arrives ran called later.pending,(ih later).mp onward⟩
        · intro whole
          obtain ⟨next,fresh,ran,called,later⟩ := turn_handles tracks arrives whole.1
          exact .cons tracks ran reading called ((ih later).mpr whole.2)

-- In a pass every session has its turn as if it were alone.
theorem visitSessions_turn (ran : visitSessions env world sessions ios = .ok (next,after,effects))
    (present : sessions[index]? = some (some session)) :
    ∃ visited before later,
      (visitSession env world session (ios.getD index SessionIO.quiet)).map Prod.snd = .ok visited ∧
      after[index]? = some visited.session ∧
      effects = before ++ visited.effects.map (Prod.mk session.socket.id) ++ later := by
  induction sessions generalizing world ios next after effects index with
  | nil => simp at present
  | cons head rest ih =>
    obtain ⟨first,middle,turned,tail,late,rfl,own,loop,rfl,rfl⟩ := visitSessions_cons ran
    cases index with
    | zero =>
      obtain rfl : first = session := by simpa using present
      refine ⟨turned,[],late,?_,rfl,rfl⟩
      cases ios <;> simp_all [Except.map]
    | succ index =>
      obtain ⟨visited,before,later,mine,left,split⟩ := ih loop (by simpa using present)
      refine ⟨visited,turned.effects.map (Prod.mk first.socket.id) ++ before,later,?_,left,?_⟩
      · rcases visitSession_parts own with ⟨_,rfl,_⟩ | ⟨_,_,rfl⟩
        · cases ios <;> simpa using mine
        · rw [visitSession_users] at mine
          cases ios <;> simpa using mine
      · simp [split]

theorem connected_turn {index : Nat} (ran : LoginServer.step env server (.connected ios) = .ok (next,fresh))
    (present : server.playerSessions[index]? = some (some session))
    (arrived : ios[index]? = some (cut.io pending session)) :
    ∃ left effects before later, turn env ⟨some session,pending⟩ (server.toWorld,cut) = .ok (left,effects) ∧
      (∀ kept, left.session = some kept → some kept ∈ next.playerSessions) ∧
      fresh = before ++ effects.map (Prod.mk session.socket.id) ++ later := by
  obtain ⟨last,sessions,loop,stored⟩ := processConnected_parts (step_connected_parts ran).1
  obtain ⟨visited,before,later,own,left,split⟩ := visitSessions_turn loop present
  rw [List.getD_eq_getElem?_getD,arrived,Option.getD_some] at own
  obtain ⟨⟨shared,alone⟩,went,rfl⟩ := map_ok own
  refine ⟨⟨alone.session,_⟩,alone.effects,before,later,by simp only [turn,went]; rfl,?_,split⟩
  intro kept same
  have within : some kept ∈ sessions := same ▸ List.mem_of_getElem? left
  rw [stored]
  exact List.mem_filter.mpr ⟨within,rfl⟩

-- The stream is read packet by packet exactly when every packet found is handled whole.
theorem session_stream (healthy : session.socket.error = false) (connected : session.socket.connected = true) :
    Runs.Refines (turn env) (read env.apg session.playerID) observed (Tracks env.apg session.playerID)
      ⟨some session,packets.flatMap (ClientPacket.buffer env.apg)⟩ ⟨packets,true⟩ events ↔
      Whole session.playerID ⟨packets,true⟩ events :=
  refines_whole ⟨⟨session,rfl,rfl,healthy,connected⟩,rfl⟩

-- A player with one character, on a map that the server does not know.
def player : PlayerSession := ⟨0,5,text "ann",[],0,0,⟨0,false,true⟩⟩

def lost : World :=
  (LoginServer.start .empty [⟨7,5,text "Ann",1,3,9,9,1,1⟩] [] .empty).toWorld

def cutting (second : Fin 2) (idBytes : Fin 8) : World × Cut := (lost,⟨true,second,idBytes⟩)

theorem session_stream_select :
    Runs.Refines (turn (.plain [])) (read .network 5) observed (Tracks .network 5)
      ⟨some player,[.versionMismatch,.characterSelect 7,.clientRequestCharacters].flatMap (ClientPacket.buffer .network)⟩
      ⟨[.versionMismatch,.characterSelect 7,.clientRequestCharacters],true⟩ [cutting 1 0,cutting 1 7,cutting 1 0] := by
  have healthy : player.socket.error = false := rfl
  apply (session_stream healthy rfl).mpr
  have unknown : Answerable lost player.playerID 7 := by
    intro _ _ _ _ named
    cases named
  exact ⟨rfl,⟨rfl,rfl,unknown⟩,rfl,trivial⟩

-- The two bytes of a request arrive one by one: the session goes, the request is lost.
theorem session_stream_segments :
    Runs.execute (turn (.plain [])) ⟨some player,ClientPacket.clientRequestCharacters.buffer .network⟩
      [cutting 0 0,cutting 0 0] = .ok (⟨none,[3]⟩,[.opcodeRead [0],.purged]) ∧
    ¬ Runs.Refines (turn (.plain [])) (read .network 5) observed (Tracks .network 5)
      ⟨some player,ClientPacket.clientRequestCharacters.buffer .network⟩ ⟨[.clientRequestCharacters],true⟩
      [cutting 0 0,cutting 0 0] := by
  refine ⟨rfl,fun refines => ?_⟩
  have tracks : Tracks (Env.plain []).apg 5 ⟨some player,ClientPacket.clientRequestCharacters.buffer .network⟩
      ⟨[.clientRequestCharacters],true⟩ := ⟨⟨player,rfl,rfl,rfl,rfl⟩,rfl⟩
  obtain ⟨both,_⟩ := (refines_whole tracks).mp refines
  cases both

end PlayPG.SessionStream
