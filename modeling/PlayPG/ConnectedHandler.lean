import PlayPG.Runs
import PlayPG.LoginServer

namespace PlayPG
open Bytes

structure SessionIO where
  pollError : Bool
  activity : Bool
  opcode : Recv
  opcodeError : Bool
  characterID : Recv
  characterIDError : Bool
  sendResult : Int
  sendError : Bool
  deriving DecidableEq

def SessionIO.quiet : SessionIO := ⟨false,false,.nothing 0,false,.nothing 0,false,0,false⟩

-- A session after its turn in a pass: its index entry goes when the session does.
structure Visited where
  session : Option PlayerSession
  effects : List Effect

namespace ConnectedHandler

-- put(&packet.buffer) and send() on the socket of a session.
def reply (session : PlayerSession) (io : SessionIO) : PlayerSession :=
  {session with socket := session.socket.raise io.sendError}

def processCharacterRequest (world : World) (session : PlayerSession) (io : SessionIO) : Visited :=
  let characters := world.characters.filter (·.playerID == session.playerID)
  let session := reply session io
  let effects := [.characterRequest,.sent (.playerCharacters characters) io.sendResult]
  if io.sendResult = 0 then ⟨some {session with socket := session.socket.disconnect.setError},effects⟩
  else ⟨some session,effects⟩

def unrecognisedMap : Bytes :=
  text "That character's current map is not recognised by this server. Are you connecting to the correct server?"

def noConnectedMapServer : Bytes :=
  text "That character's current map doesn't currently have a connected map server. Please try again later."

def ownedCharacters (world : World) (session : PlayerSession) (characterID : UInt64) : List Character :=
  world.characters.filter (fun c => c.playerID == session.playerID && c.id == characterID)

def processCharacterSelect (env : Env) (world : World) (session : PlayerSession) (io : SessionIO) :
    Except Fault Visited :=
  let session := {session with socket := session.socket.raise io.characterIDError}
  if io.characterID.result ≠ 8 then .ok ⟨some (reply session io),[.sent .malformedPacket io.sendResult]⟩
  else
    let theirCharacterID := env.apg.getLong io.characterID.bytes
    let selected := Effect.characterSelect theirCharacterID
    match ownedCharacters world session theirCharacterID with
    | [character] =>
      match world.mapIDToName character.locationID with
      | none => .ok ⟨some (reply session io),[selected,.sent (.noMapServerError unrecognisedMap) io.sendResult]⟩
      | some locationName =>
        match world.mapNameToConnection locationName with
        | none => .ok ⟨some (reply session io),[selected,.sent (.noMapServerError noConnectedMapServer) io.sendResult]⟩
        | some mapConnectionPtr =>
          match world.mapServers.deref mapConnectionPtr with
          | none => .error .danglingPointer
          | some server =>
            let msci := ServerPacket.mapServerConnectionInstructions ⟨server.friendlyName,server.hostname,server.port⟩
            let session := reply session io
            if io.sendResult = 0 then .ok ⟨some session,[selected,.sent msci io.sendResult]⟩
            else .ok ⟨some {session with characterID := theirCharacterID},[selected,.sent msci io.sendResult]⟩
    | _ => .ok ⟨some {session with socket := session.socket.disconnect},[selected]⟩

-- The body of the loop over playerSessions for a session whose socket has no error.
def serveSession (env : Env) (world : World) (session : PlayerSession) (io : SessionIO) : Except Fault Visited :=
  if !io.activity then .ok ⟨some session,[]⟩
  else
    let session := {session with socket := session.socket.raise io.opcodeError}
    let read := [.opcodeRead io.opcode.bytes]
    if io.opcode.result ≠ 2 then .ok ⟨some {session with socket := session.socket.setError},read⟩
    else
      let opcode := env.apg.getShort io.opcode.bytes
      if opcode = ClientOpcode.REQUEST_CHARACTERS.code then
        let visited := processCharacterRequest world session io
        .ok ⟨visited.session,read ++ visited.effects⟩
      else if opcode = ClientOpcode.CHARACTER_SELECT.code then
        match processCharacterSelect env world session io with
        | .error fault => .error fault
        | .ok visited => .ok ⟨visited.session,read ++ visited.effects⟩
      else .ok ⟨some session,read⟩

-- One turn of the loop; a socket in error takes the session and its name away.
def visitSession (env : Env) (world : World) (session : PlayerSession) (io : SessionIO) :
    Except Fault (World × Visited) :=
  let session := {session with socket := session.socket.raise io.pollError}
  if session.socket.error then
    .ok ({world with usernameToPlayerSession := world.usernameToPlayerSession.erase session.username},
      ⟨none,[.purged]⟩)
  else
    match serveSession env world session io with
    | .error fault => .error fault
    | .ok visited => .ok (world,visited)

-- The loop over playerSessions; a null entry would be dereferenced.
def visitSessions (env : Env) : World → List (Option PlayerSession) → List SessionIO →
    Except Fault (World × List (Option PlayerSession) × List (Nat × Effect))
  | world,[],_ => .ok (world,[],[])
  | _,none :: _,_ => .error .nullSession
  | world,some session :: rest,ios =>
    match visitSession env world session (ios.headD SessionIO.quiet) with
    | .error fault => .error fault
    | .ok (world,visited) =>
      match visitSessions env world rest ios.tail with
      | .error fault => .error fault
      | .ok (world,sessions,effects) =>
        .ok (world,visited.session :: sessions,visited.effects.map (Prod.mk session.socket.id) ++ effects)

-- The null entries are erased after the loop, when some session was reset.
def processConnected (env : Env) (world : World) (ios : List SessionIO) :
    Except Fault (World × List (Nat × Effect)) :=
  match visitSessions env world world.playerSessions ios with
  | .error fault => .error fault
  | .ok (world,sessions,effects) =>
    let shouldClear := sessions.any Option.isNone
    .ok ({world with playerSessions := if shouldClear then sessions.filter Option.isSome else sessions},effects)

end ConnectedHandler

structure LoginServer extends World where
  incomingConnections : List IncomingConnection
  socketsAccepted : Nat

def LoginServer.start (players : PlayersTable) (characters : List Character) (allMaps : List Location)
    (mapIDToName : UnorderedMap UInt64 Bytes) : LoginServer where
  players := players
  characters := characters
  playerSessions := []
  usernameToPlayerSession := .empty
  sessionsCreated := 0
  allMaps := allMaps
  mapServers := .reserved allMaps.length
  mapIDToName := mapIDToName
  mapNameToConnection := .empty
  incomingConnections := []
  socketsAccepted := 0

-- Each thread steps under the mutex its code takes; other programs change the database.
inductive Event where
  | accept
  | incoming (index : Nat) (io : SocketIO)
  | purge
  | connected (ios : List SessionIO)
  | database (players : PlayersTable) (characters : List Character)

namespace LoginServer

def acceptSocket (server : LoginServer) : LoginServer × List (Nat × Effect) :=
  let socket : Socket := ⟨server.socketsAccepted,false,true⟩
  ({server with
    incomingConnections := server.incomingConnections ++ [.ofSocket socket]
    socketsAccepted := server.socketsAccepted + 1},[(socket.id,.accepted)])

-- An erased connection destroys the socket that it still owns.
def purgeDone (server : LoginServer) : LoginServer × List (Nat × Effect) :=
  let gone := server.incomingConnections.filter (·.state == .DONE)
  ({server with incomingConnections := server.incomingConnections.filter (·.state != .DONE)},
    (gone.filterMap (·.socket)).map (fun socket => (socket.id,.purged)))

-- The connection is a reference into the vector; the handlers reach nothing else in it.
def store (server : LoginServer) (index : Nat) (handled : Handled) : LoginServer := {handled.world with
  incomingConnections := server.incomingConnections.set index handled.connection
  socketsAccepted := server.socketsAccepted}

-- The socket that a connection owns when its turn begins names it in the trace.
def connectionId (connection : IncomingConnection) : Nat := (connection.socket.map Socket.id).getD 0

theorem connectionId_owned (owned : c.socket = some socket) : connectionId c = socket.id := by
  simp [connectionId,owned]

-- A handler is one step, although it sends before it records what it told: the states are those between handlers.
def step (env : Env) : Runs.Machine LoginServer Event (Nat × Effect) Fault
  | server,.accept => .ok server.acceptSocket
  | server,.incoming index io =>
    match server.incomingConnections[index]? with
    | none => .ok (server,[])
    | some connection =>
      match IncomingHandler.processIncoming env server.toWorld connection io with
      | .error fault => .error fault
      | .ok handled => .ok (server.store index handled,handled.effects.map (Prod.mk (connectionId connection)))
  | server,.purge => .ok server.purgeDone
  | server,.connected ios =>
    match ConnectedHandler.processConnected env server.toWorld ios with
    | .error fault => .error fault
    | .ok (world,effects) =>
      .ok ({world with
        incomingConnections := server.incomingConnections
        socketsAccepted := server.socketsAccepted},effects)
  | server,.database players characters => .ok ({server with players := players,characters := characters},[])

end LoginServer
end PlayPG
