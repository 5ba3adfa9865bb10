import PlayPG.Containers
import PlayPG.Packets

namespace PlayPG
open Bytes

structure Player where
  id : UInt64
  username : Bytes
  password : Bytes
  salt : Bytes
  languageID : UInt64
  locked : Bool
  joinDate : Nat
  lastLogin : Nat
  deriving DecidableEq

-- The players table: the id is the primary key and the email column is unique.
structure PlayersTable where
  rows : List Player
  uniqueId : (rows.map (·.id)).Nodup
  uniqueEmail : (rows.map (·.username)).Nodup

namespace PlayersTable

def empty : PlayersTable := ⟨[],List.nodup_nil,List.nodup_nil⟩

def query (table : PlayersTable) (username : Bytes) : List Player :=
  table.rows.filter (·.username == username)

def stamp (id : UInt64) (now : Nat) (row : Player) : Player :=
  if row.id = id then {row with lastLogin := now} else row

theorem stamp_id (id : UInt64) (now : Nat) : (fun row => (stamp id now row).id) = Player.id := by
  funext row; unfold stamp; split <;> rfl

theorem stamp_username (id : UInt64) (now : Nat) : (fun row => (stamp id now row).username) = Player.username := by
  funext row; unfold stamp; split <;> rfl

-- load by primary key, set lastLogin, update.
def setLastLogin (table : PlayersTable) (id : UInt64) (now : Nat) : PlayersTable where
  rows := table.rows.map (stamp id now)
  uniqueId := by simpa [List.map_map,Function.comp_def,stamp_id] using table.uniqueId
  uniqueEmail := by simpa [List.map_map,Function.comp_def,stamp_username] using table.uniqueEmail

end PlayersTable

-- The pointer is the allocation number of the object; no two sessions share it.
structure PlayerSession where
  pointer : Nat
  playerID : UInt64
  username : Bytes
  sessionKey : Bytes
  characterID : UInt64
  guid : UInt64
  socket : Socket
  deriving DecidableEq

def PlayerSession.generateSessionKey (md5 : Bytes → Bytes) (username : Bytes) (key : UInt64) : Bytes :=
  ByteArrayUtil.byteArrayToString (md5 (username ++ text (toString key.toNat)))

inductive IncomingConnectionState where
  | FRESH
  | CHALLENGE_SENT
  | LOGIN_FAILED
  | MAP_LIST
  | MAP_WAIT_ACK
  | DONE
  deriving DecidableEq

structure IncomingConnection where
  socket : Option Socket
  state : IncomingConnectionState
  loginAttempts : Int
  mapServerFriendlyName : Option Bytes
  mapServerPort : Option UInt16
  mapServerListenAddress : Option Bytes
  maps : Option (List Location)
  deriving DecidableEq

namespace IncomingConnection

def MAX_ATTEMPTS_ALLOWED : Int := 3

def ofSocket (socket : Socket) : IncomingConnection := ⟨some socket,.FRESH,0,none,none,none,none⟩

def getAttemptsRemaining (connection : IncomingConnection) : Int :=
  MAX_ATTEMPTS_ALLOWED - connection.loginAttempts

end IncomingConnection

structure MapServerConnection where
  connection : Socket
  maps : List Location
  friendlyName : Bytes
  hostname : Bytes
  port : UInt16
  deriving DecidableEq

def MapServerConnection.mapNames (server : MapServerConnection) : List Bytes := server.maps.map (·.locationName)

structure Env where
  apg : ByteBuffer
  parse : Bytes → Json
  crypto : RSACrypto
  hasher : SHACrypto
  md5 : Bytes → Bytes
  friendlyName : Bytes
  versionString : Bytes
  gitHash : Bytes

def Env.challenge (env : Env) : AuthenticationChallenge :=
  ⟨env.versionString,env.gitHash,env.friendlyName,env.crypto.getPublicKeyPEM⟩

-- A server with plain cryptography that knows these documents, for concrete runs.
def Env.plain (documents : List Json) : Env where
  apg := .network
  parse := Json.known documents
  crypto := ⟨[],some (.plain 32),true,true⟩
  hasher := .zero
  md5 := id
  friendlyName := text "PlayPG"
  versionString := text "0.0.1"
  gitHash := []

-- The members of LoginServer that the handlers share, and the database.
structure World where
  players : PlayersTable
  characters : List Character
  playerSessions : List (Option PlayerSession)
  usernameToPlayerSession : UnorderedMap Bytes Nat
  sessionsCreated : Nat
  allMaps : List Location
  mapServers : StdVector MapServerConnection
  mapIDToName : UnorderedMap UInt64 Bytes
  mapNameToConnection : UnorderedMap Bytes StdVector.Address

namespace World

-- PlayerSession(playerID, username, socket, random), in a fresh allocation.
def newSession (world : World) (md5 : Bytes → Bytes) (person : Player) (username : Bytes) (socket : Socket)
    (diceRoll : UInt64) : PlayerSession where
  pointer := world.sessionsCreated
  playerID := person.id
  username := username
  sessionKey := PlayerSession.generateSessionKey md5 username diceRoll
  characterID := 0
  guid := UInt64.ofNat world.sessionsCreated
  socket := socket

-- The session goes into the list and the index, then the row gets its lastLogin.
def addSession (world : World) (session : PlayerSession) (now : Nat) : World := {world with
  players := world.players.setLastLogin session.playerID now
  playerSessions := world.playerSessions ++ [some session]
  usernameToPlayerSession := world.usernameToPlayerSession.emplace session.username session.pointer
  sessionsCreated := world.sessionsCreated + 1}

-- emplace_back, then the new element is indexed under each of its map names.
def addMapServer (world : World) (newestServer : MapServerConnection) : World := {world with
  mapServers := world.mapServers.emplaceBack newestServer
  mapNameToConnection := world.mapNameToConnection.emplaceAll newestServer.mapNames
    (world.mapServers.emplaceBack newestServer).backAddress}

variable (world : World) (session : PlayerSession) (now : Nat) (server : MapServerConnection)

@[simp] theorem addSession_sessions : (world.addSession session now).playerSessions =
    world.playerSessions ++ [some session] := rfl
@[simp] theorem addSession_mapServers : (world.addSession session now).mapServers = world.mapServers := rfl
@[simp] theorem addMapServer_sessions : (world.addMapServer server).playerSessions = world.playerSessions := rfl
@[simp] theorem addMapServer_mapServers : (world.addMapServer server).mapServers =
    world.mapServers.emplaceBack server := rfl

end World

-- What the socket and the clocks answer while one connection is handled.
structure SocketIO where
  pollError : Bool
  activity : Bool
  recv : Recv
  recvError : Bool
  sendResult : Int
  sendError : Bool
  diceRoll : UInt64
  now : Nat
  deriving DecidableEq

def SocketIO.delivers (bytes : Bytes) : SocketIO := ⟨false,true,.ofBytes bytes,false,1,false,0,0⟩

-- The calls of a handler that can be seen from outside it.
inductive Effect where
  | accepted
  | received (bytes : Bytes)
  | sent (packet : ServerPacket) (result : Int)
  | loginAttempt (authID : AuthenticationIdentity)
  | sessionCreated
  | mapServerRegistered
  | opcodeRead (bytes : Bytes)
  | characterRequest
  | characterSelect (characterID : UInt64)
  | purged
  deriving DecidableEq

structure Handled where
  world : World
  connection : IncomingConnection
  effects : List Effect

def Handled.after (effects : List Effect) (handled : Handled) : Handled :=
  {handled with effects := effects ++ handled.effects}

namespace IncomingHandler

def processFreshSocket (env : Env) (world : World) (connection : IncomingConnection) (io : SocketIO) :
    Except Fault Handled :=
  match connection.socket with
  | none => .error .nullSocket
  | some socket =>
    let socket := socket.raise io.sendError
    let effects := [.sent (.authenticationChallenge env.challenge) io.sendResult]
    if socket.error then .ok ⟨world,{connection with socket := some socket,state := .DONE},effects⟩
    else .ok ⟨world,{connection with socket := some socket,state := .CHALLENGE_SENT},effects⟩

-- The four branches that cost an attempt; the response is built after the increment.
def failAttempt (world : World) (connection : IncomingConnection) (io : SocketIO) (message : Bytes) :
    Except Fault Handled :=
  match connection.socket with
  | none => .error .nullSocket
  | some socket =>
    let connection := {connection with
      state := .LOGIN_FAILED
      loginAttempts := connection.loginAttempts + 1
      socket := some (socket.raise io.sendError)}
    .ok ⟨world,connection,[.sent (.authenticationResponse ⟨false,connection.getAttemptsRemaining,message⟩) io.sendResult]⟩

def lockedMessage : Bytes :=
  text "Account is locked. If you think this is an error, please contact an administrator."

def processLoginAttempt (env : Env) (world : World) (connection : IncomingConnection)
    (authID : AuthenticationIdentity) (io : SocketIO) : Except Fault Handled :=
  match env.crypto.decryptStringPrivate authID.password with
  | .error fault => .error fault
  | .ok decPass =>
    match world.players.query authID.username with
    | [] => failAttempt world connection io (text "Authentication failure.")
    | person :: _ =>
      let dbSalt := SHACrypto.stringToSalt person.salt
      match connection.socket with
      | none => .error .nullSocket
      | some socket =>
        if person.locked then
          .ok ⟨world,{connection with socket := some (socket.raise io.sendError).disconnect,state := .DONE},
            [.sent (.authenticationResponse ⟨false,0,lockedMessage⟩) io.sendResult]⟩
        else
          let hashedPass := env.hasher.hashPasswordSHA256 decPass dbSalt
          let hashString := SHACrypto.sha256ToString hashedPass
          if person.password = hashString then
            let newSession := world.newSession env.md5 person authID.username (socket.raise io.sendError) io.diceRoll
            .ok ⟨world.addSession newSession io.now,{connection with socket := none,state := .DONE},
              [.sent (.authenticationResponse ⟨true,connection.getAttemptsRemaining,text "Authentication successful."⟩)
                io.sendResult,.sessionCreated]⟩
          else failAttempt world connection io (text "Authentication failure.")

-- The test after the opcode branches of the two login states.
def exhausted (handled : Handled) : Handled :=
  if handled.connection.loginAttempts = IncomingConnection.MAX_ATTEMPTS_ALLOWED then
    {handled with connection := {handled.connection with state := .DONE}}
  else handled

def receivedJSON (env : Env) (bytes : Bytes) : Bytes := sizedBody env.apg bytes

def attemptAuth (env : Env) (world : World) (connection : IncomingConnection) (io : SocketIO) :
    Except Fault Handled :=
  match AuthenticationIdentity.fromJSON env.parse (receivedJSON env io.recv.bytes) with
  | .error fault => .error fault
  | .ok authID => (processLoginAttempt env world connection authID io).map (Handled.after [.loginAttempt authID])

structure RegistrationRequest where
  name : Bytes
  address : Bytes
  port : UInt16

def readRegistrationRequest (env : Env) (bytes : Bytes) : RegistrationRequest :=
  let nameLen := (env.apg.getShort (bytes.drop 2)).toNat
  let name := env.apg.getStringByLength nameLen (bytes.drop 4)
  let afterName := bytes.drop (4 + nameLen)
  let addressLen := (env.apg.getShort afterName).toNat
  let address := env.apg.getStringByLength addressLen (afterName.drop 2)
  ⟨name,address,env.apg.getShort (afterName.drop (2 + addressLen))⟩

-- The registration response carries a constant, and the key pair is not used.
def processMapAuthenticationRequest (world : World) (connection : IncomingConnection) (io : SocketIO) :
    Except Fault (Handled × Bool) :=
  match connection.socket with
  | none => .error .nullSocket
  | some socket =>
    let connection := {connection with socket := some (socket.raise io.sendError)}
    let effects := [.sent (.mapServerRegistrationResponse (text "hello, world")) io.sendResult]
    if io.sendResult ≤ 0 then .ok (⟨world,connection,effects⟩,false)
    else .ok (⟨world,{connection with state := .MAP_LIST},effects⟩,true)

def processChallengeSentSocket (env : Env) (world : World) (connection : IncomingConnection) (io : SocketIO) :
    Except Fault Handled :=
  match connection.socket with
  | none => .error .nullSocket
  | some socket =>
    if !io.activity then .ok ⟨world,connection,[]⟩
    else
      let connection := {connection with socket := some (socket.raise io.recvError)}
      let received := [.received io.recv.bytes]
      if io.recv.result = 0 then .ok ⟨world,{connection with state := .DONE},received⟩
      else
        let opcode := env.apg.getShort io.recv.bytes
        if opcode = ClientOpcode.LOGIN_AUTHENTICATION_IDENTITY.code then
          (attemptAuth env world connection io).map (exhausted ∘ Handled.after received)
        else if opcode = ClientOpcode.VERSION_MISMATCH.code then
          .ok ⟨world,{connection with state := .DONE},received⟩
        else if opcode = ServerOpcode.MAP_SERVER_REGISTRATION_REQUEST.code then
          let request := readRegistrationRequest env io.recv.bytes
          let connection := {connection with
            mapServerFriendlyName := some request.name
            mapServerListenAddress := some request.address
            mapServerPort := some request.port}
          match processMapAuthenticationRequest world connection io with
          | .error fault => .error fault
          | .ok (handled,false) => .ok (handled.after received)
          | .ok (handled,true) => .ok (exhausted (handled.after received))
        else
          (failAttempt world connection io (text "Unexpected data.")).map (exhausted ∘ Handled.after received)

def processLoginFailedSocket (env : Env) (world : World) (connection : IncomingConnection) (io : SocketIO) :
    Except Fault Handled :=
  match connection.socket with
  | none => .error .nullSocket
  | some socket =>
    if !io.activity then .ok ⟨world,connection,[]⟩
    else
      let connection := {connection with socket := some (socket.raise io.recvError)}
      let received := [.received io.recv.bytes]
      if io.recv.result ≤ 0 then .ok ⟨world,{connection with state := .DONE},received⟩
      else if env.apg.getShort io.recv.bytes = ClientOpcode.LOGIN_AUTHENTICATION_IDENTITY.code then
        (attemptAuth env world connection io).map (exhausted ∘ Handled.after received)
      else
        (failAttempt world connection io (text "Unexpected data.")).map (exhausted ∘ Handled.after received)

-- The search stops at the first of allMaps with that name, whatever its hash.
def requiredMap (world : World) (mapID : Location) : Option Location :=
  match world.allMaps.find? (fun ourMap => mapID.locationName == ourMap.locationName) with
  | none => none
  | some ourMap =>
    if mapID.knownMD5Hash = ourMap.knownMD5Hash then
      match world.mapNameToConnection mapID.locationName with
      | none => some ourMap
      | some _ => none
    else none

def requiredMaps (world : World) (mapHashes : List Location) : List Location :=
  mapHashes.filterMap (requiredMap world)

def processMapListSocket (env : Env) (world : World) (connection : IncomingConnection) (io : SocketIO) :
    Except Fault Handled :=
  match connection.socket with
  | none => .error .nullSocket
  | some socket =>
    if !io.activity then .ok ⟨world,connection,[]⟩
    else
      let connection := {connection with socket := some (socket.raise io.recvError)}
      let received := [.received io.recv.bytes]
      if io.recv.result = 0 then .ok ⟨world,{connection with state := .DONE},received⟩
      else if env.apg.getShort io.recv.bytes ≠ ServerOpcode.MAP_SERVER_MAP_LIST.code then
        .ok ⟨world,{connection with state := .DONE},received⟩
      else
        match MapServerMapList.fromJSON env.parse (receivedJSON env io.recv.bytes) with
        | .error fault => .error fault
        | .ok mapHashes =>
          let responseMapList := requiredMaps world mapHashes
          let connection := {connection with socket := some ((socket.raise io.recvError).raise io.sendError)}
          if responseMapList.isEmpty then
            .ok ⟨world,{connection with state := .DONE},received ++ [.sent .mapServerNotNeeded io.sendResult]⟩
          else
            .ok ⟨world,{connection with maps := some responseMapList,state := .MAP_WAIT_ACK},
              received ++ [.sent (.mapServerMapList responseMapList) io.sendResult]⟩

def require (message : String) (value : Option α) : Except Fault α :=
  match value with
  | none => .error (.require (text message))
  | some value => .ok value

-- The packet itself is not looked at: whatever was received counts as the ACK.
def processMapWaitAckSocket (world : World) (connection : IncomingConnection) (io : SocketIO) :
    Except Fault Handled :=
  match connection.socket with
  | none => .error .nullSocket
  | some socket =>
    if !io.activity then .ok ⟨world,connection,[]⟩
    else do
      let maps ← require "Connection maps must be initialised when waiting for ack." connection.maps
      let friendlyName ← require "Connection friendly name must be initialised when waiting for ack."
        connection.mapServerFriendlyName
      let port ← require "Connection port must be initialised when waiting for ack." connection.mapServerPort
      let address ← require "Connection address must be initialised when waiting for ack."
        connection.mapServerListenAddress
      let socket := socket.raise io.recvError
      let received := [.received io.recv.bytes]
      if io.recv.result = 0 then .ok ⟨world,{connection with socket := some socket,state := .DONE},received⟩
      else
        let newestServer : MapServerConnection := ⟨socket,maps,friendlyName,address,port⟩
        .ok ⟨world.addMapServer newestServer,{connection with socket := none,maps := some [],state := .DONE},
          received ++ [.mapServerRegistered]⟩

-- The body of the loop over incomingConnections in processIncoming.
def processIncoming (env : Env) (world : World) (connection : IncomingConnection) (io : SocketIO) :
    Except Fault Handled :=
  if connection.state = .DONE then .ok ⟨world,connection,[]⟩
  else
    match connection.socket with
    | none => .error .nullSocket
    | some socket =>
      let connection := {connection with socket := some (socket.raise io.pollError)}
      if (socket.raise io.pollError).error then .ok ⟨world,{connection with state := .DONE},[]⟩
      else
        match connection.state with
        | .FRESH => processFreshSocket env world connection io
        | .CHALLENGE_SENT => processChallengeSentSocket env world connection io
        | .LOGIN_FAILED => processLoginFailedSocket env world connection io
        | .MAP_LIST => processMapListSocket env world connection io
        | .MAP_WAIT_ACK => processMapWaitAckSocket world connection io
        | .DONE => .ok ⟨world,connection,[]⟩

end IncomingHandler
end PlayPG
