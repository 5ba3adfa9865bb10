import PlayPG.Crypto

namespace PlayPG
open Bytes

inductive ClientOpcode where
  | LOGIN_AUTHENTICATION_IDENTITY
  | VERSION_MISMATCH
  | REQUEST_CHARACTERS
  | CHARACTER_SELECT
  | MOVE
  deriving DecidableEq

inductive ServerOpcode where
  | LOGIN_AUTHENTICATION_CHALLENGE
  | LOGIN_AUTHENTICATION_RESPONSE
  | MAP_SERVER_REGISTRATION_REQUEST
  | MAP_SERVER_REGISTRATION_RESPONSE
  | MAP_SERVER_MAP_LIST
  | MAP_SERVER_NOT_NEEDED
  | MAP_SERVER_ACK
  | MAP_SERVER_CONNECTION_INSTRUCTIONS
  | PLAYER_CHARACTERS
  | NO_MAP_SERVER_ERROR
  | SERVER_PUBKEY
  | MALFORMED_PACKET
  deriving DecidableEq

def ClientOpcode.code : ClientOpcode → UInt16
  | LOGIN_AUTHENTICATION_IDENTITY => 0x0001
  | VERSION_MISMATCH => 0x0002
  | REQUEST_CHARACTERS => 0x0003
  | CHARACTER_SELECT => 0x0004
  | MOVE => 0x000A

def ServerOpcode.code : ServerOpcode → UInt16
  | LOGIN_AUTHENTICATION_CHALLENGE => 0xFFFE
  | LOGIN_AUTHENTICATION_RESPONSE => 0xFFFD
  | MAP_SERVER_REGISTRATION_REQUEST => 0xFFFC
  | MAP_SERVER_REGISTRATION_RESPONSE => 0xFFFB
  | MAP_SERVER_MAP_LIST => 0xFFFA
  | MAP_SERVER_NOT_NEEDED => 0xFFF9
  | MAP_SERVER_ACK => 0xFFF8
  | MAP_SERVER_CONNECTION_INSTRUCTIONS => 0xFFF7
  | PLAYER_CHARACTERS => 0xFFF6
  | NO_MAP_SERVER_ERROR => 0xFFF5
  | SERVER_PUBKEY => 0xFFF4
  | MALFORMED_PACKET => 0xFFF3

structure Location where
  id : UInt64
  locationName : Bytes
  knownFileName : Bytes
  knownMD5Hash : Bytes
  version : UInt32
  deriving DecidableEq

structure Character where
  id : UInt64
  playerID : UInt64
  name : Bytes
  raceID : UInt64
  locationID : UInt64
  maxHP : Int
  currentHP : Int
  strength : Int
  intelligence : Int
  deriving DecidableEq

structure AuthenticationChallenge where
  version : Bytes
  versionHash : Bytes
  name : Bytes
  pubKey : Bytes
  deriving DecidableEq

structure AuthenticationResponse where
  successful : Bool
  attemptsRemaining : Int
  message : Bytes
  deriving DecidableEq

structure AuthenticationIdentity where
  username : Bytes
  password : Bytes
  deriving DecidableEq

structure MapServerConnectionInstructions where
  friendlyName : Bytes
  hostName : Bytes
  port : UInt16
  deriving DecidableEq

-- A typed getter applied to a member: d["name"].GetString() and its like.
def getField (get : Json → Except Json.Violation α) (d : Json) (name : Bytes) : Except Fault α :=
  match d.member name with
  | .error violation => .error (.json violation)
  | .ok value =>
    match get value with
    | .error violation => .error (.json violation)
    | .ok result => .ok result

theorem getField_ok {get : Json → Except Json.Violation α} : getField get d name = .ok result ↔
    ∃ value, d.member name = .ok value ∧ get value = .ok result := by
  unfold getField
  cases member : d.member name with
  | error violation => simp
  | ok value => cases got : get value <;> simp [got]

namespace AuthenticationChallenge

def document (t : AuthenticationChallenge) : Json :=
  .object [(text "name",.string (cString t.name)),(text "version",.string (cString t.version)),
    (text "versionHash",.string (cString t.versionHash)),(text "pubKey",.string (cString t.pubKey))]

def toJSON (t : AuthenticationChallenge) : Bytes := t.document.write

def fromJSON (parse : Bytes → Json) (json : Bytes) : Except Fault AuthenticationChallenge := do
  let d := parse (cString json)
  let version ← getField Json.getString d (text "version")
  let versionHash ← getField Json.getString d (text "versionHash")
  let name ← getField Json.getString d (text "name")
  let pubKey ← getField Json.getString d (text "pubKey")
  return ⟨version,versionHash,name,pubKey⟩

end AuthenticationChallenge

namespace AuthenticationResponse

def document (t : AuthenticationResponse) : Json :=
  .object [(text "successful",.bool t.successful),(text "attemptsRemaining",.integer t.attemptsRemaining),
    (text "message",.string (cString t.message))]

def toJSON (t : AuthenticationResponse) : Bytes := t.document.write

def fromJSON (parse : Bytes → Json) (json : Bytes) : Except Fault AuthenticationResponse := do
  let d := parse (cString json)
  let successful ← getField Json.getBool d (text "successful")
  let attemptsRemaining ← getField Json.getInt d (text "attemptsRemaining")
  let message ← getField Json.getString d (text "message")
  return ⟨successful,attemptsRemaining,message⟩

end AuthenticationResponse

namespace AuthenticationIdentity

def document (t : AuthenticationIdentity) : Json :=
  .object [(text "username",.string (cString t.username)),
    (text "password",.string (ByteArrayUtil.byteVectorToString t.password))]

def toJSON (t : AuthenticationIdentity) : Bytes := t.document.write

def fromJSON (parse : Bytes → Json) (json : Bytes) : Except Fault AuthenticationIdentity := do
  let d := parse (cString json)
  let hex ← getField Json.getString d (text "password")
  let chrs ← ByteArrayUtil.hexStringToByteVector hex
  let username ← getField Json.getString d (text "username")
  return ⟨username,chrs⟩

end AuthenticationIdentity

namespace MapServerMapList

def locationJSON (location : Location) : Json :=
  .object [(text "name",.string (cString location.locationName)),(text "hash",.string (cString location.knownMD5Hash)),
    (text "knownFileName",.string (cString location.knownFileName)),(text "version",.integer location.version.toNat)]

def document (mapHashes : List Location) : Json := .object [(text "maps",.array (mapHashes.map locationJSON))]

def toJSON (mapHashes : List Location) : Bytes := (document mapHashes).write

-- The version passes through uint64_t to the uint32_t of Location.
def locationFromJSON (object : Json) : Except Fault Location := do
  let mapName ← getField Json.getString object (text "name")
  let knownFileName ← getField Json.getString object (text "knownFileName")
  let mapHash ← getField Json.getString object (text "hash")
  let version ← getField Json.getInt64 object (text "version")
  return ⟨0,mapName,knownFileName,mapHash,UInt32.ofNat (version % 2^32).toNat⟩

def locationsFromJSON : List Json → Except Fault (List Location)
  | [] => .ok []
  | object :: rest => do
    let location ← locationFromJSON object
    let locations ← locationsFromJSON rest
    return location :: locations

def fromJSON (parse : Bytes → Json) (json : Bytes) : Except Fault (List Location) := do
  let d := parse (cString json)
  let mapHashes ← getField .ok d (text "maps")
  if mapHashes.isArray then
    match mapHashes.getItems with
    | .ok items => locationsFromJSON items
    | .error violation => .error (.json violation)
  else .error .assertArray

end MapServerMapList

namespace MapServerConnectionInstructions

def document (t : MapServerConnectionInstructions) : Json :=
  .object [(text "friendlyName",.string (cString t.friendlyName)),
    (text "hostName",.string (cString t.hostName)),(text "port",.integer t.port.toNat)]

def toJSON (t : MapServerConnectionInstructions) : Bytes := t.document.write

def fromJSON (parse : Bytes → Json) (json : Bytes) : Except Fault MapServerConnectionInstructions := do
  let d := parse (cString json)
  let friendlyName ← getField Json.getString d (text "friendlyName")
  let hostName ← getField Json.getString d (text "hostName")
  let port ← getField Json.getInt d (text "port")
  return ⟨friendlyName,hostName,UInt16.ofNat (port % 2^16).toNat⟩

end MapServerConnectionInstructions

namespace PlayerCharacters

-- Character::toJson: Int64 and Int narrow to their widths.
def characterJSON (c : Character) : Json :=
  .object [(text "id",.integer c.id.toInt64.toInt),(text "playerID",.integer c.playerID.toInt64.toInt),
    (text "name",.string (cString c.name)),(text "raceID",.integer c.raceID.toInt64.toInt),
    (text "maxHP",.integer (Int32.ofInt c.maxHP).toInt),(text "strength",.integer (Int32.ofInt c.strength).toInt),
    (text "intelligence",.integer (Int32.ofInt c.intelligence).toInt)]

def document (characters : List Character) : Json := .object [(text "characters",.array (characters.map characterJSON))]

def toJSON (characters : List Character) : Bytes := (document characters).write

-- The constructor of Character starts with no race and no place.
def characterFromJSON (playerObject : Json) : Except Fault Character := do
  let name ← getField Json.getString playerObject (text "name")
  let maxHP ← getField Json.getInt playerObject (text "maxHP")
  let str ← getField Json.getInt playerObject (text "strength")
  let intelligence ← getField Json.getInt playerObject (text "intelligence")
  let id ← getField Json.getInt64 playerObject (text "id")
  let playerID ← getField Json.getInt64 playerObject (text "playerID")
  return ⟨(Int64.ofInt id).toUInt64,(Int64.ofInt playerID).toUInt64,name,0,0,maxHP,maxHP,str,intelligence⟩

def charactersFromJSON : List Json → Except Fault (List Character)
  | [] => .ok []
  | playerObject :: rest => do
    let character ← characterFromJSON playerObject
    let characters ← charactersFromJSON rest
    return character :: characters

def fromJSON (parse : Bytes → Json) (json : Bytes) : Except Fault (List Character) := do
  let d := parse (cString json)
  let charObject ← getField .ok d (text "characters")
  if charObject.isArray then
    match charObject.getItems with
    | .ok items => charactersFromJSON items
    | .error violation => .error (.json violation)
  else .error .assertArray

end PlayerCharacters

-- The ServerPacket classes, and the two opcodes that are sent bare.
inductive ServerPacket where
  | authenticationChallenge (challenge : AuthenticationChallenge)
  | authenticationResponse (response : AuthenticationResponse)
  | mapServerRegistrationRequest (friendlyName listenAddress : Bytes) (port : UInt16)
  | mapServerRegistrationResponse (secretRSA : Bytes)
  | mapServerMapList (mapHashes : List Location)
  | mapServerNotNeeded
  | mapServerAck
  | mapServerConnectionInstructions (instructions : MapServerConnectionInstructions)
  | playerCharacters (characters : List Character)
  | noMapServerError (message : Bytes)
  | malformedPacket
  deriving DecidableEq

inductive ClientPacket where
  | authenticationIdentity (identity : AuthenticationIdentity)
  | versionMismatch
  | clientRequestCharacters
  | characterSelect (characterID : UInt64)
  deriving DecidableEq

-- putShort of a size followed by putString; the size is cut to sixteen bits.
def putSized (apg : ByteBuffer) (string : Bytes) : Bytes :=
  apg.putShort (UInt16.ofNat string.length) ++ string

def ServerPacket.opcode : ServerPacket → ServerOpcode
  | authenticationChallenge _ => .LOGIN_AUTHENTICATION_CHALLENGE
  | authenticationResponse _ => .LOGIN_AUTHENTICATION_RESPONSE
  | mapServerRegistrationRequest .. => .MAP_SERVER_REGISTRATION_REQUEST
  | mapServerRegistrationResponse _ => .MAP_SERVER_REGISTRATION_RESPONSE
  | mapServerMapList _ => .MAP_SERVER_MAP_LIST
  | mapServerNotNeeded => .MAP_SERVER_NOT_NEEDED
  | mapServerAck => .MAP_SERVER_ACK
  | mapServerConnectionInstructions _ => .MAP_SERVER_CONNECTION_INSTRUCTIONS
  | playerCharacters _ => .PLAYER_CHARACTERS
  | noMapServerError _ => .NO_MAP_SERVER_ERROR
  | malformedPacket => .MALFORMED_PACKET

def ServerPacket.payload (apg : ByteBuffer) : ServerPacket → Bytes
  | authenticationChallenge challenge => putSized apg challenge.toJSON
  | authenticationResponse response => putSized apg response.toJSON
  | mapServerRegistrationRequest friendlyName listenAddress port =>
    putSized apg friendlyName ++ putSized apg listenAddress ++ apg.putShort port
  | mapServerRegistrationResponse secretRSA => putSized apg secretRSA
  | mapServerMapList mapHashes => putSized apg (MapServerMapList.toJSON mapHashes)
  | mapServerConnectionInstructions instructions => putSized apg instructions.toJSON
  | playerCharacters characters => putSized apg (PlayerCharacters.toJSON characters)
  | noMapServerError message => putSized apg message
  | mapServerNotNeeded | mapServerAck | malformedPacket => []

def ServerPacket.buffer (apg : ByteBuffer) (packet : ServerPacket) : Bytes :=
  apg.putShort packet.opcode.code ++ packet.payload apg

def ClientPacket.opcode : ClientPacket → ClientOpcode
  | authenticationIdentity _ => .LOGIN_AUTHENTICATION_IDENTITY
  | versionMismatch => .VERSION_MISMATCH
  | clientRequestCharacters => .REQUEST_CHARACTERS
  | characterSelect _ => .CHARACTER_SELECT

def ClientPacket.payload (apg : ByteBuffer) : ClientPacket → Bytes
  | authenticationIdentity identity => putSized apg identity.toJSON
  | versionMismatch | clientRequestCharacters => []
  | characterSelect characterID => apg.putLong characterID

def ClientPacket.buffer (apg : ByteBuffer) (packet : ClientPacket) : Bytes :=
  apg.putShort packet.opcode.code ++ packet.payload apg

-- getShort opcode, getShort jsonLength, getStringByLength: the body of a packet.
def sizedBody (apg : ByteBuffer) (bytes : Bytes) : Bytes :=
  apg.getStringByLength (apg.getShort (bytes.drop 2)).toNat (bytes.drop 4)

theorem ServerPacket.opcode_read (apg : ByteBuffer) (packet : ServerPacket) (rest : Bytes) :
    apg.getShort (packet.buffer apg ++ rest) = packet.opcode.code := by
  rw [buffer,List.append_assoc,apg.getShort_put]

theorem ClientPacket.opcode_read (apg : ByteBuffer) (packet : ClientPacket) (rest : Bytes) :
    apg.getShort (packet.buffer apg ++ rest) = packet.opcode.code := by
  rw [buffer,List.append_assoc,apg.getShort_put]

theorem ServerPacket.opcode_whole (apg : ByteBuffer) (packet : ServerPacket) :
    apg.getShort (packet.buffer apg) = packet.opcode.code := by
  simpa using packet.opcode_read apg []

theorem ClientPacket.opcode_whole (apg : ByteBuffer) (packet : ClientPacket) :
    apg.getShort (packet.buffer apg) = packet.opcode.code := by
  simpa using packet.opcode_read apg []

end PlayPG
