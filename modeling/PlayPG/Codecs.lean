import Mathlib.Data.List.Nodup
import PlayPG.Decoders

namespace PlayPG.Codecs
open Bytes IncomingHandler Decoders

theorem cString_of_free (free : 0 ∉ s) : cString s = s := by
  unfold cString
  rw [List.takeWhile_eq_self_iff]
  intro byte member
  simp only [ne_eq,decide_eq_true_eq]
  rintro rfl
  exact free member

theorem cString_free (s : Bytes) : 0 ∉ cString s := by
  intro member
  simpa using List.mem_takeWhile_imp member

-- Two digits of either case read back as the byte they were written for.
theorem pair_value (digit : Nat → UInt8) (hex : digit = lowerHexDigit ∨ digit = upperHexDigit) (byte : UInt8) :
    UInt8.ofNat (strtoul16 [digit (byte.toNat / 16),digit (byte.toNat % 16)]) = byte := by
  have all : ∀ a < 16, ∀ b < 16, strtoul16 [digit a,digit b] = 16*a + b := by
    rcases hex with rfl | rfl <;> decide +kernel
  have bound := byte.toNat_lt
  rw [all _ (by omega) _ (by omega),Nat.div_add_mod]
  exact UInt8.ofNat_toNat

def digits (digit : Nat → UInt8) (bytes : Bytes) : Bytes :=
  bytes.flatMap (fun byte => [digit (byte.toNat / 16),digit (byte.toNat % 16)])

theorem digits_length (digit : Nat → UInt8) (bytes : Bytes) : (digits digit bytes).length = 2 * bytes.length := by
  induction bytes with
  | nil => rfl
  | cons byte rest ih =>
    simp only [digits,List.flatMap_cons,List.length_append,List.length_cons,List.length_nil] at ih ⊢
    omega

theorem pairs_digits (digit : Nat → UInt8) (bytes : Bytes) : pairs (digits digit bytes) =
    bytes.map (fun byte => [digit (byte.toNat / 16),digit (byte.toNat % 16)]) := by
  induction bytes with
  | nil => rfl
  | cons byte rest ih => simpa [digits,pairs] using ih

theorem digits_read (hex : digit = lowerHexDigit ∨ digit = upperHexDigit) (bytes : Bytes) :
    (pairs (digits digit bytes)).map (fun piece => UInt8.ofNat (strtoul16 piece)) = bytes := by
  rw [pairs_digits,List.map_map]
  exact (List.map_congr_left (fun byte _ => pair_value digit hex byte)).trans (List.map_id bytes)

theorem digits_free (hex : digit = lowerHexDigit ∨ digit = upperHexDigit) (bytes : Bytes) : 0 ∉ digits digit bytes := by
  have nonzero : ∀ a < 16, digit a ≠ 0 := by rcases hex with rfl | rfl <;> decide
  intro member
  obtain ⟨byte,_,here⟩ := List.mem_flatMap.mp member
  have bound := byte.toNat_lt
  rcases List.mem_cons.mp here with high | low
  · exact nonzero _ (by omega) high.symm
  · exact nonzero _ (by omega) (List.mem_singleton.mp low).symm

theorem password_read (password : Bytes) :
    ByteArrayUtil.hexStringToByteVector (ByteArrayUtil.byteVectorToString password) = .ok password := by
  have even : (digits lowerHexDigit password).length % 2 = 0 := by rw [digits_length]; omega
  change ByteArrayUtil.hexStringToByteVector (digits lowerHexDigit password) = _
  rw [ByteArrayUtil.hexStringToByteVector,if_pos even,digits_read (.inl rfl)]

theorem salt_read (salt : Bytes) : SHACrypto.stringToSalt (SHACrypto.saltToString salt) = salt := by
  have even : (digits upperHexDigit salt).length % 2 = 0 := by rw [digits_length]; omega
  change SHACrypto.stringToSalt (digits upperHexDigit salt) = _
  rw [SHACrypto.stringToSalt,if_neg (by simp [even]),digits_read (.inr rfl)]

-- The writer copies no NUL: it escapes it in strings and writes numbers as digits.
theorem escape_free (byte : UInt8) : 0 ∉ Json.escape byte := by
  have digit : ∀ n < 16, Json.hexDigit n ≠ 0 := by decide
  have bound := byte.toNat_lt
  unfold Json.escape
  split_ifs with quote back tab line form carriage control
  · rcases quote with rfl | rfl <;> decide
  · decide
  · decide
  · decide
  · decide
  · decide
  · have high := digit (byte.toNat / 16) (by omega)
    have low := digit (byte.toNat % 16) (by omega)
    have start : 0 ∉ text "\\u00" := by decide
    simp [start,Ne.symm high,Ne.symm low]
  · have other : byte ≠ 0 := by rintro rfl; exact control (by decide)
    simp [Ne.symm other]

theorem quoted_free (value : Bytes) : 0 ∉ Json.quoted value := by
  have body : 0 ∉ value.flatMap Json.escape := by
    intro member
    obtain ⟨byte,_,here⟩ := List.mem_flatMap.mp member
    exact escape_free byte here
  simp [Json.quoted,body]

theorem text_ascii (s : String) : (∀ c ∈ s.toList, 0 < c.toNat ∧ c.toNat < 128) → 0 ∉ text s := by
  intro plain member
  have chars : text s = s.toList.flatMap String.utf8EncodeChar := by
    unfold text
    rw [String.toUTF8,← String.utf8Encode_toList]
    simp [List.utf8Encode]
  rw [chars] at member
  obtain ⟨c,within,zero⟩ := List.mem_flatMap.mp member
  obtain ⟨positive,low⟩ := plain c within
  have one : c.utf8Size = 1 := by
    have small : c.val ≤ 0x7f := UInt32.le_iff_toNat_le.mpr (Nat.le_of_lt_succ low)
    simp [Char.utf8Size,small]
  rw [String.utf8EncodeChar_eq_singleton one,List.mem_singleton] at zero
  have value : (0:UInt8).toNat = c.toNat % 256 := congrArg UInt8.toNat zero
  simp at value
  omega

theorem digit_ascii {m : Nat} (member : c ∈ m.repr.toList) : 0 < c.toNat ∧ c.toNat < 128 := by
  rw [Nat.toList_repr] at member
  have digit := Nat.isDigit_of_mem_toDigits (by decide) (by decide) member
  simp only [Char.isDigit,Bool.and_eq_true,decide_eq_true_eq] at digit
  have low : 48 ≤ c.toNat := UInt32.le_iff_toNat_le.mp digit.1
  have high : c.toNat ≤ 57 := UInt32.le_iff_toNat_le.mp digit.2
  omega

theorem integer_free (n : Int) : 0 ∉ (Json.integer n).write := by
  unfold Json.write
  apply text_ascii
  intro c member
  cases n with
  | ofNat m => exact digit_ascii (m:=m) (by simpa [toString,Int.repr] using member)
  | negSucc m =>
    have sign : c = '-' ∨ c ∈ ((m+1).repr).toList := by simpa [toString,Int.repr] using member
    rcases sign with rfl | rest
    · decide
    · exact digit_ascii rest

theorem string_free (value : Bytes) : 0 ∉ (Json.string value).write := by
  unfold Json.write
  exact quoted_free value

theorem bool_free (value : Bool) : 0 ∉ (Json.bool value).write := by
  cases value <;> decide

theorem array_free (free : ∀ item ∈ items, 0 ∉ Json.write item) : 0 ∉ (Json.array items).write := by
  have body : 0 ∉ Json.writeItems items := by
    induction items with
    | nil => simp [Json.writeItems]
    | cons item rest ih =>
      obtain ⟨here,later⟩ := List.forall_mem_cons.mp free
      cases rest with
      | nil => simpa [Json.writeItems] using here
      | cons next rest => simp [Json.writeItems,here,ih later]
  simp [Json.write,body]

theorem object_free (free : ∀ entry ∈ members, 0 ∉ Json.write entry.2) : 0 ∉ (Json.object members).write := by
  have body : 0 ∉ Json.writeMembers members := by
    induction members with
    | nil => simp [Json.writeMembers]
    | cons entry rest ih =>
      obtain ⟨here,later⟩ := List.forall_mem_cons.mp free
      cases rest with
      | nil => simpa [Json.writeMembers,quoted_free] using here
      | cons next rest => simp [Json.writeMembers,quoted_free,here,ih later]
  simp [Json.write,body]

-- The packets that carry a list are an object with one field, an array of objects.
theorem listing_free {toJSON : α → Json} (free : ∀ item, 0 ∉ (toJSON item).write) (field : Bytes) (items : List α) :
    0 ∉ (Json.object [(field,.array (items.map toJSON))]).write := by
  apply object_free
  intro entry member
  obtain rfl := List.mem_singleton.mp member
  apply array_free
  intro json within
  obtain ⟨item,_,rfl⟩ := List.mem_map.mp within
  exact free item

variable {parse : Bytes → Json} {d : Json}

theorem text_parsed (parsed : parse d.write = d) (free : 0 ∉ d.write) : parse (cString d.write) = d := by
  rw [cString_of_free free,parsed]

theorem field_text (found : d.member name = .ok (.string (cString s))) (free : 0 ∉ s) :
    getField Json.getString d name = .ok s :=
  getField_ok.mpr ⟨_,found,by rw [Json.getString,cString_of_free free,cString_of_free free]⟩

-- The messages with a body, as the values that their packets are built from.
inductive Message where
  | challenge (challenge : AuthenticationChallenge)
  | identity (identity : AuthenticationIdentity)
  | response (response : AuthenticationResponse)
  | mapList (mapHashes : List Location)
  | instructions (instructions : MapServerConnectionInstructions)
  | registration (request : RegistrationRequest)

namespace Message

def buffer (apg : ByteBuffer) : Message → Bytes
  | challenge t => (ServerPacket.authenticationChallenge t).buffer apg
  | identity t => (ClientPacket.authenticationIdentity t).buffer apg
  | response t => (ServerPacket.authenticationResponse t).buffer apg
  | mapList mapHashes => (ServerPacket.mapServerMapList mapHashes).buffer apg
  | instructions t => (ServerPacket.mapServerConnectionInstructions t).buffer apg
  | registration request =>
    (ServerPacket.mapServerRegistrationRequest request.name request.address request.port).buffer apg

def document : Message → Option Json
  | challenge t => some t.document
  | identity t => some t.document
  | response t => some t.document
  | mapList mapHashes => some (MapServerMapList.document mapHashes)
  | instructions t => some t.document
  | registration _ => none

-- The id of a location is not sent.
def carried : Message → Message
  | mapList mapHashes => mapList (mapHashes.map (fun location => {location with id := 0}))
  | message => message

-- No NUL in the strings that pass through c_str(), and no int outside of its type.
def Clean : Message → Prop
  | challenge t => 0 ∉ t.version ∧ 0 ∉ t.versionHash ∧ 0 ∉ t.name ∧ 0 ∉ t.pubKey
  | identity t => 0 ∉ t.username
  | response t => 0 ∉ t.message ∧ -2^31 ≤ t.attemptsRemaining ∧ t.attemptsRemaining < 2^31
  | mapList mapHashes => ∀ location ∈ mapHashes,
    0 ∉ location.locationName ∧ 0 ∉ location.knownFileName ∧ 0 ∉ location.knownMD5Hash
  | instructions t => 0 ∉ t.friendlyName ∧ 0 ∉ t.hostName
  | registration _ => True

-- Every length that is written as a short fits one.
def Fits : Message → Prop
  | registration request => request.name.length < 2^16 ∧ request.address.length < 2^16
  | message => ∀ d, message.document = some d → d.write.length < 2^16

-- The reader gives back the document that the writer wrote.
def Parsed (parse : Bytes → Json) (message : Message) : Prop :=
  ∀ d, message.document = some d → parse d.write = d

end Message

def receiveJSON (env : Env) (bytes : Bytes) (fromJSON : (Bytes → Json) → Bytes → Except Fault α) (wrap : α → Message) :
    Except Fault (Option (Message × Nat)) :=
  (fromJSON env.parse (receivedJSON env bytes)).map
    (fun t => some (wrap t,4 + (env.apg.getShort (bytes.drop 2)).toNat))

-- The gets of the receivers, with the number of bytes that they took.
def receive (env : Env) (bytes : Bytes) : Except Fault (Option (Message × Nat)) :=
  let opcode := env.apg.getShort bytes
  if opcode = ServerOpcode.LOGIN_AUTHENTICATION_CHALLENGE.code then
    receiveJSON env bytes AuthenticationChallenge.fromJSON .challenge
  else if opcode = ClientOpcode.LOGIN_AUTHENTICATION_IDENTITY.code then
    receiveJSON env bytes AuthenticationIdentity.fromJSON .identity
  else if opcode = ServerOpcode.LOGIN_AUTHENTICATION_RESPONSE.code then
    receiveJSON env bytes AuthenticationResponse.fromJSON .response
  else if opcode = ServerOpcode.MAP_SERVER_MAP_LIST.code then
    receiveJSON env bytes MapServerMapList.fromJSON .mapList
  else if opcode = ServerOpcode.MAP_SERVER_CONNECTION_INSTRUCTIONS.code then
    receiveJSON env bytes MapServerConnectionInstructions.fromJSON .instructions
  else if opcode = ServerOpcode.MAP_SERVER_REGISTRATION_REQUEST.code then
    let nameLen := (env.apg.getShort (bytes.drop 2)).toNat
    let addressLen := (env.apg.getShort (bytes.drop (4 + nameLen))).toNat
    .ok (some (.registration (readRegistrationRequest env bytes),4 + nameLen + 2 + addressLen + 2))
  else .ok none

theorem int_read {n : Int} (low : -2^31 ≤ n) (high : n < 2^31) : Json.getInt (.integer n) = .ok n := by
  rw [Json.getInt,if_pos ⟨low,high⟩]

theorem challenge_read {t : AuthenticationChallenge} (clean : Message.Clean (.challenge t))
    (parsed : parse (cString json) = t.document) : AuthenticationChallenge.fromJSON parse json = .ok t := by
  obtain ⟨one,two,three,four⟩ := clean
  have version : getField Json.getString t.document (text "version") = .ok t.version := field_text rfl one
  have versionHash : getField Json.getString t.document (text "versionHash") = .ok t.versionHash := field_text rfl two
  have name : getField Json.getString t.document (text "name") = .ok t.name := field_text rfl three
  have pubKey : getField Json.getString t.document (text "pubKey") = .ok t.pubKey := field_text rfl four
  simp only [AuthenticationChallenge.fromJSON,parsed,version,versionHash,name,pubKey]
  rfl

theorem identity_free (t : AuthenticationIdentity) : 0 ∉ t.document.write := object_free (by simp [string_free])

theorem identity_read {t : AuthenticationIdentity} (clean : Message.Clean (.identity t))
    (parsed : parse (cString json) = t.document) : AuthenticationIdentity.fromJSON parse json = .ok t := by
  have username : getField Json.getString t.document (text "username") = .ok t.username := field_text rfl clean
  have password : getField Json.getString t.document (text "password") =
      .ok (ByteArrayUtil.byteVectorToString t.password) := by
    have free : 0 ∉ ByteArrayUtil.byteVectorToString t.password := digits_free (.inl rfl) t.password
    apply getField_ok.mpr
    exact ⟨.string (ByteArrayUtil.byteVectorToString t.password),rfl,by rw [Json.getString,cString_of_free free]⟩
  have decoded := password_read t.password
  simp only [AuthenticationIdentity.fromJSON,parsed,username,password,decoded,bind,Except.bind]
  rfl

theorem response_read {t : AuthenticationResponse} (clean : Message.Clean (.response t))
    (parsed : parse (cString json) = t.document) : AuthenticationResponse.fromJSON parse json = .ok t := by
  obtain ⟨free,low,high⟩ := clean
  have successful : getField Json.getBool t.document (text "successful") = .ok t.successful :=
    getField_ok.mpr ⟨.bool t.successful,rfl,rfl⟩
  have attemptsRemaining : getField Json.getInt t.document (text "attemptsRemaining") = .ok t.attemptsRemaining :=
    getField_ok.mpr ⟨.integer t.attemptsRemaining,rfl,int_read low high⟩
  have message : getField Json.getString t.document (text "message") = .ok t.message := field_text rfl free
  simp only [AuthenticationResponse.fromJSON,parsed,successful,attemptsRemaining,message]
  rfl

theorem location_read {location : Location} (name : 0 ∉ location.locationName) (file : 0 ∉ location.knownFileName)
    (hash : 0 ∉ location.knownMD5Hash) :
    MapServerMapList.locationFromJSON (MapServerMapList.locationJSON location) = .ok {location with id := 0} := by
  have bound := location.version.toNat_lt
  have mapName : getField Json.getString (MapServerMapList.locationJSON location) (text "name") =
      .ok location.locationName := field_text rfl name
  have fileName : getField Json.getString (MapServerMapList.locationJSON location) (text "knownFileName") =
      .ok location.knownFileName := field_text rfl file
  have mapHash : getField Json.getString (MapServerMapList.locationJSON location) (text "hash") =
      .ok location.knownMD5Hash := field_text rfl hash
  have version : getField Json.getInt64 (MapServerMapList.locationJSON location) (text "version") =
      .ok (location.version.toNat : Int) :=
    getField_ok.mpr ⟨.integer location.version.toNat,rfl,getInt64_ok.mpr ⟨rfl,by omega,by omega⟩⟩
  -- The version widens to 64 bits and is cut back to 32.
  have narrowed : UInt32.ofNat ((location.version.toNat : Int) % 2^32).toNat = location.version := by
    rw [Int.emod_eq_of_lt (by omega) (by omega),Int.toNat_natCast]
    exact UInt32.ofNat_toNat
  unfold MapServerMapList.locationFromJSON
  rw [mapName,fileName,mapHash,version]
  exact congrArg (fun v => Except.ok {location with id := 0,version := v}) narrowed

theorem locations_read (clean : Message.Clean (.mapList mapHashes)) :
    MapServerMapList.locationsFromJSON (mapHashes.map MapServerMapList.locationJSON) =
      .ok (mapHashes.map (fun location => {location with id := 0})) := by
  induction mapHashes with
  | nil => rfl
  | cons location rest ih =>
    obtain ⟨⟨name,file,hash⟩,later⟩ := List.forall_mem_cons.mp clean
    simp only [List.map_cons,MapServerMapList.locationsFromJSON,location_read name file hash,ih later]
    rfl

theorem mapList_free (mapHashes : List Location) : 0 ∉ (MapServerMapList.document mapHashes).write := by
  apply listing_free
  intro location
  exact object_free (by simp [string_free,integer_free])

theorem mapList_read (clean : Message.Clean (.mapList mapHashes))
    (parsed : parse (cString json) = MapServerMapList.document mapHashes) : MapServerMapList.fromJSON parse json =
      .ok (mapHashes.map (fun location => {location with id := 0})) := by
  have maps : getField .ok (MapServerMapList.document mapHashes) (text "maps") =
      .ok (.array (mapHashes.map MapServerMapList.locationJSON)) := getField_ok.mpr ⟨_,rfl,rfl⟩
  simp only [MapServerMapList.fromJSON,parsed,maps,bind,Except.bind,Json.isArray,Json.getItems,if_true]
  exact locations_read clean

theorem instructions_read {t : MapServerConnectionInstructions} (clean : Message.Clean (.instructions t))
    (parsed : parse (cString json) = t.document) : MapServerConnectionInstructions.fromJSON parse json = .ok t := by
  have bound := t.port.toNat_lt
  have friendlyName : getField Json.getString t.document (text "friendlyName") = .ok t.friendlyName :=
    field_text rfl clean.1
  have hostName : getField Json.getString t.document (text "hostName") = .ok t.hostName := field_text rfl clean.2
  have port : getField Json.getInt t.document (text "port") = .ok (t.port.toNat : Int) :=
    getField_ok.mpr ⟨.integer t.port.toNat,rfl,int_read (by omega) (by omega)⟩
  have narrowed : UInt16.ofNat ((t.port.toNat : Int) % 2^16).toNat = t.port := by
    rw [Int.emod_eq_of_lt (by omega) (by omega),Int.toNat_natCast]
    exact UInt16.ofNat_toNat
  simp only [MapServerConnectionInstructions.fromJSON,parsed,friendlyName,hostName,port,bind,Except.bind,narrowed,
    pure,Except.pure]

-- The race and the place of a character are not read, and its numbers are cut to ints.
def carriedCharacter (c : Character) : Character where
  id := c.id
  playerID := c.playerID
  name := cString c.name
  raceID := 0
  locationID := 0
  maxHP := (Int32.ofInt c.maxHP).toInt
  currentHP := (Int32.ofInt c.maxHP).toInt
  strength := (Int32.ofInt c.strength).toInt
  intelligence := (Int32.ofInt c.intelligence).toInt

theorem narrow_read (found : d.member name = .ok (.integer (Int32.ofInt n).toInt)) :
    getField Json.getInt d name = .ok (Int32.ofInt n).toInt :=
  getField_ok.mpr ⟨_,found,int_read (Int32.le_toInt _) (Int32.toInt_lt _)⟩

theorem long_read {n : UInt64} (found : d.member name = .ok (.integer n.toInt64.toInt)) :
    getField Json.getInt64 d name = .ok n.toInt64.toInt :=
  getField_ok.mpr ⟨_,found,getInt64_ok.mpr ⟨rfl,Int64.le_toInt _,Int64.toInt_lt _⟩⟩

theorem character_read (c : Character) :
    PlayerCharacters.characterFromJSON (PlayerCharacters.characterJSON c) = .ok (carriedCharacter c) := by
  have free : 0 ∉ cString c.name := cString_free c.name
  have name : getField Json.getString (PlayerCharacters.characterJSON c) (text "name") = .ok (cString c.name) :=
    getField_ok.mpr ⟨_,rfl,by rw [Json.getString,cString_of_free free]⟩
  have maxHP : getField Json.getInt (PlayerCharacters.characterJSON c) (text "maxHP") = _ := narrow_read rfl
  have str : getField Json.getInt (PlayerCharacters.characterJSON c) (text "strength") = _ := narrow_read rfl
  have intelligence : getField Json.getInt (PlayerCharacters.characterJSON c) (text "intelligence") = _ := narrow_read rfl
  have id : getField Json.getInt64 (PlayerCharacters.characterJSON c) (text "id") = _ := long_read rfl
  have playerID : getField Json.getInt64 (PlayerCharacters.characterJSON c) (text "playerID") = _ := long_read rfl
  unfold PlayerCharacters.characterFromJSON
  rw [name,maxHP,str,intelligence,id,playerID]
  simp only [bind,Except.bind,pure,Except.pure,Int64.ofInt_toInt,UInt64.toUInt64_toInt64]
  rfl

theorem charactersFromJSON_read (characters : List Character) :
    PlayerCharacters.charactersFromJSON (characters.map PlayerCharacters.characterJSON) =
      .ok (characters.map carriedCharacter) := by
  induction characters with
  | nil => rfl
  | cons c rest ih =>
    simp only [List.map_cons,PlayerCharacters.charactersFromJSON,character_read c,ih]
    rfl

theorem characters_free (characters : List Character) : 0 ∉ (PlayerCharacters.document characters).write := by
  apply listing_free
  intro character
  exact object_free (by simp [string_free,integer_free])

theorem characters_read (parsed : parse (cString json) = PlayerCharacters.document characters) :
    PlayerCharacters.fromJSON parse json = .ok (characters.map carriedCharacter) := by
  have items : getField .ok (PlayerCharacters.document characters) (text "characters") =
      .ok (.array (characters.map PlayerCharacters.characterJSON)) := getField_ok.mpr ⟨_,rfl,rfl⟩
  simp only [PlayerCharacters.fromJSON,parsed,items,bind,Except.bind,Json.isArray,Json.getItems,if_true]
  exact charactersFromJSON_read characters

theorem sized_count (apg : ByteBuffer) (code : UInt16) (short : body.length < 2^16) :
    (apg.getShort ((apg.putShort code ++ putSized apg body).drop 2)).toNat = body.length := by
  rw [List.drop_left' (apg.putShort_length code),putSized,apg.getShort_put]
  exact Nat.mod_eq_of_lt short

theorem sized_read (apg : ByteBuffer) (code : UInt16) (short : body.length < 2^16) :
    sizedBody apg (apg.putShort code ++ putSized apg body) = body := by
  rw [sizedBody,sized_count apg code short,putSized,← List.append_assoc,List.drop_left' (by simp [apg.putShort_length])]
  simpa using apg.getString_put body []

theorem receiveJSON_read {fromJSON : (Bytes → Json) → Bytes → Except Fault α} (wrap : α → Message) (code : UInt16)
    (short : body.length < 2^16) (decoded : fromJSON env.parse body = .ok t) :
    receiveJSON env (env.apg.putShort code ++ putSized env.apg body) fromJSON wrap =
      .ok (some (wrap t,(env.apg.putShort code ++ putSized env.apg body).length)) := by
  have length : (env.apg.putShort code ++ putSized env.apg body).length = 4 + body.length := by
    simp only [putSized,List.length_append,env.apg.putShort_length]
    omega
  rw [receiveJSON,receivedJSON,sized_read _ _ short,decoded,sized_count _ _ short,length]
  rfl

theorem putSized_parts (apg : ByteBuffer) (body rest : Bytes) (short : body.length < 2^16) :
    (apg.getShort (putSized apg body ++ rest)).toNat = body.length ∧
      (putSized apg body ++ rest).drop 2 = body ++ rest ∧ (putSized apg body ++ rest).drop (2 + body.length) = rest := by
  have split : putSized apg body ++ rest = apg.putShort (UInt16.ofNat body.length) ++ (body ++ rest) := by
    simp [putSized]
  have lengths := apg.putShort_length (UInt16.ofNat body.length)
  rw [split,apg.getShort_put]
  refine ⟨Nat.mod_eq_of_lt short,List.drop_left' lengths,?_⟩
  rw [← List.append_assoc]
  exact List.drop_left' (by rw [List.length_append,lengths])

theorem registration_fields (env : Env) (code port : UInt16) (shortName : name.length < 2^16)
    (shortAddress : address.length < 2^16) :
    let bytes := env.apg.putShort code ++ (putSized env.apg name ++ (putSized env.apg address ++ env.apg.putShort port))
    readRegistrationRequest env bytes = ⟨name,address,port⟩ ∧ (env.apg.getShort (bytes.drop 2)).toNat = name.length ∧
      (env.apg.getShort (bytes.drop (4 + name.length))).toNat = address.length := by
  intro bytes
  obtain ⟨nameLen,afterNameLen,afterName⟩ :=
    putSized_parts env.apg name (putSized env.apg address ++ env.apg.putShort port) shortName
  obtain ⟨addressLen,afterAddressLen,afterAddress⟩ := putSized_parts env.apg address (env.apg.putShort port) shortAddress
  -- Each get begins where the put of the field before it ended.
  have afterOpcode : bytes.drop 2 = putSized env.apg name ++ (putSized env.apg address ++ env.apg.putShort port) :=
    List.drop_left' (env.apg.putShort_length code)
  have nameAt : bytes.drop 4 = name ++ (putSized env.apg address ++ env.apg.putShort port) := by
    rw [← afterNameLen,← afterOpcode,List.drop_drop]
  have addressAt : bytes.drop (4 + name.length) = putSized env.apg address ++ env.apg.putShort port := by
    rw [← afterName,← afterOpcode,List.drop_drop]
    congr 1
    omega
  rw [← afterOpcode] at nameLen
  rw [← addressAt] at addressLen afterAddressLen afterAddress
  refine ⟨?_,nameLen,addressLen⟩
  simp only [readRegistrationRequest,nameLen,nameAt,addressLen,afterAddressLen,afterAddress,env.apg.getString_put,
    env.apg.getShort_exact]

theorem registration_read (env : Env) (request : RegistrationRequest) (fits : Message.Fits (.registration request)) :
    receive env (Message.buffer env.apg (.registration request)) =
      .ok (some (.registration request,(Message.buffer env.apg (.registration request)).length)) := by
  obtain ⟨name,address,port⟩ := request
  have opcode : env.apg.getShort (Message.buffer env.apg (.registration ⟨name,address,port⟩)) =
      ServerOpcode.MAP_SERVER_REGISTRATION_REQUEST.code := ServerPacket.opcode_whole ..
  have whole : Message.buffer env.apg (.registration ⟨name,address,port⟩) =
      env.apg.putShort ServerOpcode.MAP_SERVER_REGISTRATION_REQUEST.code ++ (putSized env.apg name ++
        (putSized env.apg address ++ env.apg.putShort port)) := by
    simp [Message.buffer,ServerPacket.buffer,ServerPacket.payload,ServerPacket.opcode]
  obtain ⟨fields,nameLen,addressLen⟩ := registration_fields env
    ServerOpcode.MAP_SERVER_REGISTRATION_REQUEST.code port fits.1 fits.2
  rw [← whole] at fields nameLen addressLen
  have length : (Message.buffer env.apg (.registration ⟨name,address,port⟩)).length =
      4 + name.length + 2 + address.length + 2 := by
    simp only [whole,putSized,List.length_append,env.apg.putShort_length]
    omega
  simp only [receive,opcode,fields,nameLen,addressLen,length]
  simp [ServerOpcode.code,ClientOpcode.code]

-- Every packet is read back to its fields, and nothing of it is left over.
theorem codecs_agree {message : Message} (clean : message.Clean) (fits : message.Fits) (parsed : message.Parsed env.parse) :
    receive env (message.buffer env.apg) = .ok (some (message.carried,(message.buffer env.apg).length)) := by
  have json : ∀ {d : Json}, message.document = some d → 0 ∉ d.write → env.parse (cString d.write) = d :=
    fun same free => text_parsed (parsed _ same) free
  cases message with
  | registration request => exact registration_read env request fits
  | challenge t =>
    have decoded := challenge_read clean (json rfl (object_free (by simp [string_free])))
    have opcode : env.apg.getShort ((ServerPacket.authenticationChallenge t).buffer env.apg) =
        ServerOpcode.LOGIN_AUTHENTICATION_CHALLENGE.code := ServerPacket.opcode_whole ..
    have ran := receiveJSON_read .challenge ServerOpcode.LOGIN_AUTHENTICATION_CHALLENGE.code (fits _ rfl) decoded
    rw [receive,Message.buffer,opcode,if_pos rfl]
    exact ran
  | identity t =>
    have decoded := identity_read clean (json rfl (identity_free t))
    have opcode : env.apg.getShort ((ClientPacket.authenticationIdentity t).buffer env.apg) =
        ClientOpcode.LOGIN_AUTHENTICATION_IDENTITY.code := ClientPacket.opcode_whole ..
    have ran := receiveJSON_read .identity ClientOpcode.LOGIN_AUTHENTICATION_IDENTITY.code (fits _ rfl) decoded
    rw [receive,Message.buffer,opcode,if_neg (by decide),if_pos rfl]
    exact ran
  | response t =>
    have decoded := response_read clean (json rfl (object_free (by simp [string_free,bool_free,integer_free])))
    have opcode : env.apg.getShort ((ServerPacket.authenticationResponse t).buffer env.apg) =
        ServerOpcode.LOGIN_AUTHENTICATION_RESPONSE.code := ServerPacket.opcode_whole ..
    have ran := receiveJSON_read .response ServerOpcode.LOGIN_AUTHENTICATION_RESPONSE.code (fits _ rfl) decoded
    rw [receive,Message.buffer,opcode,if_neg (by decide),if_neg (by decide),if_pos rfl]
    exact ran
  | mapList mapHashes =>
    have decoded := mapList_read clean (json rfl (mapList_free mapHashes))
    have opcode : env.apg.getShort ((ServerPacket.mapServerMapList mapHashes).buffer env.apg) =
        ServerOpcode.MAP_SERVER_MAP_LIST.code := ServerPacket.opcode_whole ..
    have ran := receiveJSON_read .mapList ServerOpcode.MAP_SERVER_MAP_LIST.code (fits _ rfl) decoded
    rw [receive,Message.buffer,opcode,if_neg (by decide),if_neg (by decide),if_neg (by decide),if_pos rfl]
    exact ran
  | instructions t =>
    have decoded := instructions_read clean (json rfl (object_free (by simp [string_free,integer_free])))
    have opcode : env.apg.getShort ((ServerPacket.mapServerConnectionInstructions t).buffer env.apg) =
        ServerOpcode.MAP_SERVER_CONNECTION_INSTRUCTIONS.code := ServerPacket.opcode_whole ..
    have ran := receiveJSON_read .instructions ServerOpcode.MAP_SERVER_CONNECTION_INSTRUCTIONS.code (fits _ rfl) decoded
    rw [receive,Message.buffer,opcode,if_neg (by decide),if_neg (by decide),if_neg (by decide),if_neg (by decide),
      if_pos rfl]
    exact ran

theorem known_member (single : (documents.map Json.write).Nodup) (member : d ∈ documents) :
    Json.known documents d.write = d := by
  unfold Json.known
  cases found : documents.find? (·.write == d.write) with
  | none => exact absurd (List.find?_eq_none.mp found d member) (by simp)
  | some other =>
    have same : other.write = d.write := by simpa using List.find?_some found
    exact List.inj_on_of_nodup_map single (List.mem_of_find?_eq_some found) member same

theorem known_written (d : Json) : Json.known [d] d.write = d := by simp [Json.known]

-- The largest version needs all of its 32 bits.
def harbour : Location := ⟨3,text "harbour",text "harbour.tmx",text "d41d8cd98f00b204e9800998ecf8427e",4294967295⟩

theorem codecs_agree_harbour : receive (.plain [MapServerMapList.document [harbour]])
    (Message.buffer .network (.mapList [harbour])) = .ok (some (.mapList [{harbour with id := 0}],126)) := by
  have clean : (Message.mapList [harbour]).Clean := by unfold Message.Clean; decide +kernel
  have fits : (Message.mapList [harbour]).Fits := by
    intro d same
    cases same
    decide +kernel
  have parsed : (Message.mapList [harbour]).Parsed (Env.plain [MapServerMapList.document [harbour]]).parse := by
    intro d same
    cases same
    exact known_written (MapServerMapList.document [harbour])
  have length : (Message.buffer .network (.mapList [harbour])).length = 126 := by decide +kernel
  exact (codecs_agree clean fits parsed).trans (by rw [← length]; rfl)

end PlayPG.Codecs
