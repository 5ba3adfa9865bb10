import PlayPG.Visits

namespace PlayPG.Decoders
open Bytes IncomingHandler Visits SocketIO

theorem bind_error {result : Except Fault α} {next : α → Except Fault β} :
    (result >>= next) = .error fault ↔ result = .error fault ∨ ∃ a, result = .ok a ∧ next a = .error fault := by
  cases result with
  | error other => simp [bind,Except.bind]
  | ok a => simp [bind,Except.bind]

theorem member_ok {d : Json} : d.member name = .ok value ↔
    ∃ members, d = .object members ∧ members.lookup name = some value := by
  cases d with
  | object members => cases found : members.lookup name <;> simp [Json.member,found]
  | _ => simp [Json.member]

theorem getString_ok : Json.getString value = .ok s ↔ ∃ raw, value = .string raw ∧ cString raw = s := by
  cases value <;> simp [Json.getString]

theorem getItems_ok : Json.getItems value = .ok items ↔ value = .array items := by
  cases value <;> simp [Json.getItems]

theorem getInt64_ok : Json.getInt64 value = .ok n ↔ value = .integer n ∧ -2^63 ≤ n ∧ n < 2^63 := by
  cases value with
  | integer m =>
    simp only [Json.getInt64,Json.integer.injEq]
    split
    · rename_i fits
      simp only [Except.ok.injEq]
      constructor
      · rintro rfl; exact ⟨rfl,fits⟩
      · exact And.left
    · rename_i wide
      simp only [reduceCtorEq,false_iff]
      intro both
      obtain ⟨rfl,fits⟩ := both
      exact wide fits
  | _ => simp [Json.getInt64]

theorem getField_fault {get : Json → Except Json.Violation α} (failed : getField get d name = .error fault) :
    fault.ofDecoder = true := by
  unfold getField at failed
  split at failed
  · cases failed; rfl
  · split at failed
    · cases failed; rfl
    · cases failed

theorem hexString_fault (failed : ByteArrayUtil.hexStringToByteVector str = .error fault) : fault.ofDecoder = true := by
  unfold ByteArrayUtil.hexStringToByteVector at failed
  split at failed
  · cases failed
  · cases failed; rfl

theorem identity_fault (failed : AuthenticationIdentity.fromJSON parse json = .error fault) : fault.ofDecoder = true := by
  unfold AuthenticationIdentity.fromJSON at failed
  rcases bind_error.mp failed with hex | ⟨hex,_,failed⟩
  · exact getField_fault hex
  · rcases bind_error.mp failed with odd | ⟨chrs,_,failed⟩
    · exact hexString_fault odd
    · rcases bind_error.mp failed with username | ⟨username,_,failed⟩
      · exact getField_fault username
      · cases failed

theorem location_fault (failed : MapServerMapList.locationFromJSON object = .error fault) : fault.ofDecoder = true := by
  unfold MapServerMapList.locationFromJSON at failed
  rcases bind_error.mp failed with name | ⟨_,_,failed⟩
  · exact getField_fault name
  · rcases bind_error.mp failed with file | ⟨_,_,failed⟩
    · exact getField_fault file
    · rcases bind_error.mp failed with hash | ⟨_,_,failed⟩
      · exact getField_fault hash
      · rcases bind_error.mp failed with version | ⟨_,_,failed⟩
        · exact getField_fault version
        · cases failed

theorem locations_fault (failed : MapServerMapList.locationsFromJSON items = .error fault) : fault.ofDecoder = true := by
  induction items with
  | nil => cases failed
  | cons object rest ih =>
    unfold MapServerMapList.locationsFromJSON at failed
    rcases bind_error.mp failed with first | ⟨_,_,failed⟩
    · exact location_fault first
    · rcases bind_error.mp failed with later | ⟨_,_,failed⟩
      · exact ih later
      · cases failed

theorem mapList_fault (failed : MapServerMapList.fromJSON parse json = .error fault) : fault.ofDecoder = true := by
  unfold MapServerMapList.fromJSON at failed
  rcases bind_error.mp failed with missing | ⟨mapHashes,_,failed⟩
  · exact getField_fault missing
  · split at failed
    · split at failed
      · exact locations_fault failed
      · cases failed; rfl
    · cases failed; rfl

def IdentityShape (d : Json) : Prop :=
  ∃ members password username, d = .object members ∧ members.lookup (text "password") = some (.string password) ∧
    (cString password).length % 2 = 0 ∧ members.lookup (text "username") = some (.string username)

def LocationShape (d : Json) : Prop :=
  ∃ members name knownFileName hash version, d = .object members ∧ members.lookup (text "name") = some (.string name) ∧
    members.lookup (text "knownFileName") = some (.string knownFileName) ∧
    members.lookup (text "hash") = some (.string hash) ∧
    members.lookup (text "version") = some (.integer version) ∧ -2^63 ≤ version ∧ version < 2^63

def MapListShape (d : Json) : Prop :=
  ∃ members items, d = .object members ∧ members.lookup (text "maps") = some (.array items) ∧
    ∀ item ∈ items, LocationShape item

theorem stringField_ok : getField Json.getString d name = .ok s ↔
    ∃ members raw, d = .object members ∧ members.lookup name = some (.string raw) ∧ cString raw = s := by
  simp only [getField_ok,member_ok,getString_ok]
  constructor
  · intro read
    obtain ⟨value,⟨members,rfl,found⟩,raw,rfl,cut⟩ := read
    exact ⟨members,raw,rfl,found,cut⟩
  · intro shape
    obtain ⟨members,raw,rfl,found,cut⟩ := shape
    exact ⟨_,⟨members,rfl,found⟩,raw,rfl,cut⟩

theorem hexString_ok (str : Bytes) : (∃ chrs, ByteArrayUtil.hexStringToByteVector str = .ok chrs) ↔ str.length % 2 = 0 := by
  unfold ByteArrayUtil.hexStringToByteVector
  split <;> simp_all

theorem identity_decodes : (∃ authID, AuthenticationIdentity.fromJSON parse json = .ok authID) ↔
    IdentityShape (parse (cString json)) := by
  simp only [AuthenticationIdentity.fromJSON,bind_ok,stringField_ok,pure,Except.pure,Except.ok.injEq]
  constructor
  · intro decodes
    obtain ⟨authID,_,⟨members,password,object,found,rfl⟩,chrs,decoded,_,⟨members',username,object',named,rfl⟩,_⟩ := decodes
    obtain rfl : members = members' := Json.object.inj (object.symm.trans object')
    exact ⟨members,password,username,object,found,(hexString_ok _).mp ⟨chrs,decoded⟩,named⟩
  · intro shape
    obtain ⟨members,password,username,object,found,even,named⟩ := shape
    obtain ⟨chrs,decoded⟩ := (hexString_ok _).mpr even
    exact ⟨_,_,⟨members,password,object,found,rfl⟩,chrs,decoded,_,⟨members,username,object,named,rfl⟩,rfl⟩

theorem location_decodes : (∃ location, MapServerMapList.locationFromJSON object = .ok location) ↔
    LocationShape object := by
  simp only [MapServerMapList.locationFromJSON,bind_ok,stringField_ok,pure,Except.pure,Except.ok.injEq]
  constructor
  · intro decodes
    obtain ⟨_,_,⟨members,name,rfl,named,_⟩,_,⟨_,file,same,filed,_⟩,_,⟨_,hash,same',hashed,_⟩,version,numbered,_⟩ := decodes
    obtain ⟨value,member,read⟩ := getField_ok.mp numbered
    obtain ⟨_,same'',numbered⟩ := member_ok.mp member
    obtain ⟨rfl,low,high⟩ := getInt64_ok.mp read
    cases same; cases same'; cases same''
    exact ⟨members,name,file,hash,version,rfl,named,filed,hashed,numbered,low,high⟩
  · intro shape
    obtain ⟨members,name,file,hash,version,rfl,named,filed,hashed,numbered,low,high⟩ := shape
    exact ⟨_,_,⟨members,name,rfl,named,rfl⟩,_,⟨members,file,rfl,filed,rfl⟩,_,⟨members,hash,rfl,hashed,rfl⟩,version,
      getField_ok.mpr ⟨_,member_ok.mpr ⟨members,rfl,numbered⟩,getInt64_ok.mpr ⟨rfl,low,high⟩⟩,rfl⟩

theorem locations_decode : (∃ locations, MapServerMapList.locationsFromJSON items = .ok locations) ↔
    ∀ item ∈ items, LocationShape item := by
  induction items with
  | nil => simp [MapServerMapList.locationsFromJSON]
  | cons object rest ih =>
    rw [List.forall_mem_cons,← ih,← location_decodes]
    simp only [MapServerMapList.locationsFromJSON,bind_ok,pure,Except.pure,Except.ok.injEq]
    constructor
    · intro decodes
      obtain ⟨_,location,first,locations,later,_⟩ := decodes
      exact ⟨⟨location,first⟩,locations,later⟩
    · intro both
      obtain ⟨⟨location,first⟩,locations,later⟩ := both
      exact ⟨_,location,first,locations,later,rfl⟩

theorem mapList_decodes : (∃ mapHashes, MapServerMapList.fromJSON parse json = .ok mapHashes) ↔
    MapListShape (parse (cString json)) := by
  simp only [MapServerMapList.fromJSON,bind_ok,getField_ok,member_ok]
  constructor
  · intro decodes
    obtain ⟨mapHashes,_,⟨value,⟨members,object,found⟩,same⟩,decoded⟩ := decodes
    cases same
    split at decoded
    · split at decoded
      · rename_i items array
        rw [getItems_ok.mp array] at found
        exact ⟨members,items,object,found,locations_decode.mp ⟨mapHashes,decoded⟩⟩
      · cases decoded
    · cases decoded
  · intro shape
    obtain ⟨members,items,object,found,shaped⟩ := shape
    obtain ⟨mapHashes,decoded⟩ := locations_decode.mpr shaped
    exact ⟨mapHashes,.array items,⟨.array items,⟨members,object,found⟩,rfl⟩,by simpa [Json.isArray,Json.getItems] using decoded⟩

-- The two kinds of packets whose JSON body the login server decodes.
inductive JSONBody where
  | identity
  | mapList

def JSONBody.Carried (env : Env) (io : SocketIO) (c : IncomingConnection) : JSONBody → Prop
  | identity => Login c ∧ env.apg.getShort io.recv.bytes = ClientOpcode.LOGIN_AUTHENTICATION_IDENTITY.code
  | mapList => c.state = .MAP_LIST ∧ env.apg.getShort io.recv.bytes = ServerOpcode.MAP_SERVER_MAP_LIST.code

def JSONBody.Shape : JSONBody → Json → Prop
  | identity => IdentityShape
  | mapList => MapListShape

def JSONBody.Decodes (parse : Bytes → Json) (json : Bytes) : JSONBody → Prop
  | identity => ∃ authID, AuthenticationIdentity.fromJSON parse json = .ok authID
  | mapList => ∃ mapHashes, MapServerMapList.fromJSON parse json = .ok mapHashes

theorem decodes_shape (body : JSONBody) : body.Decodes parse json ↔ body.Shape (parse (cString json)) := by
  cases body with
  | identity => exact identity_decodes
  | mapList => exact mapList_decodes

structure Delivered (env : Env) (io : SocketIO) (c : IncomingConnection) (body : JSONBody) : Prop where
  turn : ∃ socket, Turn io c socket
  data : ∃ first rest, io.recv = .data first rest
  carried : body.Carried env io c

-- Decoded, or rejected by the state; no precondition fails on the way.
structure Answered (env : Env) (world : World) (io : SocketIO) (c : IncomingConnection) (body : JSONBody) : Prop where
  outcome : body.Decodes env.parse (receivedJSON env io.recv.bytes) ∨
    ∃ handled, processIncoming env world c io = .ok handled ∧
      (handled.connection.state = .LOGIN_FAILED ∨ handled.connection.state = .DONE)
  safe : ∀ fault, processIncoming env world c io = .error fault → fault.ofDecoder = false

theorem identity_turn (world : World) (login : Login c) (turn : Turn io c socket) (opened : ¬ Closes env io c)
    (opcode : env.apg.getShort io.recv.bytes = ClientOpcode.LOGIN_AUTHENTICATION_IDENTITY.code) :
    processIncoming env world c io = (attemptAuth env world {c with socket := some (read socket io)} io).map
      (exhausted ∘ Handled.after [.received io.recv.bytes]) := by
  obtain ⟨owned,alive,active⟩ := turn
  unfold polled at alive
  have some : ¬ io.recv.result = 0 := fun none => opened (.inl none)
  rcases login with state | state
  · simp [processIncoming,processChallengeSentSocket,state,owned,alive,active,some,opcode,Visits.read,polled]
  · have positive : ¬ io.recv.result ≤ 0 := fun none => opened (.inr (.inl ⟨state,none⟩))
    simp [processIncoming,processLoginFailedSocket,state,owned,alive,active,positive,opcode,Visits.read,polled]

theorem decrypt_fault (failed : RSACrypto.decryptStringPrivate crypto encStr = .error fault) : fault = .nullKey := by
  unfold RSACrypto.decryptStringPrivate at failed
  split at failed
  · cases failed
  · split at failed
    · cases failed; rfl
    · split at failed <;> cases failed

theorem failAttempt_fault (failed : failAttempt world c io message = .error fault) :
    fault = .nullSocket ∧ c.socket = none := by
  unfold failAttempt at failed
  split at failed
  · rename_i missing; cases failed; exact ⟨rfl,missing⟩
  · cases failed

theorem attempt_fault (failed : processLoginAttempt env world c authID io = .error fault) :
    fault = .nullKey ∨ (fault = .nullSocket ∧ c.socket = none) := by
  unfold processLoginAttempt at failed
  split at failed
  · rename_i other decrypted
    cases failed
    exact .inl (decrypt_fault decrypted)
  · split at failed
    · exact .inr (failAttempt_fault failed)
    · dsimp only at failed
      split at failed
      · rename_i missing; cases failed; exact .inr ⟨rfl,missing⟩
      · split at failed
        · cases failed
        · split at failed
          · cases failed
          · exact .inr (failAttempt_fault failed)

theorem identity_answered (login : Login c) (turn : Turn io c socket) (got : 0 < io.recv.result)
    (opcode : env.apg.getShort io.recv.bytes = ClientOpcode.LOGIN_AUTHENTICATION_IDENTITY.code) :
    Answered env world io c .identity ↔ JSONBody.identity.Decodes env.parse (receivedJSON env io.recv.bytes) := by
  have ran := identity_turn world login turn (got_open login got opcode) opcode
  constructor
  · intro answered
    cases decoded : AuthenticationIdentity.fromJSON env.parse (receivedJSON env io.recv.bytes) with
    | ok authID => exact ⟨authID,decoded⟩
    | error fault =>
      have failed : processIncoming env world c io = .error fault := by
        rw [ran]; simp [attemptAuth,decoded,Except.map]
      exact absurd (identity_fault decoded) (by simp [answered.safe fault failed])
  · intro decodes
    obtain ⟨authID,decoded⟩ := decodes
    refine ⟨.inl ⟨authID,decoded⟩,fun fault failed => ?_⟩
    rw [ran] at failed
    simp only [attemptAuth,decoded] at failed
    cases attempted : processLoginAttempt env world {c with socket := some (read socket io)} authID io with
    | ok handled => simp [attempted,Except.map] at failed
    | error other =>
      obtain rfl : other = fault := by simpa [attempted,Except.map] using failed
      rcases attempt_fault attempted with rfl | ⟨rfl,_⟩
      · rfl
      · rfl

theorem mapList_answered (listing : c.state = .MAP_LIST) (turn : Turn io c socket) (got : 0 < io.recv.result)
    (opcode : env.apg.getShort io.recv.bytes = ServerOpcode.MAP_SERVER_MAP_LIST.code) :
    Answered env world io c .mapList ↔ JSONBody.mapList.Decodes env.parse (receivedJSON env io.recv.bytes) := by
  obtain ⟨owned,alive,active⟩ := turn
  unfold polled at alive
  have some : ¬ io.recv.result = 0 := by omega
  constructor
  · intro answered
    cases decoded : MapServerMapList.fromJSON env.parse (receivedJSON env io.recv.bytes) with
    | ok mapHashes => exact ⟨mapHashes,decoded⟩
    | error fault =>
      have failed : processIncoming env world c io = .error fault := by
        simp [processIncoming,processMapListSocket,listing,owned,alive,active,some,opcode,decoded]
      exact absurd (mapList_fault decoded) (by simp [answered.safe fault failed])
  · intro decodes
    obtain ⟨mapHashes,decoded⟩ := decodes
    refine ⟨.inl ⟨mapHashes,decoded⟩,fun fault failed => ?_⟩
    simp only [processIncoming,processMapListSocket,listing,owned,alive,active,some,opcode,decoded] at failed
    split at failed
    · cases failed
    · simp at failed
      split at failed <;> cases failed

-- The decoders are safe on a packet exactly when its body has their shape.
theorem decoder_safety (delivered : Delivered env io c body) : Answered env world io c body ↔
    body.Shape (env.parse (cString (receivedJSON env io.recv.bytes))) := by
  obtain ⟨⟨socket,turn⟩,⟨first,rest,data⟩,carried⟩ := delivered
  have got : 0 < io.recv.result := by rw [data]; simp only [Recv.result]; omega
  rw [← decodes_shape]
  cases body with
  | identity => exact identity_answered carried.1 turn got carried.2
  | mapList => exact mapList_answered carried.1 turn got carried.2

def challenged : IncomingConnection := {IncomingConnection.ofSocket ⟨0,false,true⟩ with state := .CHALLENGE_SENT}

def identityPacket (json : Bytes) : SocketIO :=
  .delivers (ByteBuffer.network.putShort ClientOpcode.LOGIN_AUTHENTICATION_IDENTITY.code ++ putSized .network json)

def credentials : AuthenticationIdentity := ⟨text "test@example.com",text "testa"⟩

theorem identity_delivered (env : Env) (json : Bytes) (network : env.apg = .network) :
    Delivered env (identityPacket json) challenged .identity where
  turn := ⟨⟨0,false,true⟩,rfl,rfl,rfl⟩
  data := ⟨0,_,rfl⟩
  carried := by
    refine ⟨.inl rfl,?_⟩
    rw [network,identityPacket,delivers,Recv.bytes_ofBytes]
    exact ByteBuffer.network.getShort_put _ _

theorem decoder_safety_read : Answered (.plain [credentials.document])
    (LoginServer.start .empty [] [] .empty).toWorld (identityPacket credentials.toJSON) challenged .identity := by
  apply (decoder_safety (identity_delivered (.plain [credentials.document]) credentials.toJSON rfl)).mpr
  rw [← decodes_shape]
  exact ⟨credentials,by decide +kernel⟩

-- One byte that is no JSON text stops the server in operator[] of a null document.
theorem decoder_safety_malformed : Delivered (.plain []) (identityPacket (text "x")) challenged .identity ∧
    ¬ Answered (.plain []) (LoginServer.start .empty [] [] .empty).toWorld (identityPacket (text "x")) challenged
      .identity := by
  refine ⟨identity_delivered (.plain []) (text "x") rfl,fun answered => ?_⟩
  have failed : processIncoming (.plain []) (LoginServer.start .empty [] [] .empty).toWorld challenged
      (identityPacket (text "x")) = .error (.json .notObject) := Fault.stopped_some.mp (by decide +kernel)
  exact absurd (answered.safe _ failed) (by simp [Fault.ofDecoder])

end PlayPG.Decoders
