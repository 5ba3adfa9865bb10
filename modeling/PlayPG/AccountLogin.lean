import PlayPG.Client
import PlayPG.Segments

namespace PlayPG.AccountLogin
open Bytes IncomingHandler Visits Codecs Segments

-- What a client makes of the challenge that it received, for any password.
def submit (build : Client.Build) (challenge username password : Bytes) : Except Fault AuthenticationIdentity := do
  let challenge ← AuthenticationChallenge.fromJSON build.parse (sizedBody build.apg challenge)
  let encPass ← (RSACrypto.ofPublicKey build.readPublicKey challenge.pubKey).encryptStringPublic password
  return ⟨username,encPass⟩

theorem handshake_key (closed : game.isConnected = false) (passed : Client.handshake build game io = .ok (next,effects,true)) :
    ∃ challenge, AuthenticationChallenge.fromJSON build.parse (sizedBody build.apg io.recv.bytes) = .ok challenge ∧
      next.crypto = some (.ofPublicKey build.readPublicKey challenge.pubKey) ∧ next.username = game.username := by
  cases Client.handshake_shaken passed with
  | connected open_ => cases closed.symm.trans open_
  | challenged _ connects clean active opcode decoded same outcome =>
    rw [same]
    exact ⟨_,decoded,rfl,rfl⟩

-- doLogin sends just this on the connection that it opened.
theorem doLogin_submits (closed : game.isConnected = false) (ran : Client.doLogin build game io = .ok (next,effects,result))
    (sent : .sent (.authenticationIdentity identity) ∈ effects) :
    submit build io.recv.bytes game.username (text "testa") = .ok identity := by
  unfold Client.doLogin at ran
  split at ran
  · cases ran
  · rename_i middle early stopped
    cases Except.ok.inj ran
    exact absurd sent ((Client.handshake_quiet stopped).2 identity)
  · rename_i middle early passed
    obtain ⟨challenge,decoded,key,name⟩ := handshake_key closed passed
    have quiet := (Client.handshake_quiet passed).2
    split at ran
    · cases ran
    · rename_i last late finished authenticated
      cases Except.ok.inj ran
      have here : .sent (.authenticationIdentity identity) ∈ late := (List.mem_append.mp sent).resolve_left (quiet identity)
      simp only [Client.authenticate,key] at authenticated
      cases encrypted : (RSACrypto.ofPublicKey build.readPublicKey challenge.pubKey).encryptStringPublic (text "testa") with
      | error fault => simp [encrypted] at authenticated
      | ok encPass =>
        have shown : late = [.encrypted (.ofPublicKey build.readPublicKey challenge.pubKey),
            .sent (.authenticationIdentity ⟨middle.username,encPass⟩)] := by
          simp only [encrypted] at authenticated
          split at authenticated
          · cases authenticated; rfl
          · split at authenticated
            · cases authenticated
            · split at authenticated
              · cases authenticated; rfl
              · split at authenticated <;> (cases authenticated; rfl)
        obtain rfl : identity = ⟨middle.username,encPass⟩ := by simpa [shown] using here
        simp [submit,decoded,encrypted,name,bind,Except.bind,pure,Except.pure]

-- OAEP with a key of 4096 bits takes 470 bytes; the padding may be any.
structure Inverts (keyPair publicKey : RSA) : Prop where
  decrypts : ∀ message, message.length ≤ 470 → ∃ cipher, publicKey.publicEncrypt message = some cipher ∧
    cipher.length = publicKey.size ∧ keyPair.privateDecrypt cipher = some message

-- The client reads the public half of the server's own key out of the challenge.
structure Keys (env : Env) (build : Client.Build) : Prop where
  pair : ∃ keyPair publicKey, env.crypto.keyPair = some keyPair ∧ env.crypto.hasPriKey = true ∧
    build.readPublicKey env.crypto.publicKey = some publicKey ∧ Inverts keyPair publicKey
  library : build.apg = env.apg
  text : 0 ∉ env.crypto.publicKey
  fits : Message.Fits (.challenge env.challenge)
  parsed : Message.Parsed build.parse (.challenge env.challenge)

-- The one row of a username, as initDB makes rows.
structure Registered (env : Env) (world : World) (username password salt : Bytes) (person : Player) : Prop where
  row : world.players.query username = [person]
  unlocked : person.locked = false
  password : person.password = SHACrypto.sha256ToString (env.hasher.hashPasswordSHA256 password salt)
  salt : person.salt = SHACrypto.saltToString salt

theorem challenge_pubKey {t : AuthenticationChallenge} (free : 0 ∉ t.pubKey) (parsed : parse (cString json) = t.document) :
    ∃ challenge, AuthenticationChallenge.fromJSON parse json = .ok challenge ∧ challenge.pubKey = t.pubKey := by
  refine ⟨⟨cString (cString t.version),cString (cString t.versionHash),cString (cString t.name),cString (cString t.pubKey)⟩,?_,?_⟩
  · unfold AuthenticationChallenge.fromJSON
    rw [parsed]
    rfl
  · dsimp only
    rw [cString_of_free free,cString_of_free free]

theorem digest_string {one two : Digest} : SHACrypto.sha256ToString one = SHACrypto.sha256ToString two ↔ one = two := by
  constructor
  · intro same
    have bytes := congrArg (fun s => (pairs s).map (fun piece => UInt8.ofNat (strtoul16 piece))) same
    have read : ∀ digest : Digest, (pairs (digits upperHexDigit digest.val)).map
        (fun piece => UInt8.ofNat (strtoul16 piece)) = digest.val := fun digest => digits_read (.inr rfl) digest.val
    exact Subtype.ext ((read one).symm.trans (bytes.trans (read two)))
  · exact congrArg SHACrypto.sha256ToString

-- The stored salt reads back, so the comparison of the strings is one of the digests.
theorem accepts_exact (registered : Registered env world authID.username password salt person)
    (decrypted : env.crypto.decryptStringPrivate authID.password = .ok given) :
    Accepts env world.players authID other ↔ other = person ∧
      env.hasher.hashPasswordSHA256 given salt = env.hasher.hashPasswordSHA256 password salt := by
  have row : found world.players authID = some person := by rw [found,registered.row]; rfl
  unfold Accepts
  rw [row,Option.some.injEq]
  constructor
  · intro accepts
    obtain ⟨rfl,_,decPass,again,matched⟩ := accepts
    obtain rfl := Except.ok.inj (decrypted.symm.trans again)
    rw [registered.salt,salt_read,registered.password] at matched
    exact ⟨rfl,digest_string.mp matched⟩
  · intro both
    obtain ⟨rfl,same⟩ := both
    refine ⟨rfl,registered.unlocked,given,decrypted,?_⟩
    rw [registered.salt,salt_read,registered.password,same]

theorem submit_runs (keys : Keys env build) (username : Bytes) (short : password.length ≤ 470) :
    ∃ identity, submit build ((ServerPacket.authenticationChallenge env.challenge).buffer env.apg) username password =
        .ok identity ∧ identity.username = username ∧ env.crypto.decryptStringPrivate identity.password = .ok password := by
  obtain ⟨keyPair,publicKey,held,private_,opened,inverts⟩ := keys.pair
  obtain ⟨cipher,encrypted,whole,decrypted⟩ := inverts.decrypts password short
  have body : sizedBody build.apg ((ServerPacket.authenticationChallenge env.challenge).buffer env.apg) =
      env.challenge.toJSON := by
    rw [keys.library]
    exact sized_read env.apg _ (keys.fits _ rfl)
  have free : 0 ∉ env.challenge.document.write := object_free (by simp [string_free])
  have parsed : build.parse (cString env.challenge.toJSON) = env.challenge.document := text_parsed (keys.parsed _ rfl) free
  obtain ⟨challenge,read,key⟩ := challenge_pubKey keys.text parsed
  have filled : RSACrypto.filled publicKey.size cipher = cipher := List.take_left' whole
  refine ⟨⟨username,cipher⟩,?_,rfl,?_⟩
  · have pem : challenge.pubKey = env.crypto.publicKey := key
    simp [submit,body,read,pem,RSACrypto.ofPublicKey,RSACrypto.encryptStringPublic,opened,encrypted,filled,bind,Except.bind,
      pure,Except.pure]
  · simp [RSACrypto.decryptStringPrivate,private_,held,decrypted]

structure Successful (world : World) (c : IncomingConnection) (io : SocketIO) (identity : AuthenticationIdentity)
    (person : Player) (handled : Handled) : Prop where
  answer : handled.effects.filter seen = [.loginAttempt identity,
    .sent (.authenticationResponse ⟨true,c.getAttemptsRemaining,text "Authentication successful."⟩) io.sendResult,
    .sessionCreated]
  session : ∃ session, handled.world.playerSessions = world.playerSessions ++ [some session] ∧
    session.username = identity.username ∧ session.playerID = person.id
  attempts : handled.connection.loginAttempts = c.loginAttempts

structure Unsuccessful (world : World) (c : IncomingConnection) (io : SocketIO) (identity : AuthenticationIdentity)
    (handled : Handled) : Prop where
  answer : handled.effects.filter seen = [.loginAttempt identity,
    .sent (failureResponse c (text "Authentication failure.")) io.sendResult]
  world : handled.world = world
  attempts : handled.connection.loginAttempts = c.loginAttempts + 1

-- The account opens to a password exactly when its digest is the one that the row was made with.
theorem account_login (keys : Keys env build) (registered : Registered env world username password salt person)
    (free : 0 ∉ username) (short : given.length ≤ 470) (login : Login c) (owned : c.socket = some socket)
    (alive : (polled socket io).error = false) :
    ∃ identity, submit build ((ServerPacket.authenticationChallenge env.challenge).buffer env.apg) username given =
        .ok identity ∧
      ∀ packet, packet = (ClientPacket.authenticationIdentity identity).buffer env.apg → packet.length ≤ 2048 →
        env.parse identity.toJSON = identity.document →
        ∃ handled, processIncoming env world c (arrives io packet) = .ok handled ∧
          (env.hasher.hashPasswordSHA256 given salt = env.hasher.hashPasswordSHA256 password salt →
            Successful world c io identity person handled) ∧
          (env.hasher.hashPasswordSHA256 given salt ≠ env.hasher.hashPasswordSHA256 password salt →
            Unsuccessful world c io identity handled) := by
  obtain ⟨identity,submitted,rfl,decrypted⟩ := submit_runs keys username short
  refine ⟨identity,submitted,?_⟩
  rintro packet rfl whole parsed
  have turn : Turn (arrives io ((ClientPacket.authenticationIdentity identity).buffer env.apg)) c socket := ⟨owned,alive,rfl⟩
  have some : (ClientPacket.authenticationIdentity identity).buffer env.apg ≠ [] := by
    intro none
    have length := congrArg List.length none
    simp [ClientPacket.buffer,env.apg.putShort_length] at length
  have fits : identity.toJSON.length < 2^16 := by
    simp only [ClientPacket.buffer,ClientPacket.payload,putSized,List.length_append] at whole
    omega
  have identifies := identity_identifies io free fits parsed
  have keyed : Keyed env.crypto := by
    obtain ⟨keyPair,_,held,_⟩ := keys.pair
    intro _
    rw [held]
    rfl
  obtain ⟨handled,ran⟩ := identity_runs world keyed login turn identifies some
  have exact_ : ∀ other, Accepts env world.players identity other ↔ other = person ∧
      env.hasher.hashPasswordSHA256 given salt = env.hasher.hashPasswordSHA256 password salt :=
    fun other => accepts_exact registered decrypted
  refine ⟨handled,ran,?_⟩
  have opened := got_open login (arrives_got io some) identifies.1
  rcases identity_visit login turn opened identifies (processIncoming_parts ran) with
    ⟨refuses,unlocked,rfl⟩ | ⟨other,row,locked,rfl⟩ | ⟨other,accepts,rfl⟩
  · refine ⟨fun same => ?_,fun _ => ⟨rfl,rfl,rfl⟩⟩
    exact absurd ((exact_ person).mpr ⟨rfl,same⟩) (refuses person)
  · have same : found world.players identity = .some person := by rw [found,registered.row]; rfl
    obtain rfl := Option.some.inj (row.symm.trans same)
    rw [registered.unlocked] at locked
    cases locked
  · obtain ⟨rfl,same⟩ := (exact_ other).mp accepts
    refine ⟨fun _ => ⟨rfl,⟨_,rfl,rfl,rfl⟩,rfl⟩,fun differs => absurd same differs⟩

theorem submitted_same {identity expected : AuthenticationIdentity} (submitted : submit build challenge username password = .ok identity)
    (shown : (submit build challenge username password).toOption = some expected) : identity = expected := by
  rw [submitted] at shown
  exact Option.some.inj shown

-- A key that carries the message in the clear, and a digest that keeps the password.
def carrier : RSA where
  size := 512
  publicEncrypt message :=
    if message.length ≤ 470 then some (putBig 2 message.length ++ (message ++ List.replicate (510 - message.length) 0))
    else none
  privateDecrypt cipher := some ((cipher.drop 2).take (getBig (cipher.take 2)))
  privateEncrypt := some
  publicDecrypt := some

theorem carrier_inverts : Inverts carrier carrier := by
  refine ⟨fun message short => ⟨_,if_pos short,?_,?_⟩⟩
  · simp only [List.length_append,putBig_length,List.length_replicate,carrier]
    omega
  · have count : getBig (putBig 2 message.length) = message.length := by
      rw [getBig_putBig,Nat.mod_eq_of_lt (by omega)]
    simp only [carrier,List.take_left' (putBig_length 2 _),List.drop_left' (putBig_length 2 _),count]
    rw [List.take_left' rfl]

def keeping : SHACrypto := ⟨fun password _ _ => ⟨(password ++ List.replicate 32 0).take 32,by simp⟩,32000⟩

def ann : Player :=
  let salt := [0,10,255]
  ⟨7,text "ann",SHACrypto.sha256ToString (keeping.hashPasswordSHA256 (text "testa") salt),SHACrypto.saltToString salt,0,
    false,0,0⟩

def annIdentity (password : Bytes) : AuthenticationIdentity :=
  ⟨text "ann",(carrier.publicEncrypt password).getD []⟩

def greeting : AuthenticationChallenge := ⟨text "0.0.1",[],text "PlayPG",text "PEM"⟩

def gate (password : Bytes) : Env := {Env.plain [greeting.document,(annIdentity password).document] with
  crypto := ⟨text "PEM",some carrier,true,true⟩
  hasher := keeping}

def visitor (password : Bytes) : Client.Build := ⟨.network,(gate password).parse,fun _ => some carrier,text "0.0.1",[]⟩

def annWorld : World := (LoginServer.start ⟨[ann],by simp,by simp⟩ [] [] .empty).toWorld

theorem gate_keys (password : Bytes) : Keys (gate password) (visitor password) where
  pair := ⟨carrier,carrier,rfl,rfl,rfl,carrier_inverts⟩
  library := rfl
  text := by change 0 ∉ text "PEM"; decide
  fits d same := by cases same; change greeting.document.write.length < 2^16; decide +kernel
  parsed d same := by
    cases same
    change Json.known [greeting.document,(annIdentity password).document] greeting.document.write = greeting.document
    simp [Json.known]

theorem gate_knows (other : greeting.document.write ≠ (annIdentity password).document.write) :
    (gate password).parse (annIdentity password).toJSON = (annIdentity password).document := by
  have single : ([greeting.document,(annIdentity password).document].map Json.write).Nodup := by simpa using other
  exact known_member single (List.mem_cons_of_mem _ (List.mem_singleton_self _))

theorem account_login_ann :
    (∃ handled, processIncoming (gate (text "testa")) annWorld Decoders.challenged
        (arrives (.delivers []) ((ClientPacket.authenticationIdentity (annIdentity (text "testa"))).buffer .network)) =
        .ok handled ∧ Successful annWorld Decoders.challenged (.delivers []) (annIdentity (text "testa")) ann handled) ∧
    ∃ handled, processIncoming (gate (text "testb")) annWorld Decoders.challenged
        (arrives (.delivers []) ((ClientPacket.authenticationIdentity (annIdentity (text "testb"))).buffer .network)) =
        .ok handled ∧ Unsuccessful annWorld Decoders.challenged (.delivers []) (annIdentity (text "testb")) handled := by
  have registered : ∀ password, Registered (gate password) annWorld (text "ann") (text "testa") [0,10,255] ann :=
    fun password => ⟨by decide +kernel,rfl,rfl,rfl⟩
  have free : 0 ∉ text "ann" := by decide
  have login : Login Decoders.challenged := .inl rfl
  have owned : Decoders.challenged.socket = some ⟨0,false,true⟩ := rfl
  have alive : (polled ⟨0,false,true⟩ (.delivers [])).error = false := rfl
  constructor
  · have short : (text "testa").length ≤ 470 := by decide
    obtain ⟨identity,submitted,answered⟩ := account_login (gate_keys (text "testa")) (registered _) free short login owned alive
    obtain rfl : identity = annIdentity (text "testa") := submitted_same submitted (by decide +kernel)
    obtain ⟨handled,ran,successful,_⟩ := answered _ rfl (by decide +kernel) (gate_knows (by decide +kernel))
    exact ⟨handled,ran,successful rfl⟩
  · have short : (text "testb").length ≤ 470 := by decide
    obtain ⟨identity,submitted,answered⟩ := account_login (gate_keys (text "testb")) (registered _) free short login owned alive
    obtain rfl : identity = annIdentity (text "testb") := submitted_same submitted (by decide +kernel)
    obtain ⟨handled,ran,_,unsuccessful⟩ := answered _ rfl (by decide +kernel) (gate_knows (by decide +kernel))
    exact ⟨handled,ran,unsuccessful (by decide +kernel)⟩

end PlayPG.AccountLogin
