import PlayPG.Codecs
import PlayPG.Connections

namespace PlayPG.Segments
open Bytes IncomingHandler Visits Connections Decoders Codecs

-- A visit whose recv returns this piece of the bytes that have arrived.
def arrives (io : SocketIO) (piece : Bytes) : SocketIO := {io with activity := true,recv := .ofBytes piece}

-- The visits of one connection while the pieces of a packet arrive.
def visits (env : Env) : World → IncomingConnection → List ( SocketIO × Bytes) → Except Fault Handled
  | world,c,[] => .ok ⟨world,c,[]⟩
  | world,c,(io,piece) :: rest =>
    match processIncoming env world c (arrives io piece) with
    | .error fault => .error fault
    | .ok handled => (visits env handled.world handled.connection rest).map (Handled.after handled.effects)

-- The packets of the login phase and the states whose handler reads them.
inductive Expected (c : IncomingConnection) : Message → Prop where
  | identity (login : Login c) : Expected c (.identity t)
  | registration (challenged : c.state = .CHALLENGE_SENT) : Expected c (.registration request)
  | mapList (listing : c.state = .MAP_LIST) : Expected c (.mapList mapHashes)

-- The argument of recv; the other states leave it to the library.
def limit : IncomingConnectionState → Option Nat
  | .CHALLENGE_SENT | .LOGIN_FAILED => some 2048
  | _ => none

structure Cut (c : IncomingConnection) (packet first : Bytes) (rest : List ( SocketIO × Bytes)) : Prop where
  whole : first ++ (rest.map Prod.snd).flatten = packet
  nonempty : first ≠ [] ∧ ∀ piece ∈ rest, piece.2 ≠ []
  bounded : ∀ most, limit c.state = some most → first.length ≤ most

-- Everything but the raw bytes: they tell the cuttings apart by themselves.
def seen : Effect → Bool
  | .received _ => false
  | _ => true

structure SameEffect (whole cut : Handled) : Prop where
  world : cut.world = whole.world
  connection : cut.connection = whole.connection
  effects : cut.effects.filter seen = whole.effects.filter seen

def Agree (env : Env) (world : World) (c : IncomingConnection) (io : SocketIO) (packet first : Bytes)
    (rest : List ( SocketIO × Bytes)) : Prop :=
  ∃ whole cut, processIncoming env world c (arrives io packet) = .ok whole ∧
    visits env world c ((io,first) :: rest) = .ok cut ∧ SameEffect whole cut

-- What a string read past the received bytes is: those that are there, and NULs at most.
def Padded (apg : ByteBuffer) : Prop :=
  ∀ n b, b.length ≤ n → ∃ m, apg.getStringByLength n b = b ++ List.replicate m 0

-- The reader knows the document by its text and finds the text malformed when its end is missing.
structure Reads (parse : Bytes → Json) (d : Json) : Prop where
  written : parse d.write = d
  truncated : ∀ json, json <+: d.write → json ≠ d.write → parse json = .null

-- A private key that is announced is there.
def Keyed (crypto : RSACrypto) : Prop := crypto.hasPriKey = true → crypto.keyPair.isSome

theorem cString_padded (free : 0 ∉ s) (m : Nat) : cString (s ++ List.replicate m 0) = s := by
  have all : ∀ byte ∈ s, decide (byte ≠ 0) = true := by
    intro byte member
    simp only [decide_eq_true_eq]
    rintro rfl
    exact free member
  unfold cString
  rw [List.takeWhile_append_of_pos all]
  cases m <;> simp [List.replicate_succ]

theorem object_some (members : List (Bytes × Json)) : (Json.object members).write ≠ [] := by simp [Json.write]

-- A packet that lacks its end has a body that lacks its end.
theorem truncated_body (padded : Padded apg) (code : UInt16) (free : 0 ∉ json) (some : json ≠ []) (short : json.length < 2^16)
    (within : first <+: apg.putShort code ++ putSized apg json) (proper : first ≠ apg.putShort code ++ putSized apg json) :
    ∃ body, body <+: json ∧ body ≠ json ∧ cString (sizedBody apg first) = body := by
  by_cases early : first.length ≤ 4
  · obtain ⟨m,read⟩ := padded (apg.getShort (first.drop 2)).toNat [] (Nat.zero_le _)
    refine ⟨[],List.nil_prefix,Ne.symm some,?_⟩
    rw [sizedBody,List.drop_eq_nil_of_le early,read]
    exact cString_padded List.not_mem_nil m
  · obtain ⟨missing,split⟩ := within
    have header : (apg.putShort code ++ apg.putShort (UInt16.ofNat json.length)).length = 4 := by
      simp [apg.putShort_length]
    have whole : apg.putShort code ++ putSized apg json =
        (apg.putShort code ++ apg.putShort (UInt16.ofNat json.length)) ++ json := by simp [putSized]
    have body : first.drop 4 ++ missing = json := by
      have later := congrArg (List.drop 4) split
      rw [List.drop_append_of_le_length (by omega),whole,List.drop_left' header] at later
      exact later
    have start : first = (apg.putShort code ++ apg.putShort (UInt16.ofNat json.length)) ++ first.drop 4 := by
      have early := congrArg (List.take 4) split
      rw [List.take_append_of_le_length (by omega),whole,List.take_left' header] at early
      rw [← early,List.take_append_drop]
    have count : (apg.getShort (first.drop 2)).toNat = json.length := by
      rw [start,List.append_assoc,List.drop_left' (apg.putShort_length code),apg.getShort_put]
      exact Nat.mod_eq_of_lt short
    have bound : (first.drop 4).length ≤ json.length := by rw [← body,List.length_append]; omega
    obtain ⟨m,read⟩ := padded json.length (first.drop 4) bound
    refine ⟨first.drop 4,⟨missing,body⟩,?_,?_⟩
    · intro same
      rw [same] at start
      exact proper (start.trans whole.symm)
    · rw [sizedBody,count,read]
      apply cString_padded
      intro member
      exact free (by rw [← body]; exact List.mem_append_left _ member)

theorem identity_truncated (reads : Reads parse (AuthenticationIdentity.document t))
    (body : json <+: t.toJSON) (proper : json ≠ t.toJSON) (same : cString received = json) :
    AuthenticationIdentity.fromJSON parse received ≠ .ok authID := by
  intro decoded
  obtain ⟨_,_,_,object,_⟩ := identity_decodes.mp ⟨authID,decoded⟩
  rw [same,reads.truncated json body proper] at object
  cases object

theorem mapList_truncated (reads : Reads parse (MapServerMapList.document mapHashes))
    (body : json <+: MapServerMapList.toJSON mapHashes) (proper : json ≠ MapServerMapList.toJSON mapHashes)
    (same : cString received = json) : MapServerMapList.fromJSON parse received ≠ .ok decodedList := by
  intro decoded
  obtain ⟨_,_,object,_⟩ := mapList_decodes.mp ⟨decodedList,decoded⟩
  rw [same,reads.truncated json body proper] at object
  cases object

theorem visits_cons (ran : visits env world c ((io,piece) :: rest) = .ok cut) :
    ∃ handled late, Visit env world (arrives io piece) c handled ∧
      visits env handled.world handled.connection rest = .ok late ∧ cut = late.after handled.effects := by
  unfold visits at ran
  split at ran
  · cases ran
  · rename_i handled visited
    obtain ⟨late,later,rfl⟩ := map_ok ran
    exact ⟨handled,late,processIncoming_parts visited,later,rfl⟩

theorem visits_done (finished : c.state = .DONE) (ran : visits env world c pieces = .ok cut) : cut = ⟨world,c,[]⟩ := by
  induction pieces generalizing world cut with
  | nil => exact (Except.ok.inj ran).symm
  | cons piece rest ih =>
    obtain ⟨io,bytes⟩ := piece
    simp only [visits,processIncoming,finished,if_true] at ran
    obtain ⟨late,later,rfl⟩ := map_ok ran
    rw [ih later]
    rfl

-- Such a connection never waits for a registration request or a map list again.
def Past (c : IncomingConnection) : Prop := c.state = .LOGIN_FAILED ∨ c.state = .MAP_WAIT_ACK ∨ c.state = .DONE

theorem failedOnce_past (c : IncomingConnection) (socket : Socket) : Past (failedOnce c socket) := by
  simp only [Past,failedOnce]
  split <;> simp

theorem visit_past (past : Past c) (visit : Visit env world io c handled) : Past handled.connection := by
  cases visit with
  | done finished => exact past
  | quiet live met owned idle => exact past
  | greeted fresh owned alive => simp [Past,fresh] at past
  | unexpected login turn other => exact failedOnce_past _ _
  | refused login turn identity refuses unlocked => exact failedOnce_past _ _
  | registering challenged turn request reached => simp [Past,challenged] at past
  | unanswered challenged turn request lost => simp [Past,challenged] at past
  | listed listing turn opcode decoded some => exact .inr (.inl rfl)
  | _ => exact .inr (.inr rfl)

theorem visits_past (past : Past c) (ran : visits env world c pieces = .ok cut) : Past cut.connection := by
  induction pieces generalizing world c cut with
  | nil =>
    obtain rfl := Except.ok.inj ran
    exact past
  | cons piece rest ih =>
    obtain ⟨io,bytes⟩ := piece
    obtain ⟨handled,late,visit,later,rfl⟩ := visits_cons ran
    have final := ih (visit_past past visit) later
    exact final

theorem listing_past (listing : c.state = .MAP_LIST) (visit : Visit env world (arrives io piece) c handled) :
    Past handled.connection := by
  cases visit with
  | done finished => rw [listing] at finished; cases finished
  | greeted fresh owned alive => rw [listing] at fresh; cases fresh
  | quiet live met owned idle => cases idle
  | unexpected login turn other => exact failedOnce_past _ _
  | refused login turn identity refuses unlocked => exact failedOnce_past _ _
  | registering challenged turn request reached => rw [listing] at challenged; cases challenged
  | unanswered challenged turn request lost => rw [listing] at challenged; cases challenged
  | listed again turn opcode decoded some => exact .inr (.inl rfl)
  | _ => exact .inr (.inr rfl)

theorem challenged_past (challenged : c.state = .CHALLENGE_SENT)
    (visit : Visit env world (arrives io piece) c handled) : Past handled.connection ∨
      ((handled.connection.state = .MAP_LIST ∨ handled.connection.state = .CHALLENGE_SENT) ∧
        handled.effects.filter seen ≠ []) := by
  cases visit with
  | done finished => rw [challenged] at finished; cases finished
  | greeted fresh owned alive => rw [challenged] at fresh; cases fresh
  | quiet live met owned idle => cases idle
  | unexpected login turn other => exact .inl (failedOnce_past _ _)
  | refused login turn identity refuses unlocked => exact .inl (failedOnce_past _ _)
  | registering again turn request reached =>
    by_cases last : c.loginAttempts = IncomingConnection.MAX_ATTEMPTS_ALLOWED
    · exact .inl (.inr (.inr (by simp [last])))
    · exact .inr ⟨.inl (by simp [last]),by simp [seen]⟩
  | unanswered again turn request lost => exact .inr ⟨.inr challenged,by simp [seen]⟩
  | listed listing turn opcode decoded some => rw [challenged] at listing; cases listing
  | _ => exact .inl (.inr (.inr rfl))

theorem after_seen (early : List Effect) (late : Handled) :
    (late.after early).effects.filter seen = early.filter seen ++ late.effects.filter seen := List.filter_append ..

theorem arrives_got (io : SocketIO) (some : piece ≠ []) : 0 < (arrives io piece).recv.result := by
  have positive := List.length_pos_iff.mpr some
  simp only [arrives,Recv.ofBytes_result]
  omega

@[simp] theorem arrives_sendResult (io : SocketIO) (piece : Bytes) : (arrives io piece).sendResult = io.sendResult := rfl

@[simp] theorem arrives_bytes (io : SocketIO) (piece : Bytes) : (arrives io piece).recv.bytes = piece := by
  simp [arrives]

theorem attempt_runs (world : World) (authID : AuthenticationIdentity) (io : SocketIO) (keyed : Keyed env.crypto)
    (owned : c.socket = some socket) :
    ∃ handled, processLoginAttempt env world c authID io = .ok handled := by
  have decrypts : ∃ decPass, env.crypto.decryptStringPrivate authID.password = .ok decPass := by
    unfold RSACrypto.decryptStringPrivate
    cases key : env.crypto.hasPriKey with
    | false => exact ⟨[],by simp⟩
    | true =>
      obtain ⟨keyPair,has⟩ := Option.isSome_iff_exists.mp (keyed key)
      cases opened : keyPair.privateDecrypt authID.password <;> simp [has,opened]
  obtain ⟨decPass,decrypted⟩ := decrypts
  unfold processLoginAttempt
  simp only [decrypted,failAttempt,owned]
  split
  · exact ⟨_,rfl⟩
  · split
    · exact ⟨_,rfl⟩
    · split <;> exact ⟨_,rfl⟩

theorem identity_runs (world : World) (keyed : Keyed env.crypto) (login : Login c) (turn : Turn (arrives io packet) c socket)
    (identity : Identifies env (arrives io packet) authID) (some : packet ≠ []) :
    ∃ whole, processIncoming env world c (arrives io packet) = .ok whole := by
  obtain ⟨handled,ran⟩ := attempt_runs (c:={c with socket := .some (read socket (arrives io packet))}) world authID
    (arrives io packet) keyed rfl
  rw [identity_turn world login turn (got_open login (arrives_got io some) identity.1) identity.1,attemptAuth,identity.2]
  simp only [ran]
  exact ⟨_,rfl⟩

theorem mapList_runs (listing : c.state = .MAP_LIST) (turn : Turn (arrives io packet) c socket)
    (opcode : env.apg.getShort packet = ServerOpcode.MAP_SERVER_MAP_LIST.code)
    (decoded : MapServerMapList.fromJSON env.parse (receivedJSON env packet) = .ok mapHashes) (some : packet ≠ []) :
    ∃ whole, processIncoming env world c (arrives io packet) = .ok whole := by
  have got := arrives_got io some
  have present : (arrives io packet).recv.result ≠ 0 := by omega
  obtain ⟨owned,alive,active⟩ := turn
  unfold polled at alive
  cases needed : (requiredMaps world mapHashes).isEmpty <;>
    simp [processIncoming,processMapListSocket,listing,owned,alive,active,present,opcode,decoded,needed]

def registrationAnswer (io : SocketIO) : Effect :=
  .sent (.mapServerRegistrationResponse (text "hello, world")) io.sendResult

-- After a registration request the connection lists maps, or waits for a request as before.
theorem registration_runs (world : World) (challenged : c.state = .CHALLENGE_SENT) (ready : Ready c)
    (turn : Turn (arrives io packet) c socket)
    (opcode : env.apg.getShort packet = ServerOpcode.MAP_SERVER_REGISTRATION_REQUEST.code) (some : packet ≠ []) :
    ∃ whole, processIncoming env world c (arrives io packet) = .ok whole ∧
      whole.effects.filter seen = [registrationAnswer io] ∧
      (whole.connection.state = .MAP_LIST ∨ whole.connection.state = .CHALLENGE_SENT) := by
  have got := arrives_got io some
  have present : (arrives io packet).recv.result ≠ 0 := by omega
  have untried := ready.untried (.inr challenged)
  obtain ⟨owned,alive,active⟩ := turn
  unfold polled at alive
  by_cases lost : io.sendResult ≤ 0
  · simp [processIncoming,processChallengeSentSocket,processMapAuthenticationRequest,challenged,owned,alive,active,present,
      opcode,lost,ClientOpcode.code,ServerOpcode.code,Handled.after,seen,registrationAnswer]
  · simp [processIncoming,processChallengeSentSocket,processMapAuthenticationRequest,challenged,owned,alive,active,present,
      opcode,lost,ClientOpcode.code,ServerOpcode.code,Handled.after,seen,registrationAnswer,exhausted,untried,
      IncomingConnection.MAX_ATTEMPTS_ALLOWED]

-- The first thing that is seen of a login is the attempt.
theorem identity_seen (login : Login c) (turn : Turn (arrives io packet) c socket) (some : packet ≠ [])
    (identity : Identifies env (arrives io packet) authID) (visit : Visit env world (arrives io packet) c handled) :
    (handled.effects.filter seen).head? = .some (.loginAttempt authID) := by
  rcases identity_visit login turn (got_open login (arrives_got io some) identity.1) identity visit with
    ⟨_,_,rfl⟩ | ⟨_,_,_,rfl⟩ | ⟨_,_,rfl⟩ <;> rfl

-- Bytes that decode to no identity are answered, or they end the connection unanswered.
theorem unidentified_seen (login : Login c) (none : ∀ authID, ¬ Identifies env (arrives io piece) authID)
    (visit : Visit env world (arrives io piece) c handled) :
    (handled.connection.state = .DONE ∧ handled.effects.filter seen = []) ∨
      ∃ packet result, (handled.effects.filter seen).head? = some (.sent packet result) := by
  cases visit with
  | done finished => exact .inl ⟨finished,rfl⟩
  | dropped live owned failed => exact .inl ⟨rfl,rfl⟩
  | greeted fresh owned alive => exact .inr ⟨_,_,rfl⟩
  | quiet live met owned idle => cases idle
  | closed live turn closes => exact .inl ⟨rfl,rfl⟩
  | refused again turn identity refuses unlocked => exact absurd identity (none _)
  | locked again turn identity row locked => exact absurd identity (none _)
  | accepted again turn identity accepts => exact absurd identity (none _)
  | registered waiting turn got maps name port address =>
    rcases login with login | login <;> rw [login] at waiting <;> cases waiting
  | _ => exact .inr ⟨_,_,rfl⟩

theorem identity_cut (login : Login c) (turn : Turn (arrives io packet) c socket) (some : packet ≠ [])
    (identity : Identifies env (arrives io packet) sent)
    (none : ∀ authID, ¬ Identifies env (arrives io first) authID) : ¬ Agree env world c io packet first rest := by
  intro agree
  obtain ⟨whole,cut,ran,cutting,same⟩ := agree
  have attempt := identity_seen login turn some identity (processIncoming_parts ran)
  obtain ⟨handled,late,visit,later,rfl⟩ := visits_cons cutting
  rw [← same.effects,after_seen] at attempt
  rcases unidentified_seen login none visit with ⟨finished,nothing⟩ | ⟨packet,result,answer⟩
  · rw [visits_done finished later,nothing] at attempt
    cases attempt
  · rw [List.head?_append,answer] at attempt
    cases attempt

-- A packet with the opcode of a map list gets an answer, whatever is in the list.
theorem mapList_seen (listing : c.state = .MAP_LIST) (turn : Turn (arrives io packet) c socket)
    (opcode : env.apg.getShort packet = ServerOpcode.MAP_SERVER_MAP_LIST.code) (some : packet ≠ [])
    (visit : Visit env world (arrives io packet) c handled) : handled.effects.filter seen ≠ [] := by
  have got := arrives_got io some
  cases visit with
  | done finished => rw [listing] at finished; cases finished
  | dropped live owned failed => rw [turn.healthy owned] at failed; cases failed
  | quiet live met owned idle => cases idle
  | closed live again closes =>
    rcases closes with nothing | ⟨_,nothing⟩ | ⟨challenged,_⟩ | ⟨_,other⟩
    · omega
    · omega
    · rw [listing] at challenged; cases challenged
    · exact absurd opcode (by simpa using other)
  | _ => simp [seen]

-- Bytes that decode to no list end the connection unanswered.
theorem unlisted_seen (listing : c.state = .MAP_LIST)
    (none : ∀ mapHashes, MapServerMapList.fromJSON env.parse (receivedJSON env piece) ≠ .ok mapHashes)
    (visit : Visit env world (arrives io piece) c handled) :
    handled.connection.state = .DONE ∧ handled.effects.filter seen = [] := by
  have elsewhere : ¬ Login c := by
    intro login
    rcases login with login | login <;> rw [listing] at login <;> cases login
  cases visit with
  | done finished => exact ⟨finished,rfl⟩
  | dropped live owned failed => exact ⟨rfl,rfl⟩
  | greeted fresh owned alive => rw [listing] at fresh; cases fresh
  | quiet live met owned idle => cases idle
  | closed live turn closes => exact ⟨rfl,rfl⟩
  | unexpected login turn other => exact absurd login elsewhere
  | refused login turn identity refuses unlocked => exact absurd login elsewhere
  | locked login turn identity row locked => exact absurd login elsewhere
  | accepted login turn identity accepts => exact absurd login elsewhere
  | registering challenged turn request reached => exact absurd (.inl challenged) elsewhere
  | unanswered challenged turn request lost => exact absurd (.inl challenged) elsewhere
  | notNeeded again turn opcode decoded nothing => exact absurd (by simpa using decoded) (none _)
  | listed again turn opcode decoded needed => exact absurd (by simpa using decoded) (none _)
  | registered waiting turn got maps name port address => rw [listing] at waiting; cases waiting

theorem mapList_cut (listing : c.state = .MAP_LIST) (turn : Turn (arrives io packet) c socket)
    (opcode : env.apg.getShort packet = ServerOpcode.MAP_SERVER_MAP_LIST.code) (some : packet ≠ [])
    (none : ∀ mapHashes, MapServerMapList.fromJSON env.parse (receivedJSON env first) ≠ .ok mapHashes) :
    ¬ Agree env world c io packet first rest := by
  intro agree
  obtain ⟨whole,cut,ran,cutting,same⟩ := agree
  have answered := mapList_seen listing turn opcode some (processIncoming_parts ran)
  obtain ⟨handled,late,visit,later,rfl⟩ := visits_cons cutting
  obtain ⟨finished,nothing⟩ := unlisted_seen listing none visit
  apply answered
  rw [← same.effects,after_seen,visits_done finished later,nothing]
  rfl

theorem registration_cut (challenged : c.state = .CHALLENGE_SENT) (ready : Ready c)
    (turn : Turn (arrives io packet) c socket)
    (opcode : env.apg.getShort packet = ServerOpcode.MAP_SERVER_REGISTRATION_REQUEST.code) (some : packet ≠ []) :
    ¬ Agree env world c io packet first ((io',second) :: rest) := by
  intro agree
  obtain ⟨whole,cut,ran,cutting,same⟩ := agree
  obtain ⟨_,again,answer,state⟩ := registration_runs world challenged ready turn opcode some
  obtain rfl := Except.ok.inj (ran.symm.trans again)
  obtain ⟨handled,late,visit,later,rfl⟩ := visits_cons cutting
  have connection : late.connection = whole.connection := same.connection
  have waits : ¬ Past late.connection := by
    rw [connection]
    rcases state with state | state <;> simp [Past,state]
  obtain ⟨next,last,onward,further,rfl⟩ := visits_cons later
  have final : ¬ Past last.connection := waits
  rcases challenged_past challenged visit with past | ⟨listing | still,first⟩
  · exact final (visits_past (visit_past past onward) further)
  · exact final (visits_past (listing_past listing onward) further)
  · -- The request was taken and answered, and so is the second piece.
    rcases challenged_past still onward with past | ⟨_,second⟩
    · exact final (visits_past past further)
    · have effects := congrArg List.length same.effects
      rw [answer,after_seen,after_seen,List.length_append,List.length_append] at effects
      have one := List.length_pos_iff.mpr first
      have two := List.length_pos_iff.mpr second
      simp only [List.length_singleton] at effects
      omega

-- A well-formed packet of the login phase, sent to a connection that waits for it.
structure Sendable (env : Env) (c : IncomingConnection) (message : Message) : Prop where
  expected : Expected c message
  clean : message.Clean
  fits : message.Fits
  reads : ∀ d, message.document = some d → Reads env.parse d

theorem identity_identifies (io : SocketIO) (clean : Message.Clean (.identity t)) (fits : t.toJSON.length < 2^16)
    (parsed : env.parse t.toJSON = t.document) :
    Identifies env (arrives io ((ClientPacket.authenticationIdentity t).buffer env.apg)) t := by
  have opcode : env.apg.getShort ((ClientPacket.authenticationIdentity t).buffer env.apg) =
      ClientOpcode.LOGIN_AUTHENTICATION_IDENTITY.code := ClientPacket.opcode_whole ..
  have body : receivedJSON env ((ClientPacket.authenticationIdentity t).buffer env.apg) = t.toJSON :=
    sized_read env.apg _ fits
  have decoded := identity_read clean (text_parsed parsed (identity_free t))
  unfold Identifies
  rw [arrives_bytes,body]
  exact ⟨opcode,decoded⟩

theorem sendable_identifies (io : SocketIO) (sendable : Sendable env c (.identity t)) :
    Identifies env (arrives io ((ClientPacket.authenticationIdentity t).buffer env.apg)) t :=
  identity_identifies io sendable.clean (sendable.fits _ rfl) (sendable.reads _ rfl).written

theorem whole_runs (world : World) (keyed : Keyed env.crypto) (sendable : Sendable env c message) (ready : Ready c)
    (turn : Turn (arrives io (message.buffer env.apg)) c socket) (some : message.buffer env.apg ≠ []) :
    ∃ whole, processIncoming env world c (arrives io (message.buffer env.apg)) = .ok whole := by
  cases sendable.expected with
  | identity login => exact identity_runs world keyed login turn (sendable_identifies io sendable) some
  | @registration request challenged =>
    obtain ⟨whole,ran,_⟩ := registration_runs world challenged ready turn (ServerPacket.opcode_whole ..) some
    exact ⟨whole,ran⟩
  | @mapList mapHashes listing =>
    have body : receivedJSON env ((ServerPacket.mapServerMapList mapHashes).buffer env.apg) =
        MapServerMapList.toJSON mapHashes := sized_read env.apg _ (sendable.fits _ rfl)
    have decoded := mapList_read sendable.clean (text_parsed (sendable.reads _ rfl).written (mapList_free mapHashes))
    exact mapList_runs listing turn (ServerPacket.opcode_whole ..) ((congrArg _ body).trans decoded) some

theorem cut_disagrees (padded : Padded env.apg) (sendable : Sendable env c message) (ready : Ready c)
    (turn : Turn (arrives io (message.buffer env.apg)) c socket) (some : message.buffer env.apg ≠ [])
    (cut : Cut c (message.buffer env.apg) first rest) (proper : first ≠ message.buffer env.apg) :
    ¬ Agree env world c io (message.buffer env.apg) first rest := by
  have within : first <+: message.buffer env.apg := ⟨_,cut.whole⟩
  cases sendable.expected with
  | @identity t login =>
    obtain ⟨body,early,other,read⟩ := truncated_body padded _ (identity_free t) (object_some _) (sendable.fits _ rfl)
      within proper
    apply identity_cut login turn some (sendable_identifies io sendable)
    intro authID identity
    have decoded := identity.2
    rw [arrives_bytes] at decoded
    exact identity_truncated (sendable.reads _ rfl) early other read decoded
  | @registration request challenged =>
    cases rest with
    | nil => exact absurd (by simpa using cut.whole) proper
    | cons piece rest => exact registration_cut challenged ready turn (ServerPacket.opcode_whole ..) some
  | @mapList mapHashes listing =>
    obtain ⟨body,early,other,read⟩ := truncated_body padded _ (mapList_free mapHashes) (object_some _)
      (sendable.fits _ rfl) within proper
    apply mapList_cut listing turn (ServerPacket.opcode_whole ..) some
    intro decodedList decoded
    exact mapList_truncated (sendable.reads _ rfl) early other read decoded

-- A cutting changes nothing exactly when the first recv returns the whole packet.
theorem segments_agree {message : Message} (padded : Padded env.apg) (keyed : Keyed env.crypto)
    (sendable : Sendable env c message) (ready : Ready c) (owned : c.socket = some socket)
    (alive : (polled socket io).error = false) (cut : Cut c (message.buffer env.apg) first rest) :
    Agree env world c io (message.buffer env.apg) first rest ↔ first = message.buffer env.apg := by
  have turn : Turn (arrives io (message.buffer env.apg)) c socket := ⟨owned,alive,rfl⟩
  have some : message.buffer env.apg ≠ [] := by
    rw [← cut.whole]
    exact List.append_ne_nil_of_left_ne_nil cut.nonempty.1 _
  constructor
  · intro agree
    by_contra proper
    exact cut_disagrees padded sendable ready turn some cut proper agree
  · rintro rfl
    obtain ⟨whole,ran⟩ := whole_runs world keyed sendable ready turn some
    have none : rest = [] := by
      cases rest with
      | nil => rfl
      | cons piece rest =>
        have lengths := congrArg List.length cut.whole
        have more := List.length_pos_iff.mpr (cut.nonempty.2 piece (by simp))
        simp only [List.length_append,List.map_cons,List.flatten_cons] at lengths
        omega
    subst none
    exact ⟨whole,whole,ran,by simp [visits,ran,Except.map,Handled.after],rfl,rfl,rfl⟩

theorem known_reads (d : Json) : Reads (Json.known [d]) d where
  written := known_written d
  truncated json _ other := by simp [Json.known,Ne.symm other]

theorem network_padded : Padded .network := fun n b short => ⟨0,by simp [ByteBuffer.network,List.take_of_length_le short]⟩

def home : World := (LoginServer.start .empty [] [] .empty).toWorld

def submission : Bytes := (ClientPacket.authenticationIdentity credentials).buffer .network

theorem credentials_sendable : Sendable (.plain [credentials.document]) challenged (.identity credentials) where
  expected := .identity (.inl rfl)
  clean := by unfold Message.Clean; decide +kernel
  fits d same := by cases same; decide +kernel
  reads d same := by cases same; exact known_reads _

theorem challenged_ready : Ready challenged where
  owned _ := ⟨_,rfl⟩
  untried _ := rfl
  request listing := by rcases listing with listing | listing <;> cases listing
  listed waiting := by cases waiting

theorem segments_agree_whole : Agree (.plain [credentials.document]) home challenged (.delivers []) submission submission [] := by
  have sendable := credentials_sendable
  refine (segments_agree network_padded (fun _ => rfl) sendable challenged_ready rfl rfl ⟨?_,⟨?_,?_⟩,?_⟩).mpr rfl
  · exact List.append_nil _
  · decide +kernel
  · simp
  · intro most bound
    obtain rfl := Option.some.inj bound
    decide +kernel

-- The first ten bytes of the packet arrive alone: their body is no JSON text.
theorem segments_agree_halves : Sendable (.plain [credentials.document]) challenged (.identity credentials) ∧
    Cut challenged submission (submission.take 10) [(.delivers [],submission.drop 10)] ∧
    ¬ Agree (.plain [credentials.document]) home challenged (.delivers []) submission (submission.take 10)
      [(.delivers [],submission.drop 10)] := by
  refine ⟨credentials_sendable,⟨?_,⟨?_,?_⟩,?_⟩,fun agree => ?_⟩
  · simp
  · decide +kernel
  · intro piece member
    obtain rfl := List.mem_singleton.mp member
    decide +kernel
  · intro most bound
    obtain rfl := Option.some.inj bound
    decide +kernel
  · obtain ⟨whole,cut,_,cutting,_⟩ := agree
    have failed : processIncoming (.plain [credentials.document]) home challenged
        (arrives (.delivers []) (submission.take 10)) = .error (.json .notObject) := Fault.stopped_some.mp (by decide +kernel)
    simp [visits,failed] at cutting

end PlayPG.Segments
