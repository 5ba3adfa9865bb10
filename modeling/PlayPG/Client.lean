import PlayPG.Runs
import PlayPG.Packets

namespace PlayPG.Client
open Bytes

structure Build where
  apg : ByteBuffer
  parse : Bytes → Json
  readPublicKey : Bytes → Option RSA
  versionString : Bytes
  gitHash : Bytes

-- The challenge records what came over the connection; the code never reads it.
structure Game where
  username : Bytes
  crypto : Option RSACrypto
  serverPubKey : Bytes
  isConnected : Bool
  challenge : Option AuthenticationChallenge

def Game.start : Game := ⟨text "test@example.com",none,[],false,none⟩

-- A connect that fails raises the error flag; one that succeeds may find it raised.
structure LoginIO where
  connects : Bool
  hasError : Bool
  activity : Bool
  recv : Recv
  response : Recv
  deriving DecidableEq

inductive Effect where
  | opened
  | encrypted (crypto : RSACrypto)
  | sent (packet : ClientPacket)

def Matches (build : Build) (challenge : AuthenticationChallenge) : Prop :=
  cString challenge.version = cString build.versionString ∧ cString challenge.versionHash = cString build.gitHash

instance (build : Build) (challenge : AuthenticationChallenge) : Decidable (Matches build challenge) := by
  unfold Matches; infer_instance

-- The first half of doLogin, up to encryptStringPublic; false where it returns.
def handshake (build : Build) (game : Game) (io : LoginIO) : Except Fault (Game × List Effect × Bool) :=
  if game.isConnected then .ok (game,[],true)
  else
    let game := {game with isConnected := io.connects,challenge := none}
    if !io.connects || io.hasError then .ok (game,[.opened],false)
    else if !io.activity then .ok (game,[.opened],false)
    else if build.apg.getShort io.recv.bytes ≠ ServerOpcode.LOGIN_AUTHENTICATION_CHALLENGE.code then
      .ok (game,[.opened],false)
    else
      match AuthenticationChallenge.fromJSON build.parse (sizedBody build.apg io.recv.bytes) with
      | .error fault => .error fault
      | .ok challenge =>
        let game := {game with
          serverPubKey := challenge.pubKey
          crypto := some (.ofPublicKey build.readPublicKey challenge.pubKey)
          challenge := some challenge}
        if Matches build challenge then .ok (game,[.opened],true)
        else .ok (game,[.opened,.sent .versionMismatch],false)

-- The second half: the password goes out under the key in crypto.
def authenticate (build : Build) (game : Game) (io : LoginIO) : Except Fault (Game × List Effect × Bool) :=
  match game.crypto with
  | none => .error .nullCrypto
  | some crypto =>
    match crypto.encryptStringPublic (text "testa") with
    | .error fault => .error fault
    | .ok encPass =>
      let effects := [.encrypted crypto,.sent (.authenticationIdentity ⟨game.username,encPass⟩)]
      if build.apg.getShort io.response.bytes ≠ ServerOpcode.LOGIN_AUTHENTICATION_RESPONSE.code then
        .ok (game,effects,false)
      else
        match AuthenticationResponse.fromJSON build.parse (sizedBody build.apg io.response.bytes) with
        | .error fault => .error fault
        | .ok response =>
          if response.successful then .ok (game,effects,true)
          else if response.attemptsRemaining = 0 then
            .ok ({game with isConnected := false,challenge := none},effects,false)
          else .ok (game,effects,false)

def doLogin (build : Build) (game : Game) (io : LoginIO) : Except Fault (Game × List Effect × Bool) :=
  match handshake build game io with
  | .error fault => .error fault
  | .ok (game,early,false) => .ok (game,early,false)
  | .ok (game,early,true) =>
    match authenticate build game io with
    | .error fault => .error fault
    | .ok (game,late,result) => .ok (game,early ++ late,result)

inductive Input where
  | doLogin (io : LoginIO)
  | selectUsername
  | lost
  deriving DecidableEq

def step (build : Build) : Runs.Machine Game Input Effect Fault
  | game,.doLogin io => (doLogin build game io).map (fun result => (result.1,result.2.1))
  | game,.selectUsername => .ok ({game with username := text "SgtCoDFish@example.com"},[])
  | game,.lost => .ok ({game with isConnected := false,challenge := none},[])

def Challenged (build : Build) (game : Game) : Prop :=
  game.isConnected = true ∧ ∃ challenge, game.challenge = some challenge ∧ Matches build challenge ∧
    game.crypto = some (.ofPublicKey build.readPublicKey challenge.pubKey)

-- A login that gets as far as the encryption does so for a challenged connection.
def Sound (build : Build) (game : Game) : Input → Prop
  | .doLogin io => ∀ next effects, handshake build game io = .ok (next,effects,true) → Challenged build next
  | _ => True

-- How the first half of a call comes out: the connection was open, or it is opened, and then a challenge
-- comes, which matches or does not.
inductive Shaken (build : Build) (game : Game) (io : LoginIO) : Game → List Effect → Bool → Prop where
  | connected (open_ : game.isConnected = true) : Shaken build game io game [] true
  | unanswered (closed : game.isConnected = false) :
      Shaken build game io {game with isConnected := io.connects,challenge := none} [.opened] false
  | challenged (closed : game.isConnected = false) (connects : io.connects = true) (clean : io.hasError = false)
      (active : io.activity = true)
      (opcode : build.apg.getShort io.recv.bytes = ServerOpcode.LOGIN_AUTHENTICATION_CHALLENGE.code)
      (decoded : AuthenticationChallenge.fromJSON build.parse (sizedBody build.apg io.recv.bytes) = .ok challenge)
      (same : next = {game with
        isConnected := io.connects
        serverPubKey := challenge.pubKey
        crypto := some (.ofPublicKey build.readPublicKey challenge.pubKey)
        challenge := some challenge})
      (outcome : (Matches build challenge ∧ effects = [.opened] ∧ passed = true) ∨
        (¬ Matches build challenge ∧ effects = [.opened,.sent .versionMismatch] ∧ passed = false)) :
      Shaken build game io next effects passed

theorem handshake_shaken (ran : handshake build game io = .ok (next,effects,passed)) :
    Shaken build game io next effects passed := by
  unfold handshake at ran
  cases connected : game.isConnected with
  | true =>
    rw [connected] at ran
    cases Except.ok.inj ran
    exact .connected connected
  | false =>
    simp only [connected,Bool.false_eq_true,if_false] at ran
    split at ran
    · cases Except.ok.inj ran
      exact .unanswered connected
    · rename_i clean
      split at ran
      · cases Except.ok.inj ran
        exact .unanswered connected
      · rename_i active
        split at ran
        · cases Except.ok.inj ran
          exact .unanswered connected
        · rename_i opcode
          obtain ⟨connects,clean⟩ : io.connects = true ∧ io.hasError = false := by simpa using clean
          split at ran
          · cases ran
          · rename_i challenge decoded
            split at ran
            · rename_i matched
              cases Except.ok.inj ran
              exact .challenged connected connects clean (by simpa using active) (not_not.mp opcode) decoded rfl
                (.inl ⟨matched,rfl,rfl⟩)
            · rename_i differs
              cases Except.ok.inj ran
              exact .challenged connected connects clean (by simpa using active) (not_not.mp opcode) decoded rfl
                (.inr ⟨differs,rfl,rfl⟩)

-- Nothing is encrypted and no identity sent before that point of a call.
theorem handshake_quiet (ran : handshake build game io = .ok (next,effects,passed)) :
    (∀ crypto, .encrypted crypto ∉ effects) ∧ ∀ identity, .sent (.authenticationIdentity identity) ∉ effects := by
  cases handshake_shaken ran with
  | connected | unanswered => simp
  | challenged closed connects clean active opcode decoded same outcome =>
    rcases outcome with ⟨_,rfl,_⟩ | ⟨_,rfl,_⟩
    · simp
    · simp

theorem doLogin_reaches (ran : doLogin build game io = .ok (next,effects,result))
    (shown : (∃ crypto, .encrypted crypto ∈ effects) ∨ ∃ identity, .sent (.authenticationIdentity identity) ∈ effects) :
    ∃ middle early, handshake build game io = .ok (middle,early,true) := by
  unfold doLogin at ran
  split at ran
  · cases ran
  · rename_i middle early stopped
    cases Except.ok.inj ran
    have quiet := handshake_quiet stopped
    rcases shown with ⟨crypto,member⟩ | ⟨identity,member⟩
    · exact absurd member (quiet.1 crypto)
    · exact absurd member (quiet.2 identity)
  · rename_i middle early passed
    exact ⟨middle,early,passed⟩

-- A call that opened the connection also got its challenge, in time and matching.
def Completes (build : Build) (io : LoginIO) : Prop :=
  io.connects = true ∧ io.hasError = false ∧ io.activity = true ∧
    build.apg.getShort io.recv.bytes = ServerOpcode.LOGIN_AUTHENTICATION_CHALLENGE.code ∧
    ∃ challenge, AuthenticationChallenge.fromJSON build.parse (sizedBody build.apg io.recv.bytes) = .ok challenge ∧
      Matches build challenge

theorem handshake_parts (passed : handshake build game io = .ok (next,effects,true)) :
    (game.isConnected = true ∧ next = game) ∨ (game.isConnected = false ∧ Challenged build next ∧ Completes build io) := by
  cases handshake_shaken passed with
  | connected open_ => exact .inl ⟨open_,rfl⟩
  | challenged closed connects clean active opcode decoded same outcome =>
    rcases outcome with ⟨matched,_⟩ | ⟨_,_,stopped⟩
    · refine .inr ⟨closed,?_,connects,clean,active,opcode,_,decoded,matched⟩
      rw [same]
      exact ⟨connects,_,rfl,matched,rfl⟩
    · cases stopped

theorem handshake_completes (closed : game.isConnected = false) (completes : Completes build io) :
    ∃ next effects, handshake build game io = .ok (next,effects,true) := by
  obtain ⟨connects,clean,active,opcode,challenge,decoded,matched⟩ := completes
  exact ⟨_,_,by simp [handshake,closed,connects,clean,active,opcode,decoded,matched]; exact ⟨rfl,rfl⟩⟩

theorem handshake_stopped (stopped : handshake build game io = .ok (next,effects,false)) :
    game.isConnected = false ∧ ¬ Challenged build next := by
  cases handshake_shaken stopped with
  | unanswered closed =>
    refine ⟨closed,?_⟩
    rintro ⟨_,challenge,known,_⟩
    cases known
  | challenged closed connects clean active opcode decoded same outcome =>
    refine ⟨closed,?_⟩
    rintro ⟨_,challenge,known,matched,_⟩
    rcases outcome with ⟨_,_,passed⟩ | ⟨differs,_⟩
    · cases passed
    · rw [same] at known
      obtain rfl := Option.some.inj known
      exact differs matched

theorem authenticate_parts (ran : authenticate build game io = .ok (next,effects,result)) :
    next = game ∨ next.isConnected = false := by
  unfold authenticate at ran
  split at ran
  · cases ran
  · split at ran
    · cases ran
    · dsimp only at ran
      split at ran
      · cases ran; exact .inl rfl
      · split at ran
        · cases ran
        · split at ran
          · cases ran; exact .inl rfl
          · split at ran
            · cases ran; exact .inr rfl
            · cases ran; exact .inl rfl

theorem step_doLogin (ran : step build game (.doLogin io) = .ok (next,fresh)) (still : next.isConnected = true) :
    (game.isConnected = true ∧ next = game) ∨
    (game.isConnected = false ∧ (Challenged build next ↔ Completes build io)) := by
  obtain ⟨⟨last,effects,result⟩,logged,same⟩ := map_ok ran
  obtain ⟨rfl,rfl⟩ := Prod.mk.inj same
  unfold doLogin at logged
  split at logged
  · cases logged
  · rename_i early stopped
    cases logged
    obtain ⟨closed,unchallenged⟩ := handshake_stopped stopped
    refine .inr ⟨closed,iff_of_false unchallenged (fun completes => ?_)⟩
    obtain ⟨_,_,passed⟩ := handshake_completes closed completes
    rw [stopped] at passed
    cases passed
  · rename_i middle early passed
    split at logged
    · cases logged
    · rename_i late sent
      cases logged
      rcases authenticate_parts sent with rfl | gone
      · rcases handshake_parts passed with ⟨opened,rfl⟩ | ⟨closed,challenged,completes⟩
        · exact .inl ⟨opened,rfl⟩
        · exact .inr ⟨closed,iff_of_true challenged completes⟩
      · rw [still] at gone; cases gone

-- A call that opened a connection on which another call follows completed its handshake.
def Completed (build : Build) (inputs : List Input) : Prop :=
  ∀ before io between io' after, inputs = before ++ .doLogin io :: between ++ .doLogin io' :: after →
    (∀ input ∈ between, input = .selectUsername) → ∀ trace game, Runs.Run (step build) .start before trace game →
      game.isConnected = false → ∀ late next, Runs.Run (step build) game (.doLogin io :: between) late next →
        next.isConnected = true → Completes build io

theorem Completed.early (completed : Completed build (inputs ++ more)) : Completed build inputs := by
  rintro before io between io' after rfl
  exact completed before io between io' (after ++ more) (by simp)

-- The last call opened the connection and left it open without its challenge.
def Abandoned (build : Build) (inputs : List Input) (game : Game) : Prop :=
  ∃ before io between, inputs = before ++ .doLogin io :: between ∧ (∀ input ∈ between, input = .selectUsername) ∧
    (∃ trace first, Runs.Run (step build) .start before trace first ∧ first.isConnected = false ∧
      ∃ late, Runs.Run (step build) first (.doLogin io :: between) late game) ∧ ¬ Completes build io

theorem Abandoned.unreachable (abandoned : Abandoned build inputs game) (opened : game.isConnected = true) :
    ¬ Completed build (inputs ++ [.doLogin io']) := by
  intro completed
  obtain ⟨before,io,between,rfl,selects,⟨trace,first,start,closed,late,path⟩,fails⟩ := abandoned
  exact fails (completed before io between io' [] (by simp) selects trace first start closed late game path opened)

theorem run_challenged (path : Runs.Run (step build) .start inputs trace game) (completed : Completed build inputs)
    (opened : game.isConnected = true) : Challenged build game ∨ Abandoned build inputs game := by
  -- An abandoned connection stays so under selections; another login is what Completed excludes.
  induction path with
  | nil => cases opened
  | @snoc inputs trace middle input next fresh prior ran ih =>
    cases input with
    | lost => cases Except.ok.inj ran; cases opened
    | selectUsername =>
      have same := ran
      cases Except.ok.inj same
      rcases ih completed.early opened with challenged | ⟨before,io,between,rfl,selects,⟨early,first,start,closed,late,path⟩,fails⟩
      · exact .inl challenged
      · refine .inr ⟨before,io,between ++ [.selectUsername],by simp,?_,⟨early,first,start,closed,late ++ [],?_⟩,fails⟩
        · intro input member
          rcases List.mem_append.mp member with old | new
          · exact selects input old
          · exact List.mem_singleton.mp new
        · rw [← List.cons_append]
          exact .snoc path ran
    | doLogin io =>
      rcases step_doLogin ran opened with ⟨open_,rfl⟩ | ⟨closed,exact_⟩
      · rcases ih completed.early open_ with challenged | abandoned
        · exact .inl challenged
        · exact absurd completed (abandoned.unreachable open_)
      · by_cases completes : Completes build io
        · exact .inl (exact_.mpr completes)
        · exact .inr ⟨inputs,io,[],rfl,by simp,⟨trace,middle,prior,closed,_,.cons ran .nil⟩,completes⟩

-- A selection between two calls only changes the username.
theorem selects_game (selects : ∀ input ∈ between, input = .selectUsername)
    (path : Runs.Run (step build) game between trace next) : ∃ username, next = {game with username := username} := by
  induction path with
  | nil => exact ⟨game.username,rfl⟩
  | @snoc events trace middle event next fresh prior ran ih =>
    obtain rfl := selects event (by simp)
    obtain ⟨username,rfl⟩ := ih (fun input member => selects input (by simp [member]))
    cases Except.ok.inj ran
    exact ⟨_,rfl⟩

theorem login_challenged : Runs.StepsMeet (step build) .start inputs (Sound build) ↔ Completed build inputs := by
  constructor
  · rintro sound before io between io' after rfl selects trace game start closed late next path opened
    obtain ⟨first,_,_,ran,onward,_⟩ := path.cons_inv
    have reached : handshake build next io' = .ok (next,[],true) := by simp [handshake,opened]
    have whole := start.append path
    have challenged := sound (before ++ .doLogin io :: between) (.doLogin io') after (by simp) _ next whole next [] reached
    obtain ⟨username,rfl⟩ := selects_game selects onward
    have still : first.isConnected = true := opened
    rcases step_doLogin ran still with ⟨open_,_⟩ | ⟨_,exact_⟩
    · rw [closed] at open_; cases open_
    · exact exact_.mp challenged
  · rintro completed before input after rfl trace game path
    cases input with
    | selectUsername | lost => trivial
    | doLogin io =>
      intro next effects passed
      rcases handshake_parts passed with ⟨opened,rfl⟩ | ⟨_,challenged,_⟩
      · rw [← List.singleton_append,← List.append_assoc] at completed
        rcases run_challenged path completed.early.early opened with challenged | abandoned
        · exact challenged
        · exact absurd completed.early (abandoned.unreachable opened)
      · exact challenged

def Build.plain : Build := ⟨.network,fun _ => .null,fun _ => none,text "0.0.1",[]⟩

def late : LoginIO := ⟨true,false,false,.nothing 0,.nothing 0⟩

-- The second press of the key finds the connection open and crypto null.
theorem login_challenged_late :
    Fault.stopped (Runs.execute (step .plain) .start [.doLogin late,.doLogin late]) = some .nullCrypto ∧
      ¬ Runs.StepsMeet (step .plain) .start [.doLogin late,.doLogin late] (Sound .plain) := by
  refine ⟨by decide +kernel,fun sound => ?_⟩
  have path : Runs.Run (step .plain) .start [.doLogin late] [.opened] {Game.start with isConnected := true} :=
    Runs.execute_run rfl
  obtain ⟨_,_,known,_⟩ := sound [.doLogin late] (.doLogin late) [] rfl _ _ path _ [] rfl
  cases known

end PlayPG.Client
