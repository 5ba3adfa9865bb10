import PlayPG.Client

namespace PlayPG.ClientScreens
open Bytes Client

inductive GameState where
  | LOGIN
  | CHARACTER_SELECT
  | MAP_SERVER_CONNECT
  | PLAYING
  deriving DecidableEq

-- The members that render works on; awaiting is set while it waits for the characters.
structure Screen where
  gameState : GameState
  awaiting : Bool
  currentCharacter : Option Character

-- CHARACTER_SELECT after its wait.
def receiveCharacters (build : Build) (screen : Screen) (recv : Recv) : Except Fault (Screen × List Bytes) :=
  let screen := {screen with awaiting := false}
  if recv.result = 0 then .ok (screen,[])
  else if build.apg.getShort recv.bytes ≠ ServerOpcode.PLAYER_CHARACTERS.code then .ok (screen,[])
  else
    match PlayerCharacters.fromJSON build.parse (sizedBody build.apg recv.bytes) with
    | .error fault => .error fault
    | .ok [] => .ok (screen,[])
    | .ok (character :: _) =>
      .ok ({screen with currentCharacter := some character,gameState := .MAP_SERVER_CONNECT},
        [(ClientPacket.characterSelect character.id).buffer build.apg])

-- MAP_SERVER_CONNECT after its wait; the instructions are only logged.
def receiveInstructions (build : Build) (screen : Screen) (recv : Recv) : Except Fault Screen :=
  if recv.result = 0 then .ok screen
  else
    let opcode := build.apg.getShort recv.bytes
    if opcode = ServerOpcode.NO_MAP_SERVER_ERROR.code then .ok {screen with gameState := .CHARACTER_SELECT}
    else if opcode = ServerOpcode.MAP_SERVER_CONNECTION_INSTRUCTIONS.code then
      match MapServerConnectionInstructions.fromJSON build.parse (sizedBody build.apg recv.bytes) with
      | .error fault => .error fault
      | .ok _ => .ok {screen with gameState := .PLAYING}
    else .ok {screen with gameState := .CHARACTER_SELECT}

-- The second half of doLogin up to its wait, and after it.
def sendIdentity (game : Game) : Except Fault (List Client.Effect) :=
  match game.crypto with
  | none => .error .nullCrypto
  | some crypto =>
    match crypto.encryptStringPublic (text "testa") with
    | .error fault => .error fault
    | .ok encPass => .ok [.encrypted crypto,.sent (.authenticationIdentity ⟨game.username,encPass⟩)]

def readResponse (build : Build) (game : Game) (recv : Recv) : Except Fault (Game × Bool) :=
  if build.apg.getShort recv.bytes ≠ ServerOpcode.LOGIN_AUTHENTICATION_RESPONSE.code then .ok (game,false)
  else
    match AuthenticationResponse.fromJSON build.parse (sizedBody build.apg recv.bytes) with
    | .error fault => .error fault
    | .ok response =>
      if response.successful then .ok (game,true)
      else if response.attemptsRemaining = 0 then .ok ({game with isConnected := false,challenge := none},false)
      else .ok (game,false)

theorem authenticate_waits (build : Build) (game : Game) (io : LoginIO) : authenticate build game io =
    (sendIdentity game).bind fun effects =>
      (readResponse build game io.response).map fun read => (read.1,effects,read.2) := by
  unfold authenticate sendIdentity readResponse
  cases known : game.crypto with
  | none => rfl
  | some crypto =>
    cases encrypted : crypto.encryptStringPublic (text "testa") with
    | error fault => simp only [encrypted,Except.bind]
    | ok encPass =>
      simp only [encrypted,Except.bind]
      split
      · rfl
      · cases AuthenticationResponse.fromJSON build.parse (sizedBody build.apg io.response.bytes) with
        | error fault => rfl
        | ok response =>
          dsimp only
          split
          · rfl
          · split
            · simp only [Except.map]
            · rfl

-- A call of doLogin, from wait to wait.
theorem doLogin_waits (passed : handshake build game io = .ok (middle,early,true)) (sent : sendIdentity middle = .ok shown)
    (read : readResponse build middle io.response = .ok (next,result)) :
    doLogin build game io = .ok (next,early ++ shown,result) := by
  simp only [doLogin,passed,authenticate_waits,sent,read,Except.bind,Except.map]

end PlayPG.ClientScreens
