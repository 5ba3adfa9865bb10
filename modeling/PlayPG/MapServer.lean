import PlayPG.Packets

namespace PlayPG
open Bytes

-- What registerWithMasterServer reads; maps is what listFromMaps makes of the parsed maps.
structure MapServer where
  friendlyName : Bytes
  hostName : Bytes
  port : UInt16
  maps : List Location
  publicKeyPEM : Bytes

namespace MapServer

structure Build where
  apg : ByteBuffer
  parse : Bytes → Json
  versionString : Bytes
  gitHash : Bytes

-- Before the connect, at one of the three waits, or returned. A fault ends the process.
inductive Point where
  | connecting
  | challenge
  | registration
  | mapList
  | registered (responseMapList : List Location)
  | notNeeded
  | failed
  | stopped (fault : Fault)

def Point.result : Point → Option Bool
  | registered _ => some true
  | notNeeded | failed => some false
  | connecting | challenge | registration | mapList | stopped _ => none

def Point.waits : Point → Bool
  | challenge | registration | mapList => true
  | connecting | registered _ | notNeeded | failed | stopped _ => false

def Point.ended : Point → Bool
  | notNeeded | failed | stopped _ => true
  | connecting | challenge | registration | mapList | registered _ => false

structure Wait where
  activity : Bool
  recv : Recv

-- The result of the first wait is ignored.
def receiveChallenge (build : Build) (m : MapServer) (wait : Wait) : Point × List Bytes :=
  if wait.recv.result = 0 then (.failed,[])
  else if build.apg.getShort wait.recv.bytes ≠ ServerOpcode.LOGIN_AUTHENTICATION_CHALLENGE.code then (.failed,[])
  else
    match AuthenticationChallenge.fromJSON build.parse (sizedBody build.apg wait.recv.bytes) with
    | .error fault => (.stopped fault,[])
    | .ok challenge =>
      if challenge.pubKey ≠ m.publicKeyPEM then (.failed,[])
      else if cString challenge.version ≠ cString build.versionString ∨
          cString challenge.versionHash ≠ cString build.gitHash then
        (.failed,[ClientPacket.versionMismatch.buffer build.apg])
      else (.registration,[(ServerPacket.mapServerRegistrationRequest m.friendlyName m.hostName m.port).buffer build.apg])

def receiveRegistration (build : Build) (m : MapServer) (wait : Wait) : Point × List Bytes :=
  if !wait.activity then (.failed,[])
  else if wait.recv.result ≤ 0 then (.failed,[])
  else if build.apg.getShort wait.recv.bytes ≠ ServerOpcode.MAP_SERVER_REGISTRATION_RESPONSE.code then (.failed,[])
  else (.mapList,[(ServerPacket.mapServerMapList m.maps).buffer build.apg])

def receiveMapList (build : Build) (wait : Wait) : Point × List Bytes :=
  if !wait.activity then (.failed,[])
  else if wait.recv.result = 0 then (.failed,[])
  else
    let opcode := build.apg.getShort wait.recv.bytes
    if opcode = ServerOpcode.MAP_SERVER_NOT_NEEDED.code then (.notNeeded,[])
    else if opcode ≠ ServerOpcode.MAP_SERVER_MAP_LIST.code then (.failed,[])
    else
      match MapServerMapList.fromJSON build.parse (sizedBody build.apg wait.recv.bytes) with
      | .error fault => (.stopped fault,[])
      | .ok mapHashes => (.registered mapHashes,[ServerPacket.mapServerAck.buffer build.apg])

def proceed (build : Build) (m : MapServer) : Point → Wait → Point × List Bytes
  | .challenge,wait => receiveChallenge build m wait
  | .registration,wait => receiveRegistration build m wait
  | .mapList,wait => receiveMapList build wait
  | point,_ => (point,[])

end MapServer
end PlayPG
