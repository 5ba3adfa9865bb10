import PlayPG.LoginOrigins
import PlayPG.LoginAttempts
import PlayPG.Ownership
import PlayPG.Decoders
import PlayPG.Acknowledgement
import PlayPG.PeerRegistration
import PlayPG.Client
import PlayPG.SessionStream
import PlayPG.AccountLogin
import PlayPG.SessionIndex
import PlayPG.MapIndex
import PlayPG.CharacterChoice
import PlayPG.RegistrationAgreement
import PlayPG.SelectionAgreement
import PlayPG.LoginAgreement
import PlayPG.ClientWorld
import PlayPG.MapSchema
import PlayPG.MapRequests
import PlayPG.LoginSecrecy
import PlayPG.Readback
import PlayPG.ReceiveFailures
import PlayPG.HexCodecs
import PlayPG.FailedDecryption
import PlayPG.TileParsing
import PlayPG.MovementPackets
import PlayPG.MapIdentity
import PlayPG.RegistrationReplies
import PlayPG.DisconnectedSessions
import PlayPG.SessionKeys
import PlayPG.Routing
import PlayPG.Threads
import PlayPG.Serial
import PlayPG.WalledGame
import PlayPG.LateAnswers
import PlayPG.Dispatch
import PlayPG.Passage
import PlayPG.Enrolment
import PlayPG.Installation
