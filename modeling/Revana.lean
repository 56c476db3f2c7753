import Revana.Foundation.ByteWords
import Revana.Foundation.Machine
import Revana.Login.LobbyPackets
import Revana.Runtime.Globals
import Revana.Runtime.Guest
import Revana.Runtime.MapKey
import Revana.Runtime.WorldReceive
import Revana.Runtime.MapKeyLifecycle
import Revana.Foundation.StreamSocket
import Revana.Login.LobbyClient
import Revana.Login.LobbyClientReference
import Revana.Runtime.ViewBootstrap
import Revana.Login.AuthClient
import Revana.Runtime.LobbyBridge
import Revana.Runtime.WorldSend
import Revana.Runtime.LobbyBridgeConfigure
import Revana.Runtime.KeyAgreement
import Revana.Runtime.ReceiveGate
import Revana.Runtime.ViewLogin
import Revana.Runtime.MapKeyThreads
import Revana.Runtime.PolResolver
import Revana.Runtime.ResolverInterception
import Revana.Runtime.ServiceDispatch
import Revana.Runtime.PostSelection
import Revana.Runtime.TracePassivity
import Revana.Foundation.Json
import Revana.Login.AuthProtocol
import Revana.Login.TlsConnection
import Revana.Login.LoginAnswer
import Revana.Foundation.JsonWriter
import Revana.Foundation.Loop
import Revana.Login.Authenticate
import Revana.Login.Serializer
import Revana.Login.ValidatedConnection
import Revana.Foundation.Seal
import Revana.Login.LobbyIdentifier
import Revana.Runtime.BootstrapDecision
import Revana.Login.LobbyParsers
import Revana.Login.LobbyRoundTrip
import Revana.Runtime.LobbySend
import Revana.Runtime.WorldLogin
import Revana.Runtime.WorldSendTarget
import Revana.Login.LoginAttempt
import Revana.Login.LoginResponse
import Revana.Runtime.DatagramWalk
import Revana.Login.ReceiveVerdict
import Revana.Foundation.HexText
import Revana.Runtime.CertificatePin
import Revana.Foundation.Reading
import Revana.Foundation.Tiling
import Revana.Runtime.DatagramReads
import Revana.Foundation.Checks
import Revana.Foundation.LexicalPath
import Revana.Scripts.VerifyModuleGraph
import Revana.Foundation.Pattern
import Revana.Scripts.Python
import Revana.Scripts.BuildInfo
import Revana.Scripts.BuildInfoAscii
import Revana.Scripts.BuildInfoMatch
import Revana.Foundation.FileTree
import Revana.Foundation.LinkedPath
import Revana.Foundation.Effects
import Revana.Scripts.StagingTree
import Revana.Scripts.SafeStage
import Revana.Foundation.TestAndSet
import Revana.Runtime.CoordinationThreads
import Revana.Runtime.CoordinationStops
import Revana.Runtime.BootstrapThreads
import Revana.Foundation.Observing
import Revana.Runtime.StateTrace
import Revana.Foundation.Establish
import Revana.Runtime.ResolverService
import Revana.Runtime.Startup
import Revana.Runtime.CharacterId
import Revana.Foundation.JsonLayout
import Revana.Scripts.WriteBuildInfo
import Revana.Scripts.GeneratedRecord
import Revana.Foundation.FileWrites
import Revana.Scripts.PackageRelease
import Revana.Scripts.StagedRelease
import Revana.Scripts.ReleaseArchive
import Revana.Scripts.ReleaseRun
import Revana.Scripts.PackagePrivacy
import Revana.Runtime.MapKeyFreshness
import Revana.Runtime.ZoneDescriptors
import Revana.Foundation.PatternSearch
import Revana.Scripts.AddBuildInfo
