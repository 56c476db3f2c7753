import Revana.Foundation.JsonWriter
import Revana.Login.TlsConnection

/-!
# Authentication

`Authenticate` with what it calls: the socket it opens, the handshake with the
certificate pin, and the request it sends.  The system and the security
package are parameters; the outcomes of their calls are arbitrary.
-/

namespace Revana.Login

open Foundation

/-! ## Opening the socket -/

inductive ConnectResult where
  | connected
  | wouldBlock
  | failed
  deriving DecidableEq, Repr

/-- What the system calls on one candidate address return. -/
structure Candidate where
  socket : Option StreamSocket
  nonblockingSet : Bool
  connectResult : ConnectResult
  selected : ℤ
  inErrorSet : Bool
  /-- `SO_ERROR`, unless reading it fails. -/
  socketError : Option ℤ
  blockingSet : Bool
  receiveTimeoutSet : Bool
  sendTimeoutSet : Bool

def waitForConnect (candidate : Candidate) : Bool :=
  if candidate.selected ≤ 0 ∨ candidate.inErrorSet then false
  else candidate.socketError = some 0

def connectSocket (candidate : Candidate) : Bool :=
  if !candidate.nonblockingSet then false
  else
    let connected := candidate.connectResult = .connected ∨
      (candidate.connectResult = .wouldBlock ∧ waitForConnect candidate)
    if !candidate.blockingSet then false else connected

def firstConnected : List Candidate → Option StreamSocket
  | [] => none
  | candidate :: rest =>
      match candidate.socket with
      | none => firstConnected rest
      | some socket =>
          if !connectSocket candidate then firstConnected rest
          else if !candidate.receiveTimeoutSet ∨ !candidate.sendTimeoutSet then
            firstConnected rest
          else some socket

/-- `getaddrinfo` answers with the candidate addresses and what happens on
each under a timeout; `multiByteToWideChar` with a count and the characters
written, for a capacity of zero with the count needed. -/
structure System where
  startup : Bool
  getaddrinfo : List UInt8 → List UInt8 → Option (List (ℕ → Candidate))
  multiByteToWideChar : List UInt8 → ℕ → ℤ × List UInt16

def openSocket (system : System) (host : List UInt8) (port : UInt16)
    (timeoutMs : ℕ) : Except AuthFailure StreamSocket :=
  match system.getaddrinfo host (Json.decimalDigits port.toNat) with
  | none => .error (failure .nameResolutionFailed)
  | some addresses =>
      match firstConnected (addresses.map fun address => address timeoutMs) with
      | none => .error (failure .connectionFailed)
      | some socket => .ok socket

def toWide (system : System) (input : List UInt8) :
    Except AuthFailure (List UInt16) :=
  if input = [] ∨ intMax < input.length then .error (failure .invalidInput)
  else
    let required := (system.multiByteToWideChar input 0).1
    if required ≤ 0 then .error (failure .invalidInput)
    else
      let written := system.multiByteToWideChar input required.toNat
      if written.1 ≠ required then .error (failure .invalidInput)
      else .ok written.2

/-! ## The security package -/

inductive CredentialValidation where
  | manual
  | automatic
  deriving DecidableEq, Repr

inductive ClientProtocol where
  | ssl2
  | ssl3
  | tls10
  | tls11
  | tls12
  deriving DecidableEq, Repr

structure SchannelCredentials where
  validation : CredentialValidation
  noDefaultCreds : Bool := true
  useStrongCrypto : Bool := true
  disabledProtocols : List ClientProtocol := [.ssl2, .ssl3, .tls10, .tls11, .tls12]
  deriving DecidableEq, Repr

/-- The peer certificate: the digest `CertGetCertificateContextProperty`
writes and the size it reports, unless it fails. -/
structure Certificate where
  sha256 : Option (CertificateSha256 × ℕ)

/-- The three buffers of a record that was encrypted in place. -/
structure EncryptAnswer (κ : Type) where
  context : κ
  header : List UInt8
  data : List UInt8
  trailer : List UInt8

/-- A certificate query can fail, or succeed without a certificate. -/
structure Schannel (κ : Type) extends SecurityPackage κ where
  acquireCredentialsHandle : SchannelCredentials → Option κ
  beginSecurityContext : κ → List UInt16 → InitializeAnswer κ
  queryRemoteCertificate : κ → Option (Option Certificate)
  encryptMessage : κ → StreamSizes → List UInt8 → Option (EncryptAnswer κ)

def schannelCredentials (certificateSha256 : Option CertificateSha256) :
    SchannelCredentials :=
  { validation := if certificateSha256.isSome then .manual else .automatic }

section Connection

variable {κ : Type} (schannel : Schannel κ)

/-! ## The handshake -/

def validateCertificatePin (connection : TlsConnection κ)
    (expected : CertificateSha256) : Bool :=
  match schannel.queryRemoteCertificate connection.context with
  | none => false
  | some none => false
  | some (some certificate) =>
      match certificate.sha256 with
      | none => false
      | some (actual, actualSize) =>
          actualSize = certificateSha256Size && actual = expected

/-- `Handshake`: the connection when it returned true, and otherwise the
socket it leaves.  `none` means the fuel ran out. -/
def handshake (fuel : ℕ) (socket : StreamSocket) (serverName : List UInt16)
    (certificateSha256 : Option CertificateSha256) :
    Option (Except StreamSocket (TlsConnection κ)) :=
  match schannel.acquireCredentialsHandle
      (schannelCredentials certificateSha256) with
  | none => some (.error socket)
  | some credentials =>
      let answer := schannel.beginSecurityContext credentials serverName
      match completeAndSend schannel.toSecurityPackage answer
          { socket := socket, context := credentials } with
      | (false, connection) => some (.error connection.socket)
      | (true, connection) =>
          if normalizeCompleteStatus answer.status ≠ .continueNeeded then
            some (.error connection.socket)
          else
            match continueHandshake schannel.toSecurityPackage fuel connection
                [] with
            | none => none
            | some (false, connection) => some (.error connection.socket)
            | some (true, connection) =>
                match certificateSha256 with
                | none => some (.ok connection)
                | some expected =>
                    if validateCertificatePin schannel connection expected then
                      some (.ok connection)
                    else some (.error connection.socket)

/-! ## Sending a message -/

def unsignedLongMax : ℕ := 4294967295

/-- `SendAll` on one buffer after the other, up to the first that fails. -/
def sendBuffers (socket : StreamSocket) :
    List (List UInt8) → Bool × StreamSocket
  | [] => (true, socket)
  | buffer :: rest =>
      match socket.transmit buffer with
      | (false, next) => (false, next)
      | (true, next) => sendBuffers next rest

def TlsConnection.send (connection : TlsConnection κ)
    (plaintext : List UInt8) : Bool × TlsConnection κ :=
  if plaintext = [] ∨
      connection.streamSizes.maximumMessage < plaintext.length ∨
      unsignedLongMax < plaintext.length then
    (false, connection)
  else
    match schannel.encryptMessage connection.context connection.streamSizes
        plaintext with
    | none => (false, connection)
    | some answer =>
        let sent := sendBuffers connection.socket
          [answer.header, answer.data, answer.trailer]
        (sent.1, { connection with
          socket := sent.2
          context := answer.context })

end Connection

/-! ## Authenticating -/

structure AuthEnvironment (κ : Type) where
  system : System
  schannel : Schannel κ
  serializer : JsonSerializer

/-- A run of `Authenticate`.  The outcome is `none` while it runs, and its
outer error is an exception; `request` is what `Send` was handed, `socket` the
socket the run leaves. -/
structure Authentication where
  outcome : Option (Except JsonException (Except AuthFailure AuthSession))
  request : Option (List UInt8) := none
  socket : Option StreamSocket := none

def Authentication.failed (error : AuthFailure) : Authentication :=
  { outcome := some (.ok (.error error)) }

section Authenticate

variable {κ : Type} (environment : AuthEnvironment κ)

/-- From `Send` on: the request and its answer. -/
def exchange (fuel : ℕ) (connection : TlsConnection κ)
    (request : List UInt8) : Authentication :=
  match connection.send environment.schannel request with
  | (false, connection) =>
      { outcome := some (.ok (.error (failure .ioFailed)))
        request := some request
        socket := some connection.socket }
  | (true, connection) =>
      match receiveJson environment.schannel.toSecurityPackage
          environment.serializer.toJsonLibrary fuel connection with
      | none => { outcome := none, request := some request }
      | some reception =>
          { outcome := some (.ok (reception.result.bind
              (decodeLoginResponse environment.serializer.toJsonLibrary)))
            request := some request
            socket := some reception.connection.socket }

/-- From the opened socket on. -/
def converse (fuel : ℕ) (socket : StreamSocket) (host : List UInt8)
    (request : List UInt8) (options : AuthOptions) : Authentication :=
  match toWide environment.system host with
  | .error error =>
      { outcome := some (.ok (.error error)), socket := some socket }
  | .ok serverName =>
      match handshake environment.schannel fuel socket serverName
          options.certificateSha256 with
      | none => { outcome := none }
      | some (.error socket) =>
          { outcome := some (.ok (.error (failure .tlsFailed)))
            socket := some socket }
      | some (.ok connection) => exchange environment fuel connection request

def authenticate (fuel : ℕ) (host : List UInt8)
    (credentials : AuthCredentials) (options : AuthOptions) :
    Authentication :=
  if host = [] ∨ options.port = 0 ∨ options.timeoutMs = 0 then
    .failed (failure .invalidInput)
  else
    match encodeLoginAttempt environment.serializer credentials with
    | .error exception => { outcome := some (.error exception) }
    | .ok (.error error) => .failed error
    | .ok (.ok request) =>
        if !environment.system.startup then .failed (failure .connectionFailed)
        else
          match openSocket environment.system host options.port
              options.timeoutMs with
          | .error error => .failed error
          | .ok socket => converse environment fuel socket host request options

end Authenticate

end Revana.Login
