import Revana.Foundation.StreamSocket
import Revana.Login.AuthProtocol

/-!
# The TLS connection

The handshake loop and the JSON reception of `TlsConnection`.  The security
package is a parameter with a context of its own: any outcome of its calls is
some package.  `processed` and `largestBuffer` record for later what the
package has consumed and the largest buffer it was handed.
-/

namespace Revana.Login

open Foundation

def receiveChunkSize : ℕ := 16 * 1024
def maximumEncryptedSize : ℕ := 1024 * 1024
def maximumResponseSize : ℕ := 16 * 1024

/-! ## The security package -/

/-- `failed` stands for every other status. -/
inductive SecurityStatus where
  | ok
  | continueNeeded
  | completeNeeded
  | completeAndContinue
  | incompleteMessage
  | renegotiate
  | failed
  deriving DecidableEq, Repr

structure StreamSizes where
  header : ℕ := 0
  trailer : ℕ := 0
  maximumMessage : ℕ := 0
  deriving DecidableEq, Repr

/-- The output token of `InitializeSecurityContextW` and the size of the input
it reports as `SECBUFFER_EXTRA`. -/
structure InitializeAnswer (κ : Type) where
  context : κ
  status : SecurityStatus
  token : Option (List UInt8)
  extra : Option ℕ

/-- `DecryptMessage` works in place: the buffer it leaves, the contents of its
data buffers in order and the size of the extra buffer. -/
structure DecryptAnswer (κ : Type) where
  context : κ
  status : SecurityStatus
  buffer : List UInt8
  data : List (List UInt8)
  extra : Option ℕ

structure SecurityPackage (κ : Type) where
  initializeSecurityContext : κ → List UInt8 → InitializeAnswer κ
  completeAuthToken : κ → Option κ
  queryStreamSizes : κ → Option StreamSizes
  decryptMessage : κ → List UInt8 → DecryptAnswer κ

structure TlsConnection (κ : Type) where
  socket : StreamSocket
  context : κ
  streamSizes : StreamSizes := {}
  pendingEncrypted : List UInt8 := []
  processed : List (List UInt8) := []
  largestBuffer : ℕ := 0

/-! ## Buffers -/

def preserveExtra (encrypted : List UInt8) (extra : Option ℕ) : List UInt8 :=
  match extra with
  | none => []
  | some 0 => []
  | some (size + 1) => encrypted.drop (encrypted.length - (size + 1))

namespace TlsConnection

variable {κ : Type}

def receive (connection : TlsConnection κ) (encrypted : List UInt8) :
    Option (List UInt8) × TlsConnection κ :=
  if maximumEncryptedSize - receiveChunkSize < encrypted.length then
    (none, connection)
  else
    match connection.socket.recv receiveChunkSize with
    | (.received [], next) => (none, { connection with socket := next })
    | (.received (byte :: rest), next) =>
        (some (encrypted ++ byte :: rest), { connection with socket := next })
    | (.timedOut, next) => (none, { connection with socket := next })
    | (.wouldBlock, next) => (none, { connection with socket := next })
    | (.failed, next) => (none, { connection with socket := next })

/-- `encrypted.empty() && !Receive(encrypted)` at the head of both loops. -/
def receiveIfEmpty (connection : TlsConnection κ) (encrypted : List UInt8) :
    Option (List UInt8) × TlsConnection κ :=
  if encrypted = [] then connection.receive encrypted
  else (some encrypted, connection)

def holding (connection : TlsConnection κ) (encrypted : List UInt8) :
    TlsConnection κ :=
  { connection with
    largestBuffer := max connection.largestBuffer encrypted.length }

/-- All of the buffer but its extra bytes has been processed. -/
def consume (connection : TlsConnection κ) (encrypted : List UInt8)
    (extra : Option ℕ) : TlsConnection κ :=
  { connection with
    processed := connection.processed ++
      [encrypted.take (encrypted.length - extra.getD 0)] }

end TlsConnection

/-! ## The handshake loop -/

def normalizeCompleteStatus : SecurityStatus → SecurityStatus
  | .completeNeeded => .ok
  | .completeAndContinue => .continueNeeded
  | .ok => .ok
  | .continueNeeded => .continueNeeded
  | .incompleteMessage => .incompleteMessage
  | .renegotiate => .renegotiate
  | .failed => .failed

section Package

variable {κ : Type} (package : SecurityPackage κ)

def completeAndSend (answer : InitializeAnswer κ)
    (connection : TlsConnection κ) : Bool × TlsConnection κ :=
  let completed :=
    if answer.status = .completeNeeded ∨
        answer.status = .completeAndContinue then
      package.completeAuthToken answer.context
    else some answer.context
  match completed with
  | none => (false, { connection with context := answer.context })
  | some context =>
      let connection := { connection with context := context }
      match answer.token with
      | none => (true, connection)
      | some token =>
          let sent := connection.socket.transmit token
          (sent.1, { connection with socket := sent.2 })

/-- `ContinueHandshake`; `none` means the fuel ran out. -/
def continueHandshake :
    ℕ → TlsConnection κ → List UInt8 → Option (Bool × TlsConnection κ)
  | 0, _, _ => none
  | fuel + 1, connection, encrypted =>
      match connection.receiveIfEmpty encrypted with
      | (none, connection) => some (false, connection)
      | (some encrypted, connection) =>
          let connection := connection.holding encrypted
          let answer := package.initializeSecurityContext connection.context
            encrypted
          match completeAndSend package answer connection with
          | (false, connection) => some (false, connection)
          | (true, connection) =>
              if answer.status = .incompleteMessage then
                match connection.receive encrypted with
                | (none, connection) => some (false, connection)
                | (some encrypted, connection) =>
                    continueHandshake fuel connection encrypted
              else
                let connection := connection.consume encrypted answer.extra
                let encrypted := preserveExtra encrypted answer.extra
                match normalizeCompleteStatus answer.status with
                | .ok =>
                    let connection := { connection with
                      pendingEncrypted := encrypted }
                    match package.queryStreamSizes connection.context with
                    | none => some (false, connection)
                    | some sizes =>
                        some (true, { connection with streamSizes := sizes })
                | .continueNeeded =>
                    continueHandshake fuel connection encrypted
                | _ => some (false, connection)

/-! ## Receiving the answer -/

/-- The result of `ReceiveJson`, what it has not processed of its buffer, and
the connection it leaves. -/
structure Reception (κ : Type) where
  result : Except AuthFailure (List UInt8)
  unprocessed : List UInt8
  connection : TlsConnection κ

variable (library : JsonLibrary)

/-- The loop of `ReceiveJson`; `none` means the fuel ran out. -/
def receiveJsonLoop :
    ℕ → TlsConnection κ → List UInt8 → List UInt8 → Option (Reception κ)
  | 0, _, _, _ => none
  | fuel + 1, connection, encrypted, plaintext =>
      if maximumResponseSize < plaintext.length then
        some ⟨.error (failure .responseTooLarge), encrypted, connection⟩
      else
        match connection.receiveIfEmpty encrypted with
        | (none, connection) =>
            let error : AuthError :=
              if plaintext = [] then .ioFailed else .malformedResponse
            some ⟨.error (failure error), encrypted, connection⟩
        | (some encrypted, connection) =>
            let answer := package.decryptMessage connection.context encrypted
            let connection := { connection.holding encrypted with
              context := answer.context }
            match answer.status with
            | .incompleteMessage =>
                match connection.receive answer.buffer with
                | (none, connection) =>
                    some ⟨.error (failure .ioFailed), answer.buffer,
                      connection⟩
                | (some encrypted, connection) =>
                    receiveJsonLoop fuel connection encrypted plaintext
            | .renegotiate =>
                match answer.extra with
                | none =>
                    some ⟨.error (failure .tlsFailed), encrypted, connection⟩
                | some size =>
                    let connection := connection.consume encrypted (some size)
                    let encrypted := preserveExtra answer.buffer (some size)
                    match continueHandshake package fuel connection
                        encrypted with
                    | none => none
                    | some (false, connection) =>
                        some ⟨.error (failure .tlsFailed), [], connection⟩
                    | some (true, connection) =>
                        receiveJsonLoop fuel
                          { connection with pendingEncrypted := [] }
                          connection.pendingEncrypted plaintext
            | .ok =>
                let plaintext := plaintext ++ answer.data.flatten
                let connection := connection.consume encrypted answer.extra
                let encrypted := preserveExtra answer.buffer answer.extra
                if maximumResponseSize < plaintext.length then
                  some ⟨.error (failure .responseTooLarge), encrypted,
                    connection⟩
                else if isCompleteJson library plaintext then
                  some ⟨.ok plaintext, encrypted, connection⟩
                else receiveJsonLoop fuel connection encrypted plaintext
            | _ => some ⟨.error (failure .tlsFailed), encrypted, connection⟩

def receiveJson (fuel : ℕ) (connection : TlsConnection κ) :
    Option (Reception κ) :=
  receiveJsonLoop package library fuel
    { connection with pendingEncrypted := [] } connection.pendingEncrypted []

end Package

end Revana.Login
