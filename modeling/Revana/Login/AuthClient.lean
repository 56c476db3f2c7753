import Revana.Login.LobbyPackets

/-!
# Authentication interface

The types of `auth_client.h`.
-/

namespace Revana.Login

open Foundation

def loginAuthPort : UInt16 := 54231
def certificateSha256Size : ℕ := 32

abbrev CertificateSha256 := Bytes 32

structure AuthCredentials where
  username : List UInt8
  password : List UInt8
  otp : List UInt8
  deriving DecidableEq, Repr

structure AuthOptions where
  port : UInt16 := loginAuthPort
  timeoutMs : ℕ := 10000
  certificateSha256 : Option CertificateSha256 := none
  deriving DecidableEq

abbrev AuthSession := SessionMaterial

inductive AuthError where
  | invalidInput
  | nameResolutionFailed
  | connectionFailed
  | tlsFailed
  | ioFailed
  | responseTooLarge
  | malformedResponse
  | serverRejected
  deriving DecidableEq, Repr

structure AuthFailure where
  error : AuthError := .malformedResponse
  serverResult : Option UInt8 := none
  deriving DecidableEq, Repr

end Revana.Login
