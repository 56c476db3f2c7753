import Revana.Login.AuthClient
import Revana.Login.LobbyClient
import Revana.Runtime.MapKey
import Revana.Runtime.ViewBootstrap
import Revana.Runtime.WorldSend

/-!
# The lobby bridge

`RevanaLobbyBridge::Configure` with the parsing of its environment values, and
the network hooks it installs.  The bridge starts unconfigured, so dropping
`state_` drops the last reference to it and runs its destructor.
-/

namespace Revana.Runtime

open Foundation
open Login

/-! ## Environment values -/

/-- The value and the count of characters `std::from_chars` reads. -/
structure FromChars where
  value : Option ℕ
  consumed : ℕ
  deriving DecidableEq, Repr

def digitValue (base : ℕ) (byte : UInt8) : Option ℕ :=
  let value :=
    if 0x30 ≤ byte ∧ byte ≤ 0x39 then some (byte.toNat - 0x30)
    else if 0x61 ≤ byte ∧ byte ≤ 0x7A then some (byte.toNat - 0x61 + 10)
    else if 0x41 ≤ byte ∧ byte ≤ 0x5A then some (byte.toNat - 0x41 + 10)
    else none
  value.filter (· < base)

/-- `std::from_chars` for `uint32_t`: no sign, no blank, no prefix. -/
def fromChars (base : ℕ) (bytes : List UInt8) : FromChars :=
  let digits := bytes.takeWhile fun byte => (digitValue base byte).isSome
  let value := digits.foldl
    (fun value byte => value * base + (digitValue base byte).getD 0) 0
  if digits = [] ∨ value > 0xFFFFFFFF then ⟨none, digits.length⟩
  else ⟨some value, digits.length⟩

def parsePort (value : Option (List UInt8)) (fallback : UInt16) :
    Option UInt16 :=
  match value with
  | none => some fallback
  | some bytes =>
      let result := fromChars 10 bytes
      match result.value with
      | none => none
      | some parsed =>
          if result.consumed ≠ bytes.length ∨ parsed = 0 ∨ parsed > 0xFFFF then
            none
          else some (UInt16.ofNat parsed)

def parsePinByte (high low : UInt8) : Option UInt8 :=
  let parsed := fromChars 16 [high, low]
  if parsed.consumed ≠ 2 then none else parsed.value.map UInt8.ofNat

/-- The loop over the pairs of characters of a certificate pin. -/
def parsePinBytes : List UInt8 → Option (List UInt8)
  | high :: low :: rest =>
      match parsePinByte high low with
      | none => none
      | some byte => (parsePinBytes rest).map (byte :: ·)
  | _ => some []

theorem parsePinBytes_length
    {value result : List UInt8} (hresult : parsePinBytes value = some result) :
    result.length = value.length / 2 := by
  match value with
  | [] =>
      obtain rfl : [] = result := by simpa [parsePinBytes] using hresult
      rfl
  | [_] =>
      obtain rfl : [] = result := by simpa [parsePinBytes] using hresult
      simp
  | high :: low :: rest =>
      rw [parsePinBytes] at hresult
      cases hbyte : parsePinByte high low with
      | none => simp [hbyte] at hresult
      | some byte =>
          rw [hbyte] at hresult
          obtain ⟨tail, htail, rfl⟩ := Option.map_eq_some_iff.mp hresult
          have hrest := parsePinBytes_length htail
          simp only [List.length_cons, hrest]
          omega

def parseCertificatePin (value : Option (List UInt8)) :
    Option CertificateSha256 :=
  match value with
  | none => some (Bytes.zero 32)
  | some bytes =>
      if hsize : bytes.length ≠ certificateSha256Size * 2 then none
      else
        match hresult : parsePinBytes bytes with
        | none => none
        | some result =>
            some ⟨result, by
              rw [parsePinBytes_length hresult, not_not.mp hsize]
              rfl⟩

/-! ## The bridge state -/

structure BridgeState where
  host : List UInt8
  session : AuthSession
  mapSessionKey : MapSessionKey := Bytes.zero 20
  ipv4 : UInt32 := 0
  dataPort : UInt16 := loginDataPort
  viewPort : UInt16 := loginViewPort
  clientVersion : ClientVersion := Bytes.zero 10
  dataCoordinationStarted : Bool := false
  bootstrapViewLoginPending : Bool := false

structure LobbyBridge where
  state : Option BridgeState := none
  stateTraceEnabled : Bool := false

/-- Which of the callbacks of `config.network_hooks` are set. -/
structure NetworkHooks where
  resolveIpv4 : Bool := false
  beforeConnect : Bool := false
  beforeSend : Bool := false
  consumeSend : Bool := false
  deriving DecidableEq, Repr

structure AuthenticateCall where
  host : List UInt8
  credentials : AuthCredentials
  options : AuthOptions

/-- What the platform and the login server answer during `Configure`. -/
structure BridgeEnvironment where
  getEnvironment : String → Option (List UInt8)
  inetPton : List UInt8 → Option Ipv4Address
  authenticate : AuthenticateCall → Except AuthFailure AuthSession
  random : Option MapSessionKey
  mapKeyMd5 : Md5

/-- A variable that is unset or empty is not there. -/
def readEnvironment (env : BridgeEnvironment) (name : String) :
    Option (List UInt8) :=
  match env.getEnvironment name with
  | none => none
  | some [] => none
  | some (byte :: rest) => some (byte :: rest)

def networkToHost (address : Ipv4Address) : UInt32 :=
  le32 (byteAt address.val 3) (byteAt address.val 2) (byteAt address.val 1)
    (byteAt address.val 0)

structure ConfigureResult where
  succeeded : Bool
  bridge : LobbyBridge
  hooks : NetworkHooks
  globals : Globals
  authenticateCalls : List AuthenticateCall

/-- `~State`, which `state_.reset()` runs. -/
def destroyState (globals : Globals) : Globals :=
  revanaClearDirectMapEndpoint (revanaClearDirectMapCipherKey globals)

def validClientVersion (value : Option (List UInt8)) : Option ClientVersion :=
  match value with
  | none => none
  | some version =>
      if hsize : version.length = clientVersionSize then
        if version.all fun byte => 0x20 ≤ byte && byte ≤ 0x7E then
          some ⟨version, hsize⟩
        else none
      else none

/-- What `Configure` reads before it calls the server. -/
structure BridgeParameters where
  host : List UInt8
  address : Ipv4Address
  credentials : AuthCredentials
  authOptions : AuthOptions
  dataPort : UInt16
  viewPort : UInt16
  clientVersion : ClientVersion

def pinnedOptions (authPort : UInt16) (certificatePin : CertificateSha256) :
    AuthOptions where
  port := authPort
  certificateSha256 :=
    if certificatePin.val.any (· ≠ 0) then some certificatePin else none

/-- The part of `Configure` that only reads the environment. -/
def readParameters (env : BridgeEnvironment) (host username password : List UInt8) :
    Option BridgeParameters :=
  let otp := (readEnvironment env "REVANA_LOBBY_OTP").getD []
  match parsePort (readEnvironment env "REVANA_LOBBY_AUTH_PORT") loginAuthPort,
    parsePort (readEnvironment env "REVANA_LOBBY_DATA_PORT") loginDataPort,
    parsePort (readEnvironment env "REVANA_LOBBY_VIEW_PORT") loginViewPort,
    parseCertificatePin
      (readEnvironment env "REVANA_LOBBY_CERTIFICATE_SHA256"),
    validClientVersion
      (readEnvironment env "REVANA_LOBBY_CLIENT_VERSION") with
  | some authPort, some dataPort, some viewPort, some certificatePin,
      some clientVersion =>
      match env.inetPton host with
      | none => none
      | some address =>
          some {
            host
            address
            credentials := { username, password, otp }
            authOptions := pinnedOptions authPort certificatePin
            dataPort
            viewPort
            clientVersion }
  | _, _, _, _, _ => none

/-- `Configure` from the answer of the login server on. -/
def configureSession (env : BridgeEnvironment) (parameters : BridgeParameters)
    (session : AuthSession) (bridge : LobbyBridge) (hooks : NetworkHooks)
    (globals : Globals) : ConfigureResult :=
  let calls : List AuthenticateCall :=
    [⟨parameters.host, parameters.credentials, parameters.authOptions⟩]
  let reset (globals : Globals) : ConfigureResult :=
    ⟨false, { bridge with state := none }, hooks, destroyState globals, calls⟩
  let state : BridgeState := { host := parameters.host, session }
  let generated := generateMapSessionKey env.random
  if generated.1 = false then reset globals
  else
    let state := { state with mapSessionKey := generated.2 }
    let mapKey := revanaConfigureDirectMapSessionKey env.mapKeyMd5
      (some state.mapSessionKey.val) globals
    if mapKey.1 = false then reset mapKey.2
    else
      let state := { state with
        ipv4 := networkToHost parameters.address
        dataPort := parameters.dataPort
        viewPort := parameters.viewPort }
      let endpoint := revanaConfigureDirectMapEndpoint state.ipv4
        state.dataPort mapKey.2
      if endpoint.1 = false then reset endpoint.2
      else
        let state := { state with clientVersion := parameters.clientVersion }
        let viewLogin :=
          makeViewLogin state.session.sessionHash state.clientVersion
        let bootstrap := revanaConfigureDirectLobbyViewBootstrap
          state.viewPort (some viewLogin) endpoint.2
        if bootstrap.1 = false then
          -- This exit keeps `state_`.
          ⟨false, { bridge with state := some state }, hooks, bootstrap.2,
            calls⟩
        else
          let state := { state with bootstrapViewLoginPending := true }
          ⟨true, { bridge with state := some state },
            ⟨true, true, true, true⟩,
            revanaSetGuestTraceHooksEnabled bridge.stateTraceEnabled
              bootstrap.2, calls⟩

/-- `Configure` on a bridge without a state. -/
def configure (env : BridgeEnvironment) (hooks : NetworkHooks)
    (globals : Globals) : ConfigureResult :=
  let host := readEnvironment env "REVANA_LOBBY_HOST"
  let username := readEnvironment env "REVANA_LOBBY_USERNAME"
  let password := readEnvironment env "REVANA_LOBBY_PASSWORD"
  if host = none ∧ username = none ∧ password = none then
    ⟨false, {}, hooks, globals, []⟩
  else
    let bridge : LobbyBridge := {
      stateTraceEnabled :=
        (readEnvironment env "REVANA_LOBBY_STATE_TRACE").getD [] = [0x31] }
    match host, username, password with
    | some host, some username, some password =>
        match readParameters env host username password with
        | none => ⟨false, bridge, hooks, globals, []⟩
        | some parameters =>
            let call : AuthenticateCall :=
              ⟨parameters.host, parameters.credentials,
                parameters.authOptions⟩
            match env.authenticate call with
            | .error _ => ⟨false, bridge, hooks, globals, [call]⟩
            | .ok session =>
                configureSession env parameters session bridge hooks globals
    | _, _, _ => ⟨false, bridge, hooks, globals, []⟩

def configuredIpv4 (bridge : LobbyBridge) : Option UInt32 :=
  bridge.state.map BridgeState.ipv4

/-! ## Network hooks -/

/-- `ffxiNN.pol.com` with two digits, or `pp000.pol.com`. -/
def isLobbyHostname (hostname : List UInt8) : Bool :=
  let start := [0x66, 0x66, 0x78, 0x69]
  let suffix := [0x2E, 0x70, 0x6F, 0x6C, 0x2E, 0x63, 0x6F, 0x6D]
  let isDigit := fun byte : UInt8 => 0x30 ≤ byte && byte ≤ 0x39
  (hostname.length = start.length + 2 + suffix.length &&
    start.isPrefixOf hostname && hostname.drop (start.length + 2) = suffix &&
    isDigit (byteAt hostname start.length) &&
    isDigit (byteAt hostname (start.length + 1))) ||
  hostname = [0x70, 0x70, 0x30, 0x30, 0x30] ++ suffix

def resolveGuestHostname (state : BridgeState) (hostname : List UInt8) :
    Option UInt32 :=
  if isLobbyHostname hostname then some state.ipv4 else none

/-- A guest connect; `isIpv4` is the test of the family and the length. -/
structure GuestConnect where
  isIpv4 : Bool
  port : UInt16
  address : UInt32
  deriving DecidableEq, Repr

/-- `before_connect`: the redirected address, whether a data coordination is
started, and the state. -/
def beforeConnect (connect : GuestConnect) (state : BridgeState) :
    GuestConnect × Bool × BridgeState :=
  if connect.isIpv4 = false ∨ connect.port ≠ state.viewPort then
    (connect, false, state)
  else
    ({ connect with address := state.ipv4 }, !state.dataCoordinationStarted,
      { state with dataCoordinationStarted := true })

/-- The last store of the coordination thread. -/
def finishCoordination (state : BridgeState) : BridgeState :=
  { state with dataCoordinationStarted := false }

/-- `before_send` rewrites recognized lobby packets in place. -/
def beforeSend (state : BridgeState) (peerPort : UInt16)
    (bytes : List UInt8) : List UInt8 :=
  let prepared := prepareLobbySend bytes peerPort state.dataPort
    state.viewPort state.session.sessionHash state.clientVersion
  if prepared.1 then prepared.2 else bytes

def consumeSend (state : BridgeState) (peerPort : UInt16)
    (bytes : List UInt8) : Bool × BridgeState :=
  if peerPort ≠ state.viewPort ∨ bytes.length ≠ 152 ∨
      readLe32 (byteAt bytes) 8 ≠ 0x26 then
    (false, state)
  else
    (state.bootstrapViewLoginPending,
      { state with bootstrapViewLoginPending := false })

end Revana.Runtime
