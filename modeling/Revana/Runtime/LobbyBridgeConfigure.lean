import Revana.Runtime.LobbyBridge

/-!
# Configuration of the bridge is all or nothing

Every exit of `Configure` either leaves everything configured or leaves the
key, the endpoint, the bootstrap and the network hooks as they were before.
The exit which keeps `state_` is never taken: a parsed port is not zero and
`MakeViewLogin` has the size the bootstrap asks for.
-/

namespace Revana.Runtime

open Foundation
open Login

/-- What a successful `Configure` leaves. -/
structure Configured (env : BridgeEnvironment) (parameters : BridgeParameters)
    (authSession : AuthSession) (bridgeState : BridgeState)
    (result : ConfigureResult) : Prop where
  state : result.bridge.state = some bridgeState
  address : env.inetPton parameters.host = some parameters.address
  ipv4 : configuredIpv4 result.bridge =
    some (networkToHost parameters.address)
  host : bridgeState.host = parameters.host
  session : bridgeState.session = authSession
  dataPort : bridgeState.dataPort = parameters.dataPort
  viewPort : bridgeState.viewPort = parameters.viewPort
  clientVersion : bridgeState.clientVersion = parameters.clientVersion
  pending : bridgeState.bootstrapViewLoginPending = true
  idle : bridgeState.dataCoordinationStarted = false
  hooks : result.hooks = ⟨true, true, true, true⟩
  mapKeyEnabled : result.globals.mapKey.enabled = true
  mapKey : result.globals.mapKey.sessionKey = bridgeState.mapSessionKey
  cipherKey : deriveMapCipherKey env.mapKeyMd5 bridgeState.mapSessionKey =
    some result.globals.mapKey.cipherKey
  endpoint : result.globals.endpoint =
    ⟨true, networkToHost parameters.address, parameters.dataPort⟩
  bootstrap : result.globals.bootstrap =
    { enabled := true
      port := parameters.viewPort
      packet := ⟨makeViewLogin authSession.sessionHash
        parameters.clientVersion, makeViewLogin_length _ _⟩ }

/-- What every other exit leaves. -/
structure Unconfigured (result : ConfigureResult) : Prop where
  ipv4 : configuredIpv4 result.bridge = none
  hooks : result.hooks = {}
  mapKeyEnabled : result.globals.mapKey.enabled = false
  sessionKey : result.globals.mapKey.sessionKey = Bytes.zero 20
  cipherKey : result.globals.mapKey.cipherKey = Bytes.zero 16
  endpoint : result.globals.endpoint.enabled = false
  bootstrap : result.globals.bootstrap.enabled = false

/-- The globals before the first configuration; tracing and the resolver may
be set up already. -/
def unconfiguredGlobals (globals : Globals) : Globals :=
  { globals with mapKey := {}, endpoint := {}, bootstrap := {} }

theorem parsePort_ne_zero
    {value : Option (List UInt8)} {fallback port : UInt16}
    (hfallback : fallback ≠ 0) (hport : parsePort value fallback = some port) :
    port ≠ 0 := by
  cases value with
  | none =>
      obtain rfl : fallback = port := by simpa [parsePort] using hport
      exact hfallback
  | some bytes =>
      simp only [parsePort] at hport
      cases hparsed : (fromChars 10 bytes).value with
      | none => simp [hparsed] at hport
      | some parsed =>
          simp only [hparsed] at hport
          split_ifs at hport with hinvalid
          obtain rfl : UInt16.ofNat parsed = port := by simpa using hport
          simp only [not_or, not_not, not_lt] at hinvalid
          intro hzero
          have hnat := congrArg UInt16.toNat hzero
          rw [UInt16.toNat_ofNat'] at hnat
          simp only [UInt16.toNat_zero] at hnat
          omega

theorem readParameters_viewPort
    {env : BridgeEnvironment} {host username password : List UInt8}
    {parameters : BridgeParameters}
    (hparameters : readParameters env host username password =
      some parameters) :
    parameters.viewPort ≠ 0 ∧ parameters.host = host ∧
      env.inetPton host = some parameters.address := by
  unfold readParameters at hparameters
  simp only at hparameters
  split at hparameters
  · rename_i authPort dataPort viewPort certificatePin clientVersion _ _
      hviewPort _ _
    split at hparameters
    · simp at hparameters
    · rename_i address haddress
      obtain rfl := Option.some.inj hparameters
      exact ⟨parsePort_ne_zero (by decide) hviewPort, rfl, haddress⟩
  · simp at hparameters

theorem configureBootstrap_of_viewPort
    {viewPort : UInt16} (hviewPort : viewPort ≠ 0) (sessionHash : SessionHash)
    (clientVersion : ClientVersion) (globals : Globals) :
    revanaConfigureDirectLobbyViewBootstrap viewPort
      (some (makeViewLogin sessionHash clientVersion)) globals =
        (true, { globals with
          bootstrap := {
            enabled := true
            port := viewPort
            packet := ⟨makeViewLogin sessionHash clientVersion,
              makeViewLogin_length _ _⟩ }
          lobbyCharacterListReady := false }) := by
  rw [revanaConfigureDirectLobbyViewBootstrap, dif_pos ⟨hviewPort, makeViewLogin_length _ _⟩]

theorem unconfigured_of_reset
    {bridge : LobbyBridge} {globals : Globals}
    (hbootstrap : globals.bootstrap.enabled = false)
    (calls : List AuthenticateCall) :
    Unconfigured ⟨false, { bridge with state := none }, {},
      destroyState globals, calls⟩ :=
  ⟨rfl, rfl, rfl, rfl, rfl, rfl, hbootstrap⟩

/-- `Configure` behind the login server either resets or configures. -/
theorem configureSession_cases
    {env : BridgeEnvironment} {parameters : BridgeParameters}
    (haddress : env.inetPton parameters.host = some parameters.address)
    (hviewPort : parameters.viewPort ≠ 0) (session : AuthSession)
    (bridge : LobbyBridge) (globals : Globals)
    (hbootstrap : globals.bootstrap.enabled = false) :
    let result := configureSession env parameters session bridge {} globals
    (result.succeeded = true ∧
      ∃ state, Configured env parameters session state result) ∨
    (result.succeeded = false ∧ Unconfigured result) := by
  unfold configureSession
  simp only
  cases hrandom : env.random with
  | none =>
      right
      exact ⟨rfl, unconfigured_of_reset hbootstrap _⟩
  | some mapSessionKey =>
      simp only [generateMapSessionKey, Bool.true_eq_false, if_false,
        revanaConfigureDirectMapSessionKey_key]
      cases hcipher : deriveMapCipherKey env.mapKeyMd5 mapSessionKey with
      | none =>
          right
          exact ⟨rfl, unconfigured_of_reset hbootstrap _⟩
      | some cipherKey =>
          simp only [Bool.true_eq_false, if_false,
            revanaConfigureDirectMapEndpoint]
          by_cases hendpoint : networkToHost parameters.address = 0 ∨
              parameters.dataPort = 0 ∨ parameters.dataPort = 0xFFFF
          · right
            simp only [if_pos hendpoint, if_true]
            exact ⟨trivial, unconfigured_of_reset hbootstrap _⟩
          · left
            simp only [if_neg hendpoint, Bool.true_eq_false, if_false,
              configureBootstrap_of_viewPort hviewPort]
            exact ⟨trivial, _, rfl, haddress, rfl, rfl, rfl, rfl, rfl, rfl, rfl,
              rfl, rfl, rfl, rfl, hcipher, rfl, rfl⟩

theorem unconfigured_of_untouched
    (globals : Globals) (stateTraceEnabled : Bool)
    (calls : List AuthenticateCall) :
    Unconfigured ⟨false, { stateTraceEnabled }, {},
      unconfiguredGlobals globals, calls⟩ :=
  ⟨rfl, rfl, rfl, rfl, rfl, rfl, rfl⟩

/-- The environment and the server's answer a configuration was made from. -/
structure ReadFrom (env : BridgeEnvironment) (parameters : BridgeParameters)
    (session : AuthSession) : Prop where
  host : readEnvironment env "REVANA_LOBBY_HOST" = some parameters.host
  values : ∃ username password,
    readEnvironment env "REVANA_LOBBY_USERNAME" = some username ∧
    readEnvironment env "REVANA_LOBBY_PASSWORD" = some password ∧
    readParameters env parameters.host username password = some parameters
  session : env.authenticate ⟨parameters.host, parameters.credentials,
    parameters.authOptions⟩ = .ok session

/-- Every exit of `Configure`. -/
theorem configure_cases (env : BridgeEnvironment) (globals : Globals) :
    let result := configure env {} (unconfiguredGlobals globals)
    (result.succeeded = true ∧
      ∃ parameters session state, ReadFrom env parameters session ∧
        Configured env parameters session state result) ∨
    (result.succeeded = false ∧ Unconfigured result) := by
  have hfailed : ∀ stateTraceEnabled calls (result : ConfigureResult),
      result = ⟨false, { stateTraceEnabled }, {},
        unconfiguredGlobals globals, calls⟩ →
      (result.succeeded = true ∧
        ∃ parameters session state, ReadFrom env parameters session ∧
          Configured env parameters session state result) ∨
      (result.succeeded = false ∧ Unconfigured result) := by
    rintro stateTraceEnabled calls result rfl
    exact Or.inr ⟨rfl,
      unconfigured_of_untouched globals stateTraceEnabled calls⟩
  simp only [configure]
  split
  · exact hfailed _ _ _ rfl
  · split
    · rename_i host username password hhost husername hpassword
      split
      · exact hfailed _ _ _ rfl
      · rename_i parameters hparameters
        obtain ⟨hviewPort, hparametersHost, haddress⟩ :=
          readParameters_viewPort hparameters
        subst hparametersHost
        split
        · exact hfailed _ _ _ rfl
        · rename_i session hsession
          obtain ⟨hsucceeded, state, hconfigured⟩ | hreset :=
            configureSession_cases haddress hviewPort session
              { stateTraceEnabled := decide (
                (readEnvironment env "REVANA_LOBBY_STATE_TRACE").getD [] =
                  [0x31]) } (unconfiguredGlobals globals) rfl
          · exact Or.inl ⟨hsucceeded, parameters, session, state,
              ⟨hhost, ⟨username, password, husername, hpassword,
                hparameters⟩, hsession⟩, hconfigured⟩
          · exact Or.inr hreset
    · exact hfailed _ _ _ rfl

/-- `Configure` from the unconfigured state, whatever the environment holds
and the platform answers: success leaves everything configured for the parsed
parameters and the session, and failure leaves nothing configured. -/
theorem configure_all_or_nothing (env : BridgeEnvironment) (globals : Globals) :
    let result := configure env {} (unconfiguredGlobals globals)
    (result.succeeded = true →
      ∃ parameters session state, ReadFrom env parameters session ∧
        Configured env parameters session state result) ∧
    (result.succeeded = false → Unconfigured result) := by
  intro result
  rcases configure_cases env globals with ⟨htrue, hspec⟩ | ⟨hfalse, hspec⟩
  · refine ⟨fun _ => hspec, fun hfailed => ?_⟩
    rw [htrue] at hfailed
    cases hfailed
  · refine ⟨fun hsucceeded => ?_, fun _ => hspec⟩
    rw [hfalse] at hsucceeded
    cases hsucceeded

/-! ## A bridge that is configured -/

def exampleKey : MapSessionKey := ⟨List.replicate 20 2, rfl⟩

/-- The MD5 digests of `exampleKey` and of its first successor. -/
def exampleDigest (bytes : List UInt8) : Bytes 16 :=
  if bytes = exampleKey.val then
    ⟨[21, 133, 167, 117, 22, 90, 197, 9, 213, 228, 242, 35, 162, 98, 1, 214],
      rfl⟩
  else
    ⟨[152, 157, 150, 247, 210, 151, 179, 62, 60, 133, 40, 234, 32, 101, 4,
      150], rfl⟩

/-- `10.0.0.2`, one-letter credentials and the default ports. -/
def exampleVariables : List (String × List UInt8) := [
  ("REVANA_LOBBY_HOST", [0x31, 0x30, 0x2E, 0x30, 0x2E, 0x30, 0x2E, 0x32]),
  ("REVANA_LOBBY_USERNAME", [0x75]),
  ("REVANA_LOBBY_PASSWORD", [0x70]),
  ("REVANA_LOBBY_CLIENT_VERSION", List.replicate 10 0x33)]

def exampleEnvironment : BridgeEnvironment where
  getEnvironment := fun name => exampleVariables.lookup name
  inetPton := fun _ => some ⟨[10, 0, 0, 2], rfl⟩
  authenticate := fun _ => .ok ⟨7, ⟨List.replicate 16 0x22, rfl⟩⟩
  random := some exampleKey
  mapKeyMd5 := md5Call exampleDigest true

def exampleConfigured : ConfigureResult :=
  configure exampleEnvironment {} (unconfiguredGlobals {})

end Revana.Runtime
