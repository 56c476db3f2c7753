import Revana.Runtime.LobbyBridgeConfigure
import Revana.Runtime.MapKeyLifecycle
import Revana.Runtime.ReceiveGate
import Revana.Runtime.ResolverService
import Revana.Runtime.TracePassivity
import Revana.Runtime.WorldSendTarget

/-!
# The startup of the application

`RevanaApp::OnPreSetup` turns the environment into the settings of the hooks
before any guest code runs.  No hook changes these settings afterwards, and
the bootstrap stays armed until a receive decides it, so every way the guest
has to the lobby keeps leading to the configured address.
-/

namespace Revana.Runtime

open Foundation
open Login

/-! ## Settings -/

/-- What is configured before the guest runs. -/
structure Settings where
  endpoint : DirectMapEndpoint
  mapKeyEnabled : Bool
  bootstrapEnabled : Bool
  bootstrapPort : UInt16
  resolverEnabled : Bool
  resolverIpv4 : UInt32
  stubEnabled : Bool
  deriving DecidableEq

def Globals.settings (globals : Globals) : Settings where
  endpoint := globals.endpoint
  mapKeyEnabled := globals.mapKey.enabled
  bootstrapEnabled := globals.bootstrap.enabled
  bootstrapPort := globals.bootstrap.port
  resolverEnabled := globals.resolver.enabled
  resolverIpv4 := globals.resolver.ipv4
  stubEnabled := globals.registrationStub.enabled

section Hooks

variable (translateVirtual : UInt32 → ℕ) (flags : ExperimentalFlags)
  (guest : Guest) (globals : Globals)

theorem walkSubPackets_enabled
    (md5 : ℕ → Md5) (traceEnabled directKeyEnabled : Bool) (total : ℕ)
    (plaintext : ℕ → UInt8) (remaining offset : ℕ) (state : WalkState) :
    (walkSubPackets md5 traceEnabled directKeyEnabled total plaintext remaining
      offset state).1.mapKey.enabled = state.mapKey.enabled := by
  induction remaining generalizing offset state with
  | zero => rfl
  | succ remaining ih =>
      rw [walkSubPackets]
      split
      · dsimp only
        split
        · rfl
        · rw [ih, visitMapKey_enabled]
      · rfl

theorem worldReceiveDecodeResult_settings (md5 : ℕ → Md5) :
    (revanaTraceWorldReceiveDecodeResult translateVirtual md5 guest
      globals).1.settings = globals.settings := by
  unfold revanaTraceWorldReceiveDecodeResult
  dsimp only
  split
  · rfl
  split
  · rfl
  · simp only [Globals.settings, walkSubPackets_enabled]

theorem worldSendTarget_settings (md5 : Md5) :
    (revanaTraceWorldSendTarget translateVirtual flags md5 guest
      globals).1.settings = globals.settings := by
  have hrestore (packet size : ℕ) : (restoreWorldLoginCharacterId md5
      guest.memory packet size globals).globals.settings =
        globals.settings := by
    unfold restoreWorldLoginCharacterId
    dsimp only
    split
    · rfl
    split
    · rfl
    split <;> rfl
  unfold revanaTraceWorldSendTarget
  dsimp only
  split
  · rfl
  split
  · exact hrestore _ _
  · rfl

theorem bootstrapReceive_settings
    (keyResponseMd5 : ℕ → Md5) (socket : Option GuestSocket)
    (bootstrap : DirectViewBootstrap) :
    let after := (bootstrapReceive keyResponseMd5 socket bootstrap).1
    after.enabled = bootstrap.enabled ∧ after.port = bootstrap.port := by
  have hsent (socket : GuestSocket) :
      (sendBootstrap socket bootstrap).1.enabled = bootstrap.enabled ∧
        (sendBootstrap socket bootstrap).1.port = bootstrap.port := by
    unfold sendBootstrap
    split
    · exact ⟨rfl, rfl⟩
    dsimp only
    split <;> exact ⟨rfl, rfl⟩
  unfold bootstrapReceive
  split
  · cases socket with
    | none => exact ⟨rfl, rfl⟩
    | some socket =>
        dsimp only
        split
        · unfold runBootstrap
          dsimp only
          split
          · split <;> exact hsent socket
          · exact hsent socket
        · exact ⟨rfl, rfl⟩
  · exact ⟨rfl, rfl⟩

theorem observeLobbyReceive_settings
    (characterListMd5 : ℕ → Md5) (socket : GuestSocket) :
    (observeLobbyReceive characterListMd5 socket globals).settings =
      globals.settings := by
  have hnext : (observeNextLogin socket globals).settings =
      globals.settings := by
    unfold observeNextLogin
    split
    · rfl
    · split <;> rfl
  have hlist (size : ℕ) (start : Globals) : (observeCharacterList
      characterListMd5 socket size start).settings = start.settings := by
    unfold observeCharacterList
    split <;> rfl
  unfold observeLobbyReceive
  split
  · rfl
  split
  · dsimp only
    split <;> split <;> first
      | rw [hlist, hnext]
      | rw [hlist]
      | exact hnext
      | rfl
  · rfl

theorem fourByteSocketReceive_settings
    (handleBase : UInt32) (call : SocketReceiveCall) :
    (revanaTraceFourByteSocketReceive flags handleBase call
      globals).1.settings = globals.settings := by
  unfold revanaTraceFourByteSocketReceive
  split
  · rfl
  obtain ⟨henabled, hport⟩ := bootstrapReceive_settings call.keyResponseMd5
    (call.socket handleBase) globals.bootstrap
  have hcounted : ({ globals with
      bootstrap := (bootstrapReceive call.keyResponseMd5
        (call.socket handleBase) globals.bootstrap).1
      trace := (guestTraceHooksEnabled globals.trace).2 } :
        Globals).settings = globals.settings := by
    simp only [Globals.settings, henabled, hport]
  dsimp only
  split
  · split
    · exact hcounted
    · split
      · rw [observeLobbyReceive_settings]
        exact hcounted
      · exact hcounted
  · exact hcounted

theorem zoneDescriptorLookup_settings :
    (revanaTraceZoneDescriptorLookup translateVirtual flags guest
      globals).1.settings = globals.settings := by
  unfold revanaTraceZoneDescriptorLookup
  dsimp only
  split
  · rfl
  split
  · rfl
  split <;> rfl

theorem postSelectionServicePoll_settings :
    (revanaTracePostSelectionServicePoll translateVirtual flags guest
      globals).1.settings = globals.settings := by
  unfold revanaTracePostSelectionServicePoll
  dsimp only
  split <;> rfl

theorem installDirectPolResolver_settings
    (call : InstallCall) (memory : Memory) (resolver : DirectPolResolver) :
    let after :=
      (installDirectPolResolver translateVirtual call memory resolver).resolver
    after.enabled = resolver.enabled ∧ after.ipv4 = resolver.ipv4 := by
  unfold installDirectPolResolver
  split
  · exact ⟨rfl, rfl⟩
  split
  · exact ⟨rfl, rfl⟩
  split
  · exact ⟨rfl, rfl⟩
  dsimp only
  split
  · exact ⟨rfl, rfl⟩
  split <;> exact ⟨rfl, rfl⟩

theorem installDirectPolUiRegistrationStub_enabled
    (call : ServiceDispatchCall) (table : UInt32) (stub : RegistrationStub) :
    (installDirectPolUiRegistrationStub translateVirtual call table
      stub).stub.enabled = stub.enabled := by
  unfold installDirectPolUiRegistrationStub
  dsimp only
  split
  · rfl
  split
  · rfl
  split
  · rfl
  split <;> rfl

theorem serviceDispatchSlot1852_settings (call : ServiceDispatchCall) :
    (revanaTraceServiceDispatchSlot1852 translateVirtual call guest
      globals).1.settings = globals.settings := by
  obtain ⟨henabled, hipv4⟩ := installDirectPolResolver_settings
    translateVirtual (call.install (u32 guest.registers.r11)) guest.memory
    globals.resolver
  unfold revanaTraceServiceDispatchSlot1852
  dsimp only
  split <;> split <;>
    simp only [Globals.settings, henabled, hipv4,
      installDirectPolUiRegistrationStub_enabled]

end Hooks

/-- No hook changes a setting. -/
theorem callHook_settings
    (environment : HookEnvironment) (guest : Guest) (globals : Globals)
    (call : HookCall) :
    (callHook environment guest globals call).1.settings =
      globals.settings := by
  cases call with
  | worldReceiveDecodeResult md5 =>
      exact worldReceiveDecodeResult_settings _ _ _ _
  | applyDirectMapCipherKey =>
      simp only [callHook, revanaApplyDirectMapCipherKey]
      split
      · rfl
      split <;> rfl
  | worldSendTarget md5 => exact worldSendTarget_settings _ _ _ _ _
  | fourByteSocketReceive lookupSocket keyResponseMd5 characterListMd5 =>
      exact fourByteSocketReceive_settings _ _ _ _
  | zoneDescriptorLookup => exact zoneDescriptorLookup_settings _ _ _ _
  | postSelectionServicePoll => exact postSelectionServicePoll_settings _ _ _ _
  | serviceDispatchSlot1852 call =>
      exact serviceDispatchSlot1852_settings _ _ _ _

theorem hookMachine_settings
    (environment : HookEnvironment) (state : HookState)
    (events : List HookEvent) :
    ((hookMachine environment).run state events).1.globals.settings =
      state.globals.settings := by
  refine @Machine.run_invariant _ _ _ (hookMachine environment)
    (fun reached => reached.globals.settings = state.globals.settings) ?_
    state rfl events
  intro reached event hreached
  rw [← hreached]
  cases event with
  | guestRuns act => rfl
  | setTracing enabled => cases enabled <;> rfl
  | hook call => exact callHook_settings _ _ _ _

/-! ## The bootstrap over a run -/

theorem runBootstrap_decided
    (keyResponseMd5 : ℕ → Md5) (socket : GuestSocket)
    (bootstrap : DirectViewBootstrap) :
    (runBootstrap keyResponseMd5 socket bootstrap).1.Decided := by
  have hunsent (hdown : (sendBootstrap socket bootstrap).1.requestSent ≠
      true) : (sendBootstrap socket bootstrap).1.failed = true := by
    unfold sendBootstrap at hdown ⊢
    split
    · rename_i hsent
      rw [if_pos hsent] at hdown
      exact absurd hsent hdown
    · rename_i hsent
      rw [if_neg hsent] at hdown
      dsimp only at hdown ⊢
      split
      · rfl
      · rename_i hresult
        rw [if_neg hresult] at hdown
        exact absurd rfl hdown
  unfold runBootstrap
  dsimp only
  split
  · split
    · exact Or.inl rfl
    · exact Or.inr rfl
  · rename_i hdown
    exact Or.inr (hunsent hdown)

/-- A hook leaves the bootstrap as it is or decided. -/
theorem callHook_bootstrap
    (environment : HookEnvironment) (guest : Guest) (globals : Globals)
    (call : HookCall) :
    let after := (callHook environment guest globals call).1.bootstrap
    after = globals.bootstrap ∨ after.Decided := by
  cases call with
  | worldReceiveDecodeResult md5 =>
      left
      simp only [callHook, revanaTraceWorldReceiveDecodeResult]
      split
      · rfl
      split <;> rfl
  | applyDirectMapCipherKey =>
      left
      simp only [callHook, revanaApplyDirectMapCipherKey]
      split
      · rfl
      split <;> rfl
  | worldSendTarget md5 =>
      left
      have hrestore (packet size : ℕ) : (restoreWorldLoginCharacterId md5
          guest.memory packet size globals).globals.bootstrap =
            globals.bootstrap := by
        unfold restoreWorldLoginCharacterId
        dsimp only
        split
        · rfl
        split
        · rfl
        split <;> rfl
      simp only [callHook, revanaTraceWorldSendTarget]
      split
      · rfl
      split
      · exact hrestore _ _
      · rfl
  | fourByteSocketReceive lookupSocket keyResponseMd5 characterListMd5 =>
      have hspec := receive_bootstrap environment.flags environment.handleBase
        ⟨guest, lookupSocket, keyResponseMd5, characterListMd5⟩ globals
      simp only at hspec
      split at hspec
      · simp only [callHook]
        rw [hspec.1]
        unfold bootstrapReceive
        split
        · split
          · exact Or.inl rfl
          · split
            · exact Or.inr (runBootstrap_decided _ _ _)
            · exact Or.inl rfl
        · exact Or.inl rfl
      · exact Or.inl hspec.1
  | zoneDescriptorLookup =>
      left
      simp only [callHook, revanaTraceZoneDescriptorLookup]
      split
      · rfl
      split
      · rfl
      split <;> rfl
  | postSelectionServicePoll =>
      left
      simp only [callHook, revanaTracePostSelectionServicePoll]
      split <;> rfl
  | serviceDispatchSlot1852 call =>
      left
      simp only [callHook, revanaTraceServiceDispatchSlot1852]
      split <;> split <;> rfl

theorem hookMachine_bootstrap
    (environment : HookEnvironment) (state : HookState)
    (events : List HookEvent) :
    let reached :=
      ((hookMachine environment).run state events).1.globals.bootstrap
    reached = state.globals.bootstrap ∨ reached.Decided := by
  refine @Machine.run_invariant _ _ _ (hookMachine environment)
    (fun reached => reached.globals.bootstrap = state.globals.bootstrap ∨
      reached.globals.bootstrap.Decided) ?_ state (Or.inl rfl) events
  intro reached event hreached
  cases event with
  | guestRuns act => exact hreached
  | setTracing enabled => cases enabled <;> exact hreached
  | hook call =>
      rcases callHook_bootstrap environment reached.guest reached.globals call
        with hsame | hdecided
      · show (callHook environment reached.guest reached.globals
          call).1.bootstrap = _ ∨ DirectViewBootstrap.Decided
            (callHook environment reached.guest reached.globals
              call).1.bootstrap
        rw [hsame]
        exact hreached
      · exact Or.inr hdecided

/-! ## The application -/

/-- `RevanaFlagRequested`, and `EnvironmentFlagRequested` of the hooks. -/
def revanaFlagRequested (env : BridgeEnvironment) (name : String) : Bool :=
  env.getEnvironment name = some [0x31]

def experimentalFlags (env : BridgeEnvironment) : ExperimentalFlags where
  synthesizePostSelectionDescriptors := revanaFlagRequested env
    "REVANA_EXPERIMENTAL_POST_SELECTION_DESCRIPTORS"
  skipPostSelectionServiceFailure := revanaFlagRequested env
    "REVANA_EXPERIMENTAL_SKIP_POST_SELECTION_SERVICE_FAILURE"
  restoreWorldLoginCharacterId := revanaFlagRequested env
    "REVANA_EXPERIMENTAL_RESTORE_WORLD_LOGIN_CHARACTER_ID"

/-- The hooks of this process, whose flags are read when it starts. -/
def hookEnvironment (env : BridgeEnvironment) (translateVirtual : UInt32 → ℕ)
    (handleBase : UInt32) : HookEnvironment where
  translateVirtual := translateVirtual
  handleBase := handleBase
  flags := experimentalFlags env

def revanaConfigureDirectPolUiRegistrationStub (globals : Globals) : Globals :=
  { globals with registrationStub := { enabled := true, thunk := 0 } }

def revanaConfigureDirectPolResolver (ipv4Address : UInt32)
    (globals : Globals) : Globals :=
  { globals with resolver := { globals.resolver with
    enabled := true
    ipv4 := ipv4Address } }

structure RevanaApp where
  lobbyBridge : LobbyBridge
  hooks : NetworkHooks
  guestNetworkEnabled : Bool
  globals : Globals
  gpuPlugin : String

/-- A configured bridge without an address does not occur; the source
dereferences the address without a test. -/
def onPreSetup (env : BridgeEnvironment) (globals : Globals) : RevanaApp :=
  let configured :=
    configure env {} (revanaConfigureDirectPolUiRegistrationStub globals)
  let directed :=
    match configured.succeeded, configuredIpv4 configured.bridge with
    | true, some ipv4 =>
        (revanaConfigureDirectPolResolver ipv4 configured.globals, true)
    | _, _ => (configured.globals, false)
  { lobbyBridge := configured.bridge
    hooks := configured.hooks
    guestNetworkEnabled := directed.2
    globals := revanaSetGuestTraceHooksEnabled
      (revanaFlagRequested env "REVANA_TRACE_STARTUP") directed.1
    gpuPlugin := "xenos" }

/-! ## Addresses in guest memory -/

/-- `ntohl` and `store_and_swap` give the octets in network order. -/
theorem networkToHost_octets (address : Ipv4Address) :
    (le32Bytes (networkToHost address)).reverse = address.val := by
  obtain ⟨octets, hlength⟩ := address
  match octets, hlength with
  | [first, second, third, fourth], _ =>
      exact congrArg List.reverse (le32Bytes_le32 fourth third second first)

theorem byteAt_load
    (memory : Memory) {pointer size index : ℕ} (hindex : index < size) :
    byteAt (memory.load pointer size) index = memory (pointer + index) := by
  have hlength : index < (memory.load pointer size).length := by
    simpa [Memory.load] using hindex
  rw [byteAt_eq_getElem hlength]
  simp [Memory.load]

/-- Bytes that are stored over a part of others are copied over them. -/
theorem load_store_store
    (memory : Memory) {pointer offset : ℕ} {bytes patch : List UInt8}
    (hfits : offset + patch.length ≤ bytes.length) :
    ((memory.store pointer bytes).store (pointer + offset) patch).load pointer
      bytes.length = splice bytes offset patch := by
  apply ext_byteAt
  · rw [splice_length hfits]
    simp [Memory.load]
  intro index hindex
  have hsize : index < bytes.length := by
    simpa [Memory.load] using hindex
  rw [byteAt_load _ hsize, byteAt_splice hfits]
  by_cases hpatch : offset ≤ index ∧ index < offset + patch.length
  · obtain ⟨inner, rfl⟩ := Nat.exists_eq_add_of_le hpatch.1
    rw [if_pos hpatch, ← Nat.add_assoc, Nat.add_sub_cancel_left]
    exact Memory.store_inside (by omega)
  · rw [if_neg hpatch, Memory.store_of_outside (by omega)]
    exact Memory.store_inside hsize

/-- The twenty bytes that a poll leaves in its buffer. -/
theorem load_answeredMemory
    {runtime : PolRuntime} {buffer : UInt32}
    (hlinear : runtime.translateVirtual (buffer + 4) =
      runtime.translateVirtual buffer + 4)
    (memory : Memory) (ipv4 : UInt32) :
    (runtime.answeredMemory memory buffer ipv4).load
        (runtime.translateVirtual buffer) 20 =
      List.replicate 4 0 ++ (le32Bytes ipv4).reverse ++
        List.replicate 12 0 := by
  rw [PolRuntime.answeredMemory, Memory.storeWord, hlinear]
  exact @load_store_store memory (runtime.translateVirtual buffer) 4
    (List.replicate 20 0) (le32Bytes ipv4).reverse (by simp)

/-! ## Where the guest is led -/

/-- What the bootstrap sends through a view socket. -/
def BridgeState.viewLogin (state : BridgeState) : List UInt8 :=
  makeViewLogin state.session.sessionHash state.clientVersion

/-- Every way to the lobby and to the map server leads to one address.  The
hooks of the bridge are installed, the service dispatch installs the resolver,
and a view socket gets the login of the session until it is decided. -/
structure RoutesTo (address : Ipv4Address) (port : UInt16)
    (state : BridgeState) (hooks : NetworkHooks) (globals : Globals) :
    Prop where
  installed : hooks = ⟨true, true, true, true⟩
  install : ∀ translateVirtual (call : InstallCall) memory,
    call.kernelAvailable = true → (∀ slot, call.thunk slot ≠ 0) →
      (∀ slot, loadSlot translateVirtual memory call.table slot ≠ 0) →
      (installDirectPolResolver translateVirtual call memory
        globals.resolver).installed = true
  bootstrap : ∀ flags handleBase call,
    let sends :=
      (revanaTraceFourByteSocketReceive flags handleBase call globals).2
    (∀ socket, EligibleOn handleBase state.viewPort call socket →
      ¬globals.bootstrap.Decided →
      sends = [⟨state.viewLogin, socket.send state.viewLogin⟩]) ∧
    (¬Eligible handleBase state.viewPort call ∨ globals.bootstrap.Decided →
      sends = [])
  lookup : ∀ hostname, isLobbyHostname hostname = true →
    resolveGuestHostname state hostname = some (networkToHost address)
  connect : ∀ connect, connect.isIpv4 = true →
    connect.port = state.viewPort →
      (beforeConnect connect state).1.address = networkToHost address
  poll : ∀ (runtime : PolRuntime) (guest : Guest),
    let buffer := u32 guest.registers.r4
    u32 guest.registers.r3 = directPolResolverHandle → buffer ≠ 0 →
      runtime.translateVirtual (buffer + 4) =
        runtime.translateVirtual buffer + 4 →
      (runtime.callResolver globals.resolver guest .poll).1.memory.load
          (runtime.translateVirtual buffer) 20 =
        List.replicate 4 0 ++ address.val ++ List.replicate 12 0
  send : ∀ translateVirtual flags md5 guest,
    WorldSendArguments guest.registers →
    BuffersDisjoint translateVirtual guest.registers →
    let target := sendTarget translateVirtual guest.registers
    let sent := sentMemory translateVirtual flags md5 guest globals
    IsSentinelPort (guest.memory.loadHalf (target + 2)) →
      sent.loadHalf (target + 2) = port ∧
        sent.loadWord (target + 4) = networkToHost address

/-- No lookup, no key, no login and no endpoint comes from the hooks. -/
structure Unrouted (globals : Globals) : Prop where
  install : ∀ translateVirtual call memory,
    installDirectPolResolver translateVirtual call memory globals.resolver =
      ⟨false, [], globals.resolver, []⟩
  cipherKey : ∀ translateVirtual guest,
    revanaApplyDirectMapCipherKey translateVirtual guest globals =
      (none, guest.memory, globals)
  receive : ∀ flags handleBase call,
    (revanaTraceFourByteSocketReceive flags handleBase call globals).2 = []
  send : ∀ translateVirtual flags md5 guest,
    BuffersDisjoint translateVirtual guest.registers →
    ∀ index < sendTargetLength guest.registers,
      let target := sendTarget translateVirtual guest.registers
      sentMemory translateVirtual flags md5 guest globals (target + index) =
        guest.memory (target + index)

theorem install_of_enabled
    {translateVirtual : UInt32 → ℕ} {call : InstallCall} {memory : Memory}
    {resolver : DirectPolResolver} (henabled : resolver.enabled = true)
    (hkernel : call.kernelAvailable = true)
    (hthunks : ∀ slot, call.thunk slot ≠ 0)
    (hslots : ∀ slot, loadSlot translateVirtual memory call.table slot ≠ 0) :
    (installDirectPolResolver translateVirtual call memory
      resolver).installed = true := by
  have hbegin : call.beginThunk ≠ 0 := hthunks .begin
  have hpoll : call.pollThunk ≠ 0 := hthunks .poll
  have hcancel : call.cancelThunk ≠ 0 := hthunks .cancel
  unfold installDirectPolResolver
  rw [if_neg (by simp [henabled]), if_neg (by simp [hkernel])]
  split
  · rfl
  · simp only [hslots, hbegin, hpoll, hcancel, or_self, if_false]

/-- What a receive sends while the bootstrap is as it was configured, and
nothing once it is decided. -/
theorem receive_of_kept
    {flags : ExperimentalFlags} {handleBase : UInt32} {globals : Globals}
    {viewPort : UInt16} {login : Bytes viewLoginSize}
    (hport : globals.bootstrap.port = viewPort)
    (hbootstrap : globals.bootstrap = armedBootstrap viewPort login ∨
      globals.bootstrap.Decided) (call : SocketReceiveCall) :
    let sends :=
      (revanaTraceFourByteSocketReceive flags handleBase call globals).2
    (∀ socket, EligibleOn handleBase viewPort call socket →
      ¬globals.bootstrap.Decided →
      sends = [⟨login.val, socket.send login.val⟩]) ∧
    (¬Eligible handleBase viewPort call ∨ globals.bootstrap.Decided →
      sends = []) := by
  intro sends
  constructor
  · intro socket hon hundecided
    have harmed := hbootstrap.resolve_right hundecided
    have hspec := receive_bootstrap flags handleBase call globals
    rw [if_pos hon.four, hon.found, harmed] at hspec
    have hsends : sends = (bootstrapReceive call.keyResponseMd5 (some socket)
        (armedBootstrap viewPort login)).2 := hspec.2
    have hpeer := hon.port
    rw [hsends]
    by_cases hsent : socket.send login.val = viewLoginSize
    · by_cases hready : awaitKeyResponse call.keyResponseMd5
          socket.keyResponsePeek responseWaitAttempts 0 = true
      · simp [bootstrapReceive, runBootstrap, sendBootstrap, armedBootstrap,
          hpeer, hsent, hready]
      · simp [bootstrapReceive, runBootstrap, sendBootstrap, armedBootstrap,
          hpeer, hsent, hready]
    · simp [bootstrapReceive, runBootstrap, sendBootstrap, armedBootstrap,
        hpeer, hsent]
  · rintro (hineligible | hdecided)
    · rw [← hport] at hineligible
      exact (receive_of_ineligible hineligible).2
    · exact (receive_of_decided hdecided).2

theorem routesTo_of_settings
    {address : Ipv4Address} {port : UInt16} {state : BridgeState}
    {hooks : NetworkHooks} {globals : Globals}
    (hhooks : hooks = ⟨true, true, true, true⟩)
    (hipv4 : state.ipv4 = networkToHost address)
    (hendpoint : globals.settings.endpoint =
      ⟨true, networkToHost address, port⟩)
    (henabled : globals.settings.resolverEnabled = true)
    (hresolver : globals.settings.resolverIpv4 = networkToHost address)
    (hport : globals.settings.bootstrapPort = state.viewPort)
    (hbootstrap : globals.bootstrap = armedBootstrap state.viewPort
        ⟨state.viewLogin, makeViewLogin_length _ _⟩ ∨
      globals.bootstrap.Decided) :
    RoutesTo address port state hooks globals where
  installed := hhooks
  install := by
    intro translateVirtual call memory hkernel hthunks hslots
    exact install_of_enabled henabled hkernel hthunks hslots
  bootstrap := by
    intro flags handleBase call
    exact receive_of_kept hport hbootstrap call
  lookup := by
    intro hostname hlobby
    rw [resolveGuestHostname, if_pos hlobby, hipv4]
  connect := by
    intro connect hfamily hport
    have hredirected : ¬(connect.isIpv4 = false ∨
        connect.port ≠ state.viewPort) := by
      simp [hfamily, hport]
    rw [beforeConnect, if_neg hredirected]
    exact hipv4
  poll := by
    intro runtime guest buffer hhandle hbuffer hlinear
    have hdirect : isDirectCall runtime.translateVirtual guest .poll = true :=
      decide_eq_true hhandle
    have hconfigured : globals.resolver.ipv4 = networkToHost address :=
      hresolver
    rw [callResolver_poll hdirect hbuffer, hconfigured]
    show (runtime.answeredMemory guest.memory buffer _).load _ 20 = _
    rw [load_answeredMemory hlinear, networkToHost_octets]
  send := by
    intro translateVirtual flags md5 guest hvalid hdisjoint target sent hport
    have hconfigured : globals.endpoint =
        ⟨true, networkToHost address, port⟩ := hendpoint
    obtain ⟨-, hportAfter, haddress, -⟩ := @sentMemory_of_sentinel
      translateVirtual flags md5 guest globals hdisjoint hport
      (by rw [hconfigured]) hvalid
    rw [hconfigured] at hportAfter haddress
    exact ⟨hportAfter, haddress⟩

theorem unrouted_of_settings
    {globals : Globals} (hresolver : globals.settings.resolverEnabled = false)
    (hendpoint : globals.settings.endpoint.enabled = false)
    (hkey : globals.settings.mapKeyEnabled = false)
    (hbootstrap : globals.settings.bootstrapEnabled = false) :
    Unrouted globals where
  install := by
    intro translateVirtual call memory
    exact if_pos hresolver
  cipherKey := by
    intro translateVirtual guest
    exact if_pos hkey
  receive := by
    intro flags handleBase call
    have hdisabled : globals.bootstrap.enabled = false := hbootstrap
    have hsilent (keyResponseMd5 : ℕ → Md5) (socket : Option GuestSocket) :
        (bootstrapReceive keyResponseMd5 socket globals.bootstrap).2 = [] := by
      simp [bootstrapReceive, hdisabled]
    unfold revanaTraceFourByteSocketReceive
    split
    · rfl
    dsimp only
    split
    · split
      · exact hsilent _ _
      · split <;> exact hsilent _ _
    · exact hsilent _ _
  send := by
    intro translateVirtual flags md5 guest hdisjoint index hindex target
    by_cases hvalid : WorldSendArguments guest.registers
    · rw [sentMemory_of_arguments translateVirtual flags md5 guest globals
        hvalid, withEndpoint_of_not]
      · exact withRestoredId_target hdisjoint hindex
      · rintro ⟨-, henabled⟩
        have hdisabled : globals.endpoint.enabled = false := hendpoint
        rw [hdisabled] at henabled
        cases henabled
    · rw [sentMemory_of_not_arguments translateVirtual flags md5 guest globals
        hvalid]

theorem settings_setGuestTraceHooksEnabled
    (enabled : Bool) (globals : Globals) :
    (revanaSetGuestTraceHooksEnabled enabled globals).settings =
      globals.settings := by
  cases enabled <;> rfl

theorem mapSessionKey_resolver
    (md5 : Md5) (key : Option (List UInt8)) (globals : Globals) :
    (revanaConfigureDirectMapSessionKey md5 key globals).2.resolver =
      globals.resolver := by
  unfold revanaConfigureDirectMapSessionKey
  split
  · rfl
  · split
    · dsimp only
      split <;> rfl
    · rfl

theorem mapEndpoint_resolver
    (ipv4Address : UInt32) (port : UInt16) (globals : Globals) :
    (revanaConfigureDirectMapEndpoint ipv4Address port globals).2.resolver =
      globals.resolver := by
  unfold revanaConfigureDirectMapEndpoint
  split <;> rfl

theorem viewBootstrap_resolver
    (viewPort : UInt16) (bytes : Option (List UInt8)) (globals : Globals) :
    (revanaConfigureDirectLobbyViewBootstrap viewPort bytes
      globals).2.resolver = globals.resolver := by
  unfold revanaConfigureDirectLobbyViewBootstrap
  split
  · rfl
  · split <;> rfl

/-- `Configure` leaves the resolver to its caller. -/
theorem configure_resolver
    (env : BridgeEnvironment) (hooks : NetworkHooks) (globals : Globals) :
    (configure env hooks globals).globals.resolver = globals.resolver := by
  have htrace (enabled : Bool) (start : Globals) :
      (revanaSetGuestTraceHooksEnabled enabled start).resolver =
        start.resolver := rfl
  have hdestroy (start : Globals) :
      (destroyState start).resolver = start.resolver := rfl
  have hsession (parameters : BridgeParameters) (session : AuthSession)
      (bridge : LobbyBridge) :
      (configureSession env parameters session bridge hooks
        globals).globals.resolver = globals.resolver := by
    unfold configureSession
    dsimp only
    split
    · exact hdestroy _
    split
    · exact (hdestroy _).trans (mapSessionKey_resolver _ _ _)
    split
    · rw [hdestroy, mapEndpoint_resolver, mapSessionKey_resolver]
    split
    · rw [viewBootstrap_resolver, mapEndpoint_resolver,
        mapSessionKey_resolver]
    · rw [htrace, viewBootstrap_resolver, mapEndpoint_resolver,
        mapSessionKey_resolver]
  unfold configure
  dsimp only
  split
  · rfl
  split
  · split
    · rfl
    split
    · rfl
    · exact hsession _ _ _
  · rfl

/-- The ports and the login of the bridge are those that were configured. -/
structure BridgeState.LedBy (state : BridgeState)
    (parameters : BridgeParameters) (session : AuthSession) : Prop where
  viewPort : state.viewPort = parameters.viewPort
  dataPort : state.dataPort = parameters.dataPort
  viewLogin : state.viewLogin =
    makeViewLogin session.sessionHash parameters.clientVersion

/-- The startup has the settings of a configured bridge with its resolver, or
none at all. -/
theorem onPreSetup_cases (env : BridgeEnvironment) :
    let app := onPreSetup env {}
    (app.guestNetworkEnabled = true ∧ app.hooks = ⟨true, true, true, true⟩ ∧
      ∃ parameters session state, ReadFrom env parameters session ∧
        env.inetPton parameters.host = some parameters.address ∧
        app.lobbyBridge.state = some state ∧
        state.LedBy parameters session ∧
        state.ipv4 = networkToHost parameters.address ∧
        app.globals.settings.endpoint =
          ⟨true, networkToHost parameters.address, parameters.dataPort⟩ ∧
        app.globals.settings.resolverEnabled = true ∧
        app.globals.settings.resolverIpv4 =
          networkToHost parameters.address ∧
        app.globals.bootstrap = armedBootstrap state.viewPort
          ⟨state.viewLogin, makeViewLogin_length _ _⟩) ∨
      (app.guestNetworkEnabled = false ∧ app.hooks = {} ∧
        app.globals.settings.resolverEnabled = false ∧
        app.globals.settings.endpoint.enabled = false ∧
        app.globals.settings.mapKeyEnabled = false ∧
        app.globals.settings.bootstrapEnabled = false) := by
  intro app
  have hresolver := configure_resolver env {}
    (revanaConfigureDirectPolUiRegistrationStub {})
  have happ : app = onPreSetup env {} := rfl
  unfold onPreSetup at happ
  rcases configure_cases env (revanaConfigureDirectPolUiRegistrationStub {})
    with ⟨htrue, parameters, session, state, hread, hconfigured⟩ |
      ⟨hfalse, hunconfigured⟩
  · have htrue' : (configure env {}
        (revanaConfigureDirectPolUiRegistrationStub {})).succeeded = true :=
      htrue
    have hipv4 : configuredIpv4 (configure env {}
        (revanaConfigureDirectPolUiRegistrationStub {})).bridge =
          some (networkToHost parameters.address) := hconfigured.ipv4
    have hlogin : state.viewLogin = makeViewLogin session.sessionHash
        parameters.clientVersion := by
      unfold BridgeState.viewLogin
      rw [hconfigured.session, hconfigured.clientVersion]
    simp only [htrue', hipv4] at happ
    refine .inl ⟨by rw [happ], by rw [happ]; exact hconfigured.hooks,
      parameters, session, state, hread, hconfigured.address,
      by rw [happ]; exact hconfigured.state,
      ⟨hconfigured.viewPort, hconfigured.dataPort, hlogin⟩, ?_, ?_, ?_, ?_, ?_⟩
    · have hstate := hconfigured.ipv4
      rw [configuredIpv4, hconfigured.state] at hstate
      exact Option.some.inj hstate
    · rw [happ, settings_setGuestTraceHooksEnabled]
      exact hconfigured.endpoint
    · rw [happ, settings_setGuestTraceHooksEnabled]
      rfl
    · rw [happ, settings_setGuestTraceHooksEnabled]
      rfl
    · have hkept (enabled : Bool) (globals : Globals) :
          (revanaSetGuestTraceHooksEnabled enabled
            (revanaConfigureDirectPolResolver
              (networkToHost parameters.address) globals)).bootstrap =
                globals.bootstrap := by
        cases enabled <;> rfl
      rw [happ, hkept]
      refine hconfigured.bootstrap.trans ?_
      rw [hconfigured.viewPort]
      simp only [hlogin, armedBootstrap]
  · have hfalse' : (configure env {}
        (revanaConfigureDirectPolUiRegistrationStub {})).succeeded = false :=
      hfalse
    simp only [hfalse'] at happ
    refine .inr ⟨by rw [happ], by rw [happ]; exact hunconfigured.hooks, ?_, ?_,
      ?_, ?_⟩ <;> rw [happ, settings_setGuestTraceHooksEnabled]
    · show (configure env {} _).globals.resolver.enabled = false
      rw [hresolver]
      rfl
    · exact hunconfigured.endpoint
    · exact hunconfigured.mapKeyEnabled
    · exact hunconfigured.bootstrap

/-- Once the network is enabled, every way of the guest to the lobby or to the
map server leads to the address that the platform parsed from the configured
host, in every state that any run of the guest and the hooks reaches; without
it no such run makes the hooks install a resolver, hand out a key, send a login
or fill in an endpoint. -/
theorem startup_routes
    (env : BridgeEnvironment) (translateVirtual : UInt32 → ℕ)
    (handleBase : UInt32) (guest : Guest) (events : List HookEvent) :
    let app := onPreSetup env {}
    let hooks := hookMachine (hookEnvironment env translateVirtual handleBase)
    let reached := (hooks.run ⟨guest, app.globals⟩ events).1.globals
    (app.guestNetworkEnabled = true →
      ∃ parameters session state, ReadFrom env parameters session ∧
        env.inetPton parameters.host = some parameters.address ∧
        app.lobbyBridge.state = some state ∧
        state.LedBy parameters session ∧
        RoutesTo parameters.address parameters.dataPort state app.hooks
          reached) ∧
    (app.guestNetworkEnabled = false →
      app.hooks = {} ∧ Unrouted reached) := by
  intro app hooks reached
  have hsettings : reached.settings = app.globals.settings :=
    hookMachine_settings _ ⟨guest, app.globals⟩ events
  have hkept : reached.bootstrap = app.globals.bootstrap ∨
      reached.bootstrap.Decided :=
    hookMachine_bootstrap _ ⟨guest, app.globals⟩ events
  rcases onPreSetup_cases env with
    ⟨henabled, hhooks, parameters, session, state, hread, haddress, hstate,
      hled, hipv4, hendpoint, hresolver, hresolverIpv4, hbootstrap⟩ |
    ⟨hdisabled, hhooks, hresolver, hendpoint, hkey, hbootstrap⟩
  · refine ⟨fun _ => ?_, fun hdisabled => ?_⟩
    · refine ⟨parameters, session, state, hread, haddress, hstate, hled, ?_⟩
      have hport : app.globals.settings.bootstrapPort = state.viewPort :=
        congrArg DirectViewBootstrap.port hbootstrap
      rw [hbootstrap] at hkept
      rw [← hsettings] at hendpoint hresolver hresolverIpv4 hport
      exact routesTo_of_settings hhooks hipv4 hendpoint hresolver
        hresolverIpv4 hport hkept
    · rw [henabled] at hdisabled
      cases hdisabled
  · refine ⟨fun henabled => ?_, fun _ => ⟨hhooks, ?_⟩⟩
    · rw [hdisabled] at henabled
      cases henabled
    · refine unrouted_of_settings ?_ ?_ ?_ ?_ <;> rw [hsettings] <;> assumption

end Revana.Runtime
