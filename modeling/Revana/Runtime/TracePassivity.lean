import Revana.Foundation.Machine
import Revana.Runtime.WorldReceive
import Revana.Runtime.ReceiveGate
import Revana.Runtime.WorldSend
import Revana.Runtime.PostSelection
import Revana.Runtime.ServiceDispatch

/-!
# Tracing is passive

The hooks run over one guest whose own code runs between them.  `traceless`
forgets what tracing may change: its switch, its counters and caches, and the
lobby and rollover values that no reader can see.  Every hook is shown to
depend on the rest only, so two runs that trace at different times cannot be
told apart by the guest or by its peers.
-/

namespace Revana.Runtime

open Foundation
open Login

/-! ## The hooks as one machine -/

structure HookEnvironment where
  translateVirtual : UInt32 → ℕ
  handleBase : UInt32
  flags : ExperimentalFlags

inductive HookCall where
  | worldReceiveDecodeResult (md5 : ℕ → Md5)
  | applyDirectMapCipherKey
  | worldSendTarget (md5 : Md5)
  | fourByteSocketReceive (lookupSocket : UInt32 → Option GuestSocket)
      (keyResponseMd5 characterListMd5 : ℕ → Md5)
  | zoneDescriptorLookup
  | postSelectionServicePoll
  | serviceDispatchSlot1852 (call : ServiceDispatchCall)

inductive HookOutput where
  | write (stored : GuestWrite)
  | send (send : SocketSend)
  deriving DecidableEq, Repr

def HookOutput.guestWrite? : HookOutput → Option GuestWrite
  | .write stored => some stored
  | .send _ => none

structure HookState where
  guest : Guest
  globals : Globals

inductive HookEvent where
  | guestRuns (act : Guest → Guest)
  | setTracing (enabled : Bool)
  | hook (call : HookCall)

def HookEvent.isSwitch : HookEvent → Bool
  | .setTracing _ => true
  | .guestRuns _ => false
  | .hook _ => false

section Machine

variable (environment : HookEnvironment)

/-- One hook call: the globals it leaves and what it makes visible. -/
def callHook (guest : Guest) (globals : Globals) :
    HookCall → Globals × List HookOutput
  | .worldReceiveDecodeResult md5 =>
      ((revanaTraceWorldReceiveDecodeResult environment.translateVirtual md5
        guest globals).1, [])
  | .applyDirectMapCipherKey =>
      let applied := revanaApplyDirectMapCipherKey
        environment.translateVirtual guest globals
      let destination :=
        environment.translateVirtual (u32 guest.registers.r7)
      (applied.2.2, applied.1.toList.map fun key =>
        .write (.memory ⟨destination, key.val⟩))
  | .worldSendTarget md5 =>
      let sent := revanaTraceWorldSendTarget environment.translateVirtual
        environment.flags md5 guest globals
      (sent.1, sent.2.map fun write => .write (.memory write))
  | .fourByteSocketReceive lookupSocket keyResponseMd5 characterListMd5 =>
      let received := revanaTraceFourByteSocketReceive environment.flags
        environment.handleBase
        ⟨guest, lookupSocket, keyResponseMd5, characterListMd5⟩ globals
      (received.1, received.2.map .send)
  | .zoneDescriptorLookup =>
      let looked := revanaTraceZoneDescriptorLookup
        environment.translateVirtual environment.flags guest globals
      (looked.1, looked.2.map .write)
  | .postSelectionServicePoll =>
      let polled := revanaTracePostSelectionServicePoll
        environment.translateVirtual environment.flags guest globals
      (polled.1, polled.2.map .write)
  | .serviceDispatchSlot1852 call =>
      let dispatched := revanaTraceServiceDispatchSlot1852
        environment.translateVirtual call guest globals
      (dispatched.1, dispatched.2.map .write)

def hookStep (state : HookState) : HookEvent → HookState × List HookOutput
  | .guestRuns act => ({ state with guest := act state.guest }, [])
  | .setTracing enabled =>
      ({ state with
        globals := revanaSetGuestTraceHooksEnabled enabled state.globals }, [])
  | .hook call =>
      let called := callHook environment state.guest state.globals call
      let writes := called.2.filterMap HookOutput.guestWrite?
      (⟨state.guest.apply writes, called.1⟩, called.2)

def hookMachine : Machine HookState HookEvent HookOutput where
  step := hookStep environment

end Machine

/-- The memory `RevanaApplyDirectMapCipherKey` leaves is the guest's after the
write reported for it. -/
theorem applyDirectMapCipherKey_memory
    (environment : HookEnvironment) (guest : Guest) (globals : Globals) :
    (guest.apply ((callHook environment guest globals
        .applyDirectMapCipherKey).2.filterMap HookOutput.guestWrite?)).memory =
      (revanaApplyDirectMapCipherKey environment.translateVirtual guest
        globals).2.1 := by
  simp only [callHook, revanaApplyDirectMapCipherKey]
  split
  · rfl
  · split <;> rfl

/-! ## What is left without tracing -/

/-- The globals without what tracing may change.  The next-login id is read
under its experimental flag only, and the pending mark while a key is
enabled. -/
def traceless (flags : ExperimentalFlags) (globals : Globals) : Globals :=
  { globals with
    trace := {}
    mapKey := { globals.mapKey with
      rolloverPending :=
        globals.mapKey.enabled && globals.mapKey.rolloverPending }
    lobbyCharacterListReady := false
    lobbyNextLoginCharacterId :=
      if flags.restoreWorldLoginCharacterId then
        globals.lobbyNextLoginCharacterId
      else 0 }

theorem traceless_idem (flags : ExperimentalFlags) (globals : Globals) :
    traceless flags (traceless flags globals) = traceless flags globals := by
  cases hflag : flags.restoreWorldLoginCharacterId <;>
    simp [traceless, hflag]

/-- Neither the keys nor the bootstrap are forgotten. -/
theorem kept_of_traceless
    {flags : ExperimentalFlags} {left right : Globals}
    (htraceless : traceless flags left = traceless flags right) :
    left.mapKey.sessionKey = right.mapKey.sessionKey ∧
      left.mapKey.cipherKey = right.mapKey.cipherKey ∧
      left.bootstrap = right.bootstrap := by
  simp only [traceless, Globals.mk.injEq, DirectMapKey.mk.injEq] at htraceless
  obtain ⟨-, hmapKey, -, hbootstrap, -⟩ := htraceless
  exact ⟨hmapKey.2.2.2.1, hmapKey.2.2.2.2, hbootstrap⟩

variable (environment : HookEnvironment) (guest : Guest) (globals : Globals)

/-! ## Hooks that write to the guest -/

theorem applyDirectMapCipherKey_traceless
    (translateVirtual : UInt32 → ℕ) (flags : ExperimentalFlags) :
    let traced := revanaApplyDirectMapCipherKey translateVirtual guest globals
    let untraced := revanaApplyDirectMapCipherKey translateVirtual guest
      (traceless flags globals)
    traceless flags traced.2.2 = traceless flags untraced.2.2 ∧
      traced.1 = untraced.1 := by
  have henabled : (traceless flags globals).mapKey.enabled =
      globals.mapKey.enabled := rfl
  simp only [revanaApplyDirectMapCipherKey, henabled]
  split
  · exact ⟨(traceless_idem flags globals).symm, rfl⟩
  split
  · exact ⟨(traceless_idem flags globals).symm, rfl⟩
  · refine ⟨?_, rfl⟩
    cases hflag : flags.restoreWorldLoginCharacterId <;>
      simp [traceless, hflag]

/-- Only the stored id is read, so the rest of the globals may differ. -/
theorem restoreWorldLoginCharacterId_traceless
    {flags : ExperimentalFlags}
    (hflag : flags.restoreWorldLoginCharacterId = true) (md5 : Md5)
    (memory : Memory) (packet packetSize : ℕ) :
    let traced := restoreWorldLoginCharacterId md5 memory packet packetSize
      globals
    let untraced := restoreWorldLoginCharacterId md5 memory packet packetSize
      (traceless flags globals)
    traceless flags traced.globals = traceless flags untraced.globals ∧
      traced.globals.endpoint = globals.endpoint ∧
      untraced.globals.endpoint = globals.endpoint ∧
      traced.writes = untraced.writes := by
  have hid : (traceless flags globals).lobbyNextLoginCharacterId =
      globals.lobbyNextLoginCharacterId := by
    simp [traceless, hflag]
  have hidem := (traceless_idem flags globals).symm
  simp only [restoreWorldLoginCharacterId, hid]
  split
  · exact ⟨hidem, rfl, rfl, rfl⟩
  split
  · exact ⟨hidem, rfl, rfl, rfl⟩
  split
  · exact ⟨hidem, rfl, rfl, rfl⟩
  · refine ⟨?_, rfl, rfl, rfl⟩
    simp [traceless, hflag]

theorem worldSendTarget_traceless
    (translateVirtual : UInt32 → ℕ) (flags : ExperimentalFlags) (md5 : Md5) :
    let traced := revanaTraceWorldSendTarget translateVirtual flags md5 guest
      globals
    let untraced := revanaTraceWorldSendTarget translateVirtual flags md5
      guest (traceless flags globals)
    traceless flags traced.1 = traceless flags untraced.1 ∧
      traced.2 = untraced.2 := by
  have hidem := (traceless_idem flags globals).symm
  simp only [revanaTraceWorldSendTarget]
  split
  · exact ⟨hidem, rfl⟩
  cases hflag : flags.restoreWorldLoginCharacterId with
  | false => exact ⟨hidem, rfl⟩
  | true =>
      obtain ⟨hglobals, htraced, huntraced, hwrites⟩ :=
        restoreWorldLoginCharacterId_traceless globals hflag md5 guest.memory
          (translateVirtual (u32 guest.registers.r4))
          (u32 guest.registers.r5).toNat
      refine ⟨hglobals, ?_⟩
      simp only [if_true, htraced, huntraced, hwrites]

theorem zoneDescriptorLookup_traceless
    (translateVirtual : UInt32 → ℕ) (flags : ExperimentalFlags) :
    let traced := revanaTraceZoneDescriptorLookup translateVirtual flags guest
      globals
    let untraced := revanaTraceZoneDescriptorLookup translateVirtual flags
      guest (traceless flags globals)
    traceless flags traced.1 = traceless flags untraced.1 ∧
      traced.2 = untraced.2 := by
  have hkept : ∀ globals, traceless flags (revanaTraceZoneDescriptorLookup
      translateVirtual flags guest globals).1 = traceless flags globals := by
    intro globals
    simp only [revanaTraceZoneDescriptorLookup]
    split_ifs <;> rfl
  refine ⟨(hkept globals).trans ?_, ?_⟩
  · rw [hkept, traceless_idem]
  · simp only [revanaTraceZoneDescriptorLookup]
    cases flags.synthesizePostSelectionDescriptors with
    | false => simp
    | true =>
        simp only [Bool.true_eq_false, and_false, if_false]
        split_ifs <;> rfl

theorem postSelectionServicePoll_traceless
    (translateVirtual : UInt32 → ℕ) (flags : ExperimentalFlags) :
    let traced := revanaTracePostSelectionServicePoll translateVirtual flags
      guest globals
    let untraced := revanaTracePostSelectionServicePoll translateVirtual flags
      guest (traceless flags globals)
    traceless flags traced.1 = traceless flags untraced.1 ∧
      traced.2 = untraced.2 := by
  have hidem := (traceless_idem flags globals).symm
  simp only [revanaTracePostSelectionServicePoll]
  split
  · exact ⟨hidem, rfl⟩
  · exact ⟨hidem, rfl⟩

theorem serviceDispatchSlot1852_traceless
    (translateVirtual : UInt32 → ℕ) (flags : ExperimentalFlags)
    (call : ServiceDispatchCall) :
    let traced := revanaTraceServiceDispatchSlot1852 translateVirtual call
      guest globals
    let untraced := revanaTraceServiceDispatchSlot1852 translateVirtual call
      guest (traceless flags globals)
    traceless flags traced.1 = traceless flags untraced.1 ∧
      traced.2 = untraced.2 := by
  have hresolver : (traceless flags globals).resolver = globals.resolver := rfl
  have hstub : (traceless flags globals).registrationStub =
      globals.registrationStub := rfl
  simp only [revanaTraceServiceDispatchSlot1852, hresolver, hstub]
  cases hflag : flags.restoreWorldLoginCharacterId <;>
    cases globals.resolver.enabled <;> split <;> simp [traceless, hflag]

/-! ## Hooks that write nothing to the guest -/

/-- A walk without the direct key changes at most the pending mark. -/
theorem walkSubPackets_keyDisabled
    (md5 : ℕ → Md5) (traceEnabled : Bool) (total : ℕ) (plaintext : ℕ → UInt8)
    (remaining offset : ℕ) (state : WalkState) :
    ∃ pending, (walkSubPackets md5 traceEnabled false total plaintext
      remaining offset state).1.mapKey =
        { state.mapKey with rolloverPending := pending } := by
  induction remaining generalizing offset state with
  | zero => exact ⟨state.mapKey.rolloverPending, rfl⟩
  | succ remaining ih =>
      simp only [walkSubPackets]
      split
      · split
        · exact ⟨state.mapKey.rolloverPending, rfl⟩
        · obtain ⟨pending, hrest⟩ := ih
            (offset + subPacketSize plaintext offset)
            ⟨visitMapKey (md5 offset) false (subPacketId plaintext offset)
              (subPacketSize plaintext offset) state.mapKey,
              visitTraceCount traceEnabled (subPacketId plaintext offset)
                (subPacketSize plaintext offset)
                state.worldEntityUpdateTraceCount⟩
          refine ⟨pending, hrest.trans ?_⟩
          simp only [visitMapKey, Bool.false_eq_true, and_false, if_false]
          split <;> rfl
      · exact ⟨state.mapKey.rolloverPending, rfl⟩

/-- With the direct key the walk's key state is a function of the key state it
starts from. -/
theorem walkSubPackets_mapKey_congr
    (md5 : ℕ → Md5) (leftTrace rightTrace directKeyEnabled : Bool)
    (total : ℕ) (plaintext : ℕ → UInt8) (remaining offset : ℕ)
    (left right : WalkState) (hmapKey : left.mapKey = right.mapKey) :
    (walkSubPackets md5 leftTrace directKeyEnabled total plaintext remaining
        offset left).1.mapKey =
      (walkSubPackets md5 rightTrace directKeyEnabled total plaintext
        remaining offset right).1.mapKey := by
  induction remaining generalizing offset left right with
  | zero => exact hmapKey
  | succ remaining ih =>
      simp only [walkSubPackets]
      split
      · split
        · exact hmapKey
        · exact ih _ _ _ (by simp only [hmapKey])
      · exact hmapKey

theorem traceless_walked
    (flags : ExperimentalFlags) {globals : Globals} {mapKey : DirectMapKey}
    {pending : Bool} (henabled : globals.mapKey.enabled = false)
    (hmapKey : mapKey = { globals.mapKey with rolloverPending := pending })
    (trace : TraceGlobals) :
    traceless flags { globals with mapKey := mapKey, trace := trace } =
      traceless flags globals := by
  simp [traceless, hmapKey, henabled]

theorem traceless_written
    (flags : ExperimentalFlags) (globals : Globals) (mapKey : DirectMapKey)
    (leftTrace rightTrace : TraceGlobals) :
    traceless flags { globals with mapKey := mapKey, trace := leftTrace } =
      traceless flags { traceless flags globals with
        mapKey := mapKey, trace := rightTrace } := by
  cases hflag : flags.restoreWorldLoginCharacterId <;>
    simp [traceless, hflag]

theorem worldReceiveDecodeResult_traceless
    (translateVirtual : UInt32 → ℕ) (flags : ExperimentalFlags)
    (md5 : ℕ → Md5) :
    traceless flags (revanaTraceWorldReceiveDecodeResult translateVirtual md5
        guest globals).1 =
      traceless flags (revanaTraceWorldReceiveDecodeResult translateVirtual
        md5 guest (traceless flags globals)).1 := by
  cases henabled : globals.mapKey.enabled with
  | false =>
      -- The untraced hook returns at once; the traced one walks.
      have huntraced : (revanaTraceWorldReceiveDecodeResult translateVirtual
          md5 guest (traceless flags globals)).1 = traceless flags globals := by
        simp [revanaTraceWorldReceiveDecodeResult, traceless, henabled]
      rw [huntraced, traceless_idem]
      simp only [revanaTraceWorldReceiveDecodeResult, henabled]
      split
      · rfl
      split
      · rfl
      · obtain ⟨pending, hwalk⟩ := walkSubPackets_keyDisabled md5
          globals.trace.guestTraceHooksEnabled
          (u32 guest.registers.r3).toNat
          (fun index => guest.memory
            (translateVirtual (u32 guest.registers.r1 + 864) + index))
          maximumSubPackets mapTransportHeaderSize
          ⟨globals.mapKey, globals.trace.worldEntityUpdateTraceCount⟩
        exact traceless_walked flags henabled hwalk _
  | true =>
      have hpending : (globals.mapKey.enabled &&
          globals.mapKey.rolloverPending) = globals.mapKey.rolloverPending := by
        rw [henabled, Bool.true_and]
      have hmapKey : (traceless flags globals).mapKey = globals.mapKey := by
        simp only [traceless, hpending]
      simp only [revanaTraceWorldReceiveDecodeResult, hmapKey, henabled,
        Bool.true_eq_false, and_false, if_false]
      split
      · exact traceless_written flags globals globals.mapKey _ _
      · have hwalk := walkSubPackets_mapKey_congr md5
          globals.trace.guestTraceHooksEnabled
          (traceless flags globals).trace.guestTraceHooksEnabled true
          (u32 guest.registers.r3).toNat
          (fun index => guest.memory
            (translateVirtual (u32 guest.registers.r1 + 864) + index))
          maximumSubPackets mapTransportHeaderSize
          ⟨globals.mapKey, globals.trace.worldEntityUpdateTraceCount⟩
          ⟨globals.mapKey,
            (traceless flags globals).trace.worldEntityUpdateTraceCount⟩ rfl
        rw [hwalk]
        exact traceless_written flags globals _ _ _

/-- Observing a lobby receive changes the next-login id and the list mark, in
a way that depends on the socket only. -/
theorem observeLobbyReceive_eq
    (characterListMd5 : ℕ → Md5) (socket : GuestSocket) :
    ∃ nextLogin : UInt32 → UInt32, ∃ listReady : Bool → Bool, ∀ globals,
      observeLobbyReceive characterListMd5 socket globals =
        { globals with
          lobbyNextLoginCharacterId :=
            nextLogin globals.lobbyNextLoginCharacterId
          lobbyCharacterListReady :=
            listReady globals.lobbyCharacterListReady } := by
  have hnext : ∃ nextLogin : UInt32 → UInt32, ∀ globals,
      observeNextLogin socket globals = { globals with
        lobbyNextLoginCharacterId :=
          nextLogin globals.lobbyNextLoginCharacterId } := by
    unfold observeNextLogin
    split
    · exact ⟨id, fun globals => rfl⟩
    · rename_i response _
      by_cases hlength : response.length = nextLoginPacketSize
      · exact ⟨fun _ => readLe32 (byteAt response) 28,
          fun globals => if_pos hlength⟩
      · exact ⟨id, fun globals => if_neg hlength⟩
  have hlist : ∀ packetSize, ∃ listReady : Bool → Bool, ∀ globals,
      observeCharacterList characterListMd5 socket packetSize globals =
        { globals with
          lobbyCharacterListReady :=
            listReady globals.lobbyCharacterListReady } := by
    intro packetSize
    unfold observeCharacterList
    split
    · exact ⟨fun _ => true, fun globals => rfl⟩
    · exact ⟨id, fun globals => rfl⟩
  obtain ⟨nextLogin, hnext⟩ := hnext
  unfold observeLobbyReceive
  split
  · exact ⟨id, id, fun globals => rfl⟩
  · rename_i header _
    obtain ⟨listReady, hlist⟩ := hlist (readLe32 (byteAt header) 0).toNat
    simp only [hnext, hlist]
    split_ifs
    · exact ⟨nextLogin, listReady, fun globals => rfl⟩
    · exact ⟨id, listReady, fun globals => rfl⟩
    · exact ⟨nextLogin, id, fun globals => rfl⟩
    · exact ⟨id, id, fun globals => rfl⟩
    · exact ⟨id, id, fun globals => rfl⟩

theorem fourByteSocketReceive_traceless
    (flags : ExperimentalFlags) (handleBase : UInt32)
    (call : SocketReceiveCall) :
    let traced := revanaTraceFourByteSocketReceive flags handleBase call
      globals
    let untraced := revanaTraceFourByteSocketReceive flags handleBase call
      (traceless flags globals)
    traceless flags traced.1 = traceless flags untraced.1 ∧
      traced.2 = untraced.2 := by
  have hbootstrap : (traceless flags globals).bootstrap =
      globals.bootstrap := rfl
  have huntraced :
      (guestTraceHooksEnabled (traceless flags globals).trace).1 = false := rfl
  simp only [revanaTraceFourByteSocketReceive, hbootstrap, huntraced,
    Bool.false_eq_true, false_or]
  split
  · exact ⟨(traceless_idem flags globals).symm, rfl⟩
  cases hflag : flags.restoreWorldLoginCharacterId with
  | false =>
      -- Only the traced run may look at the lobby's packets.
      simp only [Bool.false_eq_true, or_false, if_false]
      split
      · split
        · exact ⟨by simp [traceless, hflag], rfl⟩
        · rename_i socket hsocket
          obtain ⟨nextLogin, listReady, hobserve⟩ :=
            observeLobbyReceive_eq call.characterListMd5 socket
          simp only [hobserve]
          split
          · exact ⟨by simp [traceless, hflag], rfl⟩
          · exact ⟨by simp [traceless, hflag], rfl⟩
      · exact ⟨by simp [traceless, hflag], rfl⟩
  | true =>
      simp only [or_true, if_true]
      split
      · exact ⟨by simp [traceless, hflag], rfl⟩
      · rename_i socket hsocket
        obtain ⟨nextLogin, listReady, hobserve⟩ :=
          observeLobbyReceive_eq call.characterListMd5 socket
        simp only [hobserve]
        split
        · exact ⟨by simp [traceless, hflag], rfl⟩
        · exact ⟨by simp [traceless, hflag], rfl⟩

/-! ## Every hook -/

theorem callHook_traceless (call : HookCall) :
    traceless environment.flags (callHook environment guest globals call).1 =
        traceless environment.flags (callHook environment guest
          (traceless environment.flags globals) call).1 ∧
      (callHook environment guest globals call).2 =
        (callHook environment guest
          (traceless environment.flags globals) call).2 := by
  cases call with
  | worldReceiveDecodeResult md5 =>
      exact ⟨worldReceiveDecodeResult_traceless guest globals _ _ md5, rfl⟩
  | applyDirectMapCipherKey =>
      obtain ⟨hglobals, hcopied⟩ := applyDirectMapCipherKey_traceless guest
        globals environment.translateVirtual environment.flags
      exact ⟨hglobals, by simp only [callHook, hcopied]⟩
  | worldSendTarget md5 =>
      obtain ⟨hglobals, hwrites⟩ := worldSendTarget_traceless guest globals
        environment.translateVirtual environment.flags md5
      exact ⟨hglobals, by simp only [callHook, hwrites]⟩
  | fourByteSocketReceive lookupSocket keyResponseMd5 characterListMd5 =>
      obtain ⟨hglobals, hsends⟩ := fourByteSocketReceive_traceless globals
        environment.flags environment.handleBase
        ⟨guest, lookupSocket, keyResponseMd5, characterListMd5⟩
      exact ⟨hglobals, by simp only [callHook, hsends]⟩
  | zoneDescriptorLookup =>
      obtain ⟨hglobals, hwrites⟩ := zoneDescriptorLookup_traceless guest
        globals environment.translateVirtual environment.flags
      exact ⟨hglobals, by simp only [callHook, hwrites]⟩
  | postSelectionServicePoll =>
      obtain ⟨hglobals, hwrites⟩ := postSelectionServicePoll_traceless guest
        globals environment.translateVirtual environment.flags
      exact ⟨hglobals, by simp only [callHook, hwrites]⟩
  | serviceDispatchSlot1852 call =>
      obtain ⟨hglobals, hwrites⟩ := serviceDispatchSlot1852_traceless guest
        globals environment.translateVirtual environment.flags call
      exact ⟨hglobals, by simp only [callHook, hwrites]⟩

theorem callHook_congr
    {left right : Globals} (htraceless : traceless environment.flags left =
      traceless environment.flags right) (call : HookCall) :
    traceless environment.flags (callHook environment guest left call).1 =
        traceless environment.flags (callHook environment guest right call).1 ∧
      (callHook environment guest left call).2 =
        (callHook environment guest right call).2 := by
  have hleft := callHook_traceless environment guest left call
  have hright := callHook_traceless environment guest right call
  rw [htraceless] at hleft
  exact ⟨hleft.1.trans hright.1.symm, hleft.2.trans hright.2.symm⟩

/-! ## Runs -/

/-- What is left of a state without tracing. -/
def HookState.traceless (flags : ExperimentalFlags) (state : HookState) :
    Guest × Globals :=
  (state.guest, Runtime.traceless flags state.globals)

theorem hookStep_switch
    (state : HookState) (event : HookEvent) (hswitch : event.isSwitch = true) :
    ((hookMachine environment).step state event).1.traceless
          environment.flags =
        state.traceless environment.flags ∧
      ((hookMachine environment).step state event).2 = [] := by
  cases event with
  | guestRuns act => cases hswitch
  | setTracing enabled => exact ⟨rfl, rfl⟩
  | hook call => cases hswitch

theorem hookStep_congr
    (left right : HookState) (event : HookEvent)
    (htraceless : left.traceless environment.flags =
      right.traceless environment.flags) :
    ((hookMachine environment).step left event).1.traceless
          environment.flags =
        ((hookMachine environment).step right event).1.traceless
          environment.flags ∧
      ((hookMachine environment).step left event).2 =
        ((hookMachine environment).step right event).2 := by
  obtain ⟨hguest, hglobals⟩ := Prod.mk.inj htraceless
  cases event with
  | guestRuns act =>
      refine ⟨Prod.ext ?_ hglobals, rfl⟩
      exact congrArg act hguest
  | setTracing enabled => exact ⟨Prod.ext hguest hglobals, rfl⟩
  | hook call =>
      cases left with
      | mk guest leftGlobals =>
          cases hguest
          obtain ⟨hnext, houtputs⟩ :=
            callHook_congr environment right.guest hglobals call
          refine ⟨Prod.ext ?_ hnext, houtputs⟩
          simp only [hookMachine, hookStep, HookState.traceless, houtputs]

/-- Two runs of the same guest against the same sockets which differ in where
tracing is switched and in the trace counters make the same writes and sends
and end with the same guest, keys and bootstrap. -/
theorem tracing_passive
    (environment : HookEnvironment) (guest : Guest) (globals : Globals)
    (leftTrace rightTrace : TraceGlobals) {left right : List HookEvent}
    (hcalls : left.filter (fun event => !event.isSwitch) =
      right.filter fun event => !event.isSwitch) :
    let leftRun := (hookMachine environment).run
      ⟨guest, { globals with trace := leftTrace }⟩ left
    let rightRun := (hookMachine environment).run
      ⟨guest, { globals with trace := rightTrace }⟩ right
    leftRun.2 = rightRun.2 ∧
      leftRun.1.guest = rightRun.1.guest ∧
      leftRun.1.globals.mapKey.sessionKey =
        rightRun.1.globals.mapKey.sessionKey ∧
      leftRun.1.globals.mapKey.cipherKey =
        rightRun.1.globals.mapKey.cipherKey ∧
      leftRun.1.globals.bootstrap = rightRun.1.globals.bootstrap := by
  have hstart : (HookState.mk guest { globals with
        trace := leftTrace }).traceless environment.flags =
      (HookState.mk guest { globals with
        trace := rightTrace }).traceless environment.flags := rfl
  obtain ⟨hfinal, houtputs⟩ := Machine.run_congr_silent
    (hookStep_switch environment) (hookStep_congr environment) hstart hcalls
  obtain ⟨hguest, hglobals⟩ := Prod.mk.inj hfinal
  exact ⟨houtputs, hguest, kept_of_traceless hglobals⟩

def experimentalEnvironment : HookEnvironment where
  translateVirtual := UInt32.toNat
  handleBase := 0xF8000000
  flags := ⟨true, true, true⟩

/-- A poll that failed with -1. -/
def failedPollGuest : Guest where
  registers := ⟨0, 0xFFFFFFFFFFFFFFFF, 0, 0, 0, 0, 0, 0, 0, 0⟩
  memory := fun _ => 0

/-- The receive that the armed bootstrap answers. -/
def armedReceive : List HookEvent :=
  let call := viewReceive 152 (.peeked keyResponse)
  [.guestRuns fun guest => { guest with registers := call.guest.registers },
    .hook (.fourByteSocketReceive call.lookupSocket call.keyResponseMd5
      call.characterListMd5)]

/-- A failed poll and an answered receive, with tracing switched on before the
one and off before the other. -/
theorem tracing_passive_failedPoll :
    let poll := HookEvent.hook .postSelectionServicePoll
    let untraced := poll :: armedReceive
    let traced :=
      .setTracing true :: poll :: .setTracing false :: armedReceive
    let start : HookState := ⟨failedPollGuest, { viewArmed with trace := {} }⟩
    let untracedRun := (hookMachine experimentalEnvironment).run start untraced
    let tracedRun := (hookMachine experimentalEnvironment).run start traced
    tracedRun.2 = untracedRun.2 ∧
      untracedRun.2 = [.write (.r3 1), .send ⟨viewPacket, 152⟩] ∧
      tracedRun.1.guest = untracedRun.1.guest := by
  intro poll untraced traced start untracedRun tracedRun
  have hcalls : traced.filter (fun event => !event.isSwitch) =
      untraced.filter fun event => !event.isSwitch := rfl
  have hpassive :=
    tracing_passive experimentalEnvironment failedPollGuest viewArmed
      {} {} hcalls
  exact ⟨hpassive.1, by decide +kernel, hpassive.2.1⟩

end Revana.Runtime
