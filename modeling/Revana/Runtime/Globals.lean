import Revana.Login.LobbyPackets

/-!
# Global hook state

The variables at the top of `revana_hooks.cpp` which the modelled hooks use,
grouped by the mechanism they belong to, with their initial values.  Log
calls write nothing that a hook reads back, so only the counters and caches
which limit them are kept.
-/

namespace Revana.Runtime

open Foundation
open Login

structure TraceGlobals where
  guestTraceHooksEnabled : Bool := false
  guestTraceHookCount : UInt32 := 0
  postSelectionServicePollResult : UInt64 := 0xFFFFFFFFFFFFFFFF
  worldReceiveDecodeResult : UInt32 := 0xFFFFFFFF
  worldEntityUpdateTraceCount : UInt32 := 0
  worldSendTarget : UInt64 := 0xFFFFFFFFFFFFFFFF
  deriving DecidableEq, Repr

structure DirectMapKey where
  enabled : Bool := false
  reported : Bool := false
  rolloverPending : Bool := false
  sessionKey : MapSessionKey := Bytes.zero 20
  cipherKey : MapCipherKey := Bytes.zero 16
  deriving DecidableEq

structure DirectMapEndpoint where
  enabled : Bool := false
  ipv4 : UInt32 := 0
  port : UInt16 := 0
  deriving DecidableEq, Repr

structure DirectViewBootstrap where
  enabled : Bool := false
  requestSent : Bool := false
  responseReady : Bool := false
  failed : Bool := false
  port : UInt16 := 0
  packet : Bytes viewLoginSize := Bytes.zero viewLoginSize
  deriving DecidableEq

structure DirectPolResolver where
  enabled : Bool := false
  ipv4 : UInt32 := 0
  beginThunk : UInt32 := 0
  pollThunk : UInt32 := 0
  cancelThunk : UInt32 := 0
  beginOriginal : UInt32 := 0
  pollOriginal : UInt32 := 0
  cancelOriginal : UInt32 := 0
  deriving DecidableEq, Repr

structure RegistrationStub where
  enabled : Bool := false
  thunk : UInt32 := 0
  deriving DecidableEq, Repr

structure Globals where
  trace : TraceGlobals := {}
  mapKey : DirectMapKey := {}
  endpoint : DirectMapEndpoint := {}
  bootstrap : DirectViewBootstrap := {}
  resolver : DirectPolResolver := {}
  registrationStub : RegistrationStub := {}
  lobbyCharacterListReady : Bool := false
  lobbyNextLoginCharacterId : UInt32 := 0
  worldLoginCharacterIdRestored : Bool := false
  deriving DecidableEq

/-- The constants read from `REVANA_EXPERIMENTAL_*` when the program starts. -/
structure ExperimentalFlags where
  synthesizePostSelectionDescriptors : Bool := false
  skipPostSelectionServiceFailure : Bool := false
  restoreWorldLoginCharacterId : Bool := false
  deriving DecidableEq, Repr

def maximumGuestTraceHooks : UInt32 := 256

/-- `GuestTraceHooksEnabled`: the answer and the counted call. -/
def guestTraceHooksEnabled (trace : TraceGlobals) : Bool × TraceGlobals :=
  if trace.guestTraceHooksEnabled then
    let index := trace.guestTraceHookCount
    (index < maximumGuestTraceHooks,
      { trace with guestTraceHookCount := index + 1 })
  else (false, trace)

def revanaSetGuestTraceHooksEnabled (enabled : Bool) (globals : Globals) :
    Globals :=
  let trace :=
    if enabled then
      { globals.trace with
        guestTraceHookCount := 0
        worldEntityUpdateTraceCount := 0
        worldSendTarget := 0xFFFFFFFFFFFFFFFF }
    else globals.trace
  { globals with trace := { trace with guestTraceHooksEnabled := enabled } }

end Revana.Runtime
