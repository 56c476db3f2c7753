import Revana.Runtime.Guest
import Revana.Runtime.Globals

/-!
# The post-selection hooks

`RevanaTraceZoneDescriptorLookup` may synthesize the connection descriptors a
failed lookup leaves out, and `RevanaTracePostSelectionServicePoll` may turn
a service failure into completion.  Guest addresses wrap at 32 bits.
-/

namespace Revana.Runtime

open Foundation

/-! ## The zone descriptor lookup -/

def ffxiStatePointer : UInt32 := 0x847A12F8
def polConnectionTable : UInt32 := 0x824DFAF0
def polConnectionSize : UInt32 := 104
def polConnectionCount : ℕ := 64
def polLocalEndpointTable : UInt32 := 0x824DD650
def descriptorIdentifierOffset : UInt32 := 65536 + 11988
def descriptorEndpointHighOffset : UInt32 := 65536 + 11992
def descriptorEndpointLowOffset : UInt32 := 65536 + 11994
def descriptorEndpointByteOffset : UInt32 := 65536 + 11999

def rotateLeft (value count : UInt32) : UInt32 :=
  (value <<< count) ||| (value >>> (32 - count))

def descriptorEndpoint (endpointHigh endpointLow : UInt16)
    (endpointByte : UInt8) : UInt32 :=
  let combined := (endpointByte.toUInt32 <<< 16) + endpointHigh.toUInt32
  let intermediate :=
    (rotateLeft endpointLow.toUInt32 8 &&& 0x00FFFF00) |||
      (combined &&& 0xFFFF0000)
  (rotateLeft intermediate 8 &&& 0xFFFFFF00) ||| (combined &&& 0xFFFF)

section Hooks

variable (translateVirtual : UInt32 → ℕ)

def activeConnections (memory : Memory) : ℕ :=
  (List.range polConnectionCount).countP fun index =>
    let connection := polConnectionTable + index.toUInt32 * polConnectionSize
    memory.loadHalf (translateVirtual connection) &&& 1 ≠ 0

def synthesizeDescriptors (memory : Memory) (record : UInt32) :
    List GuestWrite :=
  let identifier := memory.loadWord
    (translateVirtual (record + descriptorIdentifierOffset))
  let endpoint := descriptorEndpoint
    (memory.loadHalf
      (translateVirtual (record + descriptorEndpointHighOffset)))
    (memory.loadHalf
      (translateVirtual (record + descriptorEndpointLowOffset)))
    (memory (translateVirtual (record + descriptorEndpointByteOffset)))
  [.memory (.half (translateVirtual polConnectionTable) 1),
    .memory (.half (translateVirtual (polConnectionTable + 2)) 1),
    .memory (.word (translateVirtual (polConnectionTable + 4)) endpoint),
    .memory (.double (translateVirtual (polConnectionTable + 8))
      identifier.toUInt64),
    .memory (.double (translateVirtual (polConnectionTable + 16)) 0),
    .memory (.double (translateVirtual polLocalEndpointTable) 1),
    .r3 0]

def revanaTraceZoneDescriptorLookup (flags : ExperimentalFlags)
    (guest : Guest) (globals : Globals) : Globals × List GuestWrite :=
  let trace := guestTraceHooksEnabled globals.trace
  let globals := { globals with trace := trace.2 }
  if trace.1 = false ∧ flags.synthesizePostSelectionDescriptors = false then
    (globals, [])
  else
    let state := guest.memory.loadWord (translateVirtual ffxiStatePointer)
    let selected := u32 guest.registers.r29
    if state = 0 ∨ 16 ≤ selected then (globals, [])
    else if s32 guest.registers.r3 < 0 ∧
        activeConnections translateVirtual guest.memory = 0 ∧
        flags.synthesizePostSelectionDescriptors = true then
      (globals, synthesizeDescriptors translateVirtual guest.memory
        (state + selected * 140))
    else (globals, [])

/-! ## The service poll -/

/-- `TracePostSelectionServiceReturn`, for the poll's result. -/
def tracePostSelectionServiceReturn (guest : Guest) (trace : TraceGlobals) :
    TraceGlobals :=
  if trace.guestTraceHooksEnabled then
    let flow := u32 guest.registers.r27
    let state :=
      if flow ≠ 0 then guest.memory.loadWord (translateVirtual flow)
      else 0xFFFFFFFF
    { trace with postSelectionServicePollResult :=
        (state.toUInt64 <<< 32) ||| (u32 guest.registers.r3).toUInt64 }
  else trace

def revanaTracePostSelectionServicePoll (flags : ExperimentalFlags)
    (guest : Guest) (globals : Globals) : Globals × List GuestWrite :=
  let globals := { globals with
    trace := tracePostSelectionServiceReturn translateVirtual guest
      globals.trace }
  if s32 guest.registers.r3 < 0 ∧
      flags.skipPostSelectionServiceFailure = true then
    (globals, [.r3 1])
  else (globals, [])

end Hooks

end Revana.Runtime
