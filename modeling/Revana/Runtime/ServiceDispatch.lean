import Revana.Runtime.PolResolver

/-!
# The service dispatch hook

`RevanaTraceServiceDispatchSlot1852` installs the direct resolver and the
registration stub when the guest constructs a service table.
-/

namespace Revana.Runtime

open Foundation

def registrationSlotOffset : UInt32 := 1852

/-- The kernel as one call of the hook finds it, with the answers of
`AllocateThunk` in the order in which they are asked for. -/
structure ServiceDispatchCall where
  kernelAvailable : Bool
  beginThunk : UInt32
  pollThunk : UInt32
  cancelThunk : UInt32
  registrationThunk : UInt32
  deriving DecidableEq, Repr

def ServiceDispatchCall.install (call : ServiceDispatchCall)
    (table : UInt32) : InstallCall where
  table := table
  kernelAvailable := call.kernelAvailable
  beginThunk := call.beginThunk
  pollThunk := call.pollThunk
  cancelThunk := call.cancelThunk

structure StubResult where
  thunk : UInt32
  writes : List MemoryWrite
  stub : RegistrationStub

def installDirectPolUiRegistrationStub (translateVirtual : UInt32 → ℕ)
    (call : ServiceDispatchCall) (table : UInt32) (stub : RegistrationStub) :
    StubResult :=
  let write := fun thunk =>
    MemoryWrite.word (translateVirtual (table + registrationSlotOffset)) thunk
  if stub.enabled = false then ⟨0, [], stub⟩
  else if stub.thunk ≠ 0 then ⟨stub.thunk, [write stub.thunk], stub⟩
  else if call.kernelAvailable = false then ⟨0, [], stub⟩
  else if call.registrationThunk = 0 then ⟨0, [], stub⟩
  else
    ⟨call.registrationThunk, [write call.registrationThunk],
      { stub with thunk := call.registrationThunk }⟩

/-- Tracing reads the table and writes it to the log, nothing else. -/
def revanaTraceServiceDispatchSlot1852 (translateVirtual : UInt32 → ℕ)
    (call : ServiceDispatchCall) (guest : Guest) (globals : Globals) :
    Globals × List GuestWrite :=
  let stubEnabled := globals.registrationStub.enabled
  let resolverEnabled := globals.resolver.enabled
  let table := u32 guest.registers.r11
  let resolved : Globals × List MemoryWrite :=
    if resolverEnabled then
      let result := installDirectPolResolver translateVirtual
        (call.install table) guest.memory globals.resolver
      ({ globals with resolver := result.resolver }, result.writes)
    else (globals, [])
  let resolverWrites := resolved.2.map GuestWrite.memory
  if u32 guest.registers.r10 = 0 ∧ stubEnabled = true then
    let result := installDirectPolUiRegistrationStub translateVirtual call
      table resolved.1.registrationStub
    let target :=
      if result.thunk ≠ 0 then [GuestWrite.r10 result.thunk.toUInt64] else []
    ({ resolved.1 with registrationStub := result.stub },
      resolverWrites ++ result.writes.map GuestWrite.memory ++ target)
  else (resolved.1, resolverWrites)

end Revana.Runtime
