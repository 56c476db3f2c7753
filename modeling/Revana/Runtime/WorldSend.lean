import Revana.Runtime.Guest
import Revana.Runtime.Globals

/-!
# The direct map endpoint and the world send hook

`RevanaTraceWorldSendTarget` restores the character id of a world login and
fills in a missing endpoint.  Host pointers into guest memory are indices, so
the packet and the target may overlap.
-/

namespace Revana.Runtime

open Foundation
open Login

def revanaConfigureDirectMapEndpoint (ipv4Address : UInt32) (port : UInt16)
    (globals : Globals) : Bool × Globals :=
  if ipv4Address = 0 ∨ port = 0 ∨ port = 0xFFFF then (false, globals)
  else
    (true, { globals with endpoint := {
      enabled := true
      ipv4 := ipv4Address
      port } })

def revanaClearDirectMapEndpoint (globals : Globals) : Globals :=
  { globals with endpoint := { enabled := false, ipv4 := 0, port := 0 } }

/-! ## The world login packet -/

def outerHeaderSize : ℕ := 28
def loginPacketSize : ℕ := 92
def outerDigestSize : ℕ := 16
def loginCheckOffset : ℕ := outerHeaderSize + 4
def uniqueNoOffset : ℕ := outerHeaderSize + 12
def loginCheckStart : ℕ := outerHeaderSize + 8

/-- The bytes of guest memory behind a host pointer. -/
def bytesFrom (memory : Memory) (pointer : ℕ) : ℕ → UInt8 :=
  fun index => memory (pointer + index)

/-- The sum of the login packet from its state field on. -/
def loginCheck (memory : Memory) (packet : ℕ) : UInt8 :=
  (memory.load (packet + loginCheckStart)
    (outerHeaderSize + loginPacketSize - loginCheckStart)).foldl (· + ·) 0

def isWorldLogin (memory : Memory) (packet packetSize : ℕ) : Bool :=
  outerHeaderSize + loginPacketSize + outerDigestSize ≤ packetSize ∧
    readLe32 (bytesFrom memory packet) outerHeaderSize &&& 0x1FF = 0x0A

/-- The stored id fills in the top byte the packet's id has lost. -/
def restorableId (fullId packetId : UInt32) : Bool :=
  fullId ≠ 0 ∧ packetId ≠ fullId ∧
    packetId &&& 0x00FFFFFF = fullId &&& 0x00FFFFFF

structure RestoreResult where
  restored : Bool
  writes : List MemoryWrite
  globals : Globals

def restoreWorldLoginCharacterId (md5 : Md5) (memory : Memory)
    (packet packetSize : ℕ) (globals : Globals) : RestoreResult :=
  if isWorldLogin memory packet packetSize = false then ⟨false, [], globals⟩
  else
    let fullId := globals.lobbyNextLoginCharacterId
    let packetId := readLe32 (bytesFrom memory packet) uniqueNoOffset
    if restorableId fullId packetId = false then ⟨false, [], globals⟩
    else
      let writeId := fun id =>
        MemoryWrite.mk (packet + uniqueNoOffset) (le32Bytes id)
      let writeCheck := fun check =>
        MemoryWrite.mk (packet + loginCheckOffset) [check]
      let originalLoginCheck := memory (packet + loginCheckOffset)
      let check := loginCheck (memory.apply [writeId fullId]) packet
      let patch := [writeId fullId, writeCheck check]
      let digestOffset := packetSize - outerDigestSize
      match md5 ((memory.apply patch).load (packet + outerHeaderSize)
          (digestOffset - outerHeaderSize)) with
      | none =>
          ⟨false, patch ++ [writeId packetId, writeCheck originalLoginCheck],
            globals⟩
      | some digest =>
          ⟨true, patch ++ [⟨packet + digestOffset, digest.val⟩],
            { globals with worldLoginCharacterIdRestored := true }⟩

/-! ## The world send hook -/

def endpointBytes (endpoint : DirectMapEndpoint) : List UInt8 :=
  (0 : UInt8) :: 2 :: (endpoint.port >>> 8).toUInt8 ::
    endpoint.port.toUInt8 :: (le32Bytes endpoint.ipv4).reverse

/-- The endpoint of a target without a port. -/
def restoreEndpoint (memory : Memory) (target : ℕ)
    (endpoint : DirectMapEndpoint) : List MemoryWrite :=
  let originalPort := memory.loadHalf (target + 2)
  if (originalPort = 0 ∨ originalPort = 0xFFFF) ∧ endpoint.enabled = true then
    [⟨target, endpointBytes endpoint⟩]
  else []

def observeWorldSend (memory : Memory) (target : ℕ) (trace : TraceGlobals) :
    TraceGlobals :=
  if trace.guestTraceHooksEnabled then
    { trace with worldSendTarget :=
        ((memory.loadHalf target).toUInt64 <<< 48) |||
          ((memory.loadHalf (target + 2)).toUInt64 <<< 32) |||
          (memory.loadWord (target + 4)).toUInt64 }
  else trace

def revanaTraceWorldSendTarget (translateVirtual : UInt32 → ℕ)
    (flags : ExperimentalFlags) (md5 : Md5) (guest : Guest)
    (globals : Globals) : Globals × List MemoryWrite :=
  if u32 guest.registers.r4 = 0 ∨ u32 guest.registers.r7 = 0 ∨
      u32 guest.registers.r27 < 8 then
    (globals, [])
  else
    let packet := translateVirtual (u32 guest.registers.r4)
    let target := translateVirtual (u32 guest.registers.r7)
    let restored : Globals × List MemoryWrite :=
      if flags.restoreWorldLoginCharacterId then
        let result := restoreWorldLoginCharacterId md5 guest.memory packet
          (u32 guest.registers.r5).toNat globals
        (result.globals, result.writes)
      else (globals, [])
    let endpoint := restoreEndpoint (guest.memory.apply restored.2) target
      restored.1.endpoint
    let writes := restored.2 ++ endpoint
    let trace := observeWorldSend (guest.memory.apply writes) target
      restored.1.trace
    ({ restored.1 with trace := trace }, writes)

end Revana.Runtime
