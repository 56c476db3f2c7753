import Revana.Runtime.MapKey

/-!
# The world receive hook

`RevanaTraceWorldReceiveDecodeResult` walks the sub-packets of a decoded
world datagram.  MD5 calls are indexed by the offset of the sub-packet that
makes them.  Each visited sub-packet is reported with what the rollover
branch found, so that a run can be read off its visits.
-/

namespace Revana.Runtime

open Foundation
open Login

structure SubPacketVisit where
  id : UInt16
  size : ℕ
  directKeyEnabled : Bool
  rolloverPending : Bool
  derivationSucceeds : Bool
  deriving DecidableEq, Repr

/-- The globals the sub-packet loop writes. -/
structure WalkState where
  mapKey : DirectMapKey
  worldEntityUpdateTraceCount : UInt32

def subPacketId (plaintext : ℕ → UInt8) (offset : ℕ) : UInt16 :=
  readLe16 plaintext offset &&& 0x1FF

def subPacketSize (plaintext : ℕ → UInt8) (offset : ℕ) : ℕ :=
  2 * (plaintext (offset + 1) &&& 0xFE).toNat

def describeVisit (md5 : Md5) (directKeyEnabled : Bool) (id : UInt16)
    (size : ℕ) (mapKey : DirectMapKey) : SubPacketVisit where
  id := id
  size := size
  directKeyEnabled := directKeyEnabled
  rolloverPending := mapKey.rolloverPending
  derivationSucceeds :=
    (deriveMapCipherKey md5 (advanceMapSessionKey mapKey.sessionKey)).isSome

/-- The effect of one sub-packet on the key state. -/
def visitMapKey (md5 : Md5) (directKeyEnabled : Bool) (id : UInt16)
    (size : ℕ) (mapKey : DirectMapKey) : DirectMapKey :=
  let mapKey :=
    if id = 0x00B ∧ directKeyEnabled then
      (advanceDirectMapSessionKey md5 mapKey).mapKey
    else mapKey
  if id = 0x00A ∧ 32 ≤ size then { mapKey with rolloverPending := false }
  else mapKey

/-- Player and entity updates are counted only while tracing. -/
def visitTraceCount (traceEnabled : Bool) (id : UInt16) (size : ℕ)
    (count : UInt32) : UInt32 :=
  let count :=
    if traceEnabled ∧ id = 0x00D ∧ 12 ≤ size then count + 1 else count
  if traceEnabled ∧ id = 0x00E ∧ 52 ≤ size then count + 1 else count

/-- The `while` loop; `remaining` is what the cap of 64 packets leaves. -/
def walkSubPackets (md5 : ℕ → Md5) (traceEnabled directKeyEnabled : Bool)
    (total : ℕ) (plaintext : ℕ → UInt8) :
    ℕ → ℕ → WalkState → WalkState × List SubPacketVisit
  | 0, _, state => (state, [])
  | remaining + 1, offset, state =>
      if offset + 4 ≤ total then
        let id := subPacketId plaintext offset
        let size := subPacketSize plaintext offset
        if size < 4 ∨ offset + size > total then (state, [])
        else
          let visit :=
            describeVisit (md5 offset) directKeyEnabled id size state.mapKey
          let next : WalkState := {
            mapKey :=
              visitMapKey (md5 offset) directKeyEnabled id size state.mapKey
            worldEntityUpdateTraceCount := visitTraceCount traceEnabled id
              size state.worldEntityUpdateTraceCount }
          let after := walkSubPackets md5 traceEnabled directKeyEnabled total
            plaintext remaining (offset + size) next
          (after.1, visit :: after.2)
      else (state, [])

def mapTransportHeaderSize : ℕ := 28
def maximumSubPackets : ℕ := 64

def revanaTraceWorldReceiveDecodeResult (translateVirtual : UInt32 → ℕ)
    (md5 : ℕ → Md5) (guest : Guest) (globals : Globals) :
    Globals × List SubPacketVisit :=
  let traceEnabled := globals.trace.guestTraceHooksEnabled
  let directKeyEnabled := globals.mapKey.enabled
  if traceEnabled = false ∧ directKeyEnabled = false then (globals, [])
  else
    let result := u32 guest.registers.r3
    let globals := { globals with trace := { globals.trace with
      worldReceiveDecodeResult := result } }
    if s32 guest.registers.r3 ≤ 0 ∨ result > 10000 then (globals, [])
    else
      let pointer := translateVirtual (u32 guest.registers.r1 + 864)
      let plaintext := fun index => guest.memory (pointer + index)
      let walk := walkSubPackets md5 traceEnabled directKeyEnabled
        result.toNat plaintext maximumSubPackets mapTransportHeaderSize
        ⟨globals.mapKey, globals.trace.worldEntityUpdateTraceCount⟩
      ({ globals with
        mapKey := walk.1.mapKey
        trace := { globals.trace with
          worldEntityUpdateTraceCount := walk.1.worldEntityUpdateTraceCount } },
        walk.2)

end Revana.Runtime
