import Revana.Runtime.Guest
import Revana.Runtime.Globals

/-!
# The direct map key

Configuration, clearing, rollover and the guest handoff of the map key.
`RevanaConfigureDirectMapSessionKey` takes a pointer and a size, so its
argument is a byte string of any length or no byte string at all.
-/

namespace Revana.Runtime

open Foundation
open Login

def revanaConfigureDirectMapSessionKey (md5 : Md5) (key : Option (List UInt8))
    (globals : Globals) : Bool × Globals :=
  match key with
  | none => (false, globals)
  | some bytes =>
      if hsize : bytes.length = mapSessionKeySize then
        let sessionKey : MapSessionKey := ⟨bytes, hsize⟩
        match deriveMapCipherKey md5 sessionKey with
        | none => (false, globals)
        | some cipherKey =>
            (true, { globals with mapKey := {
              enabled := true
              reported := false
              rolloverPending := false
              sessionKey
              cipherKey } })
      else (false, globals)

theorem revanaConfigureDirectMapSessionKey_key
    (md5 : Md5) (key : MapSessionKey) (globals : Globals) :
    revanaConfigureDirectMapSessionKey md5 (some key.val) globals =
      match deriveMapCipherKey md5 key with
      | none => (false, globals)
      | some cipherKey =>
          (true, { globals with mapKey := {
            enabled := true, sessionKey := key, cipherKey } }) := by
  have hsize : key.val.length = mapSessionKeySize := key.property
  rw [revanaConfigureDirectMapSessionKey]
  simp only
  rw [dif_pos hsize]

def clearDirectMapKeyMaterial (mapKey : DirectMapKey) : DirectMapKey :=
  { mapKey with
    sessionKey := Bytes.zero 20
    cipherKey := Bytes.zero 16 }

def revanaClearDirectMapCipherKey (globals : Globals) : Globals :=
  let mapKey := clearDirectMapKeyMaterial { globals.mapKey with
    enabled := false }
  { globals with mapKey := { mapKey with
    reported := false
    rolloverPending := false } }

/-- The return value and the out parameter of `AdvanceDirectMapSessionKey`
with the key state it leaves. -/
structure AdvanceResult where
  succeeded : Bool
  advanced : Bool
  mapKey : DirectMapKey

def advanceDirectMapSessionKey (md5 : Md5) (mapKey : DirectMapKey) :
    AdvanceResult :=
  if mapKey.enabled = false then ⟨false, false, mapKey⟩
  else if mapKey.rolloverPending then ⟨true, false, mapKey⟩
  else
    let nextSessionKey := advanceMapSessionKey mapKey.sessionKey
    match deriveMapCipherKey md5 nextSessionKey with
    | none => ⟨false, false, mapKey⟩
    | some nextCipherKey =>
        ⟨true, true, { mapKey with
          sessionKey := nextSessionKey
          cipherKey := nextCipherKey
          reported := false
          rolloverPending := true }⟩

/-- `RevanaApplyDirectMapCipherKey`: the bytes copied to the guest, if any,
with the memory and the globals afterwards. -/
def revanaApplyDirectMapCipherKey (translateVirtual : UInt32 → ℕ)
    (guest : Guest) (globals : Globals) :
    Option MapCipherKey × Memory × Globals :=
  if globals.mapKey.enabled = false then (none, guest.memory, globals)
  else if u32 guest.registers.r7 = 0 then (none, guest.memory, globals)
  else
    let destination := translateVirtual (u32 guest.registers.r7)
    (some globals.mapKey.cipherKey,
      guest.memory.store destination globals.mapKey.cipherKey.val,
      { globals with mapKey := { globals.mapKey with reported := true } })

end Revana.Runtime
