import Revana.Runtime.DatagramWalk

/-!
# How long a map key stays fresh

Each rollover advances one word of the session key by two.  Between two points
of a run without a configuration in between, the key is the same exactly if
the rollovers went once around the word: it never repeats before.
-/

namespace Revana.Runtime

open Foundation
open Login

/-! ## Keys and their word -/

/-- The rollover word ends the key. -/
theorem sessionKey_ext
    {left right : MapSessionKey}
    (hhead : left.val.take rolloverWordOffset =
      right.val.take rolloverWordOffset)
    (hword : rolloverWord left = rolloverWord right) : left = right := by
  have hlength (key : MapSessionKey) : key.val.length = 20 := key.property
  have htail (key : MapSessionKey) :
      key.val.drop rolloverWordOffset = le32Bytes (rolloverWord key) := by
    rw [rolloverWord, le32Bytes_readLe32 (by
      rw [hlength, rolloverWordOffset])]
    rw [List.take_of_length_le]
    rw [List.length_drop, hlength, rolloverWordOffset]
  apply Subtype.ext
  rw [← List.take_append_drop rolloverWordOffset left.val,
    ← List.take_append_drop rolloverWordOffset right.val, hhead, htail, htail,
    hword]

/-- Advancing goes around after `2 ^ 31` steps. -/
theorem AdvancedBy.same_iff
    {key before after : MapSessionKey} {count more : ℕ}
    (hbefore : AdvancedBy key count before)
    (hafter : AdvancedBy key (count + more) after) :
    after = before ↔ 2 ^ 31 ∣ more := by
  obtain ⟨hhead, hword⟩ := hbefore
  obtain ⟨hheadAfter, hwordAfter⟩ := hafter
  constructor
  · intro hsame
    rw [hsame] at hwordAfter
    omega
  · intro hmore
    apply sessionKey_ext (hheadAfter.trans hhead.symm)
    rw [← UInt32.toNat_inj, hword, hwordAfter]
    omega

/-! ## The ledger without a configuration -/

theorem foldl_record
    {records : List MapKeyRecord}
    (hquiet : ∀ key, .configured key ∉ records) (ledger : Ledger) :
    records.foldl Ledger.record ledger =
      ⟨ledger.configured,
        ledger.rollovers + records.countP MapKeyRecord.isRollover⟩ := by
  induction records generalizing ledger with
  | nil => rfl
  | cons record rest ih =>
      have hrest : ∀ key, .configured key ∉ rest := fun key hmem =>
        hquiet key (List.mem_cons_of_mem _ hmem)
      rw [List.foldl_cons, ih hrest, List.countP_cons]
      cases record with
      | configured key => exact absurd List.mem_cons_self (hquiet key)
      | cleared => rfl
      | copied cipherKey => rfl
      | visited visit =>
          by_cases hrollover : visit.IsRollover
          · simp [Ledger.record, MapKeyRecord.isRollover, hrollover]
            omega
          · simp [Ledger.record, MapKeyRecord.isRollover, hrollover]

/-! ## Two points of a run -/

theorem mapKey_fresh
    (translateVirtual : UInt32 → ℕ) (digest : List UInt8 → Bytes 16)
    (globals : Globals) (first rest : List MapKeyEvent) :
    let machine := mapKeyMachine translateVirtual digest
    let before := machine.run { globals with mapKey := {} } first
    let after := machine.run before.1 rest
    before.1.mapKey.enabled = true → after.1.mapKey.enabled = true →
    (∀ key, .configured key ∉ after.2) →
    (after.1.mapKey.sessionKey = before.1.mapKey.sessionKey ↔
      2 ^ 31 ∣ after.2.countP MapKeyRecord.isRollover) := by
  intro machine before after hbefore hafter hquiet
  have hinitial : KeyInvariant digest {} {} := fun henabled =>
    absurd henabled (by decide)
  have hfirst : KeyInvariant digest (ledgerOf before.2) before.1.mapKey :=
    (mapKeyMachine_run_path translateVirtual { globals with mapKey := {} }
      first).invariant keyInvariant_step hinitial
  have hrest : KeyInvariant digest
      (after.2.foldl Ledger.record (ledgerOf before.2)) after.1.mapKey :=
    (mapKeyMachine_run_path translateVirtual before.1 rest).invariant
      keyInvariant_step hfirst
  obtain ⟨-, key, hkey, hadvanced⟩ := hfirst hbefore
  obtain ⟨-, other, hother, hadvancedAfter⟩ := hrest hafter
  rw [foldl_record hquiet] at hother hadvancedAfter
  obtain rfl : key = other :=
    Subtype.ext (Option.some.inj (hkey.symm.trans hother))
  exact hadvanced.same_iff hadvancedAfter

/-- A handoff changes the key. -/
theorem mapKey_fresh_handoff :
    let machine := mapKeyMachine UInt32.toNat fun _ => Bytes.zero 16
    let before := machine.run {}
      [.configure (some (List.replicate 20 3)) true]
    let after := machine.run before.1
      [.receive (receivingGuest [handoffPacket]) fun _ => true]
    after.1.mapKey.sessionKey ≠ before.1.mapKey.sessionKey := by
  intro machine before after hsame
  have hquiet : ∀ key, .configured key ∉ after.2 := by
    intro key hmem
    obtain ⟨visits, hvisits⟩ : ∃ visits : List SubPacketVisit,
        after.2 = visits.map .visited := ⟨_, List.append_nil _⟩
    rw [hvisits] at hmem
    obtain ⟨visit, -, hvisit⟩ := List.mem_map.mp hmem
    cases hvisit
  have hcount : after.2.countP MapKeyRecord.isRollover = 1 := by
    decide +kernel
  have haround := (mapKey_fresh UInt32.toNat (fun _ => Bytes.zero 16) {}
    [.configure (some (List.replicate 20 3)) true]
    [.receive (receivingGuest [handoffPacket]) fun _ => true]
    (by decide +kernel) (by decide +kernel) hquiet).mp hsame
  rw [hcount] at haround
  exact absurd haround (by decide)

end Revana.Runtime
