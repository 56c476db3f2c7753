import Revana.Foundation.Machine
import Revana.Runtime.WorldReceive

/-!
# Lifecycle of the direct map key

The four entry points that touch the map key form a machine.  Its records say
what each call did, in particular what every visited sub-packet found.  A
small step relation on the key state explains the records one by one, and the
lifecycle facts are inductions along that relation.
-/

namespace Revana.Runtime

open Foundation
open Login

inductive MapKeyEvent where
  | configure (key : Option (List UInt8)) (md5Available : Bool)
  | clear
  | receive (guest : Guest) (md5Available : ℕ → Bool)
  | apply (guest : Guest)

inductive MapKeyRecord where
  | configured (key : List UInt8)
  | cleared
  | visited (visit : SubPacketVisit)
  | copied (cipherKey : MapCipherKey)
  deriving DecidableEq

/-- The record of a configuration call: the bytes it was passed, and nothing
when it was refused. -/
def configureRecords (succeeded : Bool) (key : Option (List UInt8)) :
    List MapKeyRecord :=
  if succeeded then key.toList.map .configured else []

section Machine

variable (translateVirtual : UInt32 → ℕ) (digest : List UInt8 → Bytes 16)

def mapKeyMachine : Machine Globals MapKeyEvent MapKeyRecord where
  step globals event :=
    match event with
    | .configure key md5Available =>
        let result := revanaConfigureDirectMapSessionKey
          (md5Call digest md5Available) key globals
        (result.2, configureRecords result.1 key)
    | .clear => (revanaClearDirectMapCipherKey globals, [.cleared])
    | .receive guest md5Available =>
        let result := revanaTraceWorldReceiveDecodeResult translateVirtual
          (fun offset => md5Call digest (md5Available offset)) guest globals
        (result.1, result.2.map .visited)
    | .apply guest =>
        let result :=
          revanaApplyDirectMapCipherKey translateVirtual guest globals
        (result.2.2, (result.1.map MapKeyRecord.copied).toList)

end Machine

/-- A `0x00B` sub-packet that found no rollover pending and whose derivation
succeeded. -/
def SubPacketVisit.IsRollover (visit : SubPacketVisit) : Prop :=
  visit.id = 0x00B ∧ visit.directKeyEnabled = true ∧
    visit.rolloverPending = false ∧ visit.derivationSucceeds = true

def SubPacketVisit.IsLogin (visit : SubPacketVisit) : Prop :=
  visit.id = 0x00A ∧ 32 ≤ visit.size

instance (visit : SubPacketVisit) : Decidable visit.IsRollover :=
  inferInstanceAs (Decidable (_ ∧ _))

instance (visit : SubPacketVisit) : Decidable visit.IsLogin :=
  inferInstanceAs (Decidable (_ ∧ _))

/-! ## One record at a time -/

def configuredMapKey (digest : List UInt8 → Bytes 16) (key : MapSessionKey) :
    DirectMapKey where
  enabled := true
  sessionKey := key
  cipherKey := truncateDigest (digest key.val)

def rolledOverMapKey (digest : List UInt8 → Bytes 16)
    (mapKey : DirectMapKey) : DirectMapKey where
  enabled := mapKey.enabled
  rolloverPending := true
  sessionKey := advanceMapSessionKey mapKey.sessionKey
  cipherKey :=
    truncateDigest (digest (advanceMapSessionKey mapKey.sessionKey).val)

inductive MapKeyStep (digest : List UInt8 → Bytes 16) :
    DirectMapKey → MapKeyRecord → DirectMapKey → Prop where
  | configured (before : DirectMapKey) (key : MapSessionKey) :
      MapKeyStep digest before (.configured key.val)
        (configuredMapKey digest key)
  | cleared (before : DirectMapKey) : MapKeyStep digest before .cleared {}
  | copied (before : DirectMapKey) :
      MapKeyStep digest before (.copied before.cipherKey)
        { before with reported := true }
  | rollover (before : DirectMapKey) (visit : SubPacketVisit)
      (hvisit : visit.IsRollover) (henabled : before.enabled = true)
      (hpending : before.rolloverPending = false) :
      MapKeyStep digest before (.visited visit)
        (rolledOverMapKey digest before)
  | login (before : DirectMapKey) (visit : SubPacketVisit)
      (hvisit : visit.IsLogin) :
      MapKeyStep digest before (.visited visit)
        { before with rolloverPending := false }
  | ignored (before : DirectMapKey) (visit : SubPacketVisit)
      (hrollover : ¬visit.IsRollover) (hlogin : ¬visit.IsLogin) :
      MapKeyStep digest before (.visited visit) before

section Refinement

variable {digest : List UInt8 → Bytes 16}

@[simp] theorem deriveMapCipherKey_md5Call
    (available : Bool) (key : MapSessionKey) :
    deriveMapCipherKey (md5Call digest available) key =
      if available then some (truncateDigest (digest key.val)) else none := by
  cases available <;> rfl

theorem advance_enabled (md5 : Md5) (mapKey : DirectMapKey) :
    (advanceDirectMapSessionKey md5 mapKey).mapKey.enabled =
      mapKey.enabled := by
  unfold advanceDirectMapSessionKey
  split
  · rfl
  · split
    · rfl
    · simp only
      split <;> rfl

theorem visitMapKey_enabled
    (md5 : Md5) (directKeyEnabled : Bool) (id : UInt16) (size : ℕ)
    (mapKey : DirectMapKey) :
    (visitMapKey md5 directKeyEnabled id size mapKey).enabled =
      mapKey.enabled := by
  unfold visitMapKey
  simp only
  split_ifs <;> first | rfl | exact advance_enabled md5 mapKey

/-- One sub-packet is one step of the key state. -/
theorem visitMapKey_step
    (available : Bool) (id : UInt16) (size : ℕ) (mapKey : DirectMapKey) :
    MapKeyStep digest mapKey
      (.visited (describeVisit (md5Call digest available) mapKey.enabled id
        size mapKey))
      (visitMapKey (md5Call digest available) mapKey.enabled id size
        mapKey) := by
  by_cases hrollover : id = 0x00B
  · subst hrollover
    have hnotLogin : ¬(describeVisit (md5Call digest available) mapKey.enabled
        0x00B size mapKey).IsLogin := by
      simp [SubPacketVisit.IsLogin, describeVisit]
    by_cases hready : mapKey.enabled = true ∧
        mapKey.rolloverPending = false ∧ available = true
    · obtain ⟨henabled, hpending, havailable⟩ := hready
      have hstate : visitMapKey (md5Call digest available) mapKey.enabled
          0x00B size mapKey = rolledOverMapKey digest mapKey := by
        simp [visitMapKey, advanceDirectMapSessionKey, henabled, hpending,
          havailable, rolledOverMapKey]
      rw [hstate]
      apply MapKeyStep.rollover _ _ _ henabled hpending
      simp [SubPacketVisit.IsRollover, describeVisit, henabled, hpending,
        havailable]
    · have hstate : visitMapKey (md5Call digest available) mapKey.enabled
          0x00B size mapKey = mapKey := by
        by_cases henabled : mapKey.enabled = true
        · by_cases hpending : mapKey.rolloverPending = true
          · simp [visitMapKey, advanceDirectMapSessionKey, henabled, hpending]
          · have havailable : available = false := by
              by_contra hne
              exact hready ⟨henabled, by simpa using hpending,
                by simpa using hne⟩
            simp [visitMapKey, advanceDirectMapSessionKey, henabled, hpending,
              havailable]
        · simp [visitMapKey, henabled]
      rw [hstate]
      apply MapKeyStep.ignored _ _ _ hnotLogin
      intro hvisit
      obtain ⟨_, henabled, hpending, hderived⟩ := hvisit
      apply hready
      refine ⟨henabled, hpending, ?_⟩
      simpa [describeVisit] using hderived
  · have hnotRollover : ¬(describeVisit (md5Call digest available)
        mapKey.enabled id size mapKey).IsRollover := by
      intro hvisit
      exact hrollover hvisit.1
    by_cases hlogin : id = 0x00A ∧ 32 ≤ size
    · have hstate : visitMapKey (md5Call digest available) mapKey.enabled
          id size mapKey = { mapKey with rolloverPending := false } := by
        simp [visitMapKey, hlogin]
      rw [hstate]
      exact MapKeyStep.login _ _ hlogin
    · have hstate : visitMapKey (md5Call digest available) mapKey.enabled
          id size mapKey = mapKey := by
        simp [visitMapKey, hrollover, hlogin]
      rw [hstate]
      exact MapKeyStep.ignored _ _ hnotRollover hlogin

theorem walkSubPackets_path
    (available : ℕ → Bool) (traceEnabled directKeyEnabled : Bool)
    (total : ℕ) (plaintext : ℕ → UInt8) (remaining offset : ℕ)
    (state : WalkState) (henabled : state.mapKey.enabled = directKeyEnabled) :
    let walk := walkSubPackets
      (fun offset => md5Call digest (available offset)) traceEnabled
      directKeyEnabled total plaintext remaining offset state
    Path (MapKeyStep digest) state.mapKey (walk.2.map .visited)
      walk.1.mapKey := by
  subst henabled
  induction remaining generalizing offset state with
  | zero => exact Path.nil _
  | succ remaining ih =>
      simp only [walkSubPackets]
      split
      · split
        · exact Path.nil _
        · have hrest := ih (offset + subPacketSize plaintext offset)
            ⟨visitMapKey (md5Call digest (available offset))
              state.mapKey.enabled (subPacketId plaintext offset)
              (subPacketSize plaintext offset) state.mapKey,
            visitTraceCount traceEnabled (subPacketId plaintext offset)
              (subPacketSize plaintext offset)
              state.worldEntityUpdateTraceCount⟩
          simp only [visitMapKey_enabled] at hrest
          exact Path.cons (visitMapKey_step _ _ _ _) hrest
      · exact Path.nil _

theorem mapKeyMachine_step_path
    (translateVirtual : UInt32 → ℕ) (globals : Globals)
    (event : MapKeyEvent) :
    let next := (mapKeyMachine translateVirtual digest).step globals event
    Path (MapKeyStep digest) globals.mapKey next.2 next.1.mapKey := by
  cases event with
  | configure key md5Available =>
      simp only [mapKeyMachine, revanaConfigureDirectMapSessionKey]
      cases key with
      | none => exact Path.nil _
      | some bytes =>
          simp only
          split
          · rename_i hsize
            cases md5Available with
            | false => exact Path.nil _
            | true =>
                exact Path.cons (MapKeyStep.configured _ ⟨bytes, hsize⟩)
                  (Path.nil _)
          · exact Path.nil _
  | clear => exact Path.cons (MapKeyStep.cleared _) (Path.nil _)
  | receive guest md5Available =>
      simp only [mapKeyMachine, revanaTraceWorldReceiveDecodeResult]
      split
      · exact Path.nil _
      · split
        · exact Path.nil _
        · exact walkSubPackets_path md5Available _ _ _ _ _ _
            ⟨globals.mapKey, _⟩ rfl
  | apply guest =>
      simp only [mapKeyMachine, revanaApplyDirectMapCipherKey]
      split
      · exact Path.nil _
      · split
        · exact Path.nil _
        · exact Path.cons (MapKeyStep.copied _) (Path.nil _)

theorem mapKeyMachine_run_path
    (translateVirtual : UInt32 → ℕ) (globals : Globals)
    (events : List MapKeyEvent) :
    let outcome := (mapKeyMachine translateVirtual digest).run globals events
    Path (MapKeyStep digest) globals.mapKey outcome.2 outcome.1.mapKey :=
  Machine.run_path Globals.mapKey
    (mapKeyMachine_step_path translateVirtual) globals events

end Refinement

/-! ## What the records account for -/

/-- The bytes the last successful configuration was passed, and the rollovers
since. -/
structure Ledger where
  configured : Option (List UInt8) := none
  rollovers : ℕ := 0

def Ledger.record (ledger : Ledger) : MapKeyRecord → Ledger
  | .configured key => ⟨some key, 0⟩
  | .visited visit =>
      if visit.IsRollover then
        ⟨ledger.configured, ledger.rollovers + 1⟩
      else ledger
  | .cleared => ledger
  | .copied _ => ledger

def ledgerOf (records : List MapKeyRecord) : Ledger :=
  records.foldl Ledger.record {}

/-- The key with its rollover word advanced by `2 * count`. -/
def AdvancedBy (key : MapSessionKey) (count : ℕ) (current : MapSessionKey) :
    Prop :=
  current.val.take rolloverWordOffset = key.val.take rolloverWordOffset ∧
    (rolloverWord current).toNat =
      ((rolloverWord key).toNat + 2 * count) % 2 ^ 32

theorem AdvancedBy.zero (key : MapSessionKey) : AdvancedBy key 0 key := by
  refine ⟨rfl, ?_⟩
  have hword := (rolloverWord key).toNat_lt
  omega

theorem AdvancedBy.advance
    {key current : MapSessionKey} {count : ℕ}
    (hadvanced : AdvancedBy key count current) :
    AdvancedBy key (count + 1) (advanceMapSessionKey current) := by
  obtain ⟨htake, hword⟩ := hadvanced
  constructor
  · exact (withRolloverWord_take current _).trans htake
  · rw [advanceMapSessionKey, rolloverWord_withRolloverWord,
      UInt32.toNat_add, hword]
    rw [show (2 : UInt32).toNat = 2 from rfl]
    omega

/-- The key is in use, `count` rollovers past `key`, and the cipher key is
derived from it. -/
structure LiveKey (digest : List UInt8 → Bytes 16) (key : MapSessionKey)
    (count : ℕ) (mapKey : DirectMapKey) : Prop where
  enabled : mapKey.enabled = true
  cipher : mapKey.cipherKey = truncateDigest (digest mapKey.sessionKey.val)
  advanced : AdvancedBy key count mapKey.sessionKey

/-- While the key is enabled, both keys are those the ledger accounts for. -/
def KeyInvariant (digest : List UInt8 → Bytes 16) (ledger : Ledger)
    (mapKey : DirectMapKey) : Prop :=
  mapKey.enabled = true →
    mapKey.cipherKey = truncateDigest (digest mapKey.sessionKey.val) ∧
      ∃ key : MapSessionKey, ledger.configured = some key.val ∧
        AdvancedBy key ledger.rollovers mapKey.sessionKey

theorem keyInvariant_step
    {digest : List UInt8 → Bytes 16} (ledger : Ledger)
    (first : DirectMapKey) (record : MapKeyRecord) (last : DirectMapKey)
    (hstep : MapKeyStep digest first record last)
    (hinv : KeyInvariant digest ledger first) :
    KeyInvariant digest (ledger.record record) last := by
  cases hstep with
  | configured key => exact fun _ => ⟨rfl, key, rfl, AdvancedBy.zero key⟩
  | cleared => exact fun henabled => absurd henabled (by decide)
  | copied => exact hinv
  | rollover visit hvisit henabled hpending =>
      intro _
      obtain ⟨_, key, hconfigured, hadvanced⟩ := hinv henabled
      simp only [Ledger.record, if_pos hvisit]
      exact ⟨rfl, key, hconfigured, hadvanced.advance⟩
  | login visit hvisit =>
      have hrollover : ¬visit.IsRollover := by
        intro hrollover
        rw [SubPacketVisit.IsRollover, hvisit.1] at hrollover
        exact absurd hrollover.1 (by decide)
      simp only [Ledger.record, if_neg hrollover]
      exact hinv
  | ignored visit hrollover hlogin =>
      simpa only [Ledger.record, if_neg hrollover] using hinv

/-! ## At most one rollover between two logins -/

def MapKeyRecord.isRollover : MapKeyRecord → Bool
  | .visited visit => visit.IsRollover
  | _ => false

/-- Records that end a rollover: a configuration or a world login. -/
def MapKeyRecord.EndsRollover : MapKeyRecord → Prop
  | .configured _ => True
  | .visited visit => visit.IsLogin
  | _ => False

theorem rollovers_eq_zero_of_pending
    {digest : List UInt8 → Bytes 16} {first last : DirectMapKey}
    {segment : List MapKeyRecord}
    (hpath : Path (MapKeyStep digest) first segment last)
    (hquiet : ∀ record ∈ segment, ¬record.EndsRollover)
    (hblocked : first.enabled = true → first.rolloverPending = true) :
    segment.countP MapKeyRecord.isRollover = 0 := by
  induction hpath with
  | nil => rfl
  | cons hstep hrest ih =>
      have hhead := hquiet _ List.mem_cons_self
      have htail := fun record hmem =>
        hquiet record (List.mem_cons_of_mem _ hmem)
      rw [List.countP_cons]
      cases hstep with
      | configured key => exact absurd trivial hhead
      | cleared =>
          simpa [MapKeyRecord.isRollover] using
            ih htail (fun henabled => absurd henabled (by decide))
      | copied =>
          simpa [MapKeyRecord.isRollover] using ih htail hblocked
      | rollover visit hvisit henabled hpending =>
          rw [hblocked henabled] at hpending
          exact absurd hpending (by decide)
      | login visit hvisit => exact absurd hvisit hhead
      | ignored visit hrollover hlogin =>
          simpa [MapKeyRecord.isRollover, hrollover] using ih htail hblocked

theorem rollovers_le_one
    {digest : List UInt8 → Bytes 16} {first last : DirectMapKey}
    {segment : List MapKeyRecord}
    (hpath : Path (MapKeyStep digest) first segment last)
    (hquiet : ∀ record ∈ segment, ¬record.EndsRollover) :
    segment.countP MapKeyRecord.isRollover ≤ 1 := by
  induction hpath with
  | nil => exact Nat.zero_le _
  | cons hstep hrest ih =>
      have hhead := hquiet _ List.mem_cons_self
      have htail := fun record hmem =>
        hquiet record (List.mem_cons_of_mem _ hmem)
      rw [List.countP_cons]
      cases hstep with
      | configured key => exact absurd trivial hhead
      | cleared => simpa [MapKeyRecord.isRollover] using ih htail
      | copied => simpa [MapKeyRecord.isRollover] using ih htail
      | rollover visit hvisit henabled hpending =>
          have hrestCount :=
            rollovers_eq_zero_of_pending hrest htail (fun _ => rfl)
          rw [hrestCount]
          split <;> decide
      | login visit hvisit => exact absurd hvisit hhead
      | ignored visit hrollover hlogin =>
          simpa [MapKeyRecord.isRollover, hrollover] using ih htail

/-! ## Failed derivations -/

theorem configure_of_md5_unavailable
    (digest : List UInt8 → Bytes 16) (key : Option (List UInt8))
    (globals : Globals) :
    revanaConfigureDirectMapSessionKey (md5Call digest false) key globals =
      (false, globals) := by
  unfold revanaConfigureDirectMapSessionKey
  cases key with
  | none => rfl
  | some bytes =>
      simp only
      split <;> rfl

theorem advance_of_md5_unavailable
    (digest : List UInt8 → Bytes 16) (mapKey : DirectMapKey) :
    (advanceDirectMapSessionKey (md5Call digest false) mapKey).mapKey =
      mapKey := by
  unfold advanceDirectMapSessionKey
  split
  · rfl
  · split <;> rfl

/-- The lifecycle of the map key over every sequence of calls, from any
globals whose key has not been configured. -/
theorem mapKey_lifecycle
    (translateVirtual : UInt32 → ℕ) (digest : List UInt8 → Bytes 16)
    (globals : Globals) (events : List MapKeyEvent) :
    let outcome := (mapKeyMachine translateVirtual digest).run
      { globals with mapKey := {} } events
    let mapKey := outcome.1.mapKey
    let ledger := ledgerOf outcome.2
    (mapKey.enabled = true →
      TruncatedAtFirstZero (digest mapKey.sessionKey.val)
        mapKey.cipherKey) ∧
    (mapKey.enabled = true →
      ∃ key : MapSessionKey, ledger.configured = some key.val ∧
        AdvancedBy key ledger.rollovers mapKey.sessionKey) ∧
    (∀ before segment after, outcome.2 = before ++ segment ++ after →
      (∀ record ∈ segment, ¬record.EndsRollover) →
      segment.countP MapKeyRecord.isRollover ≤ 1) ∧
    (∀ key, revanaConfigureDirectMapSessionKey (md5Call digest false) key
      outcome.1 = (false, outcome.1)) ∧
    (advanceDirectMapSessionKey (md5Call digest false) mapKey).mapKey =
      mapKey := by
  intro outcome mapKey ledger
  have hpath : Path (MapKeyStep digest) {} outcome.2 mapKey :=
    mapKeyMachine_run_path translateVirtual
      { globals with mapKey := {} } events
  have hinitial : KeyInvariant digest {} {} := fun henabled =>
    absurd henabled (by decide)
  have hkey : KeyInvariant digest ledger mapKey :=
    hpath.invariant keyInvariant_step hinitial
  refine ⟨?_, ?_, ?_, ?_, ?_⟩
  · intro henabled
    rw [(hkey henabled).1]
    exact truncateDigest_spec _
  · intro henabled
    exact (hkey henabled).2
  · intro before segment after hsplit hquiet
    rw [hsplit] at hpath
    obtain ⟨_, hinitial, _⟩ := hpath.split
    obtain ⟨_, _, hsegment⟩ := hinitial.split
    exact rollovers_le_one hsegment hquiet
  · intro key
    exact configure_of_md5_unavailable digest key outcome.1
  · exact advance_of_md5_unavailable digest mapKey

end Revana.Runtime
