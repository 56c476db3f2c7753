import Revana.Runtime.MapKeyLifecycle

/-!
# The map key under every interleaving

One owner thread configures and clears the key while guest threads advance
it, copy it and reset the pending flag.  A block under the mutex is one step,
and so is every load or store outside it.  The enabled flag is down during
the whole of a configuration, which is why no guest sees a key in between.
-/

namespace Revana.Runtime

open Foundation
open Login

/-- The next step of the owner's call. -/
inductive OwnerStep where
  | idle
  | writeKeys (key : MapSessionKey)
  | resetReported (key : MapSessionKey)
  | resetPending (key : MapSessionKey)
  | enable (key : MapSessionKey)
  | clearKeys
  deriving DecidableEq

/-- The next step of a guest thread inside `RevanaApplyDirectMapCipherKey`. -/
inductive ApplyStep where
  | idle
  | copy
  | report
  deriving DecidableEq

structure KeyThreads (ι : Type*) where
  mapKey : DirectMapKey := {}
  owner : OwnerStep := .idle
  guests : ι → ApplyStep := fun _ => .idle

inductive ThreadEvent (ι : Type*) where
  /-- A configuration whose key has been derived lowers the flag. -/
  | beginConfigure (key : MapSessionKey)
  | beginClear
  | owner
  /-- The first load of an apply; `destination` is the test of `r7`. -/
  | beginApply (guest : ι) (destination : Bool)
  | apply (guest : ι)
  | advance (guest : ι) (md5Available : Bool)
  | resetPending (guest : ι)

inductive ThreadRecord where
  | keysWritten (key : MapSessionKey)
  | enabled (key : MapSessionKey) (rolloverPending : Bool)
  | cleared
  | copied (cipherKey : MapCipherKey)
  deriving DecidableEq

section Machine

variable {ι : Type*} [DecidableEq ι] (digest : List UInt8 → Bytes 16)

def ownerStep (mapKey : DirectMapKey) :
    OwnerStep → DirectMapKey × OwnerStep × List ThreadRecord
  | .idle => (mapKey, .idle, [])
  | .writeKeys key =>
      ({ mapKey with
        sessionKey := key
        cipherKey := truncateDigest (digest key.val) },
        .resetReported key, [.keysWritten key])
  | .resetReported key =>
      ({ mapKey with reported := false }, .resetPending key, [])
  | .resetPending key =>
      ({ mapKey with rolloverPending := false }, .enable key, [])
  | .enable key =>
      ({ mapKey with enabled := true }, .idle,
        [.enabled key mapKey.rolloverPending])
  | .clearKeys =>
      ({ clearDirectMapKeyMaterial mapKey with
        reported := false
        rolloverPending := false }, .idle, [.cleared])

def applyStep (mapKey : DirectMapKey) :
    ApplyStep → DirectMapKey × ApplyStep × List ThreadRecord
  | .idle => (mapKey, .idle, [])
  | .copy =>
      if mapKey.enabled = false then (mapKey, .idle, [])
      else (mapKey, .report, [.copied mapKey.cipherKey])
  | .report => ({ mapKey with reported := true }, .idle, [])

def threadStep (threads : KeyThreads ι) :
    ThreadEvent ι → KeyThreads ι × List ThreadRecord
  | .beginConfigure key =>
      if threads.owner = .idle then
        ({ threads with
          mapKey := { threads.mapKey with enabled := false }
          owner := .writeKeys key }, [])
      else (threads, [])
  | .beginClear =>
      if threads.owner = .idle then
        ({ threads with
          mapKey := { threads.mapKey with enabled := false }
          owner := .clearKeys }, [])
      else (threads, [])
  | .owner =>
      let (mapKey, owner, records) :=
        ownerStep digest threads.mapKey threads.owner
      ({ threads with mapKey, owner }, records)
  | .beginApply guest destination =>
      if threads.guests guest = .idle ∧ threads.mapKey.enabled = true ∧
          destination = true then
        ({ threads with
          guests := Function.update threads.guests guest .copy }, [])
      else (threads, [])
  | .apply guest =>
      let (mapKey, next, records) :=
        applyStep threads.mapKey (threads.guests guest)
      ({ threads with
        mapKey
        guests := Function.update threads.guests guest next }, records)
  | .advance guest md5Available =>
      if threads.guests guest = .idle then
        ({ threads with mapKey := (advanceDirectMapSessionKey
          (md5Call digest md5Available) threads.mapKey).mapKey }, [])
      else (threads, [])
  | .resetPending guest =>
      if threads.guests guest = .idle then
        ({ threads with
          mapKey := { threads.mapKey with rolloverPending := false } }, [])
      else (threads, [])

def threadMachine : Machine (KeyThreads ι) (ThreadEvent ι) ThreadRecord where
  step := threadStep digest

end Machine

/-! ## Uninterrupted calls -/

section Calls

variable {ι : Type*} [DecidableEq ι] {digest : List UInt8 → Bytes 16}

/-- A configuration without interruption is the sequential one. -/
theorem run_configure
    {threads : KeyThreads ι} (hidle : threads.owner = .idle)
    (key : MapSessionKey) :
    (threadMachine digest).run threads
      [.beginConfigure key, .owner, .owner, .owner, .owner] =
        ({ threads with mapKey := configuredMapKey digest key },
          [.keysWritten key, .enabled key false]) := by
  cases threads
  obtain rfl := hidle
  rfl

theorem run_clear
    {threads : KeyThreads ι} (hidle : threads.owner = .idle)
    (globals : Globals) (hmapKey : globals.mapKey = threads.mapKey) :
    (threadMachine digest).run threads [.beginClear, .owner] =
      ({ threads with
        mapKey := (revanaClearDirectMapCipherKey globals).mapKey },
        [.cleared]) := by
  cases threads
  obtain rfl := hidle
  obtain rfl := hmapKey
  rfl

theorem run_apply
    {threads : KeyThreads ι} {guest : ι}
    (hidle : threads.guests guest = .idle)
    (henabled : threads.mapKey.enabled = true) :
    (threadMachine digest).run threads
      [.beginApply guest true, .apply guest, .apply guest] =
        ({ threads with mapKey := { threads.mapKey with reported := true } },
          [.copied threads.mapKey.cipherKey]) := by
  have hguests : Function.update threads.guests guest .idle =
      threads.guests := by
    rw [← hidle, Function.update_eq_self]
  simp [threadMachine, threadStep, applyStep, hidle, henabled, hguests]

end Calls

/-! ## What the records say -/

/-- The key of the last final store; `dormant` and `zeroed` hold from a
returned clear to the next final store and the next key write. -/
structure ThreadLedger where
  configured : Option MapSessionKey := none
  dormant : Bool := false
  zeroed : Bool := false

def ThreadLedger.record (ledger : ThreadLedger) : ThreadRecord → ThreadLedger
  | .keysWritten _ => { ledger with zeroed := false }
  | .enabled key _ =>
      { ledger with configured := some key, dormant := false }
  | .cleared => { ledger with dormant := true, zeroed := true }
  | .copied _ => ledger

def threadLedger (records : List ThreadRecord) : ThreadLedger :=
  records.foldl ThreadLedger.record {}

theorem threadLedger_snoc
    (records : List ThreadRecord) (record : ThreadRecord) :
    threadLedger (records ++ [record]) =
      (threadLedger records).record record := by
  simp [threadLedger]

theorem threadLedger_dormant
    (before : List ThreadRecord) {after : List ThreadRecord}
    (hquiet : ∀ key pending, .enabled key pending ∉ after) :
    (threadLedger (before ++ .cleared :: after)).dormant = true := by
  induction after using List.reverseRecOn with
  | nil => simp [threadLedger, ThreadLedger.record]
  | append_singleton rest record ih =>
      have hrest := ih fun key pending hmem =>
        hquiet key pending (List.mem_append_left _ hmem)
      rw [← List.cons_append, ← List.append_assoc, threadLedger_snoc]
      cases record with
      | keysWritten key => exact hrest
      | enabled key pending => exact absurd (by simp) (hquiet key pending)
      | cleared => rfl
      | copied value => exact hrest

theorem threadLedger_zeroed
    (before : List ThreadRecord) {after : List ThreadRecord}
    (hquiet : ∀ key, .keysWritten key ∉ after) :
    (threadLedger (before ++ .cleared :: after)).zeroed = true := by
  induction after using List.reverseRecOn with
  | nil => simp [threadLedger, ThreadLedger.record]
  | append_singleton rest record ih =>
      have hrest := ih fun key hmem =>
        hquiet key (List.mem_append_left _ hmem)
      rw [← List.cons_append, ← List.append_assoc, threadLedger_snoc]
      cases record with
      | keysWritten key => exact absurd (by simp) (hquiet key)
      | enabled key pending => exact hrest
      | cleared => rfl
      | copied value => exact hrest

/-! ## The invariant over every position of every thread -/

/-- The owner is between its key write and its final store of `key`. -/
def OwnerStep.Configuring (owner : OwnerStep) (key : MapSessionKey) : Prop :=
  owner = .resetReported key ∨ owner = .resetPending key ∨
    owner = .enable key

theorem OwnerStep.Configuring.ne_idle
    {owner : OwnerStep} {key : MapSessionKey}
    (hconfiguring : owner.Configuring key) : owner ≠ .idle := by
  rcases hconfiguring with rfl | rfl | rfl <;> simp

structure ThreadInvariant {ι : Type*} (digest : List UInt8 → Bytes 16)
    (threads : KeyThreads ι) (ledger : ThreadLedger) : Prop where
  live : threads.mapKey.enabled = true →
    threads.owner = .idle ∧ ledger.dormant = false ∧ ledger.zeroed = false ∧
      ∃ key count, ledger.configured = some key ∧
        LiveKey digest key count threads.mapKey
  configuring : ∀ key, threads.owner.Configuring key →
    ledger.zeroed = false ∧ threads.mapKey.sessionKey = key ∧
      threads.mapKey.cipherKey = truncateDigest (digest key.val)
  armed : ∀ key, threads.owner = .enable key →
    threads.mapKey.rolloverPending = false
  zeroed : ledger.zeroed = true →
    threads.mapKey.sessionKey = Bytes.zero 20 ∧
      threads.mapKey.cipherKey = Bytes.zero 16

/-- What a record has to satisfy given the records before it. -/
def RecordSafe (digest : List UInt8 → Bytes 16) (ledger : ThreadLedger) :
    ThreadRecord → Prop
  | .copied value =>
      ledger.dormant = false ∧ ∃ key count sessionKey,
        ledger.configured = some key ∧ AdvancedBy key count sessionKey ∧
          value = truncateDigest (digest sessionKey.val)
  | .enabled _ rolloverPending => rolloverPending = false
  | _ => True

section Steps

variable {ι : Type*} {digest : List UInt8 → Bytes 16}
  {threads : KeyThreads ι} {ledger : ThreadLedger}

theorem advance_of_disabled
    {mapKey : DirectMapKey} (hdisabled : mapKey.enabled = false) (md5 : Md5) :
    (advanceDirectMapSessionKey md5 mapKey).mapKey = mapKey := by
  simp [advanceDirectMapSessionKey, hdisabled]

theorem liveKey_advance
    {key : MapSessionKey} {count : ℕ} {mapKey : DirectMapKey}
    (hlive : LiveKey digest key count mapKey) (available : Bool) :
    ∃ later, LiveKey digest key later (advanceDirectMapSessionKey
      (md5Call digest available) mapKey).mapKey := by
  unfold advanceDirectMapSessionKey
  simp only [hlive.enabled, Bool.true_eq_false, if_false]
  split
  · exact ⟨count, hlive⟩
  · simp only [deriveMapCipherKey_md5Call]
    cases available with
    | false => exact ⟨count, hlive⟩
    | true => exact ⟨count + 1, rfl, rfl, hlive.advanced.advance⟩

/-- The flag is down while the owner is inside a call. -/
theorem ThreadInvariant.owner_off
    (hinv : ThreadInvariant digest threads ledger)
    (howner : threads.owner ≠ .idle) : threads.mapKey.enabled = false := by
  rw [← Bool.not_eq_true]
  exact fun hon => howner (hinv.live hon).1

theorem ThreadInvariant.zeroed_off
    (hinv : ThreadInvariant digest threads ledger)
    (hzeroed : ledger.zeroed = true) : threads.mapKey.enabled = false := by
  rw [← Bool.not_eq_true]
  intro hon
  rw [(hinv.live hon).2.2.1] at hzeroed
  cases hzeroed

/-- A step of a guest: the keys may only change while the key is live. -/
theorem ThreadInvariant.guest
    (hinv : ThreadInvariant digest threads ledger) {mapKey : DirectMapKey}
    (guests : ι → ApplyStep) (henabled : mapKey.enabled = threads.mapKey.enabled)
    (hpending : threads.mapKey.enabled = false →
      threads.mapKey.rolloverPending = false → mapKey.rolloverPending = false)
    (hkeys : threads.mapKey.enabled = false →
      mapKey.sessionKey = threads.mapKey.sessionKey ∧
        mapKey.cipherKey = threads.mapKey.cipherKey)
    (hlive : ∀ key count, LiveKey digest key count threads.mapKey →
      ∃ later, LiveKey digest key later mapKey) :
    ThreadInvariant digest { threads with mapKey, guests } ledger := by
  refine ⟨?_, ?_, ?_, ?_⟩
  · intro hon
    rw [henabled] at hon
    obtain ⟨howner, hdormant, hzeroed, key, count, hconfigured, hkey⟩ :=
      hinv.live hon
    obtain ⟨later, hlater⟩ := hlive key count hkey
    exact ⟨howner, hdormant, hzeroed, key, later, hconfigured, hlater⟩
  · intro key howner
    obtain ⟨hzeroed, hsession, hcipher⟩ := hinv.configuring key howner
    have hoff := hinv.owner_off howner.ne_idle
    exact ⟨hzeroed, (hkeys hoff).1.trans hsession, (hkeys hoff).2.trans hcipher⟩
  · intro key howner
    have hconfiguring : threads.owner.Configuring key := Or.inr (Or.inr howner)
    exact hpending (hinv.owner_off hconfiguring.ne_idle)
      (hinv.armed key howner)
  · intro hzeroed
    obtain ⟨hsession, hcipher⟩ := hinv.zeroed hzeroed
    have hoff := hinv.zeroed_off hzeroed
    exact ⟨(hkeys hoff).1.trans hsession, (hkeys hoff).2.trans hcipher⟩

end Steps

/-- The invariant, and that every record so far was safe. -/
structure ThreadHistory {ι : Type*} (digest : List UInt8 → Bytes 16)
    (threads : KeyThreads ι) (records : List ThreadRecord) : Prop where
  invariant : ThreadInvariant digest threads (threadLedger records)
  safe : ∀ before record after, records = before ++ record :: after →
    RecordSafe digest (threadLedger before) record

section Runs

variable {ι : Type*} {digest : List UInt8 → Bytes 16}
  {threads : KeyThreads ι} {records : List ThreadRecord}

theorem ThreadHistory.silent
    (hhistory : ThreadHistory digest threads records) {next : KeyThreads ι}
    (hnext : ThreadInvariant digest next (threadLedger records)) :
    ThreadHistory digest next (records ++ []) := by
  rw [List.append_nil]
  exact ⟨hnext, hhistory.safe⟩

theorem ThreadHistory.recorded
    (hhistory : ThreadHistory digest threads records) {next : KeyThreads ι}
    (record : ThreadRecord)
    (hrecord : RecordSafe digest (threadLedger records) record)
    (hnext : ThreadInvariant digest next
      ((threadLedger records).record record)) :
    ThreadHistory digest next (records ++ [record]) := by
  refine ⟨by rwa [threadLedger_snoc], ?_⟩
  intro before other after hsplit
  rcases List.eq_nil_or_concat after with rfl | ⟨init, last, rfl⟩
  · obtain ⟨rfl, hother⟩ := List.append_inj' hsplit rfl
    obtain rfl : record = other := by simpa using hother
    exact hrecord
  · have hsplit' : records ++ [record] =
        (before ++ other :: init) ++ [last] := by
      simpa using hsplit
    obtain ⟨hrecords, _⟩ := List.append_inj' hsplit' rfl
    exact hhistory.safe before other init hrecords

theorem threadHistory_ownerStep
    (hhistory : ThreadHistory digest threads records) :
    let next := ownerStep digest threads.mapKey threads.owner
    ThreadHistory digest
      { threads with mapKey := next.1, owner := next.2.1 }
      (records ++ next.2.2) := by
  have hinv := hhistory.invariant
  cases howner : threads.owner with
  | idle =>
      have hsame : ({ threads with owner := .idle } : KeyThreads ι) =
          threads := by
        rw [← howner]
      apply hhistory.silent
      change ThreadInvariant digest { threads with owner := .idle } _
      rw [hsame]
      exact hinv
  | writeKeys key =>
      have hoff := hinv.owner_off (by simp [howner])
      apply hhistory.recorded (.keysWritten key) trivial
      refine ⟨fun hon => ?_, fun other hconfiguring => ?_,
        fun other henable => ?_, fun hzeroed => ?_⟩
      · exact absurd (hon.symm.trans hoff) (by decide)
      · obtain rfl : key = other := by
          rcases hconfiguring with h | h | h <;> cases h
          rfl
        exact ⟨rfl, rfl, rfl⟩
      · cases henable
      · cases hzeroed
  | resetReported key =>
      have hconfiguring := hinv.configuring key (Or.inl howner)
      have hoff := hinv.owner_off (by simp [howner])
      apply hhistory.silent
      refine ⟨fun hon => ?_, fun other hother => ?_,
        fun other henable => ?_, hinv.zeroed⟩
      · exact absurd (hon.symm.trans hoff) (by decide)
      · obtain rfl : key = other := by
          rcases hother with h | h | h <;> cases h
          rfl
        exact hconfiguring
      · cases henable
  | resetPending key =>
      have hconfiguring := hinv.configuring key (Or.inr (Or.inl howner))
      have hoff := hinv.owner_off (by simp [howner])
      apply hhistory.silent
      refine ⟨fun hon => ?_, fun other hother => ?_,
        fun other henable => rfl, hinv.zeroed⟩
      · exact absurd (hon.symm.trans hoff) (by decide)
      · obtain rfl : key = other := by
          rcases hother with h | h | h <;> cases h
          rfl
        exact hconfiguring
  | enable key =>
      obtain ⟨hzeroed, hsession, hcipher⟩ :=
        hinv.configuring key (Or.inr (Or.inr howner))
      apply hhistory.recorded (.enabled key _) (hinv.armed key howner)
      refine ⟨fun hon => ?_, fun other hother => ?_,
        fun other henable => ?_, hinv.zeroed⟩
      · refine ⟨rfl, rfl, hzeroed, key, 0, rfl, rfl, ?_, ?_⟩
        · exact hcipher.trans (by rw [← hsession]; rfl)
        · change AdvancedBy key 0 threads.mapKey.sessionKey
          rw [hsession]
          exact AdvancedBy.zero key
      · exact absurd rfl hother.ne_idle
      · cases henable
  | clearKeys =>
      have hoff := hinv.owner_off (by simp [howner])
      apply hhistory.recorded .cleared trivial
      refine ⟨fun hon => ?_, fun other hother => ?_,
        fun other henable => ?_, fun _ => ⟨rfl, rfl⟩⟩
      · exact absurd (hon.symm.trans hoff) (by decide)
      · exact absurd rfl hother.ne_idle
      · cases henable

/-- Lowering the flag begins a call of the owner. -/
theorem threadHistory_begin
    (hhistory : ThreadHistory digest threads records) {owner : OwnerStep}
    (hbegin : (∃ key, owner = .writeKeys key) ∨ owner = .clearKeys) :
    ThreadHistory digest
      { threads with
        mapKey := { threads.mapKey with enabled := false }
        owner } (records ++ []) := by
  have hinv := hhistory.invariant
  apply hhistory.silent
  refine ⟨fun hon => ?_, fun key hconfiguring => ?_, fun key henable => ?_,
    hinv.zeroed⟩
  · cases hon
  · rcases hconfiguring with rfl | rfl | rfl <;> simp at hbegin
  · obtain rfl : owner = .enable key := henable
    simp at hbegin

theorem threadHistory_applyStep
    (hhistory : ThreadHistory digest threads records) (apply : ApplyStep)
    (guests : ι → ApplyStep) :
    let next := applyStep threads.mapKey apply
    ThreadHistory digest { threads with mapKey := next.1, guests }
      (records ++ next.2.2) := by
  have hinv := hhistory.invariant
  cases apply with
  | idle =>
      apply hhistory.silent
      exact hinv.guest guests rfl (fun _ hpending => hpending)
        (fun _ => ⟨rfl, rfl⟩) (fun key count hlive => ⟨count, hlive⟩)
  | copy =>
      have hsame : ThreadInvariant digest { threads with guests }
          (threadLedger records) :=
        hinv.guest guests rfl (fun _ hpending => hpending)
          (fun _ => ⟨rfl, rfl⟩) (fun key count hlive => ⟨count, hlive⟩)
      simp only [applyStep]
      cases henabled : threads.mapKey.enabled with
      | false => exact hhistory.silent hsame
      | true =>
          obtain ⟨_, hdormant, _, key, count, hconfigured, hlive⟩ :=
            hinv.live henabled
          exact hhistory.recorded (.copied threads.mapKey.cipherKey)
            ⟨hdormant, key, count, _, hconfigured, hlive.advanced,
              hlive.cipher⟩ hsame
  | report =>
      apply hhistory.silent
      exact hinv.guest guests rfl (fun _ hpending => hpending)
        (fun _ => ⟨rfl, rfl⟩) (fun key count hlive =>
          ⟨count, hlive.enabled, hlive.cipher, hlive.advanced⟩)

/-- Every step of every thread keeps the invariant and leaves safe records. -/
theorem threadHistory_step
    [DecidableEq ι] (threads : KeyThreads ι) (records : List ThreadRecord)
    (event : ThreadEvent ι)
    (hhistory : ThreadHistory digest threads records) :
    let next := (threadMachine digest).step threads event
    ThreadHistory digest next.1 (records ++ next.2) := by
  have hinv := hhistory.invariant
  have hstay : ThreadHistory digest threads (records ++ []) :=
    hhistory.silent hinv
  cases event with
  | beginConfigure key =>
      simp only [threadMachine, threadStep]
      split
      · exact threadHistory_begin hhistory (Or.inl ⟨key, rfl⟩)
      · exact hstay
  | beginClear =>
      simp only [threadMachine, threadStep]
      split
      · exact threadHistory_begin hhistory (Or.inr rfl)
      · exact hstay
  | owner => exact threadHistory_ownerStep hhistory
  | beginApply guest destination =>
      simp only [threadMachine, threadStep]
      split
      · apply hhistory.silent
        exact hinv.guest _ rfl (fun _ hpending => hpending)
          (fun _ => ⟨rfl, rfl⟩) (fun key count hlive => ⟨count, hlive⟩)
      · exact hstay
  | apply guest => exact threadHistory_applyStep hhistory _ _
  | advance guest md5Available =>
      simp only [threadMachine, threadStep]
      split
      · apply hhistory.silent
        refine hinv.guest threads.guests (advance_enabled _ _) ?_ ?_ ?_
        · intro hoff hpending
          rwa [advance_of_disabled hoff]
        · intro hoff
          rw [advance_of_disabled hoff]
          exact ⟨rfl, rfl⟩
        · exact fun key count hlive => liveKey_advance hlive md5Available
      · exact hstay
  | resetPending guest =>
      simp only [threadMachine, threadStep]
      split
      · apply hhistory.silent
        exact hinv.guest threads.guests rfl (fun _ _ => rfl)
          (fun _ => ⟨rfl, rfl⟩) (fun key count hlive =>
            ⟨count, hlive.enabled, hlive.cipher, hlive.advanced⟩)
      · exact hstay

theorem threadHistory_initial :
    ThreadHistory digest ({} : KeyThreads ι) [] := by
  refine ⟨⟨fun hon => ?_, fun key hconfiguring => ?_, fun key henable => ?_,
    fun hzeroed => ?_⟩, ?_⟩
  · cases hon
  · exact absurd rfl hconfiguring.ne_idle
  · cases henable
  · cases hzeroed
  · intro before record after hsplit
    simp at hsplit

theorem threadHistory_run
    [DecidableEq ι] (events : List (ThreadEvent ι)) :
    let outcome := (threadMachine digest).run ({} : KeyThreads ι) events
    ThreadHistory digest outcome.1 outcome.2 :=
  Machine.run_history (ThreadHistory digest) threadHistory_step
    threadHistory_initial events

theorem ThreadHistory.dormant_off
    {before after : List ThreadRecord}
    (hhistory : ThreadHistory digest threads (before ++ .cleared :: after))
    (hquiet : ∀ key pending, .enabled key pending ∉ after) :
    threads.mapKey.enabled = false := by
  rw [← Bool.not_eq_true]
  intro hon
  have hdormant := (hhistory.invariant.live hon).2.1
  rw [threadLedger_dormant before hquiet] at hdormant
  cases hdormant

/-- A dormant key is neither copied nor advanced by any step. -/
theorem step_of_disabled
    [DecidableEq ι] (hoff : threads.mapKey.enabled = false) :
    (∀ event value, .copied value ∉
      ((threadMachine digest).step threads event).2) ∧
    (∀ guest md5Available, ((threadMachine digest).step threads
      (.advance guest md5Available)).1.mapKey = threads.mapKey) := by
  constructor
  · intro event value
    cases event with
    | owner =>
        simp only [threadMachine, threadStep]
        cases threads.owner <;> simp [ownerStep]
    | apply guest =>
        simp only [threadMachine, threadStep]
        cases threads.guests guest <;> simp [applyStep, hoff]
    | _ =>
        simp only [threadMachine, threadStep]
        split <;> simp
  · intro guest md5Available
    simp only [threadMachine, threadStep]
    split
    · exact advance_of_disabled hoff _
    · rfl

end Runs

/-- The map key in every interleaving.  A copied key is derived from the last
configured key by rollovers; a returned clear leaves zeros until a later
configuration writes its keys, and until its final store nothing is copied or
advanced; and the final store finds no rollover pending. -/
theorem mapKeyThreads_safe
    {ι : Type*} [DecidableEq ι] (digest : List UInt8 → Bytes 16)
    (events : List (ThreadEvent ι)) :
    let machine : Machine (KeyThreads ι) (ThreadEvent ι) ThreadRecord :=
      threadMachine digest
    let outcome := machine.run {} events
    (∀ before value after, outcome.2 = before ++ .copied value :: after →
      ∃ key count sessionKey, (threadLedger before).configured = some key ∧
        AdvancedBy key count sessionKey ∧
        value = truncateDigest (digest sessionKey.val)) ∧
    (∀ before after, outcome.2 = before ++ .cleared :: after →
      (∀ key, .keysWritten key ∉ after) →
      outcome.1.mapKey.sessionKey = Bytes.zero 20 ∧
        outcome.1.mapKey.cipherKey = Bytes.zero 16) ∧
    (∀ before after, outcome.2 = before ++ .cleared :: after →
      (∀ key pending, .enabled key pending ∉ after) →
      (∀ value, .copied value ∉ after) ∧
      (∀ event value, .copied value ∉ (machine.step outcome.1 event).2) ∧
      (∀ guest md5Available, (machine.step outcome.1
        (.advance guest md5Available)).1.mapKey = outcome.1.mapKey)) ∧
    (∀ key pending, .enabled key pending ∈ outcome.2 → pending = false) := by
  intro machine outcome
  have hhistory : ThreadHistory digest outcome.1 outcome.2 :=
    threadHistory_run events
  refine ⟨?_, ?_, ?_, ?_⟩
  · intro before value after hsplit
    exact (hhistory.safe before (.copied value) after hsplit).2
  · intro before after hsplit hquiet
    apply hhistory.invariant.zeroed
    rw [hsplit]
    exact threadLedger_zeroed before hquiet
  · intro before after hsplit hquiet
    have hoff : outcome.1.mapKey.enabled = false := by
      rw [hsplit] at hhistory
      exact hhistory.dormant_off hquiet
    refine ⟨?_, step_of_disabled hoff⟩
    intro value hmem
    obtain ⟨earlier, later, rfl⟩ := List.append_of_mem hmem
    have hsafe := hhistory.safe (before ++ .cleared :: earlier) (.copied value)
      later (by simp [hsplit])
    have hdormant := threadLedger_dormant before fun key pending hearlier =>
      hquiet key pending (List.mem_append_left _ hearlier)
    rw [hsafe.1] at hdormant
    cases hdormant
  · intro key pending hmem
    obtain ⟨before, after, hsplit⟩ := List.append_of_mem hmem
    exact hhistory.safe before (.enabled key pending) after hsplit

/-- A cleared key is written again before the final store that enables it. -/
theorem keys_written_before_enabled :
    ∃ (events : List (ThreadEvent Unit)) (after : List ThreadRecord),
      let outcome := (threadMachine fun _ => Bytes.zero 16).run
        ({} : KeyThreads Unit) events
      outcome.2 = [.cleared] ++ after ∧
      (∀ key pending, .enabled key pending ∉ after) ∧
      ¬(outcome.1.mapKey.sessionKey = Bytes.zero 20 ∧
        outcome.1.mapKey.cipherKey = Bytes.zero 16) := by
  let key : MapSessionKey := ⟨List.replicate 20 2, rfl⟩
  refine ⟨[.beginClear, .owner, .beginConfigure key, .owner],
    [.keysWritten key], rfl, by simp, ?_⟩
  rintro ⟨hsession, _⟩
  exact absurd hsession (by decide +kernel)

end Revana.Runtime
