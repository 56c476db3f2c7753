import Revana.Foundation.Establish
import Revana.Foundation.Machine
import Revana.Runtime.PolResolver

/-!
# The resolver service

What the thunks of the direct resolver do when the guest calls them.  A begin
for the retail lobby host first brings the PolCore network state up with
PolCore's own initializers; they are guest code, as everything is that runs
between the calls.
-/

namespace Revana.Runtime

open Foundation

/-! ## The network state -/

def polResolverServiceInitializer : UInt32 := 0x82465908
def polResolverServiceReady : UInt32 := 0x824B9CBC
def polSessionInitializer : UInt32 := 0x82475BE8
def polSessionPointer : UInt32 := 0x824DCC58
def polConfigCipherEnabled : UInt32 := 0x824DC93B
def polNetworkAvailableSetter : UInt32 := 0x82471F00
def polNetworkAvailable : UInt32 := 0x824D9078

inductive PolStage where
  | resolverService
  | session
  | plaintext
  | networkAvailable
  deriving DecidableEq, Repr

/-- `getFunction` is `FunctionDispatcher::GetFunction`: a guest function turns
the guest it is called in into the one it returns to. -/
structure PolRuntime where
  translateVirtual : UInt32 → ℕ
  kernelAvailable : Bool
  getFunction : UInt32 → Option (Guest → Guest)

namespace PolRuntime

variable (runtime : PolRuntime)

/-- A word that an initializer has to set. -/
def initializedWord (key : PolStage) (word initializer : UInt32)
    (arguments : Registers → Registers) (accepts : Guest → Bool) :
    Stage Guest PolStage where
  key := key
  holds guest := guest.memory.loadWord (runtime.translateVirtual word) ≠ 0
  repair guest := (runtime.getFunction initializer).map fun function =>
    function { guest with registers := arguments guest.registers }
  accepts := accepts

def resolverService : Stage Guest PolStage :=
  runtime.initializedWord .resolverService polResolverServiceReady
    polResolverServiceInitializer (fun registers => { registers with r3 := 2 })
    fun after => 0 ≤ s32 after.registers.r3

def session : Stage Guest PolStage :=
  runtime.initializedWord .session polSessionPointer polSessionInitializer
    (fun registers => { registers with r3 := 0, r4 := 0, r5 := 0 })
    fun _ => true

/-- The configuration bridge uses the plaintext path of the retail code. -/
def plaintext : Stage Guest PolStage where
  key := .plaintext
  holds guest :=
    guest.memory (runtime.translateVirtual polConfigCipherEnabled) = 0
  repair guest := some (guest.write (.memory
    ⟨runtime.translateVirtual polConfigCipherEnabled, [0]⟩))

def networkAvailable : Stage Guest PolStage :=
  runtime.initializedWord .networkAvailable polNetworkAvailable
    polNetworkAvailableSetter id fun _ => true

def networkStages : List (Stage Guest PolStage) :=
  [runtime.resolverService, runtime.session, runtime.plaintext,
    runtime.networkAvailable]

def ensureDirectPolNetworkState (guest : Guest) : Established Guest PolStage :=
  if runtime.kernelAvailable = false then ⟨false, guest, []⟩
  else establish runtime.networkStages guest

end PolRuntime

/-! ## The calls -/

/-- What a call did besides its result; `answered` is the buffer of a poll. -/
inductive ResolverRecord where
  | initialized (stage : PolStage) (worked : Bool)
  | began (ready : Bool)
  | answered (buffer : UInt32)
  | refused
  | cancelled
  | original (function : ResolverFunction)
  deriving DecidableEq, Repr

namespace PolRuntime

variable (runtime : PolRuntime)

def callOriginalPolResolver (original : UInt32) (guest : Guest) : Guest :=
  match
    if runtime.kernelAvailable then runtime.getFunction original else none with
  | none => guest.write (.r3 (-2071))
  | some function => function guest

def revanaDirectPolResolverBegin (resolver : DirectPolResolver)
    (guest : Guest) : Guest × List ResolverRecord :=
  if guestStringEquals runtime.translateVirtual guest.memory
      (u32 guest.registers.r3) retailLobbyHostname = false then
    (runtime.callOriginalPolResolver resolver.beginOriginal guest,
      [.original .begin])
  else
    let ensured := runtime.ensureDirectPolNetworkState guest
    let attempts := ensured.repairs.map fun attempt =>
      ResolverRecord.initialized attempt.1 attempt.2
    if ensured.ready = false then
      (ensured.state.write (.r3 (-2071)), attempts ++ [.began false])
    else
      (ensured.state.write (.r3 directPolResolverHandle.toUInt64),
        attempts ++ [.began true])

def revanaDirectPolResolverPoll (resolver : DirectPolResolver)
    (guest : Guest) : Guest × List ResolverRecord :=
  if u32 guest.registers.r3 ≠ directPolResolverHandle then
    (runtime.callOriginalPolResolver resolver.pollOriginal guest,
      [.original .poll])
  else
    let buffer := u32 guest.registers.r4
    if buffer = 0 then (guest.write (.r3 (-22)), [.refused])
    else
      (guest.apply [
        .memory ⟨runtime.translateVirtual buffer, List.replicate 20 0⟩,
        .memory (.word (runtime.translateVirtual (buffer + 4)) resolver.ipv4),
        .r3 1], [.answered buffer])

def revanaDirectPolResolverCancel (resolver : DirectPolResolver)
    (guest : Guest) : Guest × List ResolverRecord :=
  if u32 guest.registers.r3 ≠ directPolResolverHandle then
    (runtime.callOriginalPolResolver resolver.cancelOriginal guest,
      [.original .cancel])
  else (guest.write (.r3 0), [.cancelled])

def callResolver (resolver : DirectPolResolver) (guest : Guest) :
    ResolverFunction → Guest × List ResolverRecord
  | .begin => runtime.revanaDirectPolResolverBegin resolver guest
  | .poll => runtime.revanaDirectPolResolverPoll resolver guest
  | .cancel => runtime.revanaDirectPolResolverCancel resolver guest

end PolRuntime

/-! ## Runs -/

inductive ResolverServiceEvent where
  | guestRuns (act : Guest → Guest)
  | call (function : ResolverFunction) (resolver : DirectPolResolver)

def resolverServiceStep (runtime : PolRuntime) (guest : Guest) :
    ResolverServiceEvent → Guest × List ResolverRecord
  | .guestRuns act => (act guest, [])
  | .call function resolver => runtime.callResolver resolver guest function

def resolverServiceMachine (runtime : PolRuntime) :
    Machine Guest ResolverServiceEvent ResolverRecord where
  step := resolverServiceStep runtime

/-! ## What the network state is made of -/

/-- The guest address that tells whether a part of the network state is up, and
its size. -/
def polWord : PolStage → UInt32 × ℕ
  | .resolverService => (polResolverServiceReady, 4)
  | .session => (polSessionPointer, 4)
  | .plaintext => (polConfigCipherEnabled, 1)
  | .networkAvailable => (polNetworkAvailable, 4)

namespace PolRuntime

variable (runtime : PolRuntime)

def SameWord (key : PolStage) (left right : Guest) : Prop :=
  ∀ index < (polWord key).2,
    left.memory (runtime.translateVirtual (polWord key).1 + index) =
      right.memory (runtime.translateVirtual (polWord key).1 + index)

def NetworkReady (guest : Guest) : Prop :=
  ∀ stage ∈ runtime.networkStages, stage.holds guest = true

/-- What is up in the first guest is up in the second. -/
def KeptUp (before after : Guest) : Prop :=
  ∀ stage ∈ runtime.networkStages, stage.holds before = true →
    stage.holds after = true

/-- Written bytes are apart from a word of the network state. -/
def WordApart (key : PolStage) (pointer size : ℕ) : Prop :=
  runtime.translateVirtual (polWord key).1 + (polWord key).2 ≤ pointer ∨
    pointer + size ≤ runtime.translateVirtual (polWord key).1

/-- The guest's own code leaves up what is up, whether it runs between the
calls or as the original of one; and it polls into a buffer of its own. -/
def GuestKeepsNetwork (guest : Guest) : ResolverServiceEvent → Prop
  | .guestRuns act => runtime.KeptUp guest (act guest)
  | .call function resolver =>
      if isDirectCall runtime.translateVirtual guest function then
        function = .poll → ∀ key,
          runtime.WordApart key
              (runtime.translateVirtual (u32 guest.registers.r4)) 20 ∧
            runtime.WordApart key
              (runtime.translateVirtual (u32 guest.registers.r4 + 4)) 4
      else
        runtime.KeptUp guest (runtime.callOriginalPolResolver
          (resolver.original function) guest)

instance (key : PolStage) (pointer size : ℕ) :
    Decidable (runtime.WordApart key pointer size) :=
  inferInstanceAs (Decidable (_ ∨ _))

variable {runtime}

theorem initializedWord_congr
    {key : PolStage} {word initializer : UInt32}
    {arguments : Registers → Registers} {accepts : Guest → Bool}
    (hword : polWord key = (word, 4)) {left right : Guest}
    (hsame : runtime.SameWord key left right) :
    (runtime.initializedWord key word initializer arguments accepts).holds
        left =
      (runtime.initializedWord key word initializer arguments accepts).holds
        right := by
  have hbyte (index : ℕ) (hindex : index < 4) :
      left.memory (runtime.translateVirtual word + index) =
        right.memory (runtime.translateVirtual word + index) := by
    have hindexed := hsame index
    rw [hword] at hindexed
    exact hindexed hindex
  have hfirst := hbyte 0 (by decide)
  rw [Nat.add_zero] at hfirst
  have hload : left.memory.loadWord (runtime.translateVirtual word) =
      right.memory.loadWord (runtime.translateVirtual word) := by
    unfold Memory.loadWord
    rw [hbyte 3 (by decide), hbyte 2 (by decide), hbyte 1 (by decide), hfirst]
  simp only [initializedWord, hload]

theorem holds_congr
    {left right : Guest} {stage : Stage Guest PolStage}
    (hstage : stage ∈ runtime.networkStages)
    (hsame : runtime.SameWord stage.key left right) :
    stage.holds left = stage.holds right := by
  simp only [networkStages, List.mem_cons, List.not_mem_nil, or_false]
    at hstage
  rcases hstage with rfl | rfl | rfl | rfl
  · exact initializedWord_congr rfl hsame
  · exact initializedWord_congr rfl hsame
  · have hbyte : left.memory
          (runtime.translateVirtual polConfigCipherEnabled + 0) =
        right.memory (runtime.translateVirtual polConfigCipherEnabled + 0) :=
      hsame 0 (Nat.lt_succ_self 0)
    rw [Nat.add_zero] at hbyte
    simp only [plaintext, hbyte]
  · exact initializedWord_congr rfl hsame

theorem sameWord_store
    {key : PolStage} {guest : Guest} {pointer : ℕ} {bytes : List UInt8}
    (hapart : runtime.WordApart key pointer bytes.length)
    (registers : Registers) :
    runtime.SameWord key guest
      ⟨registers, guest.memory.store pointer bytes⟩ := by
  intro index hindex
  refine (Memory.store_of_outside ?_).symm
  unfold WordApart at hapart
  omega

theorem keptUp_of_sameWords
    {before after : Guest}
    (hsame : ∀ key, runtime.SameWord key before after) :
    runtime.KeptUp before after := by
  intro stage hstage hholds
  rw [← holds_congr hstage (hsame stage.key)]
  exact hholds

theorem keptUp_of_memory
    {before after : Guest} (hmemory : after.memory = before.memory) :
    runtime.KeptUp before after :=
  keptUp_of_sameWords fun _ _ _ => by rw [hmemory]

theorem networkStages_nodup :
    (runtime.networkStages.map Stage.key).Nodup := by
  show [PolStage.resolverService, .session, .plaintext,
    .networkAvailable].Nodup
  decide

theorem exists_stage (key : PolStage) :
    ∃ stage ∈ runtime.networkStages, stage.key = key := by
  cases key with
  | resolverService =>
      exact ⟨runtime.resolverService, by simp [networkStages], rfl⟩
  | session => exact ⟨runtime.session, by simp [networkStages], rfl⟩
  | plaintext => exact ⟨runtime.plaintext, by simp [networkStages], rfl⟩
  | networkAvailable =>
      exact ⟨runtime.networkAvailable, by simp [networkStages], rfl⟩

end PolRuntime

/-! ## Bringing the network state up once -/

def ResolverRecord.isNetwork : ResolverRecord → Bool
  | .initialized _ _ => true
  | .began _ => true
  | _ => false

/-- A begin that succeeded leaves nothing to be initialized. -/
def SettledAfter (before : List ResolverRecord) (record : ResolverRecord) :
    Prop :=
  .began true ∈ before →
    record ≠ .began false ∧ ∀ stage worked, record ≠ .initialized stage worked

structure NetworkHistory (runtime : PolRuntime) (guest : Guest)
    (records : List ResolverRecord) : Prop where
  began : .began true ∈ records →
    runtime.kernelAvailable = true ∧ runtime.NetworkReady guest
  worked : ∀ stage ∈ runtime.networkStages,
    .initialized stage.key true ∈ records → stage.holds guest = true
  once : ∀ stage, records.count (.initialized stage true) ≤ 1
  settled : Machine.Justified SettledAfter records

section History

variable {runtime : PolRuntime} {guest : Guest}
  {records : List ResolverRecord}

theorem networkHistory_nil : NetworkHistory runtime guest [] :=
  ⟨by simp, by simp, by simp, Machine.justified_nil _⟩

/-- Whatever leaves up what is up and does not touch the network state. -/
theorem NetworkHistory.quiet
    (hhistory : NetworkHistory runtime guest records) {next : Guest}
    (hkept : runtime.KeptUp guest next) {more : List ResolverRecord}
    (hmore : ∀ record ∈ more, record.isNetwork = false) :
    NetworkHistory runtime next (records ++ more) := by
  have hold {record : ResolverRecord} (hnetwork : record.isNetwork = true)
      (hmem : record ∈ records ++ more) : record ∈ records := by
    rcases List.mem_append.mp hmem with hbefore | hnew
    · exact hbefore
    · rw [hmore record hnew] at hnetwork
      cases hnetwork
  refine ⟨?_, ?_, ?_, ?_⟩
  · intro hbegan
    obtain ⟨hkernel, hready⟩ := hhistory.began (hold rfl hbegan)
    exact ⟨hkernel, fun stage hstage => hkept stage hstage (hready stage hstage)⟩
  · intro stage hstage hworked
    exact hkept stage hstage (hhistory.worked stage hstage (hold rfl hworked))
  · intro stage
    have hnone : more.count (.initialized stage true) = 0 :=
      List.count_eq_zero.mpr fun hmem => by cases hmore _ hmem
    rw [List.count_append, hnone]
    exact hhistory.once stage
  · refine hhistory.settled.append_of_forall ?_
    rintro record hrecord before -
    have hplain := hmore record hrecord
    refine ⟨?_, ?_⟩
    · rintro rfl
      cases hplain
    · rintro stage worked rfl
      cases hplain

/-- The records of a begin for the retail lobby host. -/
def beginRecords (ensured : Established Guest PolStage) :
    List ResolverRecord :=
  ensured.repairs.map (fun attempt => .initialized attempt.1 attempt.2) ++
    [.began ensured.ready]

theorem mem_beginRecords
    {ensured : Established Guest PolStage} {stage : PolStage} {worked : Bool} :
    .initialized stage worked ∈ beginRecords ensured ↔
      (stage, worked) ∈ ensured.repairs := by
  simp [beginRecords]

theorem began_mem_beginRecords
    {ensured : Established Guest PolStage} {ready : Bool} :
    .began ready ∈ beginRecords ensured ↔ ready = ensured.ready := by
  simp [beginRecords]

/-- Its end is the last record of a begin. -/
theorem began_not_mem_of_split
    {ensured : Established Guest PolStage} {ready : Bool}
    {before after : List ResolverRecord} {record : ResolverRecord}
    (hsplit : beginRecords ensured = before ++ record :: after) :
    .began ready ∉ before := by
  intro hmem
  have hlast := congrArg List.dropLast hsplit
  rw [beginRecords, List.dropLast_concat,
    List.dropLast_append_of_ne_nil (by simp)] at hlast
  have hattempt : .began ready ∈ ensured.repairs.map
      fun attempt => ResolverRecord.initialized attempt.1 attempt.2 := by
    rw [hlast]
    exact List.mem_append_left _ hmem
  simp at hattempt

theorem count_beginRecords
    (ensured : Established Guest PolStage) (stage : PolStage) :
    (beginRecords ensured).count (.initialized stage true) =
      ensured.repairs.count (stage, true) := by
  have hinjective : Function.Injective
      fun attempt : PolStage × Bool =>
        ResolverRecord.initialized attempt.1 attempt.2 := by
    rintro ⟨left, first⟩ ⟨right, second⟩ hsame
    cases hsame
    rfl
  rw [beginRecords, List.count_append,
    ← List.count_map_of_injective ensured.repairs _ hinjective]
  simp

theorem ensure_eq
    (hkernel : runtime.kernelAvailable = true) :
    runtime.ensureDirectPolNetworkState guest =
      establish runtime.networkStages guest := by
  simp [PolRuntime.ensureDirectPolNetworkState, hkernel]

theorem NetworkHistory.begin
    (hhistory : NetworkHistory runtime guest records)
    (hkeep : KeepEachOther runtime.networkStages)
    (hkernel : runtime.kernelAvailable = true) {next : Guest}
    (hmemory : next.memory =
      (establish runtime.networkStages guest).state.memory) :
    NetworkHistory runtime next
      (records ++ beginRecords (establish runtime.networkStages guest)) := by
  have hkeys := @PolRuntime.networkStages_nodup runtime
  have hsame := @PolRuntime.keptUp_of_memory runtime _ _ hmemory
  generalize hensured : establish runtime.networkStages guest = ensured
    at hmemory hsame ⊢
  have hrepairs : (ensured.repairs.map Prod.fst).Nodup := by
    rw [← hensured]
    exact repairs_sublist.nodup hkeys
  have hnone (stage : Stage Guest PolStage)
      (hstage : stage ∈ runtime.networkStages)
      (hholds : stage.holds guest = true) :
      stage.key ∉ ensured.repairs.map Prod.fst := by
    rw [← hensured]
    exact (establish_of_mem hkeep hkeys hstage hholds).2
  refine ⟨?_, ?_, ?_, ?_⟩
  · intro hbegan
    refine ⟨hkernel, fun stage hstage => hsame stage hstage ?_⟩
    rw [← hensured]
    rcases List.mem_append.mp hbegan with hold | hnew
    · exact (establish_of_mem hkeep hkeys hstage
        ((hhistory.began hold).2 stage hstage)).1
    · have hready := began_mem_beginRecords.mp hnew
      exact establish_holds hkeep hkeys (hensured ▸ hready.symm) stage hstage
  · intro stage hstage hworked
    refine hsame stage hstage ?_
    rw [← hensured]
    rcases List.mem_append.mp hworked with hold | hnew
    · exact (establish_of_mem hkeep hkeys hstage
        (hhistory.worked stage hstage hold)).1
    · exact establish_of_worked hkeep hkeys hstage
        (hensured ▸ mem_beginRecords.mp hnew)
  · intro key
    obtain ⟨stage, hstage, rfl⟩ := @PolRuntime.exists_stage runtime key
    rw [List.count_append, count_beginRecords]
    by_cases hbefore : .initialized stage.key true ∈ records
    · have hzero : ensured.repairs.count (stage.key, true) = 0 := by
        refine List.count_eq_zero.mpr fun hmem => ?_
        exact hnone stage hstage (hhistory.worked stage hstage hbefore)
          (List.mem_map_of_mem hmem)
      rw [hzero]
      exact hhistory.once stage.key
    · rw [List.count_eq_zero.mpr hbefore, Nat.zero_add]
      exact List.nodup_iff_count_le_one.mp (hrepairs.of_map _) _
  · refine hhistory.settled.append ?_
    intro before record after hsplit hbegan
    rcases List.mem_append.mp hbegan with hold | hnew
    · have hagain : ensured = ⟨true, guest, []⟩ := by
        rw [← hensured]
        exact establish_of_holds (hhistory.began hold).2
      rw [hagain] at hsplit
      have hrecord : record ∈ beginRecords
          (⟨true, guest, []⟩ : Established Guest PolStage) := by
        rw [hsplit]
        simp
      obtain rfl : record = .began true := by
        simpa [beginRecords] using hrecord
      exact ⟨by simp, by simp⟩
    · exact absurd hnew (began_not_mem_of_split hsplit)

theorem NetworkHistory.noKernel
    (hhistory : NetworkHistory runtime guest records)
    (hkernel : runtime.kernelAvailable = false) {next : Guest}
    (hmemory : next.memory = guest.memory) :
    NetworkHistory runtime next (records ++ [.began false]) := by
  have hnever : .began true ∉ records := by
    intro hbegan
    rw [(hhistory.began hbegan).1] at hkernel
    cases hkernel
  have hkept := @PolRuntime.keptUp_of_memory runtime _ _ hmemory
  refine ⟨?_, ?_, ?_, ?_⟩
  · intro hbegan
    exact absurd (by simpa using hbegan) hnever
  · intro stage hstage hworked
    exact hkept stage hstage
      (hhistory.worked stage hstage (by simpa using hworked))
  · intro stage
    simpa using hhistory.once stage
  · exact hhistory.settled.snoc fun hbegan => absurd hbegan hnever

/-- A call that is not direct is the call of the original. -/
theorem callResolver_original
    {resolver : DirectPolResolver} {function : ResolverFunction}
    (hdirect : isDirectCall runtime.translateVirtual guest function = false) :
    runtime.callResolver resolver guest function =
      (runtime.callOriginalPolResolver (resolver.original function) guest,
        [.original function]) := by
  cases function with
  | begin => exact if_pos hdirect
  | poll => exact if_pos (by simpa [isDirectCall] using hdirect)
  | cancel => exact if_pos (by simpa [isDirectCall] using hdirect)

/-- The memory after a direct poll into a buffer. -/
def PolRuntime.answeredMemory (runtime : PolRuntime) (memory : Memory)
    (buffer ipv4 : UInt32) : Memory :=
  (memory.store (runtime.translateVirtual buffer) (List.replicate 20 0)).storeWord
    (runtime.translateVirtual (buffer + 4)) ipv4

theorem callResolver_poll
    {resolver : DirectPolResolver}
    (hdirect : isDirectCall runtime.translateVirtual guest .poll = true)
    (hbuffer : u32 guest.registers.r4 ≠ 0) :
    runtime.callResolver resolver guest .poll =
      (⟨{ guest.registers with r3 := 1 },
        runtime.answeredMemory guest.memory (u32 guest.registers.r4)
          resolver.ipv4⟩, [.answered (u32 guest.registers.r4)]) := by
  have hhandle : ¬u32 guest.registers.r3 ≠ directPolResolverHandle :=
    not_not.mpr (by simpa [isDirectCall] using hdirect)
  show runtime.revanaDirectPolResolverPoll resolver guest = _
  rw [PolRuntime.revanaDirectPolResolverPoll, if_neg hhandle]
  exact if_neg hbuffer

theorem callResolver_poll_refused
    {resolver : DirectPolResolver}
    (hdirect : isDirectCall runtime.translateVirtual guest .poll = true)
    (hbuffer : u32 guest.registers.r4 = 0) :
    runtime.callResolver resolver guest .poll =
      (guest.write (.r3 (-22)), [.refused]) := by
  have hhandle : ¬u32 guest.registers.r3 ≠ directPolResolverHandle :=
    not_not.mpr (by simpa [isDirectCall] using hdirect)
  show runtime.revanaDirectPolResolverPoll resolver guest = _
  rw [PolRuntime.revanaDirectPolResolverPoll, if_neg hhandle]
  exact if_pos hbuffer

theorem callResolver_cancel
    {resolver : DirectPolResolver}
    (hdirect : isDirectCall runtime.translateVirtual guest .cancel = true) :
    runtime.callResolver resolver guest .cancel =
      (guest.write (.r3 0), [.cancelled]) :=
  if_neg (not_not.mpr (by simpa [isDirectCall] using hdirect))

theorem callResolver_begin
    {resolver : DirectPolResolver}
    (hdirect : isDirectCall runtime.translateVirtual guest .begin = true) :
    let ensured := runtime.ensureDirectPolNetworkState guest
    runtime.callResolver resolver guest .begin =
      (ensured.state.write (.r3 (if ensured.ready then
        directPolResolverHandle.toUInt64 else -2071)),
        beginRecords ensured) := by
  intro ensured
  show runtime.revanaDirectPolResolverBegin resolver guest = _
  have hhost : ¬guestStringEquals runtime.translateVirtual guest.memory
      (u32 guest.registers.r3) retailLobbyHostname = false := by
    rw [Bool.not_eq_false]
    exact hdirect
  rw [PolRuntime.revanaDirectPolResolverBegin, if_neg hhost]
  cases hready : ensured.ready with
  | false => simp [ensured, beginRecords, hready]
  | true => simp [ensured, beginRecords, hready]

theorem sameWord_answered
    {buffer ipv4 : UInt32} {key : PolStage}
    (hzeros : runtime.WordApart key (runtime.translateVirtual buffer) 20)
    (haddress : runtime.WordApart key
      (runtime.translateVirtual (buffer + 4)) 4) (registers : Registers) :
    runtime.SameWord key guest
      ⟨registers, runtime.answeredMemory guest.memory buffer ipv4⟩ := by
  have hfirst := @PolRuntime.sameWord_store runtime key guest _
    (List.replicate 20 0) hzeros registers
  have hsecond := @PolRuntime.sameWord_store runtime key
    ⟨registers, guest.memory.store (runtime.translateVirtual buffer)
      (List.replicate 20 0)⟩ _ (le32Bytes ipv4).reverse haddress registers
  intro index hindex
  exact (hfirst index hindex).trans (hsecond index hindex)

theorem NetworkHistory.step
    (hhistory : NetworkHistory runtime guest records)
    (hkeep : KeepEachOther runtime.networkStages)
    {event : ResolverServiceEvent}
    (hevent : runtime.GuestKeepsNetwork guest event) :
    NetworkHistory runtime (resolverServiceStep runtime guest event).1
      (records ++ (resolverServiceStep runtime guest event).2) := by
  cases event with
  | guestRuns act => exact hhistory.quiet hevent (by simp [resolverServiceStep])
  | call function resolver =>
      rw [resolverServiceStep]
      rw [PolRuntime.GuestKeepsNetwork] at hevent
      cases hdirect :
          isDirectCall runtime.translateVirtual guest function with
      | false =>
          rw [hdirect] at hevent
          rw [callResolver_original hdirect]
          exact hhistory.quiet hevent (by simp [ResolverRecord.isNetwork])
      | true =>
          rw [hdirect] at hevent
          cases function with
          | begin =>
              rw [callResolver_begin hdirect]
              cases hkernel : runtime.kernelAvailable with
              | false =>
                  have hnone : runtime.ensureDirectPolNetworkState guest =
                      ⟨false, guest, []⟩ := if_pos hkernel
                  rw [hnone]
                  exact hhistory.noKernel hkernel rfl
              | true =>
                  rw [ensure_eq hkernel]
                  exact hhistory.begin hkeep hkernel rfl
          | poll =>
              by_cases hbuffer : u32 guest.registers.r4 = 0
              · rw [callResolver_poll_refused hdirect hbuffer]
                refine hhistory.quiet ?_ (by simp [ResolverRecord.isNetwork])
                exact PolRuntime.keptUp_of_memory rfl
              · rw [callResolver_poll hdirect hbuffer]
                refine hhistory.quiet ?_ (by simp [ResolverRecord.isNetwork])
                refine PolRuntime.keptUp_of_sameWords fun key => ?_
                exact sameWord_answered (hevent rfl key).1 (hevent rfl key).2 _
          | cancel =>
              rw [callResolver_cancel hdirect]
              refine hhistory.quiet ?_ (by simp [ResolverRecord.isNetwork])
              exact PolRuntime.keptUp_of_memory rfl

end History

/-- Provided that PolCore's initializers do not undo each other's work and the
guest leaves the network state up, every part of it is initialized with success
at most once in a run, however many lookups begin; and from the first begin
that succeeded on the state is up and every begin succeeds without an
initializer. -/
theorem resolver_initializes_once
    (runtime : PolRuntime) (hkeep : KeepEachOther runtime.networkStages)
    (guest : Guest) (events : List ResolverServiceEvent)
    (halong : (resolverServiceMachine runtime).AlongRun
      runtime.GuestKeepsNetwork guest events) :
    let outcome := (resolverServiceMachine runtime).run guest events
    (∀ stage, outcome.2.count (.initialized stage true) ≤ 1) ∧
      (.began true ∈ outcome.2 → runtime.NetworkReady outcome.1) ∧
      ∀ before record after, outcome.2 = before ++ record :: after →
        .began true ∈ before → record ≠ .began false ∧
          ∀ stage worked, record ≠ .initialized stage worked := by
  intro outcome
  have hhistory : NetworkHistory runtime outcome.1 outcome.2 := by
    refine Machine.run_history_along (NetworkHistory runtime) ?_
      networkHistory_nil halong
    intro state history event hevent hbefore
    exact hbefore.step hkeep hevent
  exact ⟨hhistory.once, fun hbegan => (hhistory.began hbegan).2,
    hhistory.settled⟩

section Example

def initializerOf : UInt32 → Option PolStage := fun address =>
  if address = polResolverServiceInitializer then some .resolverService
  else if address = polSessionInitializer then some .session
  else if address = polNetworkAvailableSetter then some .networkAvailable
  else none

/-- A PolCore whose initializers set their words. -/
def polCore : PolRuntime where
  translateVirtual := UInt32.toNat
  kernelAvailable := true
  getFunction address := (initializerOf address).map fun key guest =>
    guest.write (.memory (.word (polWord key).1.toNat 1))

/-- The bytes that the repair of a stage writes. -/
def repairBytes : PolStage → List UInt8
  | .plaintext => [0]
  | _ => (le32Bytes 1).reverse

theorem polCore_repair
    {stage : Stage Guest PolStage} (hstage : stage ∈ polCore.networkStages)
    {guest repaired : Guest} (hrepair : stage.repair guest = some repaired) :
    repaired.memory = guest.memory.store (polWord stage.key).1.toNat
      (repairBytes stage.key) := by
  simp only [PolRuntime.networkStages, List.mem_cons, List.not_mem_nil,
    or_false] at hstage
  rcases hstage with rfl | rfl | rfl | rfl
  all_goals
    obtain rfl := Option.some.inj hrepair
    rfl

theorem polCore_keep : KeepEachOther polCore.networkStages := by
  intro stage hstage other hother hkey guest repaired hrepair hholds
  have hapart : polCore.WordApart stage.key (polWord other.key).1.toNat
      (repairBytes other.key).length := by
    generalize other.key = writer at hkey
    generalize stage.key = reader at hkey
    unfold PolRuntime.WordApart
    cases writer <;> cases reader <;> first
      | exact absurd rfl hkey
      | decide
  have hsame := @PolRuntime.sameWord_store polCore stage.key guest _ _ hapart
    repaired.registers
  rw [← polCore_repair hother hrepair] at hsame
  rw [← PolRuntime.holds_congr hstage hsame]
  exact hholds

/-- The retail lobby host at 256, with the cipher byte set. -/
def lookupGuest : Guest where
  registers := {
    r1 := 0
    r3 := 256
    r4 := 0
    r5 := 0
    r7 := 0
    r10 := 0
    r11 := 0
    r27 := 0
    r29 := 0
    r30 := 0 }
  memory := Memory.store (Memory.store (fun _ => 0) 256 retailLobbyHostname)
    polConfigCipherEnabled.toNat [1]

def exampleLookups : List ResolverServiceEvent :=
  [.call .begin {},
    .guestRuns fun guest =>
      { guest with registers := { guest.registers with r4 := 512 } },
    .call .poll { ipv4 := 0x7F000001 },
    .guestRuns fun guest => guest.write (.r3 256), .call .begin {}]

theorem exampleLookups_records :
    ((resolverServiceMachine polCore).run lookupGuest
      exampleLookups).2 =
      [.initialized .resolverService true, .initialized .session true,
        .initialized .plaintext true, .initialized .networkAvailable true,
        .began true, .answered 512, .began true] := by
  decide +kernel

theorem resolver_initializes_once_exampleLookups :
    let outcome := (resolverServiceMachine polCore).run lookupGuest
      exampleLookups
    .began true ∈ outcome.2 ∧ polCore.NetworkReady outcome.1 ∧
      ∀ stage, outcome.2.count (.initialized stage true) ≤ 1 := by
  have halong : (resolverServiceMachine polCore).AlongRun
      polCore.GuestKeepsNetwork lookupGuest exampleLookups := by
    refine ⟨?_, PolRuntime.keptUp_of_memory rfl, ?_,
      PolRuntime.keptUp_of_memory rfl, ?_, trivial⟩
    · rw [PolRuntime.GuestKeepsNetwork, if_pos (by decide +kernel)]
      exact fun hpoll => by cases hpoll
    · rw [PolRuntime.GuestKeepsNetwork, if_pos (by decide +kernel)]
      rintro - key
      cases key <;> decide +kernel
    · rw [PolRuntime.GuestKeepsNetwork, if_pos (by decide +kernel)]
      exact fun hpoll => by cases hpoll
  have hbegan : .began true ∈ ((resolverServiceMachine polCore).run lookupGuest
      exampleLookups).2 := by
    rw [exampleLookups_records]
    simp
  obtain ⟨honce, hready, -⟩ :=
    resolver_initializes_once polCore polCore_keep lookupGuest exampleLookups
      halong
  exact ⟨hbegan, hready hbegan, honce⟩

end Example

end Revana.Runtime
