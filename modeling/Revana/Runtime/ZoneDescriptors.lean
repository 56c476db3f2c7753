import Revana.Runtime.TracePassivity

/-!
# The synthesized descriptors

A lookup that fails while no connection is active may be answered from the
selected record.  The answer is an active connection, so the next lookup finds
one: as long as the guest keeps a connection, descriptors are synthesized
once in a run.
-/

namespace Revana.Runtime

open Foundation

/-! ## The endpoint -/

/-- The halves overlap in the byte that the record has of its own. -/
theorem descriptorEndpoint_eq (high low : UInt16) (byte : UInt8) :
    descriptorEndpoint high low byte =
      (low.toUInt32 <<< 16) ||| (byte.toUInt32 <<< 24) ||| high.toUInt32 := by
  have hsum : (byte.toUInt32 <<< 16) + high.toUInt32 =
      (byte.toUInt32 <<< 16) ||| high.toUInt32 := by
    rw [← UInt32.toBitVec_inj, UInt32.toBitVec_add, UInt32.toBitVec_or]
    apply BitVec.add_eq_or_of_and_eq_zero
    apply BitVec.eq_of_getLsbD_eq
    intro index hindex
    interval_cases index <;> simp
  unfold descriptorEndpoint rotateLeft
  rw [hsum, ← UInt32.toBitVec_inj]
  apply BitVec.eq_of_getLsbD_eq
  intro index hindex
  interval_cases index <;> simp

/-! ## The tables -/

theorem Memory.store_store
    (memory : Memory) (pointer : ℕ) (first second : List UInt8) :
    (memory.store pointer first).store (pointer + first.length) second =
      memory.store pointer (first ++ second) := by
  funext index
  by_cases hfirst : pointer ≤ index ∧ index < pointer + first.length
  · obtain ⟨offset, rfl⟩ := Nat.exists_eq_add_of_le hfirst.1
    have hoffset : offset < first.length := by omega
    have hboth : offset < (first ++ second).length := by
      rw [List.length_append]
      omega
    rw [store_of_outside (by omega), store_inside hoffset, store_inside hboth,
      byteAt_append hoffset]
  · by_cases hsecond : pointer + first.length ≤ index ∧
        index < pointer + first.length + second.length
    · obtain ⟨offset, rfl⟩ := Nat.exists_eq_add_of_le hsecond.1
      have hoffset : offset < second.length := by omega
      have hboth : first.length + offset < (first ++ second).length := by
        rw [List.length_append]
        omega
      rw [store_inside hoffset, Nat.add_assoc, store_inside hboth]
      simp [byteAt, List.getElem?_append_right]
    · have hlength : (first ++ second).length = first.length + second.length :=
        List.length_append
      rw [store_of_outside (by omega), store_of_outside (by omega),
        store_of_outside (by omega)]

/-- The fields of a connection are stored one by one. -/
private theorem store_fields
    (memory : Memory) (pointer : ℕ) {flags type endpoint identifier : List UInt8}
    (token : List UInt8) (hflags : flags.length = 2) (htype : type.length = 2)
    (hendpoint : endpoint.length = 4) (hidentifier : identifier.length = 8) :
    ((((memory.store pointer flags).store (pointer + 2) type).store
        (pointer + 4) endpoint).store (pointer + 8) identifier).store
        (pointer + 16) token =
      memory.store pointer (flags ++ type ++ endpoint ++ identifier ++ token) := by
  rw [← Memory.store_store, ← Memory.store_store, ← Memory.store_store,
    ← Memory.store_store]
  simp only [List.length_append, hflags, htype, hendpoint, hidentifier]

/-- The endpoints and the connections behind them lie in one piece. -/
def TablesMapped (translateVirtual : UInt32 → ℕ) : Prop :=
  ∀ offset < 16032, translateVirtual
      (polLocalEndpointTable + UInt32.ofNat offset) =
    translateVirtual polLocalEndpointTable + offset

/-- What an active connection to an endpoint looks like. -/
def connectionBytes (endpoint identifier : UInt32) : List UInt8 :=
  [0, 1] ++ [0, 1] ++ (le32Bytes endpoint).reverse ++
    ([0, 0, 0, 0] ++ (le32Bytes identifier).reverse) ++ List.replicate 8 0

def localEndpointBytes : List UInt8 := [0, 0, 0, 0, 0, 0, 0, 1]

section Tables

variable (translateVirtual : UInt32 → ℕ)

/-- The record that the guest selected. -/
def selectedRecord (guest : Guest) : UInt32 :=
  guest.memory.loadWord (translateVirtual ffxiStatePointer) +
    u32 guest.registers.r29 * 140

def recordEndpoint (memory : Memory) (record : UInt32) : UInt32 :=
  ((memory.loadHalf (translateVirtual
      (record + descriptorEndpointLowOffset))).toUInt32 <<< 16) |||
    ((memory (translateVirtual
      (record + descriptorEndpointByteOffset))).toUInt32 <<< 24) |||
    (memory.loadHalf (translateVirtual
      (record + descriptorEndpointHighOffset))).toUInt32

/-- The memory with the descriptors of a record. -/
def synthesizedMemory (memory : Memory) (record : UInt32) : Memory :=
  (memory.store (translateVirtual polConnectionTable)
    (connectionBytes (recordEndpoint translateVirtual memory record)
      (memory.loadWord (translateVirtual
        (record + descriptorIdentifierOffset))))).store
    (translateVirtual polLocalEndpointTable) localEndpointBytes

variable {translateVirtual} (hmapped : TablesMapped translateVirtual)
include hmapped

theorem TablesMapped.connection {offset : ℕ} (hoffset : offset < 6656) :
    translateVirtual (polConnectionTable + UInt32.ofNat offset) =
      translateVirtual polLocalEndpointTable + 9376 + offset := by
  have hplace : polConnectionTable + UInt32.ofNat offset =
      polLocalEndpointTable + UInt32.ofNat (9376 + offset) := by
    have htable : polConnectionTable =
        polLocalEndpointTable + UInt32.ofNat 9376 := by decide
    rw [htable, UInt32.ofNat_add, UInt32.add_assoc]
  rw [hplace, hmapped _ (by omega), Nat.add_assoc]

theorem TablesMapped.table :
    translateVirtual polConnectionTable =
      translateVirtual polLocalEndpointTable + 9376 := by
  exact @TablesMapped.connection translateVirtual hmapped 0 (by decide)

omit hmapped in
private theorem double_word (pointer : ℕ) (value : UInt32) :
    MemoryWrite.double pointer value.toUInt64 =
      ⟨pointer, [0, 0, 0, 0] ++ (le32Bytes value).reverse⟩ := by
  have hhigh : (value.toUInt64 >>> 32).toUInt32 = 0 := by
    rw [← UInt32.toNat_inj, UInt64.toNat_toUInt32, UInt64.toNat_shiftRight,
      UInt32.toNat_toUInt64]
    have hvalue := value.toNat_lt
    simp
    omega
  rw [MemoryWrite.double, hhigh, UInt32.toUInt32_toUInt64]
  rfl

theorem apply_synthesizeDescriptors (guest : Guest) (record : UInt32) :
    guest.apply (synthesizeDescriptors translateVirtual guest.memory record) =
      { registers := { guest.registers with r3 := 0 }
        memory :=
          synthesizedMemory translateVirtual guest.memory record } := by
  have hhalf (pointer : ℕ) :
      MemoryWrite.half pointer 1 = ⟨pointer, [0, 1]⟩ := rfl
  have hzero (pointer : ℕ) :
      MemoryWrite.double pointer 0 = ⟨pointer, List.replicate 8 0⟩ := rfl
  have hone (pointer : ℕ) :
      MemoryWrite.double pointer 1 = ⟨pointer, localEndpointBytes⟩ := rfl
  have htype := @TablesMapped.connection translateVirtual hmapped 2 (by decide)
  have hendpoint :=
    @TablesMapped.connection translateVirtual hmapped 4 (by decide)
  have hidentifier :=
    @TablesMapped.connection translateVirtual hmapped 8 (by decide)
  have htoken :=
    @TablesMapped.connection translateVirtual hmapped 16 (by decide)
  rw [← hmapped.table] at htype hendpoint hidentifier htoken
  have hmemory := store_fields guest.memory
    (translateVirtual polConnectionTable) (List.replicate 8 0)
    (show [0, 1].length = 2 from rfl) (show [0, 1].length = 2 from rfl)
    (show (le32Bytes (recordEndpoint translateVirtual guest.memory
      record)).reverse.length = 4 by simp)
    (show ([0, 0, 0, 0] ++ (le32Bytes (guest.memory.loadWord (translateVirtual
      (record + descriptorIdentifierOffset)))).reverse).length = 8 by simp)
  unfold synthesizeDescriptors
  rw [descriptorEndpoint_eq, hhalf, hhalf, hzero, hone]
  dsimp only
  rw [double_word, synthesizedMemory, connectionBytes, ← hmemory, ← htype,
    ← hendpoint, ← hidentifier, ← htoken]
  rfl

theorem loadHalf_synthesizedMemory
    (memory : Memory) (record : UInt32) {index : ℕ}
    (hindex : index < polConnectionCount) :
    let connection := translateVirtual
      (polConnectionTable + index.toUInt32 * polConnectionSize)
    (synthesizedMemory translateVirtual memory record).loadHalf connection =
      if index = 0 then 1 else memory.loadHalf connection := by
  intro connection
  have hlength (endpoint identifier : UInt32) :
      (connectionBytes endpoint identifier).length = 24 := by
    simp [connectionBytes]
  have hsmall : index < 64 := hindex
  have hconnection : connection =
      translateVirtual polLocalEndpointTable + 9376 + index * 104 := by
    have hsize : index.toUInt32 * polConnectionSize =
        UInt32.ofNat (index * 104) := by
      rw [UInt32.ofNat_mul]
      rfl
    show translateVirtual (_ + index.toUInt32 * polConnectionSize) = _
    rw [hsize, hmapped.connection (by omega)]
  have hlocal (start : Memory) (place : ℕ)
      (hplace : translateVirtual polLocalEndpointTable + 9376 ≤ place) :
      start.store (translateVirtual polLocalEndpointTable) localEndpointBytes
        place = start place := by
    apply Memory.store_of_outside
    simp only [localEndpointBytes, List.length_cons, List.length_nil]
    omega
  unfold synthesizedMemory Memory.loadHalf
  rw [hlocal _ _ (by omega), hlocal _ _ (by omega)]
  by_cases hfirst : index = 0
  · subst hfirst
    generalize hbytes : connectionBytes
      (recordEndpoint translateVirtual memory record)
      (memory.loadWord (translateVirtual
        (record + descriptorIdentifierOffset))) = bytes
    have hhead := @Memory.store_inside memory
      (translateVirtual polConnectionTable) 0 bytes
      (by rw [← hbytes, hlength]; decide)
    have hnext := @Memory.store_inside memory
      (translateVirtual polConnectionTable) 1 bytes
      (by rw [← hbytes, hlength]; decide)
    rw [Nat.add_zero] at hhead
    have hflags : byteAt bytes 0 = 0 ∧ byteAt bytes 1 = 1 := by
      rw [← hbytes]
      exact ⟨rfl, rfl⟩
    rw [if_pos rfl, hconnection, ← hmapped.table, Nat.add_zero, hhead, hnext,
      hflags.1, hflags.2]
    decide
  · rw [if_neg hfirst, hconnection, hmapped.table,
      Memory.store_of_outside (by rw [hlength]; omega),
      Memory.store_of_outside (by rw [hlength]; omega)]

/-- The answer is the only active connection. -/
theorem activeConnections_synthesizedMemory
    {memory : Memory} (hidle : activeConnections translateVirtual memory = 0)
    (record : UInt32) :
    activeConnections translateVirtual
      (synthesizedMemory translateVirtual memory record) = 1 := by
  have hnone := List.countP_eq_zero.mp hidle
  unfold activeConnections
  have hrange : List.range polConnectionCount =
      0 :: (List.range 63).map Nat.succ := List.range_succ_eq_map
  have hactive : decide ((synthesizedMemory translateVirtual memory
      record).loadHalf (translateVirtual (polConnectionTable +
        (0 : ℕ).toUInt32 * polConnectionSize)) &&& 1 ≠ 0) = true := by
    rw [decide_eq_true_eq,
      loadHalf_synthesizedMemory hmapped memory record (by decide), if_pos rfl]
    decide
  rw [hrange, List.countP_cons, List.countP_eq_zero.mpr]
  · exact (Nat.zero_add _).trans (if_pos hactive)
  · intro index hmem
    obtain ⟨before, hbefore, rfl⟩ := List.mem_map.mp hmem
    have hlisted : before.succ < polConnectionCount :=
      Nat.succ_lt_succ (List.mem_range.mp hbefore)
    have hbelow := hnone before.succ (List.mem_range.mpr hlisted)
    dsimp only at hbelow ⊢
    rwa [loadHalf_synthesizedMemory hmapped memory record hlisted,
      if_neg (Nat.succ_ne_zero before)]

end Tables

/-! ## One lookup -/

/-- A lookup that failed without a connection was answered from the selected
record, and nothing else was touched. -/
structure Synthesized (translateVirtual : UInt32 → ℕ) (before after : Guest) :
    Prop where
  failed : s32 before.registers.r3 < 0
  idle : activeConnections translateVirtual before.memory = 0
  stateKnown : before.memory.loadWord (translateVirtual ffxiStatePointer) ≠ 0
  selected : u32 before.registers.r29 < 16
  registers : after.registers = { before.registers with r3 := 0 }
  memory : after.memory = synthesizedMemory translateVirtual before.memory
    (selectedRecord translateVirtual before)
  active : activeConnections translateVirtual after.memory = 1

section Lookups

variable {environment : HookEnvironment}

theorem zoneDescriptorLookup_cases
    (hmapped : TablesMapped environment.translateVirtual)
    (state : HookState) :
    let answered := hookStep environment state (.hook .zoneDescriptorLookup)
    (answered.2 = [] ∧ answered.1.guest = state.guest) ∨
      (answered.2.count (.write (.r3 0)) = 1 ∧
        Synthesized environment.translateVirtual state.guest
          answered.1.guest) := by
  intro answered
  have hguest : answered.1.guest = state.guest.apply
      (answered.2.filterMap HookOutput.guestWrite?) := rfl
  have houtputs : answered.2 = (revanaTraceZoneDescriptorLookup
      environment.translateVirtual environment.flags state.guest
      state.globals).2.map .write := rfl
  have hquiet (hnone : (revanaTraceZoneDescriptorLookup
      environment.translateVirtual environment.flags state.guest
      state.globals).2 = []) :
      answered.2 = [] ∧ answered.1.guest = state.guest := by
    rw [hguest, houtputs, hnone]
    exact ⟨rfl, rfl⟩
  unfold revanaTraceZoneDescriptorLookup at houtputs hquiet
  dsimp only at houtputs hquiet
  split at houtputs
  · rename_i hoff
    exact Or.inl (hquiet (by rw [if_pos hoff]))
  · rename_i hon
    rw [if_neg hon] at hquiet
    by_cases hunknown : state.guest.memory.loadWord
        (environment.translateVirtual ffxiStatePointer) = 0 ∨
          16 ≤ u32 state.guest.registers.r29
    · exact Or.inl (hquiet (by rw [if_pos hunknown]))
    · rw [if_neg hunknown] at houtputs hquiet
      by_cases hasked : s32 state.guest.registers.r3 < 0 ∧
          activeConnections environment.translateVirtual
            state.guest.memory = 0 ∧
          environment.flags.synthesizePostSelectionDescriptors = true
      · rw [if_pos hasked] at houtputs
        obtain ⟨hstate, hselected⟩ := not_or.mp hunknown
        have happly := apply_synthesizeDescriptors hmapped state.guest
          (selectedRecord environment.translateVirtual state.guest)
        have hafter : answered.1.guest = state.guest.apply
            (synthesizeDescriptors environment.translateVirtual
              state.guest.memory
              (selectedRecord environment.translateVirtual state.guest)) := by
          rw [hguest, houtputs, List.filterMap_map]
          exact congrArg _ List.filterMap_some
        rw [happly] at hafter
        refine Or.inr ⟨?_, ?_⟩
        · rw [houtputs]
          rfl
        · rw [hafter]
          exact {
            failed := hasked.1
            idle := hasked.2.1
            stateKnown := hstate
            selected := UInt32.not_le.mp hselected
            registers := rfl
            memory := rfl
            active := activeConnections_synthesizedMemory hmapped hasked.2.1 _ }
      · exact Or.inl (hquiet (by rw [if_neg hasked]))

/-- No other hook answers a lookup. -/
theorem r3_zero_not_mem
    {guest : Guest} {globals : Globals} {call : HookCall}
    (hother : call ≠ .zoneDescriptorLookup) :
    .write (.r3 0) ∉ (callHook environment guest globals call).2 := by
  cases call with
  | worldReceiveDecodeResult md5 => exact List.not_mem_nil
  | applyDirectMapCipherKey => simp [callHook]
  | worldSendTarget md5 => simp [callHook]
  | fourByteSocketReceive lookupSocket keyResponseMd5 characterListMd5 =>
      simp [callHook]
  | zoneDescriptorLookup => exact absurd rfl hother
  | postSelectionServicePoll =>
      simp only [callHook, revanaTracePostSelectionServicePoll]
      split
      · simp
      · exact List.not_mem_nil
  | serviceDispatchSlot1852 call =>
      simp only [callHook, revanaTraceServiceDispatchSlot1852]
      split
      · split <;> simp
      · simp

end Lookups

/-! ## Whole runs -/

/-- What runs besides the lookups leaves a connection if there is one. -/
def KeepsConnections (environment : HookEnvironment) (state : HookState)
    (event : HookEvent) : Prop :=
  event ≠ .hook .zoneDescriptorLookup →
    0 < activeConnections environment.translateVirtual state.guest.memory →
    0 < activeConnections environment.translateVirtual
      (hookStep environment state event).1.guest.memory

/-- Descriptors were synthesized at most once, and there is a connection if
they were. -/
structure DescriptorHistory (environment : HookEnvironment)
    (state : HookState) (outputs : List HookOutput) : Prop where
  once : outputs.count (.write (.r3 0)) ≤ 1
  connected : .write (.r3 0) ∈ outputs →
    0 < activeConnections environment.translateVirtual state.guest.memory

section Runs

variable {environment : HookEnvironment} {state : HookState}

theorem DescriptorHistory.step
    (hmapped : TablesMapped environment.translateVirtual)
    {outputs : List HookOutput} {event : HookEvent}
    (hkeeps : KeepsConnections environment state event)
    (hhistory : DescriptorHistory environment state outputs) :
    DescriptorHistory environment (hookStep environment state event).1
      (outputs ++ (hookStep environment state event).2) := by
  by_cases hlookup : event = .hook .zoneDescriptorLookup
  · subst hlookup
    rcases zoneDescriptorLookup_cases hmapped state with
      ⟨hnone, hguest⟩ | ⟨hone, hsynthesized⟩
    · rw [hnone, List.append_nil]
      refine ⟨hhistory.once, ?_⟩
      rw [hguest]
      exact hhistory.connected
    · have hfirst : .write (.r3 0) ∉ outputs := by
        intro hmem
        have hconnected := hhistory.connected hmem
        rw [hsynthesized.idle] at hconnected
        exact Nat.lt_irrefl 0 hconnected
      refine ⟨?_, fun _ => ?_⟩
      · rw [List.count_append, List.count_eq_zero.mpr hfirst, hone]
      · rw [hsynthesized.active]
        exact Nat.one_pos
  · have hother : .write (.r3 0) ∉ (hookStep environment state event).2 := by
      cases event with
      | guestRuns act => exact List.not_mem_nil
      | setTracing enabled => exact List.not_mem_nil
      | hook call =>
          exact r3_zero_not_mem fun hcall => hlookup (congrArg _ hcall)
    refine ⟨?_, fun hmem => ?_⟩
    · rw [List.count_append, List.count_eq_zero.mpr hother, Nat.add_zero]
      exact hhistory.once
    · have hbefore := (List.mem_append.mp hmem).resolve_right hother
      exact hkeeps hlookup (hhistory.connected hbefore)

theorem descriptorHistory_run
    (hmapped : TablesMapped environment.translateVirtual)
    {events : List HookEvent}
    (halong : (hookMachine environment).AlongRun
      (KeepsConnections environment) state events) :
    DescriptorHistory environment
      ((hookMachine environment).run state events).1
      ((hookMachine environment).run state events).2 := by
  have hstart : DescriptorHistory environment state [] :=
    ⟨Nat.zero_le 1, fun hmem => absurd hmem List.not_mem_nil⟩
  exact Machine.run_history_along (DescriptorHistory environment)
    (fun _ _ _ hkeeps hhistory => hhistory.step hmapped hkeeps) hstart halong

end Runs

/-- Descriptors are synthesized once in a run that keeps its connections; every
other lookup leaves the guest as it is. -/
theorem descriptors_synthesized_once
    (environment : HookEnvironment)
    (hmapped : TablesMapped environment.translateVirtual)
    (state : HookState) (events : List HookEvent)
    (halong : (hookMachine environment).AlongRun
      (KeepsConnections environment) state events) :
    let outcome := (hookMachine environment).run state events
    outcome.2.count (.write (.r3 0)) ≤ 1 ∧
      (.write (.r3 0) ∈ outcome.2 →
        0 < activeConnections environment.translateVirtual
          outcome.1.guest.memory) ∧
      ∀ before after,
        events = before ++ .hook .zoneDescriptorLookup :: after →
        let asked := (hookMachine environment).run state before
        let answered :=
          hookStep environment asked.1 (.hook .zoneDescriptorLookup)
        (answered.2 = [] ∧ answered.1.guest = asked.1.guest) ∨
          (.write (.r3 0) ∉ asked.2 ∧
            Synthesized environment.translateVirtual asked.1.guest
              answered.1.guest) := by
  intro outcome
  obtain ⟨honce, hconnected⟩ := descriptorHistory_run hmapped halong
  refine ⟨honce, hconnected, ?_⟩
  intro before after hsplit asked answered
  have hbefore : (hookMachine environment).AlongRun
      (KeepsConnections environment) state before := by
    rw [Machine.alongRun_iff_forall] at halong ⊢
    intro first event rest hfirst
    exact halong first event (rest ++ .hook .zoneDescriptorLookup :: after)
      (by rw [hsplit, hfirst, List.append_assoc, List.cons_append])
  have hhistory := descriptorHistory_run hmapped hbefore
  rcases zoneDescriptorLookup_cases hmapped asked.1 with
    hquiet | ⟨-, hsynthesized⟩
  · exact Or.inl hquiet
  · refine Or.inr ⟨fun hmem => ?_, hsynthesized⟩
    have hactive := hhistory.connected hmem
    rw [hsynthesized.idle] at hactive
    exact Nat.lt_irrefl 0 hactive

/-! ## A lookup that fails twice -/

theorem tablesMapped_toNat : TablesMapped UInt32.toNat := by
  intro offset hoffset
  rw [UInt32.toNat_add, UInt32.toNat_ofNat']
  have htable : polLocalEndpointTable.toNat = 0x824DD650 := rfl
  omega

def synthesizingEnvironment : HookEnvironment where
  translateVirtual := UInt32.toNat
  handleBase := 0
  flags := { synthesizePostSelectionDescriptors := true }

/-- The guest after a failed lookup of its first record, at 0x1000. -/
def failedLookup : HookState where
  guest :=
    { registers := ⟨0, 0xFFFFFFFF, 0, 0, 0, 0, 0, 0, 0, 0⟩
      memory := Memory.storeWord (fun _ => 0) 0x847A12F8 0x1000 }
  globals := {}

def failAgain : HookEvent :=
  .guestRuns fun guest => guest.write (.r3 0xFFFFFFFF)

theorem descriptors_synthesized_once_failedLookup :
    let outcome := (hookMachine synthesizingEnvironment).run failedLookup
      [.hook .zoneDescriptorLookup, failAgain, .hook .zoneDescriptorLookup]
    .write (.r3 0) ∈ outcome.2 ∧ outcome.2.count (.write (.r3 0)) ≤ 1 ∧
      activeConnections UInt32.toNat outcome.1.guest.memory ≠ 0 := by
  intro outcome
  have halong : (hookMachine synthesizingEnvironment).AlongRun
      (KeepsConnections synthesizingEnvironment) failedLookup
      [.hook .zoneDescriptorLookup, failAgain,
        .hook .zoneDescriptorLookup] :=
    ⟨fun hother => absurd rfl hother, fun _ hactive => hactive,
      fun hother => absurd rfl hother, trivial⟩
  obtain ⟨honce, hconnected, -⟩ :=
    descriptors_synthesized_once synthesizingEnvironment tablesMapped_toNat
      failedLookup _ halong
  have hanswered : .write (.r3 0) ∈ outcome.2 := by decide +kernel
  exact ⟨hanswered, honce, Nat.pos_iff_ne_zero.mp (hconnected hanswered)⟩

end Revana.Runtime
