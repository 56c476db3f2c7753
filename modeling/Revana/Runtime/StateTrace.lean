import Revana.Foundation.Machine
import Revana.Foundation.Observing
import Revana.Runtime.Guest

/-!
# The state trace

`StartStateTrace` runs a thread that waits for the lobby module and for its
controller and then logs the changes of the controller's state until it is
asked to stop.  Every test of the stop request, every look at the guest and
every line of the log is a step of its own.  The guest stores the controller in
two steps, and enabling the guest hooks forgets it in two steps; all of these
interleave with the steps of the thread.
-/

namespace Revana.Runtime

open Foundation

/-! ## The control state -/

structure LobbyControlState where
  initializationStarted : UInt8
  initializationCount : UInt8
  updateStage : UInt32
  flowState : UInt32
  flowCondition : UInt32
  currentState : UInt32
  priorState : UInt32
  readinessState : UInt32
  active : UInt32
  deriving DecidableEq, Repr

/-- The guest runs on between the nine reads; `memory` is what each of them
finds. -/
def readLobbyControlState (translateVirtual : UInt32 → ℕ)
    (memory : ℕ → Memory) (object : UInt32) : Option LobbyControlState :=
  if object = 0 ∨ object > 0xFFFFFFFF - 156 then none
  else
    let readGuest8 (read : ℕ) (offset : UInt32) : UInt8 :=
      memory read (translateVirtual (object + offset))
    let readGuest32 (read : ℕ) (offset : UInt32) : UInt32 :=
      (memory read).loadWord (translateVirtual (object + offset))
    some {
      initializationStarted := readGuest8 0 0
      initializationCount := readGuest8 1 2
      updateStage := readGuest32 2 8
      flowState := readGuest32 3 12
      flowCondition := readGuest32 4 20
      currentState := readGuest32 5 136
      priorState := readGuest32 6 140
      readinessState := readGuest32 7 144
      active := readGuest32 8 152 }

/-- The fields of the controller lie at guest addresses which do not wrap. -/
def Addressable (object : UInt32) : Prop :=
  object ≠ 0 ∧ ∀ offset : UInt32, offset ≤ 156 →
    (object + offset).toNat = object.toNat + offset.toNat

theorem addressable_of_read
    {translateVirtual : UInt32 → ℕ} {memory : ℕ → Memory} {object : UInt32}
    {state : LobbyControlState}
    (hread : readLobbyControlState translateVirtual memory object =
      some state) :
    Addressable object := by
  unfold readLobbyControlState at hread
  split at hread
  · cases hread
  · rename_i hbounds
    obtain ⟨hzero, hlimit⟩ := not_or.mp hbounds
    refine ⟨hzero, ?_⟩
    intro offset hoffset
    have hobject : object.toNat ≤ 0xFFFFFFFF - 156 := by
      simpa using UInt32.le_iff_toNat_le.mp (UInt32.not_lt.mp hlimit)
    have hsmall : offset.toNat ≤ 156 := UInt32.le_iff_toNat_le.mp hoffset
    rw [UInt32.toNat_add]
    omega

/-! ## The thread -/

def maximumChanges : ℕ := 128

/-- What the thread does next.  The tests of a stop request are `findModule`,
`moduleFound`, `awaitController`, `controllerFound` and `trace`. -/
inductive TracePhase where
  | findModule
  | lookForModule
  | moduleFound
  | awaitController
  | lookForController
  | controllerFound
  | armed
  | loadObject
  | trace (object : UInt32) (previous : Option LobbyControlState)
      (changes : ℕ)
  | reading (object : UInt32) (previous : Option LobbyControlState)
      (changes : ℕ)
  | compare (object : UInt32) (previous : Option LobbyControlState)
      (changes : ℕ) (current : Option LobbyControlState)
  | leaving (changes : ℕ)
  | exited
  deriving DecidableEq

/-- `thread` is the joinable `state_trace_thread_`, the last of the `started`
ones; `entering` are the guests between the two stores of
`RevanaTraceLobbyControllerEntry`. -/
structure StateTrace (ι : Type*) where
  stateTraceEnabled : Bool
  thread : Option TracePhase := none
  stopRequested : Bool := false
  started : ℕ := 0
  controllerReady : Bool := false
  controllerObject : UInt32 := 0
  entering : ι → Bool := fun _ => false

inductive StateTraceEvent (ι : Type*) where
  | startStateTrace (runtime : Bool)
  /-- The two parts of `StopStateTrace`. -/
  | requestStop
  | join
  | tracer (moduleLoaded : Bool) (memory : ℕ → Memory)
  | enterController (guest : ι) (object : UInt32)
  | controllerEntered (guest : ι)
  /-- The two stores of `RevanaSetGuestTraceHooksEnabled`. -/
  | clearReady
  | clearObject

/-- A call of `ReadLobbyControlState` is `read`; when the thread turns to what
the call found, that is `sampled`. -/
inductive StateTraceRecord where
  | started (thread : ℕ)
  | entered (object : UInt32)
  | armed (thread : ℕ)
  | read (thread : ℕ) (object : UInt32)
  | sampled (thread : ℕ) (object : UInt32) (state : Option LobbyControlState)
  | logged (thread : ℕ) (state : LobbyControlState)
  | limitReached (thread : ℕ)
  | cleared
  deriving DecidableEq

section Machine

variable {ι : Type*} [DecidableEq ι] (translateVirtual : UInt32 → ℕ)

/-- One step of the thread, and what it logs.  A loop that ends on a stop
request is followed by another test of it. -/
def tracerStep (trace : StateTrace ι) (moduleLoaded : Bool)
    (memory : ℕ → Memory) : TracePhase → TracePhase × List StateTraceRecord
  | .findModule =>
      (if trace.stopRequested then .moduleFound else .lookForModule, [])
  | .lookForModule => (if moduleLoaded then .moduleFound else .findModule, [])
  | .moduleFound =>
      (if trace.stopRequested then .exited else .awaitController, [])
  | .awaitController =>
      (if trace.stopRequested then .controllerFound else .lookForController,
        [])
  | .lookForController =>
      (if trace.controllerReady then .controllerFound else .awaitController,
        [])
  | .controllerFound =>
      (if trace.stopRequested then .exited else .armed, [])
  | .armed => (.loadObject, [.armed trace.started])
  | .loadObject => (.trace trace.controllerObject none 0, [])
  | .trace object previous changes =>
      (if trace.stopRequested = true ∨ maximumChanges ≤ changes then
        .leaving changes
      else .reading object previous changes, [])
  | .reading object previous changes =>
      (.compare object previous changes
        (readLobbyControlState translateVirtual memory object),
        [.read trace.started object])
  | .compare object previous changes current =>
      let sampled : StateTraceRecord :=
        .sampled trace.started object current
      match current with
      | none => (.trace object previous changes, [sampled])
      | some state =>
          if previous = some state then
            (.trace object previous changes, [sampled])
          else
            (.trace object (some state) (changes + 1),
              [sampled, .logged trace.started state])
  | .leaving changes =>
      (.exited,
        if changes = maximumChanges then [.limitReached trace.started] else [])
  | .exited => (.exited, [])

def stateTraceStep (trace : StateTrace ι) :
    StateTraceEvent ι → StateTrace ι × List StateTraceRecord
  | .startStateTrace runtime =>
      if trace.stateTraceEnabled = false ∨ runtime = false ∨
          trace.thread.isSome then
        (trace, [])
      else
        ({ trace with
          thread := some .findModule
          stopRequested := false
          started := trace.started + 1 }, [.started (trace.started + 1)])
  | .requestStop =>
      if trace.thread.isSome then ({ trace with stopRequested := true }, [])
      else (trace, [])
  | .join =>
      if trace.stopRequested = true ∧ trace.thread = some .exited then
        ({ trace with thread := none }, [])
      else (trace, [])
  | .tracer moduleLoaded memory =>
      match trace.thread with
      | none => (trace, [])
      | some phase =>
          let (next, records) :=
            tracerStep translateVirtual trace moduleLoaded memory phase
          ({ trace with thread := some next }, records)
  | .enterController guest object =>
      if trace.entering guest then (trace, [])
      else
        ({ trace with
          controllerObject := object
          entering := Function.update trace.entering guest true },
          [.entered object])
  | .controllerEntered guest =>
      if trace.entering guest then
        ({ trace with
          controllerReady := true
          entering := Function.update trace.entering guest false }, [])
      else (trace, [])
  | .clearReady => ({ trace with controllerReady := false }, [])
  | .clearObject => ({ trace with controllerObject := 0 }, [.cleared])

def stateTraceMachine : Machine (StateTrace ι) (StateTraceEvent ι)
    StateTraceRecord where
  step := stateTraceStep translateVirtual

end Machine

/-- A controller at 4096 whose first byte changes from the second read on. -/
def tracedMemory (time read : ℕ) : Memory :=
  fun address => if address = 4096 ∧ 1 < time then UInt8.ofNat read + 1 else 0

def tracedEvents : List (StateTraceEvent ℕ) :=
  [.clearReady, .clearObject, .startStateTrace true] ++
    List.replicate 2 (.tracer false (tracedMemory 0)) ++
    List.replicate 4 (.tracer true (tracedMemory 0)) ++
    [.enterController 0 4096, .controllerEntered 0] ++
    List.replicate 7 (.tracer true (tracedMemory 0)) ++
    List.replicate 3 (.tracer true (tracedMemory 1)) ++
    List.replicate 3 (.tracer true (tracedMemory 2))

def tracedState (initializationStarted : UInt8) : LobbyControlState where
  initializationStarted := initializationStarted
  initializationCount := 0
  updateStage := 0
  flowState := 0
  flowCondition := 0
  currentState := 0
  priorState := 0
  readinessState := 0
  active := 0

def tracedRecords : List StateTraceRecord :=
  ((stateTraceMachine UInt32.toNat).run { stateTraceEnabled := true }
    tracedEvents).2

/-! ## What the thread can do -/

/-- The phases before the object is loaded. -/
def TracePhase.Waiting : TracePhase → Prop
  | .trace _ _ _ => False
  | .reading _ _ _ => False
  | .compare _ _ _ _ => False
  | .leaving _ => False
  | .exited => False
  | _ => True

/-- The phases after the controller was seen to be ready.  The loop before
`controllerFound` also ends on a stop request. -/
def TracePhase.SawReady (stopRequested : Bool) : TracePhase → Prop
  | .controllerFound => stopRequested = false
  | .armed => True
  | .loadObject => True
  | _ => False

section Moves

variable {ι : Type*} (translateVirtual : UInt32 → ℕ) (trace : StateTrace ι)

inductive TracerMove : TracePhase → TracePhase → List StateTraceRecord → Prop
  | waits {phase next : TracePhase} (hphase : phase.Waiting)
      (hnext : next.Waiting)
      (hready : next.SawReady trace.stopRequested →
        phase.SawReady trace.stopRequested ∨ trace.controllerReady = true) :
      TracerMove phase next []
  | exits (phase : TracePhase) : TracerMove phase .exited []
  | arms : TracerMove .armed .loadObject [.armed trace.started]
  | loads : TracerMove .loadObject (.trace trace.controllerObject none 0) []
  | leaves (object : UInt32) (previous : Option LobbyControlState)
      (count : ℕ) :
      TracerMove (.trace object previous count) (.leaving count) []
  | limited : TracerMove (.leaving maximumChanges) .exited
      [.limitReached trace.started]
  | passes (object : UInt32) (previous : Option LobbyControlState)
      {count : ℕ} (hbelow : count < maximumChanges) :
      TracerMove (.trace object previous count)
        (.reading object previous count) []
  | reads (object : UInt32) (previous : Option LobbyControlState)
      (count : ℕ) (memory : ℕ → Memory) :
      TracerMove (.reading object previous count)
        (.compare object previous count
          (readLobbyControlState translateVirtual memory object))
        [.read trace.started object]
  | blind (object : UInt32) (previous : Option LobbyControlState)
      (count : ℕ) :
      TracerMove (.compare object previous count none)
        (.trace object previous count)
        [.sampled trace.started object none]
  | compares (object : UInt32) (previous : Option LobbyControlState)
      (count : ℕ) (state : LobbyControlState) :
      TracerMove (.compare object previous count (some state))
        (.trace object (some state)
          (if previous = some state then count else count + 1))
        (.sampled trace.started object (some state) ::
          if previous = some state then []
          else [.logged trace.started state])

theorem tracerStep_move
    (moduleLoaded : Bool) (memory : ℕ → Memory) (phase : TracePhase) :
    TracerMove translateVirtual trace phase
      (tracerStep translateVirtual trace moduleLoaded memory phase).1
      (tracerStep translateVirtual trace moduleLoaded memory phase).2 := by
  cases phase with
  | findModule =>
      cases hstop : trace.stopRequested with
      | false =>
          simp only [tracerStep, hstop, Bool.false_eq_true, if_false]
          exact .waits trivial trivial False.elim
      | true =>
          simp only [tracerStep, hstop, if_true]
          exact .waits trivial trivial False.elim
  | lookForModule =>
      cases moduleLoaded with
      | false => exact .waits trivial trivial False.elim
      | true => exact .waits trivial trivial False.elim
  | moduleFound =>
      cases hstop : trace.stopRequested with
      | false =>
          simp only [tracerStep, hstop, Bool.false_eq_true, if_false]
          exact .waits trivial trivial False.elim
      | true =>
          simp only [tracerStep, hstop, if_true]
          exact .exits _
  | awaitController =>
      cases hstop : trace.stopRequested with
      | false =>
          simp only [tracerStep, hstop, Bool.false_eq_true, if_false]
          exact .waits trivial trivial False.elim
      | true =>
          simp only [tracerStep, hstop, if_true]
          refine .waits trivial trivial fun hsaw => ?_
          rw [hstop] at hsaw
          cases hsaw
  | lookForController =>
      cases hready : trace.controllerReady with
      | false =>
          simp only [tracerStep, hready, Bool.false_eq_true, if_false]
          exact .waits trivial trivial False.elim
      | true =>
          simp only [tracerStep, hready, if_true]
          exact .waits trivial trivial fun _ => .inr hready
  | controllerFound =>
      cases hstop : trace.stopRequested with
      | false =>
          simp only [tracerStep, hstop, Bool.false_eq_true, if_false]
          exact .waits trivial trivial fun _ => .inl hstop
      | true =>
          simp only [tracerStep, hstop, if_true]
          exact .exits _
  | armed => exact .arms
  | loadObject => exact .loads
  | trace object previous count =>
      rw [tracerStep]
      split
      · exact .leaves object previous count
      · rename_i hgo
        exact .passes object previous (Nat.not_le.mp (not_or.mp hgo).2)
  | reading object previous count => exact .reads object previous count memory
  | compare object previous count current =>
      cases current with
      | none => exact .blind object previous count
      | some state =>
          have hcompares := @TracerMove.compares _ translateVirtual trace object
            previous count state
          by_cases hsame : previous = some state
          · simpa [tracerStep, hsame] using hcompares
          · simpa [tracerStep, hsame] using hcompares
  | leaving count =>
      by_cases hlimit : count = maximumChanges
      · rw [hlimit]
        exact .limited
      · rw [tracerStep, if_neg hlimit]
        exact .exits _
  | exited => exact .exits _

end Moves

/-! ## The log -/

def StateTraceRecord.sample? (thread : ℕ) :
    StateTraceRecord → Option LobbyControlState
  | .sampled other _ (some state) => if other = thread then some state else none
  | _ => none

def StateTraceRecord.log? (thread : ℕ) :
    StateTraceRecord → Option LobbyControlState
  | .logged other state => if other = thread then some state else none
  | _ => none

/-- The states that a thread could read, in their order. -/
def sampledStates (thread : ℕ) (records : List StateTraceRecord) :
    List LobbyControlState :=
  records.filterMap (StateTraceRecord.sample? thread)

def loggedStates (thread : ℕ) (records : List StateTraceRecord) :
    List LobbyControlState :=
  records.filterMap (StateTraceRecord.log? thread)

/-- The last state that the thread compared, and how many it logged. -/
def Tracked (records : List StateTraceRecord) (thread : ℕ)
    (previous : Option LobbyControlState) (changes : ℕ) : Prop :=
  previous = latest none (sampledStates thread records) ∧
    changes = (loggedStates thread records).length

/-- What the phase of the running thread says about its log. -/
def TracePhase.Logged (records : List StateTraceRecord) (thread : ℕ) :
    TracePhase → Prop
  | .trace _ previous changes => Tracked records thread previous changes
  | .reading _ previous changes =>
      Tracked records thread previous changes ∧ changes < maximumChanges
  | .compare _ previous changes _ =>
      Tracked records thread previous changes ∧ changes < maximumChanges
  | .leaving changes => changes = (loggedStates thread records).length
  | .exited => True
  | _ => sampledStates thread records = []

/-- The line about the limit is right about the log before it. -/
def LimitKnown (before : List StateTraceRecord) : StateTraceRecord → Prop
  | .limitReached thread => (loggedStates thread before).length = maximumChanges
  | _ => True

structure StateTraceLog {ι : Type*} (trace : StateTrace ι)
    (records : List StateTraceRecord) : Prop where
  changes_eq : ∀ thread, loggedStates thread records =
    changes none (sampledStates thread records)
  limited : ∀ thread, (loggedStates thread records).length ≤ maximumChanges
  known : Machine.Justified LimitKnown records
  unstarted : ∀ thread, trace.started < thread →
    sampledStates thread records = []
  phase : ∀ phase, trace.thread = some phase →
    phase.Logged records trace.started

section Records

variable {records : List StateTraceRecord} {record : StateTraceRecord}
  {thread : ℕ}

theorem sampledStates_concat :
    sampledStates thread (records ++ [record]) =
      sampledStates thread records ++ (record.sample? thread).toList := by
  rw [sampledStates, List.filterMap_append]
  cases hsample : record.sample? thread with
  | none => simp [sampledStates, hsample]
  | some state => simp [sampledStates, hsample]

theorem loggedStates_concat :
    loggedStates thread (records ++ [record]) =
      loggedStates thread records ++ (record.log? thread).toList := by
  rw [loggedStates, List.filterMap_append]
  cases hlog : record.log? thread with
  | none => simp [loggedStates, hlog]
  | some state => simp [loggedStates, hlog]

end Records

section Log

variable {ι : Type*} {trace : StateTrace ι} {records : List StateTraceRecord}

namespace StateTraceLog

theorem moved
    (hlog : StateTraceLog trace records) {next : StateTrace ι}
    (hstarted : trace.started ≤ next.started)
    (hphase : ∀ phase, next.thread = some phase →
      phase.Logged records next.started) :
    StateTraceLog next records :=
  ⟨hlog.changes_eq, hlog.limited, hlog.known,
    fun thread hthread => hlog.unstarted thread (hstarted.trans_lt hthread),
    hphase⟩

/-- A record which is neither a sample nor a line of the log. -/
theorem noted
    (hlog : StateTraceLog trace records) {record : StateTraceRecord}
    (hsample : ∀ thread, record.sample? thread = none)
    (hline : ∀ thread, record.log? thread = none)
    (hknown : LimitKnown records record) :
    StateTraceLog trace (records ++ [record]) := by
  have hsampled : ∀ thread, sampledStates thread (records ++ [record]) =
      sampledStates thread records := by
    intro thread
    rw [sampledStates_concat, hsample]
    exact List.append_nil _
  have hlogged : ∀ thread, loggedStates thread (records ++ [record]) =
      loggedStates thread records := by
    intro thread
    rw [loggedStates_concat, hline]
    exact List.append_nil _
  refine ⟨?_, ?_, hlog.known.snoc hknown, ?_, ?_⟩
  · intro thread
    rw [hsampled, hlogged]
    exact hlog.changes_eq thread
  · intro thread
    rw [hlogged]
    exact hlog.limited thread
  · intro thread hthread
    rw [hsampled]
    exact hlog.unstarted thread hthread
  · intro phase hthread
    have hold := hlog.phase phase hthread
    cases phase with
    | trace object previous changes =>
        simp only [TracePhase.Logged, Tracked, hsampled, hlogged]
        exact hold
    | reading object previous changes =>
        simp only [TracePhase.Logged, Tracked, hsampled, hlogged]
        exact hold
    | compare object previous changes current =>
        simp only [TracePhase.Logged, Tracked, hsampled, hlogged]
        exact hold
    | leaving changes =>
        simp only [TracePhase.Logged, hlogged]
        exact hold
    | exited => trivial
    | _ => exact (hsampled _).trans hold

/-- A state that was read is logged when it is not the one before it. -/
theorem observed
    (hlog : StateTraceLog trace records) {object : UInt32}
    {previous : Option LobbyControlState} {count : ℕ}
    {state : LobbyControlState}
    (hthread : trace.thread =
      some (.compare object previous count (some state))) :
    StateTraceLog
      { trace with
        thread := some (.trace object (some state)
          (if previous = some state then count else count + 1)) }
      (records ++ .sampled trace.started object (some state) ::
        if previous = some state then []
        else [.logged trace.started state]) := by
  obtain ⟨⟨hprevious, hcount⟩, hbelow⟩ := hlog.phase _ hthread
  generalize hmore : (.sampled trace.started object (some state) ::
    if previous = some state then [] else [.logged trace.started state] :
      List StateTraceRecord) = more
  have hsampled : ∀ thread, sampledStates thread (records ++ more) =
      if trace.started = thread then sampledStates thread records ++ [state]
      else sampledStates thread records := by
    intro thread
    rw [← hmore, sampledStates, List.filterMap_append]
    by_cases hsame : trace.started = thread <;>
      by_cases hchange : previous = some state <;>
        simp [sampledStates, List.filterMap_cons, StateTraceRecord.sample?,
          hsame, hchange]
  have hlogged : ∀ thread, loggedStates thread (records ++ more) =
      if trace.started = thread then
        loggedStates thread records ++
          if previous = some state then [] else [state]
      else loggedStates thread records := by
    intro thread
    rw [← hmore, loggedStates, List.filterMap_append]
    by_cases hsame : trace.started = thread <;>
      by_cases hchange : previous = some state <;>
        simp [loggedStates, List.filterMap_cons, StateTraceRecord.log?,
          hsame, hchange]
  refine ⟨?_, ?_, ?_, ?_, ?_⟩
  · intro thread
    rw [hsampled, hlogged]
    by_cases hsame : trace.started = thread
    · subst hsame
      rw [if_pos rfl, if_pos rfl, changes_concat, ← hprevious,
        hlog.changes_eq]
    · rw [if_neg hsame, if_neg hsame]
      exact hlog.changes_eq thread
  · intro thread
    rw [hlogged]
    by_cases hsame : trace.started = thread
    · subst hsame
      rw [if_pos rfl, List.length_append, ← hcount]
      by_cases hchange : previous = some state <;> simp [hchange] <;> omega
    · rw [if_neg hsame]
      exact hlog.limited thread
  · refine hlog.known.append_of_forall ?_
    intro record hrecord before
    rw [← hmore] at hrecord
    rcases List.mem_cons.mp hrecord with rfl | hline
    · trivial
    · split at hline
      · cases hline
      · obtain rfl := List.mem_singleton.mp hline
        trivial
  · intro thread hthread
    rw [hsampled, if_neg (Nat.ne_of_lt hthread)]
    exact hlog.unstarted thread hthread
  · intro phase hphase
    obtain rfl := Option.some.inj hphase
    refine ⟨?_, ?_⟩
    · rw [hsampled, if_pos rfl, latest_concat]
    · rw [hlogged, if_pos rfl, List.length_append, ← hcount]
      by_cases hchange : previous = some state <;> simp [hchange]

variable {translateVirtual : UInt32 → ℕ}

theorem tracer
    (hlog : StateTraceLog trace records) {phase next : TracePhase}
    (hthread : trace.thread = some phase) {more : List StateTraceRecord}
    (hmove : TracerMove translateVirtual trace phase next more) :
    StateTraceLog { trace with thread := some next } (records ++ more) := by
  have hold := hlog.phase phase hthread
  have hstay (next : TracePhase)
      (hnext : next.Logged records trace.started) :
      StateTraceLog { trace with thread := some next } records := by
    refine hlog.moved le_rfl fun phase hphase => ?_
    obtain rfl := Option.some.inj hphase
    exact hnext
  cases hmove with
  | waits hphase hnext hready =>
      rw [List.append_nil]
      refine hstay next ?_
      have hnone : sampledStates trace.started records = [] := by
        cases phase with
        | trace => cases hphase
        | reading => cases hphase
        | compare => cases hphase
        | leaving => cases hphase
        | exited => cases hphase
        | _ => exact hold
      cases next with
      | trace => cases hnext
      | reading => cases hnext
      | compare => cases hnext
      | leaving => cases hnext
      | exited => cases hnext
      | _ => exact hnone
  | exits =>
      rw [List.append_nil]
      exact hstay .exited trivial
  | arms =>
      exact (hstay .loadObject hold).noted (fun _ => rfl) (fun _ => rfl)
        trivial
  | loads =>
      have hempty : sampledStates trace.started records = [] := hold
      rw [List.append_nil]
      refine hstay _ ⟨?_, ?_⟩
      · rw [hempty]
        rfl
      · rw [hlog.changes_eq, hempty]
        rfl
  | leaves object previous count =>
      rw [List.append_nil]
      exact hstay _ hold.2
  | limited =>
      exact (hstay .exited trivial).noted (fun _ => rfl) (fun _ => rfl)
        hold.symm
  | passes object previous hbelow =>
      rw [List.append_nil]
      exact hstay _ ⟨hold, hbelow⟩
  | reads object previous count memory =>
      exact (hstay (.compare object previous count
        (readLobbyControlState translateVirtual memory object)) hold).noted
          (fun _ => rfl) (fun _ => rfl) trivial
  | blind object previous count =>
      exact (hstay (.trace object previous count) hold.1).noted
        (fun _ => rfl) (fun _ => rfl) trivial
  | compares object previous count state => exact hlog.observed hthread

variable [DecidableEq ι]

theorem step
    (hlog : StateTraceLog trace records) (event : StateTraceEvent ι) :
    StateTraceLog (stateTraceStep translateVirtual trace event).1
      (records ++ (stateTraceStep translateVirtual trace event).2) := by
  have hstay {next : StateTrace ι} (hthread : next.thread = trace.thread)
      (hstarted : next.started = trace.started) :
      StateTraceLog next records := by
    refine hlog.moved hstarted.ge fun phase hphase => ?_
    rw [hstarted]
    exact hlog.phase phase (hthread ▸ hphase)
  cases event with
  | startStateTrace runtime =>
      rw [stateTraceStep]
      split
      · rw [List.append_nil]
        exact hlog
      · refine (hlog.moved (Nat.le_succ _) ?_).noted (fun _ => rfl)
          (fun _ => rfl) trivial
        intro phase hphase
        obtain rfl := Option.some.inj hphase
        exact hlog.unstarted _ (Nat.lt_succ_self _)
  | requestStop =>
      rw [stateTraceStep]
      split <;> rw [List.append_nil]
      · exact hstay rfl rfl
      · exact hlog
  | join =>
      rw [stateTraceStep]
      split <;> rw [List.append_nil]
      · exact hlog.moved le_rfl fun phase hphase => by cases hphase
      · exact hlog
  | tracer moduleLoaded memory =>
      rw [stateTraceStep]
      cases hthread : trace.thread with
      | none =>
          rw [List.append_nil]
          exact hlog
      | some phase =>
          exact hlog.tracer hthread
            (tracerStep_move translateVirtual trace moduleLoaded memory phase)
  | enterController guest object =>
      rw [stateTraceStep]
      split
      · rw [List.append_nil]
        exact hlog
      · have hnext : StateTraceLog
            { trace with
              controllerObject := object
              entering := Function.update trace.entering guest true }
            records := hstay rfl rfl
        exact hnext.noted (fun _ => rfl) (fun _ => rfl) trivial
  | controllerEntered guest =>
      rw [stateTraceStep]
      split <;> rw [List.append_nil]
      · exact hstay rfl rfl
      · exact hlog
  | clearReady =>
      rw [stateTraceStep, List.append_nil]
      exact hstay rfl rfl
  | clearObject =>
      have hnext : StateTraceLog { trace with controllerObject := 0 } records :=
        hstay rfl rfl
      exact hnext.noted (fun _ => rfl) (fun _ => rfl) trivial

end StateTraceLog

theorem stateTraceLog_initial
    (hthread : trace.thread = none) : StateTraceLog trace [] := by
  refine ⟨fun _ => rfl, fun _ => Nat.zero_le _, Machine.justified_nil _,
    fun _ _ => rfl, ?_⟩
  intro phase hphase
  rw [hthread] at hphase
  cases hphase

end Log

/-- The log of each thread is the sequence of the states it read without the
repetitions, up to the limit: no change between two reads is left out, none is
logged twice, and the line about the limit is written at the limit only. -/
theorem stateTrace_log
    {ι : Type*} [DecidableEq ι] (translateVirtual : UInt32 → ℕ)
    (trace : StateTrace ι) (hthread : trace.thread = none)
    (events : List (StateTraceEvent ι)) (thread : ℕ) :
    let records := ((stateTraceMachine translateVirtual).run trace events).2
    loggedStates thread records =
        (sampledStates thread records).destutter (· ≠ ·) ∧
      (loggedStates thread records).length ≤ maximumChanges ∧
      (.limitReached thread ∈ records →
        (loggedStates thread records).length = maximumChanges) := by
  intro records
  have hlog : StateTraceLog
      ((stateTraceMachine translateVirtual).run trace events).1 records := by
    refine Machine.run_history StateTraceLog ?_
      (stateTraceLog_initial hthread) events
    intro state history event hhistory
    exact hhistory.step event
  refine ⟨?_, hlog.limited thread, ?_⟩
  · rw [hlog.changes_eq, changes_none]
  · intro hlimit
    obtain ⟨before, after, hsplit⟩ := List.append_of_mem hlimit
    have hknown : (loggedStates thread before).length = maximumChanges :=
      hlog.known before _ after hsplit
    have hlength : (loggedStates thread before).length ≤
        (loggedStates thread records).length := by
      rw [hsplit, loggedStates, loggedStates, List.filterMap_append,
        List.length_append]
      exact Nat.le_add_right _ _
    exact (hlog.limited thread).antisymm (hknown.symm.le.trans hlength)

theorem stateTrace_log_tracedEvents :
    loggedStates 1 tracedRecords = [tracedState 0, tracedState 1] ∧
      loggedStates 1 tracedRecords =
        (sampledStates 1 tracedRecords).destutter (· ≠ ·) :=
  ⟨by decide +kernel,
    (stateTrace_log UInt32.toNat { stateTraceEnabled := true } rfl
      tracedEvents 1).1⟩

/-! ## The object -/

/-- A guest gave the object to its controller entry, or it was reset. -/
def ObjectKnown (records : List StateTraceRecord) (object : UInt32) : Prop :=
  .entered object ∈ records ∨ object = 0 ∧ .cleared ∈ records

/-- A thread samples one known object, and reads an addressable one. -/
def SampledKnown (before : List StateTraceRecord) : StateTraceRecord → Prop
  | .sampled thread object state =>
      ObjectKnown before object ∧
        (∀ other found, .sampled thread other found ∈ before →
          other = object) ∧
        (state.isSome → Addressable object)
  | _ => True

/-- The thread traces one known object and has sampled no other. -/
def TracesOnly (records : List StateTraceRecord) (thread : ℕ)
    (object : UInt32) : Prop :=
  ObjectKnown records object ∧
    ∀ other state, .sampled thread other state ∈ records → other = object

/-- What the phase of the running thread says about the object. -/
def TracePhase.Traces (records : List StateTraceRecord) (thread : ℕ)
    (stopRequested : Bool) (controllerObject : UInt32) : TracePhase → Prop
  | .trace object _ _ => TracesOnly records thread object
  | .reading object _ _ => TracesOnly records thread object
  | .compare object _ _ current =>
      TracesOnly records thread object ∧
        (current.isSome → Addressable object)
  | .leaving _ => True
  | .exited => True
  | phase =>
      (phase.SawReady stopRequested → ObjectKnown records controllerObject) ∧
        ∀ other state, .sampled thread other state ∉ records

structure StateTraceObjects {ι : Type*} (trace : StateTrace ι)
    (records : List StateTraceRecord) : Prop where
  ready : trace.controllerReady = true →
    ObjectKnown records trace.controllerObject
  entering : ∀ guest, trace.entering guest = true →
    ObjectKnown records trace.controllerObject
  justified : Machine.Justified SampledKnown records
  unstarted : ∀ thread, trace.started < thread → ∀ object state,
    .sampled thread object state ∉ records
  phase : ∀ phase, trace.thread = some phase →
    phase.Traces records trace.started trace.stopRequested
      trace.controllerObject

section Objects

theorem ObjectKnown.append
    {records : List StateTraceRecord} {object : UInt32}
    (hknown : ObjectKnown records object) (more : List StateTraceRecord) :
    ObjectKnown (records ++ more) object := by
  rcases hknown with hentered | ⟨hzero, hcleared⟩
  · exact .inl (List.mem_append_left _ hentered)
  · exact .inr ⟨hzero, List.mem_append_left _ hcleared⟩

def StateTraceRecord.isSample : StateTraceRecord → Bool
  | .sampled _ _ _ => true
  | _ => false

theorem sampled_mem_append
    {records more : List StateTraceRecord}
    (hmore : ∀ record ∈ more, record.isSample = false) {thread : ℕ}
    {object : UInt32} {state : Option LobbyControlState} :
    .sampled thread object state ∈ records ++ more ↔
      .sampled thread object state ∈ records := by
  rw [List.mem_append]
  constructor
  · rintro (hold | hnew)
    · exact hold
    · cases hmore _ hnew
  · exact .inl

theorem TracesOnly.noted
    {records more : List StateTraceRecord} {thread : ℕ} {object : UInt32}
    (honly : TracesOnly records thread object)
    (hmore : ∀ record ∈ more, record.isSample = false) :
    TracesOnly (records ++ more) thread object := by
  refine ⟨honly.1.append more, fun other state hmem => ?_⟩
  exact honly.2 other state ((sampled_mem_append hmore).mp hmem)

theorem TracePhase.SawReady.of_stopped
    {phase : TracePhase} {stopped : Bool} (hsaw : phase.SawReady stopped)
    {before : Bool} (hstopped : before = true → stopped = true) :
    phase.SawReady before := by
  cases phase with
  | controllerFound =>
      cases before with
      | false => rfl
      | true =>
          have hnow : stopped = false := hsaw
          rw [hstopped rfl] at hnow
          cases hnow
  | _ => exact hsaw

/-- Records other than samples; the object is left or known, and a request to
stop is not taken back. -/
theorem TracePhase.Traces.noted
    {records more : List StateTraceRecord} {thread : ℕ}
    {before stopped : Bool} {object other : UInt32} {phase : TracePhase}
    (htraces : phase.Traces records thread before object)
    (hmore : ∀ record ∈ more, record.isSample = false)
    (hstopped : before = true → stopped = true)
    (hother : other = object ∨ ObjectKnown (records ++ more) other) :
    phase.Traces (records ++ more) thread stopped other := by
  have hknown (hold : ObjectKnown records object) :
      ObjectKnown (records ++ more) other := by
    rcases hother with rfl | hother
    · exact hold.append more
    · exact hother
  cases phase with
  | trace used previous count => exact TracesOnly.noted htraces hmore
  | reading used previous count => exact TracesOnly.noted htraces hmore
  | compare used previous count current =>
      exact ⟨htraces.1.noted hmore, htraces.2⟩
  | leaving count => trivial
  | exited => trivial
  | _ =>
      refine ⟨fun hsaw => hknown (htraces.1 (hsaw.of_stopped hstopped)),
        fun other state hmem => ?_⟩
      exact htraces.2 other state ((sampled_mem_append hmore).mp hmem)

variable {ι : Type*} {trace : StateTrace ι} {records : List StateTraceRecord}

namespace StateTraceObjects

/-- Records other than samples; the object is left or known. -/
theorem noted
    (hobjects : StateTraceObjects trace records)
    {more : List StateTraceRecord} {next : StateTrace ι}
    (hmore : ∀ record ∈ more, record.isSample = false)
    (hready : next.controllerReady = true →
      ObjectKnown (records ++ more) next.controllerObject)
    (hentering : ∀ guest, next.entering guest = true →
      ObjectKnown (records ++ more) next.controllerObject)
    (hstarted : trace.started ≤ next.started)
    (hphase : ∀ phase, next.thread = some phase →
      phase.Traces (records ++ more) next.started next.stopRequested
        next.controllerObject) :
    StateTraceObjects next (records ++ more) where
  ready := hready
  entering := hentering
  justified := by
    refine hobjects.justified.append_of_forall ?_
    intro record hrecord before
    cases record with
    | sampled => cases hmore _ hrecord
    | _ => trivial
  unstarted := by
    intro thread hthread object state hmem
    exact hobjects.unstarted thread (hstarted.trans_lt hthread) object state
      ((sampled_mem_append hmore).mp hmem)
  phase := hphase

/-- Only the phase of the thread moves. -/
theorem moved
    (hobjects : StateTraceObjects trace records)
    {more : List StateTraceRecord}
    (hmore : ∀ record ∈ more, record.isSample = false) {next : TracePhase}
    (hnext : next.Traces records trace.started trace.stopRequested
      trace.controllerObject) :
    StateTraceObjects { trace with thread := some next } (records ++ more) := by
  refine hobjects.noted hmore (fun hready => (hobjects.ready hready).append _)
    (fun guest hguest => (hobjects.entering guest hguest).append _) le_rfl ?_
  intro phase hphase
  obtain rfl := Option.some.inj hphase
  exact hnext.noted hmore id (.inl rfl)

/-- One sample of the object that the thread traces, and what it logs. -/
theorem sampled
    (hobjects : StateTraceObjects trace records) {object : UInt32}
    {previous next : Option LobbyControlState} {count counted : ℕ}
    {state : Option LobbyControlState}
    (hthread : trace.thread = some (.compare object previous count state))
    {more : List StateTraceRecord}
    (hmore : ∀ record ∈ more, record.isSample = false) :
    StateTraceObjects
      { trace with thread := some (.trace object next counted) }
      (records ++ .sampled trace.started object state :: more) := by
  obtain ⟨⟨hknown, honly⟩, hstate⟩ := hobjects.phase _ hthread
  have hmem (thread : ℕ) (other : UInt32)
      (found : Option LobbyControlState)
      (hfound : .sampled thread other found ∈
        records ++ .sampled trace.started object state :: more) :
      .sampled thread other found ∈ records ∨
        thread = trace.started ∧ other = object := by
    rcases List.mem_append.mp hfound with hold | hnew
    · exact .inl hold
    · rcases List.mem_cons.mp hnew with hsame | hlater
      · cases hsame
        exact .inr ⟨rfl, rfl⟩
      · cases hmore _ hlater
  refine ⟨?_, ?_, ?_, ?_, ?_⟩
  · exact fun hready => (hobjects.ready hready).append _
  · exact fun guest hguest => (hobjects.entering guest hguest).append _
  · have hsample : SampledKnown records
        (.sampled trace.started object state) := ⟨hknown, honly, hstate⟩
    rw [List.append_cons]
    refine (hobjects.justified.snoc hsample).append_of_forall ?_
    intro record hrecord before
    cases record with
    | sampled => cases hmore _ hrecord
    | _ => trivial
  · intro thread hlater other found hfound
    rcases hmem thread other found hfound with hold | ⟨hsame, -⟩
    · exact hobjects.unstarted thread hlater other found hold
    · exact hlater.ne' hsame
  · intro phase hphase
    obtain rfl := Option.some.inj hphase
    refine ⟨hknown.append _, fun other found hfound => ?_⟩
    rcases hmem _ other found hfound with hold | ⟨-, hsame⟩
    · exact honly other found hold
    · exact hsame

theorem tracer
    {translateVirtual : UInt32 → ℕ}
    (hobjects : StateTraceObjects trace records) {phase next : TracePhase}
    (hthread : trace.thread = some phase) {more : List StateTraceRecord}
    (hmove : TracerMove translateVirtual trace phase next more) :
    StateTraceObjects { trace with thread := some next }
      (records ++ more) := by
  have hold := hobjects.phase phase hthread
  have hnone : ∀ record ∈ ([] : List StateTraceRecord),
      record.isSample = false := by
    simp
  cases hmove with
  | waits hphase hnext hready =>
      refine hobjects.moved hnone ?_
      have hwaiting : (phase.SawReady trace.stopRequested →
            ObjectKnown records trace.controllerObject) ∧
          ∀ other state, .sampled trace.started other state ∉ records := by
        cases phase with
        | trace => cases hphase
        | reading => cases hphase
        | compare => cases hphase
        | leaving => cases hphase
        | exited => cases hphase
        | _ => exact hold
      have hsaw : next.SawReady trace.stopRequested →
          ObjectKnown records trace.controllerObject := by
        intro hnextSaw
        rcases hready hnextSaw with hphaseSaw | hnow
        · exact hwaiting.1 hphaseSaw
        · exact hobjects.ready hnow
      cases next with
      | trace => cases hnext
      | reading => cases hnext
      | compare => cases hnext
      | leaving => cases hnext
      | exited => cases hnext
      | _ => exact ⟨hsaw, hwaiting.2⟩
  | exits => exact hobjects.moved hnone trivial
  | arms =>
      exact hobjects.moved (by simp [StateTraceRecord.isSample])
        ⟨fun _ => hold.1 trivial, hold.2⟩
  | loads =>
      refine hobjects.moved hnone ⟨hold.1 trivial, fun other state hmem => ?_⟩
      exact absurd hmem (hold.2 other state)
  | leaves object previous count => exact hobjects.moved hnone trivial
  | limited =>
      exact hobjects.moved (by simp [StateTraceRecord.isSample]) trivial
  | passes object previous hbelow => exact hobjects.moved hnone hold
  | reads object previous count memory =>
      refine hobjects.moved (by simp [StateTraceRecord.isSample])
        ⟨hold, fun hsome => ?_⟩
      obtain ⟨state, hread⟩ := Option.isSome_iff_exists.mp hsome
      exact addressable_of_read hread
  | blind object previous count => exact hobjects.sampled hthread hnone
  | compares object previous count state =>
      refine hobjects.sampled hthread ?_
      intro record hrecord
      split at hrecord
      · cases hrecord
      · obtain rfl := List.mem_singleton.mp hrecord
        rfl

/-- Neither the thread nor the controller changes, and nothing is recorded. -/
theorem unchanged
    (hobjects : StateTraceObjects trace records) {next : StateTrace ι}
    (hthread : ∀ phase, next.thread = some phase → trace.thread = some phase)
    (hready : next.controllerReady = true → trace.controllerReady = true)
    (hentering : ∀ guest, next.entering guest = true →
      trace.entering guest = true)
    (hobject : next.controllerObject = trace.controllerObject)
    (hstarted : next.started = trace.started)
    (hstopped : trace.stopRequested = true → next.stopRequested = true) :
    StateTraceObjects next records := by
  refine ⟨?_, ?_, hobjects.justified, ?_, ?_⟩
  · rw [hobject]
    exact fun hnext => hobjects.ready (hready hnext)
  · rw [hobject]
    exact fun guest hguest => hobjects.entering guest (hentering guest hguest)
  · rw [hstarted]
    exact hobjects.unstarted
  · intro phase hphase
    have hold := hobjects.phase phase (hthread phase hphase)
    have hnext := hold.noted (by simp : ∀ record ∈
      ([] : List StateTraceRecord), record.isSample = false) hstopped
      (.inl hobject)
    rwa [List.append_nil, ← hstarted] at hnext

/-- The object becomes a known one. -/
theorem known
    (hobjects : StateTraceObjects trace records) {next : StateTrace ι}
    {record : StateTraceRecord} (hrecord : record.isSample = false)
    (hthread : next.thread = trace.thread)
    (hstarted : next.started = trace.started)
    (hstopped : next.stopRequested = trace.stopRequested)
    (hknown : ObjectKnown (records ++ [record]) next.controllerObject) :
    StateTraceObjects next (records ++ [record]) := by
  have hmore : ∀ other ∈ [record], other.isSample = false := by
    simpa using hrecord
  refine hobjects.noted hmore (fun _ => hknown) (fun _ _ => hknown)
    hstarted.ge ?_
  intro phase hphase
  rw [hstarted, hstopped]
  exact (hobjects.phase phase (hthread ▸ hphase)).noted hmore id (.inr hknown)

variable [DecidableEq ι]

theorem step
    {translateVirtual : UInt32 → ℕ}
    (hobjects : StateTraceObjects trace records)
    (event : StateTraceEvent ι) :
    StateTraceObjects (stateTraceStep translateVirtual trace event).1
      (records ++ (stateTraceStep translateVirtual trace event).2) := by
  cases event with
  | startStateTrace runtime =>
      rw [stateTraceStep]
      split
      · rw [List.append_nil]
        exact hobjects
      · refine hobjects.noted (by simp [StateTraceRecord.isSample])
          (fun hready => (hobjects.ready hready).append _)
          (fun guest hguest => (hobjects.entering guest hguest).append _)
          (Nat.le_succ _) ?_
        intro phase hphase
        obtain rfl := Option.some.inj hphase
        have hfirst : TracePhase.findModule.Traces records (trace.started + 1)
            false trace.controllerObject :=
          ⟨False.elim, hobjects.unstarted _ (Nat.lt_succ_self _)⟩
        exact hfirst.noted (by simp [StateTraceRecord.isSample]) id (.inl rfl)
  | requestStop =>
      rw [stateTraceStep]
      split <;> rw [List.append_nil]
      · exact hobjects.unchanged (fun _ => id) id (fun _ => id) rfl rfl
          fun _ => rfl
      · exact hobjects
  | join =>
      rw [stateTraceStep]
      split <;> rw [List.append_nil]
      · exact hobjects.unchanged (fun _ hnone => by cases hnone) id
          (fun _ => id) rfl rfl id
      · exact hobjects
  | tracer moduleLoaded memory =>
      rw [stateTraceStep]
      cases hthread : trace.thread with
      | none =>
          rw [List.append_nil]
          exact hobjects
      | some phase =>
          exact hobjects.tracer hthread
            (tracerStep_move translateVirtual trace moduleLoaded memory phase)
  | enterController guest object =>
      rw [stateTraceStep]
      split
      · rw [List.append_nil]
        exact hobjects
      · exact hobjects.known rfl rfl rfl rfl (.inl (by simp))
  | controllerEntered guest =>
      rw [stateTraceStep]
      split
      · rename_i hguest
        have hknown := hobjects.entering guest hguest
        rw [List.append_nil]
        refine ⟨fun _ => hknown, fun _ _ => hknown, hobjects.justified,
          hobjects.unstarted, hobjects.phase⟩
      · rw [List.append_nil]
        exact hobjects
  | clearReady =>
      rw [stateTraceStep, List.append_nil]
      exact hobjects.unchanged (fun _ => id) (fun hready => by cases hready)
        (fun _ => id) rfl rfl id
  | clearObject =>
      exact hobjects.known rfl rfl rfl rfl (.inr ⟨rfl, by simp⟩)

end StateTraceObjects

end Objects

/-- Whatever the interleaving, a thread looks at one object only, which a
guest gave to its controller entry before unless it was reset; and a state is
read from an entered object only, at addresses which do not wrap. -/
theorem stateTrace_object
    {ι : Type*} [DecidableEq ι] (translateVirtual : UInt32 → ℕ)
    (trace : StateTrace ι) (hthread : trace.thread = none)
    (hready : trace.controllerReady = false)
    (hentering : ∀ guest, trace.entering guest = false)
    (events : List (StateTraceEvent ι))
    (before after : List StateTraceRecord) (thread : ℕ) (object : UInt32)
    (state : Option LobbyControlState)
    (hsampled : ((stateTraceMachine translateVirtual).run trace events).2 =
      before ++ .sampled thread object state :: after) :
    ObjectKnown before object ∧
      (∀ other found, .sampled thread other found ∈ before →
        other = object) ∧
      (state.isSome → Addressable object ∧ .entered object ∈ before) := by
  have hinitial : StateTraceObjects trace [] := by
    refine ⟨?_, ?_, Machine.justified_nil _, by simp, ?_⟩
    · rw [hready]
      exact fun hnever => by cases hnever
    · intro guest hguest
      rw [hentering] at hguest
      cases hguest
    · intro phase hphase
      rw [hthread] at hphase
      cases hphase
  have hobjects : StateTraceObjects
      ((stateTraceMachine translateVirtual).run trace events).1
      ((stateTraceMachine translateVirtual).run trace events).2 := by
    refine Machine.run_history StateTraceObjects ?_ hinitial events
    intro state history event hhistory
    exact hhistory.step event
  obtain ⟨hknown, honly, haddressable⟩ :=
    hobjects.justified before _ after hsampled
  refine ⟨hknown, honly, fun hstate => ⟨haddressable hstate, ?_⟩⟩
  rcases hknown with hentered | ⟨hzero, -⟩
  · exact hentered
  · exact absurd hzero (haddressable hstate).1

theorem stateTrace_object_tracedEvents :
    Addressable 4096 ∧ .entered 4096 ∈ tracedRecords.take 10 :=
  (stateTrace_object UInt32.toNat { stateTraceEnabled := true } rfl rfl
    (fun _ => rfl) tracedEvents (tracedRecords.take 10)
    [.logged 1 (tracedState 1)] 1 4096 (some (tracedState 1))
    (by decide +kernel)).2.2 rfl

/-! ## The end of the thread -/

def StateTraceRecord.isRead : StateTraceRecord → Bool
  | .read _ _ => true
  | _ => false

def StateTraceRecord.isLine : StateTraceRecord → Bool
  | .logged _ _ => true
  | _ => false

/-- Steps which a thread that was asked to stop can still take. -/
def TracePhase.stepsLeft : TracePhase → ℕ
  | .findModule => 2
  | .lookForModule => 3
  | .moduleFound => 1
  | .awaitController => 2
  | .lookForController => 3
  | .controllerFound => 1
  | .armed => 4
  | .loadObject => 3
  | .trace _ _ _ => 2
  | .reading _ _ _ => 4
  | .compare _ _ _ _ => 3
  | .leaving _ => 1
  | .exited => 0

/-- It reads once more if it is already behind its test. -/
def TracePhase.readsLeft : TracePhase → ℕ
  | .reading _ _ _ => 1
  | _ => 0

/-- It logs one more line if it is not yet behind its comparison. -/
def TracePhase.linesLeft : TracePhase → ℕ
  | .reading _ _ _ => 1
  | .compare _ _ _ _ => 1
  | _ => 0

section Stop

variable {ι : Type*} {translateVirtual : UInt32 → ℕ} {trace : StateTrace ι}

/-- Every step uses up what is left to the thread. -/
theorem tracerStep_stopped
    (hstop : trace.stopRequested = true) (moduleLoaded : Bool)
    (memory : ℕ → Memory) (phase : TracePhase) :
    let next := tracerStep translateVirtual trace moduleLoaded memory phase
    next.1.stepsLeft ≤ phase.stepsLeft - 1 ∧
      next.2.countP StateTraceRecord.isRead + next.1.readsLeft ≤
        phase.readsLeft ∧
      next.2.countP StateTraceRecord.isLine + next.1.linesLeft ≤
        phase.linesLeft := by
  cases phase with
  | lookForModule =>
      cases moduleLoaded with
      | false => exact ⟨le_rfl, le_rfl, le_rfl⟩
      | true => exact ⟨Nat.le_succ 1, le_rfl, le_rfl⟩
  | lookForController =>
      simp only [tracerStep]
      split <;> decide
  | armed => exact ⟨le_rfl, le_rfl, le_rfl⟩
  | reading object previous changes =>
      exact ⟨le_rfl, le_rfl, le_rfl⟩
  | compare object previous changes current =>
      cases current with
      | none => exact ⟨le_rfl, le_rfl, Nat.zero_le _⟩
      | some state =>
          simp only [tracerStep]
          split
          · exact ⟨le_rfl, le_rfl, Nat.zero_le _⟩
          · exact ⟨le_rfl, le_rfl, le_rfl⟩
  | leaving changes =>
      simp only [tracerStep]
      split
      · exact ⟨le_rfl, le_rfl, le_rfl⟩
      · exact ⟨le_rfl, le_rfl, le_rfl⟩
  | loadObject => exact ⟨le_rfl, le_rfl, le_rfl⟩
  | exited => exact ⟨le_rfl, le_rfl, le_rfl⟩
  | trace object previous changes =>
      rw [tracerStep, if_pos (.inl hstop)]
      exact ⟨le_rfl, le_rfl, le_rfl⟩
  | _ =>
      simp only [tracerStep, hstop, if_true]
      exact ⟨le_rfl, le_rfl, le_rfl⟩

def StateTraceEvent.isTracer : StateTraceEvent ι → Bool
  | .tracer _ _ => true
  | _ => false

def StateTraceEvent.isJoin : StateTraceEvent ι → Bool
  | .join => true
  | _ => false

/-- A thread that was asked to stop, with what is left to it. -/
structure StateTrace.Stopping (trace : StateTrace ι)
    (steps reads lines : ℕ) : Prop where
  requested : trace.stopRequested = true
  thread : ∃ phase, trace.thread = some phase ∧ phase.stepsLeft ≤ steps ∧
    phase.readsLeft ≤ reads ∧ phase.linesLeft ≤ lines

variable [DecidableEq ι] {steps reads lines : ℕ}

theorem StateTrace.Stopping.step
    (hstopping : trace.Stopping steps reads lines)
    {event : StateTraceEvent ι} (hjoin : event.isJoin = false) :
    let next := stateTraceStep translateVirtual trace event
    ∃ readsAfter linesAfter,
      next.1.Stopping (steps - if event.isTracer then 1 else 0) readsAfter
        linesAfter ∧
      next.2.countP StateTraceRecord.isRead + readsAfter ≤ reads ∧
      next.2.countP StateTraceRecord.isLine + linesAfter ≤ lines := by
  intro next
  obtain ⟨hstop, phase, hthread, hsteps, hreads, hlines⟩ := hstopping
  have hstay (after : StateTrace ι) (more : List StateTraceRecord)
      (hnext : next = (after, more)) (hstopped : after.stopRequested = true)
      (hsame : after.thread = trace.thread)
      (hread : more.countP StateTraceRecord.isRead = 0)
      (hline : more.countP StateTraceRecord.isLine = 0) :
      ∃ readsAfter linesAfter,
        next.1.Stopping (steps - 0) readsAfter linesAfter ∧
        next.2.countP StateTraceRecord.isRead + readsAfter ≤ reads ∧
        next.2.countP StateTraceRecord.isLine + linesAfter ≤ lines := by
    rw [hnext, hread, hline]
    exact ⟨reads, lines,
      ⟨hstopped, phase, hsame.trans hthread, hsteps, hreads, hlines⟩,
      by omega, by omega⟩
  cases event with
  | startStateTrace runtime =>
      refine hstay trace [] ?_ hstop rfl rfl rfl
      simp [next, stateTraceStep, hthread]
  | requestStop =>
      refine hstay { trace with stopRequested := true } [] ?_ rfl rfl rfl rfl
      simp [next, stateTraceStep, hthread]
  | join => cases hjoin
  | tracer moduleLoaded memory =>
      have hnext : next = ({ trace with
          thread := some (tracerStep translateVirtual trace moduleLoaded
            memory phase).1 },
          (tracerStep translateVirtual trace moduleLoaded memory phase).2) := by
        show stateTraceStep translateVirtual trace (.tracer moduleLoaded
          memory) = _
        rw [stateTraceStep, hthread]
      obtain ⟨hless, hfewer, hshorter⟩ := @tracerStep_stopped _
        translateVirtual trace hstop moduleLoaded memory phase
      rw [hnext]
      refine ⟨_, _, ⟨hstop, _, rfl, ?_, le_rfl, le_rfl⟩,
        hfewer.trans hreads, hshorter.trans hlines⟩
      exact hless.trans (Nat.sub_le_sub_right hsteps 1)
  | enterController guest object =>
      by_cases hguest : trace.entering guest = true
      · refine hstay trace [] ?_ hstop rfl rfl rfl
        simp [next, stateTraceStep, hguest]
      · refine hstay { trace with
          controllerObject := object
          entering := Function.update trace.entering guest true }
          [.entered object] ?_ hstop rfl rfl rfl
        simp [next, stateTraceStep, hguest]
  | controllerEntered guest =>
      by_cases hguest : trace.entering guest = true
      · refine hstay { trace with
          controllerReady := true
          entering := Function.update trace.entering guest false }
          [] ?_ hstop rfl rfl rfl
        simp [next, stateTraceStep, hguest]
      · refine hstay trace [] ?_ hstop rfl rfl rfl
        simp [next, stateTraceStep, hguest]
  | clearReady =>
      exact hstay { trace with controllerReady := false } [] rfl hstop rfl rfl
        rfl
  | clearObject =>
      exact hstay { trace with controllerObject := 0 } [.cleared] rfl hstop
        rfl rfl rfl

theorem StateTrace.Stopping.run
    (hstopping : trace.Stopping steps reads lines)
    {events : List (StateTraceEvent ι)}
    (hjoin : ∀ event ∈ events, event.isJoin = false) :
    let after := (stateTraceMachine translateVirtual).run trace events
    (∃ readsAfter linesAfter, after.1.Stopping
      (steps - events.countP StateTraceEvent.isTracer) readsAfter
        linesAfter) ∧
      after.2.countP StateTraceRecord.isRead ≤ reads ∧
      after.2.countP StateTraceRecord.isLine ≤ lines := by
  induction events generalizing trace steps reads lines with
  | nil => exact ⟨⟨reads, lines, hstopping⟩, Nat.zero_le _, Nat.zero_le _⟩
  | cons event rest ih =>
      obtain ⟨readsAfter, linesAfter, hnext, hreads, hlines⟩ :=
        @hstopping.step _ translateVirtual _ _ _ _ _ event
          (hjoin event List.mem_cons_self)
      obtain ⟨hlast, hreadsRest, hlinesRest⟩ := ih hnext fun other hother =>
        hjoin other (List.mem_cons_of_mem _ hother)
      refine ⟨?_, ?_, ?_⟩
      · rw [List.countP_cons, Nat.add_comm, Nat.sub_add_eq]
        exact hlast
      · rw [Machine.run_cons, List.countP_append]
        exact (Nat.add_le_add_left hreadsRest _).trans hreads
      · rw [Machine.run_cons, List.countP_append]
        exact (Nat.add_le_add_left hlinesRest _).trans hlines

end Stop

end Revana.Runtime
