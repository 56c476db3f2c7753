import Revana.Foundation.Machine
import Revana.Foundation.TestAndSet
import Revana.Runtime.LobbyBridge

/-!
# Guest connects and the coordination thread

Guest threads run `before_connect` at the same time, and each coordination
runs on a thread of its own.  Every atomic access is one step, and so are the
creation of the thread and the parts of its assignment to `data_thread_`:
that assignment asks the old thread to stop and waits for its end, as the
destructor of the bridge does.
-/

namespace Revana.Runtime

open Foundation
open Login

/-! ## The threads -/

/-- How far a coordination thread has come; `returned` is before its last
store, and `released` between that store and the end of the thread. -/
inductive CoordinationPhase where
  | absent
  | running
  | returned
  | released
  | exited
  deriving DecidableEq, Repr

structure CoordinationThread where
  phase : CoordinationPhase := .absent
  stopRequested : Bool := false
  deriving DecidableEq, Repr

def CoordinationThread.Unfinished (thread : CoordinationThread) : Prop :=
  thread.phase = .running ∨ thread.phase = .returned

/-- It has lowered the flag, and nothing but its end is left. -/
def CoordinationThread.Released (thread : CoordinationThread) : Prop :=
  thread.phase = .released ∨ thread.phase = .exited

/-- The next step of a guest thread inside `before_connect`. -/
inductive ConnectStep where
  | idle
  | exchange
  | create
  | assign (created : ℕ)
  | join (old created : ℕ)
  deriving DecidableEq, Repr

/-- `created` counts the coordination threads, which are numbered from zero;
no connect begins at a destroyed bridge. -/
structure ConnectThreads (ι : Type*) where
  bridge : BridgeState
  destroyed : Bool := false
  dataThread : Option ℕ := none
  coordinations : ℕ → CoordinationThread := fun _ => {}
  created : ℕ := 0
  guests : ι → ConnectStep := fun _ => .idle

inductive ConnectEvent (ι : Type*) where
  | connect (guest : ι) (connect : GuestConnect)
  | guest (guest : ι)
  /-- `CoordinateCharacterLoginData` returns, if the fuel is enough. -/
  | coordinate (thread : ℕ) (environment : LobbyEnvironment) (fuel : ℕ)
  | release (thread : ℕ)
  | exit (thread : ℕ)
  /-- The destructor of `data_thread_`, up to its join. -/
  | destroy

inductive ConnectRecord where
  | connected (asked left : GuestConnect)
  | created (thread : ℕ)
  | stopRequested (thread : ℕ)
  | finished (thread : ℕ)
      (result : Except LobbyFailure DataCharacterLoginResult)
  | released (thread : ℕ)
  | destroyed (thread : ℕ)

/-- What the thread's coordination returns.  A stop token that has not been
asked to stop was not asked at any poll before. -/
def coordinationResult (bridge : BridgeState) (stopRequested : Bool)
    (environment : LobbyEnvironment) (fuel : ℕ) :
    Option (Except LobbyFailure DataCharacterLoginResult) :=
  let environment :=
    if stopRequested then environment
    else { environment with stopRequested := fun _ => false }
  (coordinateCharacterLoginData environment fuel bridge.host bridge.session
    bridge.mapSessionKey
    { dataPort := bridge.dataPort, viewPort := bridge.viewPort }).map Prod.fst

section Machine

variable {ι : Type*} [DecidableEq ι]

def ConnectThreads.moveGuest (threads : ConnectThreads ι) (guest : ι)
    (next : ConnectStep) : ConnectThreads ι :=
  { threads with guests := Function.update threads.guests guest next }

def ConnectThreads.setCoordination (threads : ConnectThreads ι) (thread : ℕ)
    (next : CoordinationThread) : ConnectThreads ι :=
  { threads with
    coordinations := Function.update threads.coordinations thread next }

def ConnectThreads.setStarted (threads : ConnectThreads ι) (started : Bool) :
    ConnectThreads ι :=
  { threads with
    bridge := { threads.bridge with dataCoordinationStarted := started } }

def guestStep (threads : ConnectThreads ι) (guest : ι) :
    ConnectThreads ι × List ConnectRecord :=
  match threads.guests guest with
  | .idle => (threads, [])
  | .exchange =>
      if threads.bridge.dataCoordinationStarted then
        (threads.moveGuest guest .idle, [])
      else ((threads.setStarted true).moveGuest guest .create, [])
  | .create =>
      let started := threads.setCoordination threads.created
        { phase := .running }
      ({ started with created := threads.created + 1 }.moveGuest guest
        (.assign threads.created), [.created threads.created])
  | .assign created =>
      match threads.dataThread with
      | none =>
          ({ threads with dataThread := some created }.moveGuest guest .idle,
            [])
      | some old =>
          ((threads.setCoordination old { threads.coordinations old with
              stopRequested := true }).moveGuest guest (.join old created),
            [.stopRequested old])
  | .join old created =>
      if (threads.coordinations old).phase = .exited then
        ({ threads with dataThread := some created }.moveGuest guest .idle, [])
      else (threads, [])

def connectStep (threads : ConnectThreads ι) :
    ConnectEvent ι → ConnectThreads ι × List ConnectRecord
  | .connect guest connect =>
      if threads.destroyed = true ∨ threads.guests guest ≠ .idle then
        (threads, [])
      else if connect.isIpv4 = false ∨
          connect.port ≠ threads.bridge.viewPort then
        (threads, [.connected connect connect])
      else
        (threads.moveGuest guest .exchange,
          [.connected connect
            { connect with address := threads.bridge.ipv4 }])
  | .guest guest => guestStep threads guest
  | .coordinate thread environment fuel =>
      let running := threads.coordinations thread
      if running.phase = .running then
        match coordinationResult threads.bridge running.stopRequested
            environment fuel with
        | none => (threads, [])
        | some result =>
            (threads.setCoordination thread { running with phase := .returned },
              [.finished thread result])
      else (threads, [])
  | .release thread =>
      let returned := threads.coordinations thread
      if returned.phase = .returned then
        ((threads.setStarted false).setCoordination thread
          { returned with phase := .released }, [.released thread])
      else (threads, [])
  | .exit thread =>
      let released := threads.coordinations thread
      if released.phase = .released then
        (threads.setCoordination thread { released with phase := .exited }, [])
      else (threads, [])
  | .destroy =>
      if threads.destroyed then (threads, [])
      else
        match threads.dataThread with
        | none => ({ threads with destroyed := true }, [])
        | some thread =>
            ({ threads.setCoordination thread
                { threads.coordinations thread with stopRequested := true } with
              destroyed := true }, [.destroyed thread])

def connectMachine : Machine (ConnectThreads ι) (ConnectEvent ι)
    ConnectRecord where
  step := connectStep

end Machine

/-! ## Uninterrupted connects -/

section Calls

variable {ι : Type*} [DecidableEq ι]

/-- A connect without interruption redirects as `before_connect` does, leaves
its flag and starts a coordination when it does. -/
theorem run_beforeConnect
    {threads : ConnectThreads ι} {guest : ι} {connect : GuestConnect}
    (hidle : threads.guests guest = .idle)
    (hpresent : threads.destroyed = false)
    (hthread : threads.dataThread = none) :
    let sequential := beforeConnect connect threads.bridge
    let run := connectMachine.run threads
      [.connect guest connect, .guest guest, .guest guest, .guest guest]
    run.1.bridge = sequential.2.2 ∧
      run.1.guests = threads.guests ∧
      run.2 = .connected connect sequential.1 ::
        if sequential.2.1 then [.created threads.created] else [] := by
  have hback (step : ConnectStep) : Function.update
      (Function.update threads.guests guest step) guest .idle =
        threads.guests := by
    rw [Function.update_idem, ← hidle, Function.update_eq_self]
  intro sequential run
  by_cases hother : connect.isIpv4 = false ∨
      connect.port ≠ threads.bridge.viewPort
  · simp [run, sequential, connectMachine, connectStep, guestStep,
      beforeConnect, hidle, hpresent, hother]
  · cases hstarted : threads.bridge.dataCoordinationStarted with
    | true =>
        simp [run, sequential, connectMachine, connectStep, guestStep,
          beforeConnect, hidle, hpresent, hother, hstarted,
          ConnectThreads.moveGuest, hback]
        rw [← hstarted]
    | false =>
        simp [run, sequential, connectMachine, connectStep, guestStep,
          beforeConnect, hidle, hpresent, hother, hstarted, hthread,
          ConnectThreads.moveGuest, ConnectThreads.setCoordination,
          ConnectThreads.setStarted, hback]

end Calls

/-! ## One coordination at a time -/

def ConnectRecord.isCreated : ConnectRecord → Bool
  | .created _ => true
  | _ => false

def ConnectRecord.isReleased : ConnectRecord → Bool
  | .released _ => true
  | _ => false

section Exclusion

variable {ι : Type*}

/-- Who has to come to an end before another coordination starts: the guest
that raised the flag, and then the thread it creates. -/
def ConnectThreads.Holds (threads : ConnectThreads ι) : ι ⊕ ℕ → Prop
  | .inl guest => threads.guests guest = .create
  | .inr thread => (threads.coordinations thread).Unfinished

/-- A coordination is created when all before it have been released. -/
def CreatedInOrder (before : List ConnectRecord) : ConnectRecord → Prop
  | .created _ => before.countP ConnectRecord.isCreated =
      before.countP ConnectRecord.isReleased
  | _ => True

structure CoordinationHistory (bridge : BridgeState)
    (threads : ConnectThreads ι) (records : List ConnectRecord) : Prop where
  kept : threads.bridge = { bridge with
    dataCoordinationStarted := threads.bridge.dataCoordinationStarted }
  held : HeldAlone threads.bridge.dataCoordinationStarted threads.Holds
  settled : (∀ thread, ¬(threads.coordinations thread).Unfinished) →
    records.countP ConnectRecord.isCreated =
      records.countP ConnectRecord.isReleased
  pending : ∀ thread, (threads.coordinations thread).Unfinished →
    records.countP ConnectRecord.isCreated =
      records.countP ConnectRecord.isReleased + 1
  ordered : Machine.Justified CreatedInOrder records
  redirected : ∀ asked left, .connected asked left ∈ records →
    left = (beforeConnect asked bridge).1

variable [DecidableEq ι] {bridge : BridgeState} {threads : ConnectThreads ι}
  {records : List ConnectRecord} {guest : ι}

theorem holds_moveGuest
    (hguest : threads.guests guest ≠ .create) {next : ConnectStep}
    (hnext : next ≠ .create) (party : ι ⊕ ℕ) :
    (threads.moveGuest guest next).Holds party ↔ threads.Holds party := by
  cases party with
  | inl other =>
      by_cases hother : other = guest
      · subst other
        simp [ConnectThreads.Holds, ConnectThreads.moveGuest, hguest, hnext]
      · simp [ConnectThreads.Holds, ConnectThreads.moveGuest, hother]
  | inr thread => exact Iff.rfl

omit [DecidableEq ι] in
theorem holds_setCoordination
    {thread : ℕ} {next : CoordinationThread}
    (hsame : next.Unfinished ↔ (threads.coordinations thread).Unfinished)
    (party : ι ⊕ ℕ) :
    (threads.setCoordination thread next).Holds party ↔
      threads.Holds party := by
  cases party with
  | inl other => exact Iff.rfl
  | inr other =>
      by_cases hother : other = thread
      · subst other
        simp [ConnectThreads.Holds, ConnectThreads.setCoordination, hsame]
      · simp [ConnectThreads.Holds, ConnectThreads.setCoordination, hother]

omit [DecidableEq ι] in
theorem unfinished_of_holds
    {next : ConnectThreads ι}
    (hholds : ∀ party, next.Holds party ↔ threads.Holds party) (thread : ℕ) :
    (next.coordinations thread).Unfinished ↔
      (threads.coordinations thread).Unfinished :=
  hholds (.inr thread)

namespace CoordinationHistory

omit [DecidableEq ι] in
/-- A step which neither raises nor lowers the flag nor hands it over. -/
theorem unchanged
    (hhistory : CoordinationHistory bridge threads records)
    {next : ConnectThreads ι} (hbridge : next.bridge = threads.bridge)
    (hholds : ∀ party, next.Holds party ↔ threads.Holds party) :
    CoordinationHistory bridge next records where
  kept := by
    rw [hbridge]
    exact hhistory.kept
  held := by
    rw [hbridge]
    exact hhistory.held.congr hholds
  settled := by
    intro hnone
    refine hhistory.settled fun thread hthread => hnone thread ?_
    exact (unfinished_of_holds hholds thread).mpr hthread
  pending := by
    intro thread hthread
    exact hhistory.pending thread
      ((unfinished_of_holds hholds thread).mp hthread)
  ordered := hhistory.ordered
  redirected := hhistory.redirected

omit [DecidableEq ι] in
/-- A record of anything but a creation or a release. -/
theorem noted
    (hhistory : CoordinationHistory bridge threads records)
    (record : ConnectRecord) (hcreated : record.isCreated = false)
    (hreleased : record.isReleased = false)
    (hconnected : ∀ asked left, record = .connected asked left →
      left = (beforeConnect asked bridge).1) :
    CoordinationHistory bridge threads (records ++ [record]) where
  kept := hhistory.kept
  held := hhistory.held
  settled := by simpa [hcreated, hreleased] using hhistory.settled
  pending := by simpa [hcreated, hreleased] using hhistory.pending
  ordered := by
    refine hhistory.ordered.snoc ?_
    cases record with
    | created thread => cases hcreated
    | _ => trivial
  redirected := by
    intro asked left hmem
    rcases List.mem_append.mp hmem with hold | hnew
    · exact hhistory.redirected asked left hold
    · exact hconnected asked left (List.mem_singleton.mp hnew).symm

theorem raise
    (hhistory : CoordinationHistory bridge threads records)
    (hdown : threads.bridge.dataCoordinationStarted = false) :
    CoordinationHistory bridge
      ((threads.setStarted true).moveGuest guest .create) records where
  kept := by
    simp only [ConnectThreads.moveGuest, ConnectThreads.setStarted]
    rw [hhistory.kept]
  held := by
    refine @HeldAlone.raised _ _ (.inl guest) ?_
    intro party
    have hparty := hhistory.held.not_holds hdown party
    cases party with
    | inl other =>
        by_cases hother : other = guest
        · subst other
          simp [ConnectThreads.Holds, ConnectThreads.moveGuest]
        · simpa [ConnectThreads.Holds, ConnectThreads.moveGuest,
            ConnectThreads.setStarted, hother] using hparty
    | inr thread =>
        simpa [ConnectThreads.Holds, ConnectThreads.moveGuest,
          ConnectThreads.setStarted] using hparty
  settled := hhistory.settled
  pending := hhistory.pending
  ordered := hhistory.ordered
  redirected := hhistory.redirected

/-- The guest that raised the flag hands it to the thread it creates. -/
theorem create
    (hhistory : CoordinationHistory bridge threads records)
    (hguest : threads.guests guest = .create) {next : ConnectThreads ι}
    {thread : ℕ} (hbridge : next.bridge = threads.bridge)
    (hguests : next.guests =
      Function.update threads.guests guest (.assign thread))
    (hcoordinations : next.coordinations =
      Function.update threads.coordinations thread { phase := .running }) :
    CoordinationHistory bridge next (records ++ [.created thread]) := by
  have hholds : threads.Holds (.inl guest) := hguest
  have honly := hhistory.held.holds_iff hholds
  have hnone : ∀ other, ¬(threads.coordinations other).Unfinished := by
    intro other hother
    have hsame : (Sum.inr other : ι ⊕ ℕ) = .inl guest :=
      (honly (.inr other)).mp hother
    cases hsame
  have hcount := hhistory.settled hnone
  have hnext : ∀ party, next.Holds party ↔ party = .inr thread := by
    intro party
    cases party with
    | inl other =>
        by_cases hother : other = guest
        · subst other
          simp [ConnectThreads.Holds, hguests]
        · have hidle : threads.guests other ≠ .create := by
            intro hcreate
            exact hother (Sum.inl.inj ((honly (.inl other)).mp hcreate))
          simp [ConnectThreads.Holds, hguests, hother, hidle]
    | inr other =>
        by_cases hother : other = thread
        · subst other
          simp [ConnectThreads.Holds, hcoordinations,
            CoordinationThread.Unfinished]
        · simp [ConnectThreads.Holds, hcoordinations, hother, hnone other]
  refine ⟨?_, ?_, ?_, ?_, ?_, ?_⟩
  · rw [hbridge]
    exact hhistory.kept
  · rw [hbridge]
    exact hhistory.held.passed hholds (.inr thread) hnext
  · intro hsettled
    exact absurd ((hnext (.inr thread)).mpr rfl) (hsettled thread)
  · intro _ _
    simpa [ConnectRecord.isCreated, ConnectRecord.isReleased] using hcount
  · exact hhistory.ordered.snoc hcount
  · intro asked left hmem
    exact hhistory.redirected asked left (by simpa using hmem)

omit [DecidableEq ι] in
theorem release
    (hhistory : CoordinationHistory bridge threads records) {thread : ℕ}
    (hthread : (threads.coordinations thread).phase = .returned)
    {next : CoordinationThread} (hnext : next.phase = .released) :
    CoordinationHistory bridge
      ((threads.setStarted false).setCoordination thread next)
      (records ++ [.released thread]) := by
  have hunfinished : (threads.coordinations thread).Unfinished :=
    Or.inr hthread
  have hcount := hhistory.pending thread hunfinished
  have honly := hhistory.held.holds_iff
    (show threads.Holds (.inr thread) from hunfinished)
  have hnobody : ∀ party, ¬((threads.setStarted false).setCoordination thread
      next).Holds party := by
    intro party
    cases party with
    | inl other =>
        intro hcreate
        cases (honly (.inl other)).mp hcreate
    | inr other =>
        by_cases hother : other = thread
        · subst other
          simp [ConnectThreads.Holds, ConnectThreads.setCoordination,
            CoordinationThread.Unfinished, hnext]
        · intro hafter
          have hbefore : threads.Holds (.inr other) := by
            simpa [ConnectThreads.Holds, ConnectThreads.setCoordination,
              ConnectThreads.setStarted, hother] using hafter
          exact hother (Sum.inr.inj ((honly (.inr other)).mp hbefore))
  refine ⟨?_, HeldAlone.down hnobody, ?_, ?_, ?_, ?_⟩
  · simp only [ConnectThreads.setCoordination, ConnectThreads.setStarted]
    rw [hhistory.kept]
  · intro _
    simpa [ConnectRecord.isCreated, ConnectRecord.isReleased] using hcount
  · intro other hother
    exact absurd hother (hnobody (.inr other))
  · exact hhistory.ordered.snoc trivial
  · intro asked left hmem
    exact hhistory.redirected asked left (by simpa using hmem)

theorem guestStep
    (hhistory : CoordinationHistory bridge threads records) (guest : ι) :
    CoordinationHistory bridge (Runtime.guestStep threads guest).1
      (records ++ (Runtime.guestStep threads guest).2) := by
  unfold Runtime.guestStep
  cases hguest : threads.guests guest with
  | idle => simpa using hhistory
  | exchange =>
      simp only [List.append_nil, apply_ite Prod.fst, apply_ite Prod.snd,
        ite_self]
      cases hflag : threads.bridge.dataCoordinationStarted with
      | true =>
          refine hhistory.unchanged rfl ?_
          exact holds_moveGuest (by simp [hguest]) (by simp)
      | false => exact hhistory.raise hflag
  | create =>
      exact hhistory.create hguest rfl rfl rfl
  | assign created =>
      cases hthread : threads.dataThread with
      | none =>
          simp only [List.append_nil]
          refine hhistory.unchanged rfl ?_
          exact holds_moveGuest (by simp [hguest]) (by simp)
      | some old =>
          refine noted ?_ (.stopRequested old) rfl rfl (by simp)
          refine hhistory.unchanged rfl ?_
          intro party
          rw [holds_moveGuest (by simp [hguest, ConnectThreads.setCoordination])
            (by simp)]
          refine holds_setCoordination ?_ party
          simp [CoordinationThread.Unfinished]
  | join old created =>
      simp only
      split
      · simp only [List.append_nil]
        refine hhistory.unchanged rfl ?_
        exact holds_moveGuest (by simp [hguest]) (by simp)
      · simpa using hhistory

theorem step
    (hhistory : CoordinationHistory bridge threads records)
    (event : ConnectEvent ι) :
    CoordinationHistory bridge (connectMachine.step threads event).1
      (records ++ (connectMachine.step threads event).2) := by
  cases event with
  | connect guest connect =>
      have hport : threads.bridge.viewPort = bridge.viewPort := by
        rw [hhistory.kept]
      have hipv4 : threads.bridge.ipv4 = bridge.ipv4 := by
        rw [hhistory.kept]
      simp only [connectMachine, connectStep, hport, hipv4]
      split
      · simpa using hhistory
      split
      · rename_i hother
        refine hhistory.noted (.connected connect connect) rfl rfl ?_
        rintro asked left hrecord
        cases hrecord
        simp [beforeConnect, hother]
      · rename_i hidle hview
        refine noted ?_ _ rfl rfl ?_
        · refine hhistory.unchanged rfl ?_
          exact holds_moveGuest (by simp [not_not.mp (not_or.mp hidle).2])
            (by simp)
        · rintro asked left hrecord
          cases hrecord
          simp [beforeConnect, hview]
  | guest guest => exact hhistory.guestStep guest
  | coordinate thread environment fuel =>
      simp only [connectMachine, connectStep]
      split
      · rename_i hrunning
        split
        · simpa using hhistory
        · refine noted ?_ (.finished thread _) rfl rfl (by simp)
          refine hhistory.unchanged rfl (holds_setCoordination ?_)
          simp [CoordinationThread.Unfinished, hrunning]
      · simpa using hhistory
  | release thread =>
      simp only [connectMachine, connectStep]
      split
      · rename_i hreturned
        exact hhistory.release hreturned rfl
      · simpa using hhistory
  | exit thread =>
      simp only [connectMachine, connectStep]
      split
      · rename_i hreleased
        rw [List.append_nil]
        refine hhistory.unchanged rfl (holds_setCoordination ?_)
        simp [CoordinationThread.Unfinished, hreleased]
      · simpa using hhistory
  | destroy =>
      simp only [connectMachine, connectStep]
      split
      · simpa using hhistory
      split
      · rw [List.append_nil]
        exact hhistory.unchanged rfl fun _ => Iff.rfl
      · rename_i thread hthread
        refine noted ?_ (.destroyed thread) rfl rfl (by simp)
        refine hhistory.unchanged rfl fun party => ?_
        have hsame := @holds_setCoordination ι threads thread
          { threads.coordinations thread with stopRequested := true }
          (by simp [CoordinationThread.Unfinished]) party
        exact hsame

omit [DecidableEq ι] in
theorem initial (hdown : bridge.dataCoordinationStarted = false) :
    CoordinationHistory bridge ({ bridge } : ConnectThreads ι) [] where
  kept := rfl
  held := by
    rw [hdown]
    refine HeldAlone.down ?_
    rintro (guest | thread) hholds
    · cases hholds
    · rcases hholds with hphase | hphase <;> cases hphase
  settled := fun _ => rfl
  pending := by
    rintro thread (hphase | hphase) <;> cases hphase
  ordered := Machine.justified_nil CreatedInOrder
  redirected := by simp

end CoordinationHistory

theorem coordinationHistory_run
    (hdown : bridge.dataCoordinationStarted = false)
    (events : List (ConnectEvent ι)) :
    let outcome := connectMachine.run ({ bridge } : ConnectThreads ι) events
    CoordinationHistory bridge outcome.1 outcome.2 :=
  Machine.run_history (CoordinationHistory bridge)
    (fun _ _ event hhistory => hhistory.step event)
    (CoordinationHistory.initial hdown) events

end Exclusion

/-- However guest connects and coordinations interleave, one coordination at
most is unfinished, each is created after all before it were released, the
flag is up exactly while one is or is about to be created, and every connect
leaves as `before_connect` has it. -/
theorem coordinationThreads_exclusive
    {ι : Type*} [DecidableEq ι] {bridge : BridgeState}
    (hdown : bridge.dataCoordinationStarted = false)
    (events : List (ConnectEvent ι)) :
    let outcome := connectMachine.run ({ bridge } : ConnectThreads ι) events
    (∀ thread other, (outcome.1.coordinations thread).Unfinished →
      (outcome.1.coordinations other).Unfinished → other = thread) ∧
    (outcome.1.bridge.dataCoordinationStarted = true ↔
      (∃ guest, outcome.1.guests guest = .create) ∨
        ∃ thread, (outcome.1.coordinations thread).Unfinished) ∧
    (∀ before thread after, outcome.2 = before ++ .created thread :: after →
      before.countP ConnectRecord.isCreated =
        before.countP ConnectRecord.isReleased) ∧
    (∀ asked left, .connected asked left ∈ outcome.2 →
      left = (beforeConnect asked bridge).1) ∧
    outcome.1.bridge = { bridge with
      dataCoordinationStarted := outcome.1.bridge.dataCoordinationStarted } := by
  intro outcome
  have hhistory : CoordinationHistory bridge outcome.1 outcome.2 :=
    coordinationHistory_run hdown events
  refine ⟨?_, ?_, ?_, hhistory.redirected, hhistory.kept⟩
  · intro thread other hthread hother
    exact Sum.inr.inj (hhistory.held.unique (.inr thread) (.inr other) hthread
      hother)
  · rw [hhistory.held.up_iff, Sum.exists]
    exact Iff.rfl
  · intro before thread after hsplit
    exact hhistory.ordered before (.created thread) after hsplit

def exampleBridge : BridgeState where
  host := [0x61]
  session := ⟨1, ⟨List.replicate 16 5, rfl⟩⟩
  mapSessionKey := ⟨List.replicate 20 1, rfl⟩
  ipv4 := 0x7F000001

/-- Of two guests that connect at the same time one creates the thread, and
both are redirected. -/
theorem coordinationThreads_exclusive_twoGuests :
    let asked : GuestConnect := ⟨true, loginViewPort, 0⟩
    let left : GuestConnect := ⟨true, loginViewPort, 0x7F000001⟩
    let events : List (ConnectEvent Bool) :=
      [.connect false asked, .connect true asked, .guest true, .guest false,
        .guest true]
    let outcome := connectMachine.run
      ({ bridge := exampleBridge } : ConnectThreads Bool) events
    outcome.2 = [.connected asked left, .connected asked left, .created 0] ∧
      (beforeConnect asked exampleBridge).1 = left ∧
      outcome.1.bridge.dataCoordinationStarted = true := by
  intro asked left events outcome
  have hrecords : outcome.2 =
      [.connected asked left, .connected asked left, .created 0] := rfl
  obtain ⟨-, hflag, -, hredirected, -⟩ :=
    @coordinationThreads_exclusive Bool _ exampleBridge rfl events
  refine ⟨hrecords, ?_, ?_⟩
  · exact (hredirected asked left (by
      change _ ∈ outcome.2
      rw [hrecords]
      exact List.mem_cons_self)).symm
  · exact hflag.mpr (Or.inr ⟨0, Or.inl rfl⟩)

end Revana.Runtime
