import Revana.Runtime.CoordinationThreads

/-!
# What the assignment of a coordination thread stops

Assigning a new thread to `data_thread_` asks the old one to stop and waits
for it, and so does the destructor.  Where the connects of the guest do not
overlap, the old thread has released the flag before: a later connect waits
for its exit only, and nothing but the destructor cancels a coordination.
-/

namespace Revana.Runtime

open Foundation
open Login

/-! ## A coordination that nobody stops -/

def Cancelled (result : Except LobbyFailure DataCharacterLoginResult) :
    Prop :=
  ∃ failure, result = .error failure ∧ failure.error = .cancelled

theorem receiveUntilDeadline_not_cancelled
    {clock : ℕ → ℕ} {deadline fuel iteration size : ℕ} {socket : StreamSocket}
    {wait : ReceiveWait}
    (hwait : receiveUntilDeadline (fun _ => false) clock deadline fuel
      iteration socket size = some wait) :
    wait.1 ≠ .cancelled := by
  induction fuel generalizing iteration socket size wait with
  | zero =>
      unfold receiveUntilDeadline at hwait
      split at hwait
      · cases hwait
        simp
      · cases hwait
  | succ fuel ih =>
      unfold receiveUntilDeadline at hwait
      split at hwait
      · cases hwait
        simp
      simp only [Bool.false_eq_true, if_false] at hwait
      split at hwait
      · cases hwait
        simp
      split at hwait
      · cases hwait
        simp
      · obtain ⟨after, hafter, rfl⟩ := Option.map_eq_some_iff.mp hwait
        have hrest := ih hafter
        exact hrest
      · cases hwait
        simp
      · exact ih hwait
      · exact ih hwait

section Coordination

variable {environment : LobbyEnvironment} {fuel : ℕ}
  {result : Except LobbyFailure DataCharacterLoginResult}
  {last : StreamSocket}

theorem exchangeRequest_not_cancelled
    {socket : StreamSocket} {request : List UInt8}
    {sendStage replyStage : LobbyStage} {replySize : ℕ}
    {accepts : List UInt8 → Bool} {failure : LobbyFailure}
    (hfailed : (exchangeRequest socket request sendStage replySize replyStage
      accepts).1 = .error failure) :
    failure.error ≠ .cancelled := by
  unfold exchangeRequest at hfailed
  simp only at hfailed
  split at hfailed
  · cases hfailed
    simp
  split at hfailed
  · cases hfailed
    simp
  split at hfailed
  · cases hfailed
  · cases hfailed
    simp

theorem selectionWaitError_not_cancelled
    {wait : ReceiveWaitResult} (hwait : wait ≠ .cancelled) :
    selectionWaitError wait ≠ .cancelled := by
  cases wait with
  | cancelled => exact absurd rfl hwait
  | complete => simp [selectionWaitError]
  | timedOut => simp [selectionWaitError]
  | ioFailed => simp [selectionWaitError]

theorem coordinateSelection_not_cancelled
    (hstop : environment.stopRequested = fun _ => false)
    {socket : StreamSocket} {key : MapSessionKey} {options : LobbyOptions}
    {slots : DataCharacterLoginResult}
    (hresult : coordinateSelection environment fuel socket key options slots =
      some (result, last)) :
    ¬Cancelled result := by
  rintro ⟨failure, rfl, hcancelled⟩
  unfold coordinateSelection at hresult
  split at hresult
  · cases hresult
  rename_i verdict trigger next hverdict
  have hnever : verdict ≠ .cancelled := by
    unfold receiveExactUntil at hverdict
    split at hverdict
    · cases hverdict
      simp
    · rw [hstop] at hverdict
      exact receiveUntilDeadline_not_cancelled hverdict
  split at hresult
  · cases hresult
    exact selectionWaitError_not_cancelled hnever hcancelled
  split at hresult
  · cases hresult
    cases hcancelled
  simp only at hresult
  split at hresult
  · cases hresult
    cases hcancelled
  · cases hresult

/-- Only a stop request cancels a coordination. -/
theorem coordinateCharacterLoginData_not_cancelled
    (hstop : environment.stopRequested = fun _ => false) {host : List UInt8}
    {session : AuthSession} {key : MapSessionKey} {options : LobbyOptions}
    (hresult : coordinateCharacterLoginData environment fuel host session key
      options = some (result, last)) :
    ¬Cancelled result := by
  rintro ⟨failure, rfl, hcancelled⟩
  unfold coordinateCharacterLoginData at hresult
  split at hresult
  · cases hresult
    cases hcancelled
  split at hresult
  · cases hresult
    cases hcancelled
  split at hresult
  · rename_i resolved hresolve
    cases hresult
    unfold resolveIpv4 at hresolve
    split at hresolve <;> cases hresolve <;> cases hcancelled
  split at hresult
  · rename_i opened hopen
    cases hresult
    unfold openDataSocket at hopen
    split at hopen <;> cases hopen
    cases hcancelled
  · unfold coordinateExchange at hresult
    simp only at hresult
    split at hresult
    · rename_i bound hbind
      cases hresult
      exact exchangeRequest_not_cancelled hbind hcancelled
    split at hresult
    · rename_i account haccount
      cases hresult
      exact exchangeRequest_not_cancelled haccount hcancelled
    · exact coordinateSelection_not_cancelled hstop hresult
        ⟨failure, rfl, hcancelled⟩

theorem coordinationResult_not_cancelled
    {bridge : BridgeState}
    (hresult : coordinationResult bridge false environment fuel =
      some result) :
    ¬Cancelled result := by
  unfold coordinationResult at hresult
  obtain ⟨⟨outcome, last⟩, hrun, rfl⟩ := Option.map_eq_some_iff.mp hresult
  exact coordinateCharacterLoginData_not_cancelled rfl hrun

end Coordination

/-! ## Connects that do not overlap -/

/-- A connect begins, and the bridge is destroyed, when no connect is in
progress. -/
def NoOverlap {ι : Type*} (threads : ConnectThreads ι) :
    ConnectEvent ι → Prop
  | .connect _ _ => ∀ guest, threads.guests guest = .idle
  | .destroy => ∀ guest, threads.guests guest = .idle
  | .guest _ => True
  | .coordinate _ _ _ => True
  | .release _ => True
  | .exit _ => True

/-- What has been recorded about the thread of a record. -/
def RecordCalm (before : List ConnectRecord) : ConnectRecord → Prop
  | .stopRequested thread => .released thread ∈ before
  | .finished thread result => Cancelled result → .destroyed thread ∈ before
  | _ => True

structure ConnectsCalm {ι : Type*} (threads : ConnectThreads ι)
    (records : List ConnectRecord) : Prop where
  absent_iff : ∀ thread, (threads.coordinations thread).phase = .absent ↔
    threads.created ≤ thread
  alone : ∀ guest other, threads.guests guest ≠ .idle →
    threads.guests other ≠ .idle → other = guest
  slot : ∀ thread, threads.dataThread = some thread → thread < threads.created
  assigning : ∀ guest thread, threads.guests guest = .assign thread →
    thread < threads.created ∧ threads.dataThread ≠ some thread ∧
      ∀ other, other ≠ thread → ¬(threads.coordinations other).Unfinished
  joining : ∀ guest old thread, threads.guests guest = .join old thread →
    thread < threads.created ∧ (threads.coordinations old).Released
  stopped : ∀ thread, (threads.coordinations thread).stopRequested = true →
    (threads.coordinations thread).Released ∨ .destroyed thread ∈ records
  released : ∀ thread, (threads.coordinations thread).Released →
    .released thread ∈ records
  calm : Machine.Justified RecordCalm records

section Calm

variable {ι : Type*} {threads : ConnectThreads ι}
  {records : List ConnectRecord}

namespace ConnectsCalm

theorem snoc
    (hcalm : ConnectsCalm threads records) {record : ConnectRecord}
    (hrecord : RecordCalm records record) :
    ConnectsCalm threads (records ++ [record]) where
  absent_iff := hcalm.absent_iff
  alone := hcalm.alone
  slot := hcalm.slot
  assigning := hcalm.assigning
  joining := hcalm.joining
  stopped := by
    intro thread hstopped
    rcases hcalm.stopped thread hstopped with hreleased | hdestroyed
    · exact Or.inl hreleased
    · exact Or.inr (List.mem_append_left _ hdestroyed)
  released := fun thread hphase =>
    List.mem_append_left _ (hcalm.released thread hphase)
  calm := hcalm.calm.snoc hrecord

variable [DecidableEq ι] {guest : ι}

/-- A guest moves on alone; where it goes has to be in order. -/
theorem move
    (hcalm : ConnectsCalm threads records)
    (halone : ∀ other, other ≠ guest → threads.guests other = .idle)
    {next : ConnectStep}
    (hassign : ∀ thread, next = .assign thread → thread < threads.created ∧
      threads.dataThread ≠ some thread ∧
      ∀ other, other ≠ thread → ¬(threads.coordinations other).Unfinished)
    (hjoin : ∀ old thread, next = .join old thread →
      thread < threads.created ∧ (threads.coordinations old).Released) :
    ConnectsCalm (threads.moveGuest guest next) records where
  absent_iff := hcalm.absent_iff
  alone := by
    have hmoved : ∀ other,
        (threads.moveGuest guest next).guests other ≠ .idle →
          other = guest := by
      intro other hother
      by_contra hne
      simp [ConnectThreads.moveGuest, hne, halone other hne] at hother
    intro first second hfirst hsecond
    rw [hmoved first hfirst, hmoved second hsecond]
  slot := hcalm.slot
  assigning := by
    intro other thread hother
    by_cases hne : other = guest
    · subst other
      exact hassign thread (by simpa [ConnectThreads.moveGuest] using hother)
    · simp [ConnectThreads.moveGuest, hne, halone other hne] at hother
  joining := by
    intro other old thread hother
    by_cases hne : other = guest
    · subst other
      exact hjoin old thread (by simpa [ConnectThreads.moveGuest] using hother)
    · simp [ConnectThreads.moveGuest, hne, halone other hne] at hother
  stopped := hcalm.stopped
  released := hcalm.released
  calm := hcalm.calm

omit [DecidableEq ι] in
theorem idle_of_ne
    (hcalm : ConnectsCalm threads records)
    (hguest : threads.guests guest ≠ .idle) {other : ι} (hother : other ≠ guest) :
    threads.guests other = .idle := by
  by_contra hbusy
  exact hother (hcalm.alone guest other hguest hbusy)

theorem moveIdle
    (hcalm : ConnectsCalm threads records)
    (hguest : threads.guests guest ≠ .idle) {next : ConnectStep}
    (hnext : next = .idle ∨ next = .exchange ∨ next = .create) :
    ConnectsCalm (threads.moveGuest guest next) records := by
  refine hcalm.move (fun other => hcalm.idle_of_ne hguest) ?_ ?_
  · rintro thread rfl
    simp at hnext
  · rintro old thread rfl
    simp at hnext

omit [DecidableEq ι] in
theorem setStarted
    (hcalm : ConnectsCalm threads records) (started : Bool) :
    ConnectsCalm (threads.setStarted started) records :=
  ⟨hcalm.absent_iff, hcalm.alone, hcalm.slot, hcalm.assigning, hcalm.joining,
    hcalm.stopped, hcalm.released, hcalm.calm⟩

omit [DecidableEq ι] in
/-- A thread goes on from one phase to the next, never back from its end. -/
theorem setCoordination
    (hcalm : ConnectsCalm threads records) {thread : ℕ}
    {next : CoordinationThread}
    (habsent : (threads.coordinations thread).phase ≠ .absent)
    (hnext : next.phase ≠ .absent)
    (hunfinished : next.Unfinished →
      (threads.coordinations thread).Unfinished)
    (hstopped : next.stopRequested = true →
      next.Released ∨ .destroyed thread ∈ records)
    (hreleased : next.Released → .released thread ∈ records)
    (hkept : (threads.coordinations thread).Released → next.Released) :
    ConnectsCalm (threads.setCoordination thread next) records where
  absent_iff := by
    intro other
    by_cases hother : other = thread
    · subst other
      have hcreated : ¬threads.created ≤ thread := fun hle =>
        habsent ((hcalm.absent_iff thread).mpr hle)
      simpa [ConnectThreads.setCoordination, hnext] using hcreated
    · simpa [ConnectThreads.setCoordination, hother] using
        hcalm.absent_iff other
  alone := hcalm.alone
  slot := hcalm.slot
  assigning := by
    intro guest created hguest
    obtain ⟨hcreated, hslot, hothers⟩ := hcalm.assigning guest created hguest
    refine ⟨hcreated, hslot, ?_⟩
    intro other hother
    by_cases hsame : other = thread
    · subst other
      intro hafter
      refine hothers thread hother (hunfinished ?_)
      simpa [ConnectThreads.setCoordination] using hafter
    · simpa [ConnectThreads.setCoordination, hsame] using hothers other hother
  joining := by
    intro guest old created hguest
    obtain ⟨hcreated, hold⟩ := hcalm.joining guest old created hguest
    refine ⟨hcreated, ?_⟩
    by_cases hsame : old = thread
    · subst old
      simpa [ConnectThreads.setCoordination] using hkept hold
    · simpa [ConnectThreads.setCoordination, hsame] using hold
  stopped := by
    intro other
    by_cases hsame : other = thread
    · subst other
      simpa [ConnectThreads.setCoordination] using hstopped
    · simpa [ConnectThreads.setCoordination, hsame] using hcalm.stopped other
  released := by
    intro other
    by_cases hsame : other = thread
    · subst other
      simpa [ConnectThreads.setCoordination] using hreleased
    · simpa [ConnectThreads.setCoordination, hsame] using hcalm.released other
  calm := hcalm.calm

omit [DecidableEq ι] in
theorem setSlot
    (hcalm : ConnectsCalm threads records)
    (hidle : ∀ guest, threads.guests guest = .idle) {thread : ℕ}
    (hthread : thread < threads.created) :
    ConnectsCalm { threads with dataThread := some thread } records where
  absent_iff := hcalm.absent_iff
  alone := hcalm.alone
  slot := by
    intro other hother
    obtain rfl := Option.some.inj hother
    exact hthread
  assigning := by
    intro guest created hguest
    rw [hidle guest] at hguest
    cases hguest
  joining := by
    intro guest old created hguest
    rw [hidle guest] at hguest
    cases hguest
  stopped := hcalm.stopped
  released := hcalm.released
  calm := hcalm.calm

/-- The assignment is over: the guest leaves and the thread is in its slot. -/
theorem settle
    (hcalm : ConnectsCalm threads records)
    (hguest : threads.guests guest ≠ .idle) {thread : ℕ}
    (hthread : thread < threads.created) :
    ConnectsCalm
      ({ threads with dataThread := some thread }.moveGuest guest .idle)
      records := by
  have hmoved := hcalm.moveIdle hguest (Or.inl rfl)
  refine hmoved.setSlot ?_ hthread
  intro other
  by_cases hother : other = guest
  · subst other
    simp [ConnectThreads.moveGuest]
  · simp [ConnectThreads.moveGuest, hother, hcalm.idle_of_ne hguest hother]

/-- The new thread is the only one that has not lowered the flag. -/
theorem create
    (hcalm : ConnectsCalm threads records)
    (hguest : threads.guests guest = .create)
    (hnone : ∀ thread, ¬(threads.coordinations thread).Unfinished)
    {next : ConnectThreads ι} (hslot : next.dataThread = threads.dataThread)
    (hcreated : next.created = threads.created + 1)
    (hguests : next.guests =
      Function.update threads.guests guest (.assign threads.created))
    (hcoordinations : next.coordinations = Function.update
      threads.coordinations threads.created { phase := .running }) :
    ConnectsCalm next (records ++ [.created threads.created]) := by
  have hbusy : threads.guests guest ≠ .idle := by simp [hguest]
  have hold : ∀ other, other ≠ threads.created →
      next.coordinations other = threads.coordinations other := by
    intro other hother
    rw [hcoordinations, Function.update_of_ne hother]
  have hnew : next.coordinations threads.created = { phase := .running } := by
    rw [hcoordinations, Function.update_self]
  have halone : ∀ other, next.guests other ≠ .idle → other = guest := by
    intro other hother
    by_contra hne
    rw [hguests, Function.update_of_ne hne,
      hcalm.idle_of_ne hbusy hne] at hother
    exact hother rfl
  have hhere : next.guests guest = .assign threads.created := by
    rw [hguests, Function.update_self]
  refine ConnectsCalm.snoc ⟨?_, ?_, ?_, ?_, ?_, ?_, ?_, hcalm.calm⟩ trivial
  · intro thread
    by_cases hthread : thread = threads.created
    · subst thread
      simp [hnew, hcreated]
    · rw [hold thread hthread, hcalm.absent_iff, hcreated]
      omega
  · intro first second hfirst hsecond
    rw [halone first hfirst, halone second hsecond]
  · intro thread hthread
    rw [hslot] at hthread
    rw [hcreated]
    exact Nat.lt_succ_of_lt (hcalm.slot thread hthread)
  · intro other thread hother
    obtain rfl := halone other (by simp [hother])
    obtain rfl : threads.created = thread := by
      simpa [hhere] using hother
    refine ⟨by omega, ?_, ?_⟩
    · rw [hslot]
      intro hsame
      exact absurd (hcalm.slot _ hsame) (lt_irrefl _)
    · intro other hne
      rw [hold other hne]
      exact hnone other
  · intro other old thread hother
    obtain rfl := halone other (by simp [hother])
    rw [hhere] at hother
    cases hother
  · intro thread hstopped
    by_cases hthread : thread = threads.created
    · subst thread
      simp [hnew] at hstopped
    · rw [hold thread hthread] at hstopped ⊢
      exact hcalm.stopped thread hstopped
  · intro thread hreleased
    by_cases hthread : thread = threads.created
    · subst thread
      simp [hnew, CoordinationThread.Released] at hreleased
    · rw [hold thread hthread] at hreleased
      exact hcalm.released thread hreleased

omit [DecidableEq ι] in
theorem destroy
    (hcalm : ConnectsCalm threads records) :
    ConnectsCalm { threads with destroyed := true } records :=
  ⟨hcalm.absent_iff, hcalm.alone, hcalm.slot, hcalm.assigning, hcalm.joining,
    hcalm.stopped, hcalm.released, hcalm.calm⟩

omit [DecidableEq ι] in
/-- The destructor asks the thread in the slot to stop, at work or not. -/
theorem stop
    (hcalm : ConnectsCalm threads records) {thread : ℕ}
    (hthread : threads.dataThread = some thread) :
    ConnectsCalm (threads.setCoordination thread
      { threads.coordinations thread with stopRequested := true })
      (records ++ [.destroyed thread]) := by
  have hpresent : (threads.coordinations thread).phase ≠ .absent := by
    intro habsent
    have hcreated := hcalm.slot thread hthread
    exact absurd hcreated ((hcalm.absent_iff thread).mp habsent).not_gt
  have hnoted : ConnectsCalm threads (records ++ [.destroyed thread]) :=
    hcalm.snoc trivial
  refine hnoted.setCoordination hpresent hpresent id ?_ ?_ id
  · exact fun _ => Or.inr (by simp)
  · exact hnoted.released thread

omit [DecidableEq ι] in
theorem released_of_settled
    (hcalm : ConnectsCalm threads records) {thread : ℕ}
    (hthread : thread < threads.created)
    (hfinished : ¬(threads.coordinations thread).Unfinished) :
    (threads.coordinations thread).Released := by
  have hpresent : (threads.coordinations thread).phase ≠ .absent := by
    intro habsent
    exact absurd hthread ((hcalm.absent_iff thread).mp habsent).not_gt
  cases hphase : (threads.coordinations thread).phase with
  | absent => exact absurd hphase hpresent
  | running => exact absurd (Or.inl hphase) hfinished
  | returned => exact absurd (Or.inr hphase) hfinished
  | released => exact Or.inl hphase
  | exited => exact Or.inr hphase

theorem guestStep
    (hcalm : ConnectsCalm threads records)
    (hnone : threads.guests guest = .create →
      ∀ thread, ¬(threads.coordinations thread).Unfinished) :
    ConnectsCalm (Runtime.guestStep threads guest).1
      (records ++ (Runtime.guestStep threads guest).2) := by
  unfold Runtime.guestStep
  cases hguest : threads.guests guest with
  | idle => simpa using hcalm
  | exchange =>
      have hbusy : threads.guests guest ≠ .idle := by simp [hguest]
      cases hflag : threads.bridge.dataCoordinationStarted with
      | true => simpa using hcalm.moveIdle hbusy (Or.inl rfl)
      | false =>
          have hraised := hcalm.setStarted true
          simpa using hraised.moveIdle hbusy (Or.inr (Or.inr rfl))
  | create => exact hcalm.create hguest (hnone hguest) rfl rfl rfl rfl
  | assign created =>
      have hbusy : threads.guests guest ≠ .idle := by simp [hguest]
      obtain ⟨hcreated, hslot, hothers⟩ := hcalm.assigning guest created hguest
      cases hthread : threads.dataThread with
      | none => simpa using hcalm.settle hbusy hcreated
      | some old =>
          -- The old thread is not the new one, so it has lowered the flag.
          have hne : old ≠ created := by
            rintro rfl
            exact hslot hthread
          have hphase := hcalm.released_of_settled (hcalm.slot old hthread)
            (hothers old hne)
          have hpresent : (threads.coordinations old).phase ≠ .absent := by
            rcases hphase with hphase | hphase <;> simp [hphase]
          have hreleased := hcalm.released old hphase
          have hstopped : ConnectsCalm (threads.setCoordination old
              { threads.coordinations old with stopRequested := true })
              records :=
            hcalm.setCoordination hpresent hpresent id
              (fun _ => Or.inl hphase) (fun _ => hreleased) id
          refine ConnectsCalm.snoc ?_ hreleased
          refine hstopped.move (fun other => hcalm.idle_of_ne hbusy) ?_ ?_
          · intro thread hassign
            cases hassign
          · intro before thread hjoin
            cases hjoin
            refine ⟨hcreated, ?_⟩
            simpa [ConnectThreads.setCoordination, CoordinationThread.Released]
              using hphase
  | join old created =>
      have hbusy : threads.guests guest ≠ .idle := by simp [hguest]
      obtain ⟨hcreated, -⟩ := hcalm.joining guest old created hguest
      simp only
      split
      · simpa using hcalm.settle hbusy hcreated
      · simpa using hcalm

theorem step
    (hcalm : ConnectsCalm threads records)
    (hnone : ∀ guest, threads.guests guest = .create →
      ∀ thread, ¬(threads.coordinations thread).Unfinished)
    {event : ConnectEvent ι} (hoverlap : NoOverlap threads event) :
    ConnectsCalm (connectMachine.step threads event).1
      (records ++ (connectMachine.step threads event).2) := by
  cases event with
  | connect guest connect =>
      simp only [connectMachine, connectStep]
      split
      · simpa using hcalm
      split
      · exact hcalm.snoc trivial
      · refine ConnectsCalm.snoc ?_ trivial
        refine hcalm.move (fun other _ => hoverlap other) ?_ ?_
        · intro thread hassign
          cases hassign
        · intro old thread hjoin
          cases hjoin
  | guest guest => exact hcalm.guestStep (hnone guest)
  | coordinate thread environment fuel =>
      simp only [connectMachine, connectStep]
      split
      · rename_i hrunning
        have hworking : ¬(threads.coordinations thread).Released := by
          simp [CoordinationThread.Released, hrunning]
        -- Nothing but the destructor has asked a running thread to stop.
        have hdestroyed : (threads.coordinations thread).stopRequested = true →
            .destroyed thread ∈ records := by
          intro hstopped
          exact (hcalm.stopped thread hstopped).resolve_left hworking
        split
        · simpa using hcalm
        · rename_i result hresult
          have hrecord : Cancelled result → .destroyed thread ∈ records := by
            intro hcancelled
            by_contra hkept
            rw [Bool.eq_false_iff.mpr (mt hdestroyed hkept)] at hresult
            exact coordinationResult_not_cancelled hresult hcancelled
          refine ConnectsCalm.snoc ?_ hrecord
          refine hcalm.setCoordination (by simp [hrunning]) (by simp)
            (fun _ => Or.inl hrunning) ?_ ?_ ?_
          · exact fun hstopped => Or.inr (hdestroyed hstopped)
          · simp [CoordinationThread.Released]
          · exact fun hreleased => absurd hreleased hworking
      · simpa using hcalm
  | release thread =>
      simp only [connectMachine, connectStep]
      split
      · rename_i hreturned
        have hnoted : ConnectsCalm (threads.setStarted false)
            (records ++ [.released thread]) :=
          (hcalm.setStarted false).snoc trivial
        refine hnoted.setCoordination ?_ (by simp) ?_ ?_ ?_ ?_
        · simp [ConnectThreads.setStarted, hreturned]
        · simp [CoordinationThread.Unfinished]
        · exact fun _ => Or.inl (Or.inl rfl)
        · simp
        · exact fun _ => Or.inl rfl
      · simpa using hcalm
  | exit thread =>
      simp only [connectMachine, connectStep]
      split
      · rename_i hphase
        have hreleased := hcalm.released thread (Or.inl hphase)
        rw [List.append_nil]
        refine hcalm.setCoordination (by simp [hphase]) (by simp) ?_ ?_ ?_ ?_
        · simp [CoordinationThread.Unfinished]
        · exact fun _ => Or.inl (Or.inr rfl)
        · exact fun _ => hreleased
        · exact fun _ => Or.inr rfl
      · simpa using hcalm
  | destroy =>
      simp only [connectMachine, connectStep]
      split
      · simpa using hcalm
      split
      · simpa using hcalm.destroy
      · rename_i thread hthread
        exact (hcalm.stop hthread).destroy

omit [DecidableEq ι] in
theorem initial (bridge : BridgeState) :
    ConnectsCalm ({ bridge } : ConnectThreads ι) [] where
  absent_iff := by simp
  alone := by simp
  slot := by simp
  assigning := by simp
  joining := by simp
  stopped := by simp
  released := by simp [CoordinationThread.Released]
  calm := Machine.justified_nil RecordCalm

end ConnectsCalm

end Calm

/-- The join returns with the exit of a thread that has lowered the flag. -/
theorem join_of_released
    {ι : Type*} [DecidableEq ι] {threads : ConnectThreads ι} {guest : ι}
    {old thread : ℕ} (hguest : threads.guests guest = .join old thread)
    (hreleased : (threads.coordinations old).Released) :
    (connectMachine.run threads [.exit old, .guest guest]).1.guests guest =
      .idle := by
  rcases hreleased with hphase | hphase
  · simp [connectMachine, connectStep, Runtime.guestStep, hphase, hguest,
      ConnectThreads.setCoordination, ConnectThreads.moveGuest]
  · simp [connectMachine, connectStep, Runtime.guestStep, hphase, hguest,
      ConnectThreads.moveGuest]

/-- Where connects do not overlap, the assignment of a coordination thread
stops only a coordination that has lowered the flag and waits for nothing but
its exit, and only the destructor of the bridge cancels one. -/
theorem connects_never_cancel
    {ι : Type*} [DecidableEq ι] {bridge : BridgeState}
    (hdown : bridge.dataCoordinationStarted = false)
    {events : List (ConnectEvent ι)}
    (hoverlap : connectMachine.AlongRun NoOverlap { bridge } events) :
    let outcome := connectMachine.run ({ bridge } : ConnectThreads ι) events
    (∀ before thread after,
      outcome.2 = before ++ .stopRequested thread :: after →
        .released thread ∈ before) ∧
    (∀ guest old thread, outcome.1.guests guest = .join old thread →
      (outcome.1.coordinations old).Released ∧
        (connectMachine.run outcome.1 [.exit old, .guest guest]).1.guests
          guest = .idle) ∧
    (∀ before thread result after,
      outcome.2 = before ++ .finished thread result :: after →
        Cancelled result → .destroyed thread ∈ before) := by
  intro outcome
  have hboth : CoordinationHistory bridge outcome.1 outcome.2 ∧
      ConnectsCalm outcome.1 outcome.2 := by
    refine Machine.run_history_along
      (fun threads records => CoordinationHistory bridge threads records ∧
        ConnectsCalm threads records) ?_
      ⟨CoordinationHistory.initial hdown, ConnectsCalm.initial bridge⟩ hoverlap
    rintro threads records event hevent ⟨hhistory, hcalm⟩
    refine ⟨hhistory.step event, hcalm.step ?_ hevent⟩
    intro guest hguest thread hthread
    have hsame := hhistory.held.unique (.inl guest) (.inr thread) hguest hthread
    cases hsame
  obtain ⟨-, hcalm⟩ := hboth
  refine ⟨?_, ?_, ?_⟩
  · intro before thread after hsplit
    exact hcalm.calm before (.stopRequested thread) after hsplit
  · intro guest old thread hguest
    have hreleased := (hcalm.joining guest old thread hguest).2
    exact ⟨hreleased, join_of_released hguest hreleased⟩
  · intro before thread result after hsplit
    exact hcalm.calm before (.finished thread result) after hsplit

/-- A platform without sockets, which ends a coordination at once. -/
def unreadyEnvironment : LobbyEnvironment where
  winsockReady := false
  getAddrInfo := fun _ => none
  connects := fun _ _ => false
  receiveTimeoutSet := true
  stopRequested := fun _ => true
  clock := id
  socket := ⟨[], fun _ => .failed, fun _ => .failed, []⟩

/-- A connect to the view port, up to the creation of its thread. -/
def viewConnect : List (ConnectEvent Unit) :=
  [.connect () ⟨true, loginViewPort, 0⟩, .guest (), .guest (), .guest ()]

/-- A second connect after the first coordination has lowered the flag, whose
thread exits while the second waits for it; the bridge is destroyed with the
second coordination at work. -/
def connectTwice : List (ConnectEvent Unit) :=
  viewConnect ++ [.coordinate 0 unreadyEnvironment 0, .release 0] ++
    viewConnect ++ [.guest (), .exit 0, .guest (), .destroy]

theorem connectTwice_records :
    (connectMachine.run ({ bridge := exampleBridge } : ConnectThreads Unit)
      connectTwice).2 =
      [.connected ⟨true, loginViewPort, 0⟩ ⟨true, loginViewPort, 0x7F000001⟩,
        .created 0,
        .finished 0 (.error ⟨.connectionFailed, .connect, none⟩),
        .released 0,
        .connected ⟨true, loginViewPort, 0⟩ ⟨true, loginViewPort, 0x7F000001⟩,
        .created 1, .stopRequested 0, .destroyed 1] := rfl

/-- The second connect stops a thread that has lowered the flag, and the
destructor one that has not. -/
theorem connects_never_cancel_twice :
    let outcome := connectMachine.run
      ({ bridge := exampleBridge } : ConnectThreads Unit) connectTwice
    .stopRequested 0 ∈ outcome.2 ∧ .released 0 ∈ outcome.2.take 6 ∧
      outcome.1.coordinations 1 = ⟨.running, true⟩ := by
  intro outcome
  have hoverlap : connectMachine.AlongRun NoOverlap
      ({ bridge := exampleBridge } : ConnectThreads Unit) connectTwice :=
    ⟨fun _ => rfl, trivial, trivial, trivial, trivial, trivial, fun _ => rfl,
      trivial, trivial, trivial, trivial, trivial, trivial, fun _ => rfl,
      trivial⟩
  obtain ⟨hstopped, -, -⟩ := connects_never_cancel rfl hoverlap
  have hsplit : outcome.2 =
      outcome.2.take 6 ++ [.stopRequested 0, .destroyed 1] := by
    simp [outcome, connectTwice_records]
  refine ⟨?_, hstopped _ 0 _ hsplit, rfl⟩
  rw [hsplit]
  simp

/-- With overlapping connects a late assignment stops the coordination that has
begun meanwhile. -/
example :
    let asked : GuestConnect := ⟨true, loginViewPort, 0⟩
    let events : List (ConnectEvent Bool) :=
      [.connect false asked, .guest false, .guest false,
        .coordinate 0 unreadyEnvironment 0, .release 0, .connect true asked,
        .guest true, .guest true, .guest true, .guest false]
    let outcome := connectMachine.run
      ({ bridge := exampleBridge } : ConnectThreads Bool) events
    outcome.1.coordinations 1 = ⟨.running, true⟩ := rfl

end Revana.Runtime
