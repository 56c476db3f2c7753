import Revana.Foundation.Machine
import Revana.Foundation.TestAndSet
import Revana.Runtime.ReceiveGate

/-!
# The view bootstrap under every interleaving

Guest threads run the bootstrap of `RevanaTraceFourByteSocketReceive` at the
same time, and every load, store and exchange of a flag is one step, and so
is every peek.  The exchange of the request flag lets one thread send; the flag
falls again only when that send failed.
-/

namespace Revana.Runtime

open Foundation
open Login

/-! ## The threads -/

/-- The next step of a guest thread inside the bootstrap, with the socket of
its call. -/
inductive BootstrapStep where
  | loadReady (socket : Option GuestSocket)
  | loadFailed (socket : Option GuestSocket)
  | exchange (socket : GuestSocket)
  | send (socket : GuestSocket)
  | lower (socket : GuestSocket)
  | fail (socket : GuestSocket)
  | erase (socket : GuestSocket)
  | loadSent (socket : GuestSocket)
  | peek (socket : GuestSocket) (attempt : ℕ)
  | settle (socket : GuestSocket) (ready : Bool)

/-- A call under way; `late` is whether the bootstrap was decided when it
began. -/
structure BootstrapThread where
  keyResponseMd5 : ℕ → Md5
  step : BootstrapStep
  late : Bool

structure BootstrapThreads (ι : Type*) where
  bootstrap : DirectViewBootstrap
  guests : ι → Option BootstrapThread := fun _ => none

inductive BootstrapEvent (ι : Type*) where
  /-- A call with length four loads the enabled flag. -/
  | receive (guest : ι) (keyResponseMd5 : ℕ → Md5)
      (socket : Option GuestSocket)
  | guest (guest : ι)

/-- A settled call comes with its socket and the MD5 calls of its checks. -/
inductive BootstrapRecord where
  | sent (late : Bool) (send : SocketSend)
  | settled (late : Bool) (keyResponseMd5 : ℕ → Md5) (socket : GuestSocket)
      (ready : Bool)

def DirectViewBootstrap.decided (bootstrap : DirectViewBootstrap) : Bool :=
  bootstrap.responseReady || bootstrap.failed

/-- The loop goes on while attempts are left. -/
def nextPeek (socket : GuestSocket) (attempt : ℕ) : BootstrapStep :=
  if attempt + 1 < responseWaitAttempts then .peek socket (attempt + 1)
  else .settle socket false

/-- One peek of the wait for the key response, and where it leads. -/
def peekStep (keyResponseMd5 : ℕ → Md5) (socket : GuestSocket)
    (attempt : ℕ) : BootstrapStep :=
  match (socket.keyResponsePeek attempt).head keyResponseSize with
  | none => nextPeek socket attempt
  | some bytes =>
      if bytes.length = keyResponseSize ∧
          isCompleteKeyResponse (keyResponseMd5 attempt) bytes then
        .settle socket true
      else if bytes.length = 0 then .settle socket false
      else nextPeek socket attempt

/-- One step of a call: the flags and the packet it leaves, and where it goes
on. -/
def bootstrapStep (bootstrap : DirectViewBootstrap)
    (thread : BootstrapThread) :
    DirectViewBootstrap × Option BootstrapStep × List BootstrapRecord :=
  match thread.step with
  | .loadReady socket =>
      (bootstrap,
        if bootstrap.responseReady then none else some (.loadFailed socket),
        [])
  | .loadFailed socket =>
      if bootstrap.failed then (bootstrap, none, [])
      else
        match socket with
        | none => (bootstrap, none, [])
        | some socket =>
            (bootstrap,
              if socket.peerPort = bootstrap.port then some (.exchange socket)
              else none, [])
  | .exchange socket =>
      ({ bootstrap with requestSent := true },
        some (if bootstrap.requestSent then .loadSent socket else .send socket),
        [])
  | .send socket =>
      let sent := socket.send bootstrap.packet.val
      (bootstrap,
        some (if sent ≠ viewLoginSize then .lower socket else .erase socket),
        [.sent thread.late ⟨bootstrap.packet.val, sent⟩])
  | .lower socket =>
      ({ bootstrap with requestSent := false }, some (.fail socket), [])
  | .fail socket =>
      ({ bootstrap with failed := true }, some (.loadSent socket), [])
  | .erase socket =>
      ({ bootstrap with packet := Bytes.zero viewLoginSize },
        some (.loadSent socket), [])
  | .loadSent socket =>
      (bootstrap, if bootstrap.requestSent then some (.peek socket 0) else none,
        [])
  | .peek socket attempt =>
      (bootstrap, some (peekStep thread.keyResponseMd5 socket attempt), [])
  | .settle socket ready =>
      (if ready then { bootstrap with responseReady := true }
        else { bootstrap with failed := true }, none,
        [.settled thread.late thread.keyResponseMd5 socket ready])

section Machine

variable {ι : Type*} [DecidableEq ι]

def bootstrapThreadsStep (threads : BootstrapThreads ι) :
    BootstrapEvent ι → BootstrapThreads ι × List BootstrapRecord
  | .receive guest keyResponseMd5 socket =>
      if (threads.guests guest).isSome ∨ threads.bootstrap.enabled = false then
        (threads, [])
      else
        let thread : BootstrapThread :=
          ⟨keyResponseMd5, .loadReady socket, threads.bootstrap.decided⟩
        ({ threads with
          guests := Function.update threads.guests guest (some thread) }, [])
  | .guest guest =>
      match threads.guests guest with
      | none => (threads, [])
      | some thread =>
          let (bootstrap, next, records) :=
            bootstrapStep threads.bootstrap thread
          let moved := next.map fun step => { thread with step := step }
          ({ bootstrap
             guests := Function.update threads.guests guest moved }, records)

def bootstrapMachine : Machine (BootstrapThreads ι) (BootstrapEvent ι)
    BootstrapRecord where
  step := bootstrapThreadsStep

end Machine

/-! ## Uninterrupted calls -/

section Calls

/-- The steps of a call on its own, from one of them on. -/
def runBootstrapSteps (keyResponseMd5 : ℕ → Md5) (late : Bool) :
    ℕ → DirectViewBootstrap → BootstrapStep →
      DirectViewBootstrap × List BootstrapRecord
  | 0, bootstrap, _ => (bootstrap, [])
  | fuel + 1, bootstrap, step =>
      match bootstrapStep bootstrap ⟨keyResponseMd5, step, late⟩ with
      | (bootstrap, none, records) => (bootstrap, records)
      | (bootstrap, some next, records) =>
          let rest := runBootstrapSteps keyResponseMd5 late fuel bootstrap next
          (rest.1, records ++ rest.2)

theorem peekStep_peeks
    (keyResponseMd5 : ℕ → Md5) (socket : GuestSocket) (attempt : ℕ) :
    peekStep keyResponseMd5 socket attempt = .peek socket (attempt + 1) ∨
      ∃ ready, peekStep keyResponseMd5 socket attempt =
        .settle socket ready := by
  have hnext : nextPeek socket attempt = .peek socket (attempt + 1) ∨
      ∃ ready, nextPeek socket attempt = .settle socket ready := by
    unfold nextPeek
    split
    · exact Or.inl rfl
    · exact Or.inr ⟨false, rfl⟩
  unfold peekStep
  split
  · exact hnext
  split
  · exact Or.inr ⟨true, rfl⟩
  split
  · exact Or.inr ⟨false, rfl⟩
  · exact hnext

def BootstrapRecord.send? : BootstrapRecord → Option SocketSend
  | .sent _ send => some send
  | .settled _ _ _ _ => none

/-- A peek is one round of the loop. -/
theorem peekStep_cases
    (keyResponseMd5 : ℕ → Md5) (socket : GuestSocket) {attempt : ℕ}
    (hattempt : attempt < responseWaitAttempts) :
    let answer := fun attempt => awaitKeyResponse keyResponseMd5
      socket.keyResponsePeek (responseWaitAttempts - attempt) attempt
    (peekStep keyResponseMd5 socket attempt = .peek socket (attempt + 1) ∧
      attempt + 1 < responseWaitAttempts ∧
      answer attempt = answer (attempt + 1)) ∨
    peekStep keyResponseMd5 socket attempt =
      .settle socket (answer attempt) := by
  obtain ⟨remaining, hremaining⟩ :
      ∃ remaining, responseWaitAttempts - attempt = remaining + 1 :=
    ⟨responseWaitAttempts - attempt - 1, by omega⟩
  have hrest : responseWaitAttempts - (attempt + 1) = remaining := by omega
  -- Where the loop goes on, either a round is left or the wait is over.
  have hnext : (nextPeek socket attempt = .peek socket (attempt + 1) ∧
        attempt + 1 < responseWaitAttempts) ∨
      nextPeek socket attempt = .settle socket (awaitKeyResponse keyResponseMd5
        socket.keyResponsePeek remaining (attempt + 1)) := by
    unfold nextPeek
    split
    · rename_i hmore
      exact Or.inl ⟨rfl, hmore⟩
    · have hzero : remaining = 0 := by omega
      exact Or.inr (by rw [hzero, awaitKeyResponse])
  simp only [hremaining, hrest]
  unfold peekStep
  rw [awaitKeyResponse]
  cases (socket.keyResponsePeek attempt).head keyResponseSize with
  | none => simpa using hnext
  | some bytes =>
      simp only
      split
      · exact Or.inr rfl
      split
      · exact Or.inr rfl
      · simpa using hnext

theorem runBootstrapSteps_peek
    (keyResponseMd5 : ℕ → Md5) (late : Bool) {fuel attempt : ℕ}
    (hattempt : attempt < responseWaitAttempts)
    (hfuel : responseWaitAttempts - attempt < fuel)
    (bootstrap : DirectViewBootstrap) (socket : GuestSocket) :
    let ready := awaitKeyResponse keyResponseMd5 socket.keyResponsePeek
      (responseWaitAttempts - attempt) attempt
    runBootstrapSteps keyResponseMd5 late fuel bootstrap
        (.peek socket attempt) =
      (if ready then { bootstrap with responseReady := true }
        else { bootstrap with failed := true },
        [.settled late keyResponseMd5 socket ready]) := by
  intro ready
  induction fuel generalizing attempt with
  | zero => omega
  | succ fuel ih =>
      rw [runBootstrapSteps]
      simp only [bootstrapStep]
      rcases peekStep_cases keyResponseMd5 socket hattempt with
        ⟨hpeek, hmore, hsame⟩ | hsettle
      · rw [hpeek]
        simp only [ih hmore (by omega), List.nil_append, ready, hsame]
      · obtain ⟨rest, rfl⟩ : ∃ rest, fuel = rest + 1 :=
          ⟨fuel - 1, by omega⟩
        rw [hsettle]
        simp [runBootstrapSteps, bootstrapStep, ready]

theorem runBootstrapSteps_loadSent
    (keyResponseMd5 : ℕ → Md5) (late : Bool) (fuel : ℕ)
    (bootstrap : DirectViewBootstrap) (socket : GuestSocket) :
    let ready := awaitKeyResponse keyResponseMd5 socket.keyResponsePeek
      responseWaitAttempts 0
    runBootstrapSteps keyResponseMd5 late (responseWaitAttempts + (fuel + 2))
        bootstrap (.loadSent socket) =
      if bootstrap.requestSent then
        (if ready then { bootstrap with responseReady := true }
          else { bootstrap with failed := true },
          [.settled late keyResponseMd5 socket ready])
      else (bootstrap, []) := by
  rw [← Nat.add_assoc responseWaitAttempts, runBootstrapSteps]
  by_cases hsent : bootstrap.requestSent = true
  · have hpeek := @runBootstrapSteps_peek keyResponseMd5 late
      (responseWaitAttempts + (fuel + 1)) 0 (by decide) (by omega)
      bootstrap socket
    simp only [bootstrapStep, if_pos hsent, List.nil_append]
    exact hpeek
  · simp only [bootstrapStep, if_neg hsent]

theorem runBootstrapSteps_exchange
    (keyResponseMd5 : ℕ → Md5) (late : Bool)
    (bootstrap : DirectViewBootstrap) (socket : GuestSocket) :
    let sequential := runBootstrap keyResponseMd5 socket bootstrap
    let run := runBootstrapSteps keyResponseMd5 late
      (responseWaitAttempts + 7) bootstrap (.exchange socket)
    run.1 = sequential.1 ∧
      run.2.filterMap BootstrapRecord.send? = sequential.2 := by
  cases hsent : bootstrap.requestSent with
  | true =>
      have hsame : { bootstrap with requestSent := true } = bootstrap := by
        rw [← hsent]
      rw [runBootstrapSteps]
      simp only [bootstrapStep, hsent, if_true, hsame,
        runBootstrapSteps_loadSent keyResponseMd5 late 4, runBootstrap,
        sendBootstrap]
      split <;> simp [BootstrapRecord.send?]
  | false =>
      rw [runBootstrapSteps]
      simp only [bootstrapStep, hsent, Bool.false_eq_true, if_false]
      rw [runBootstrapSteps]
      simp only [bootstrapStep]
      by_cases hresult : socket.send bootstrap.packet.val = viewLoginSize
      · simp only [hresult, ne_eq, not_true_eq_false, if_false]
        rw [runBootstrapSteps]
        simp only [bootstrapStep,
          runBootstrapSteps_loadSent keyResponseMd5 late 2, if_true,
          runBootstrap, sendBootstrap, hsent, Bool.false_eq_true, if_false,
          hresult, ne_eq, not_true_eq_false]
        split <;> simp [BootstrapRecord.send?]
      · simp only [hresult, ne_eq, not_false_eq_true, if_true]
        rw [runBootstrapSteps]
        simp only [bootstrapStep]
        rw [runBootstrapSteps]
        simp only [bootstrapStep,
          runBootstrapSteps_loadSent keyResponseMd5 late 1,
          runBootstrap, sendBootstrap, hsent, Bool.false_eq_true, if_false,
          hresult, ne_eq, not_false_eq_true, if_true]
        simp [BootstrapRecord.send?]

/-- A call without interruption is the sequential one. -/
theorem runBootstrapSteps_eq
    (keyResponseMd5 : ℕ → Md5) (socket : Option GuestSocket) (late : Bool)
    {bootstrap : DirectViewBootstrap} (henabled : bootstrap.enabled = true) :
    let sequential := bootstrapReceive keyResponseMd5 socket bootstrap
    let run := runBootstrapSteps keyResponseMd5 late
      (responseWaitAttempts + 9) bootstrap (.loadReady socket)
    run.1 = sequential.1 ∧
      run.2.filterMap BootstrapRecord.send? = sequential.2 := by
  cases hready : bootstrap.responseReady with
  | true => simp [bootstrapReceive, runBootstrapSteps, bootstrapStep, hready]
  | false =>
      cases hfailed : bootstrap.failed with
      | true =>
          simp [bootstrapReceive, runBootstrapSteps, bootstrapStep, hready,
            hfailed]
      | false =>
          rw [runBootstrapSteps]
          simp only [bootstrapStep, hready, Bool.false_eq_true, if_false]
          rw [runBootstrapSteps]
          simp only [bootstrapStep, hfailed, Bool.false_eq_true, if_false,
            bootstrapReceive, henabled, hready, and_self, if_true]
          cases socket with
          | none => simp
          | some socket =>
              by_cases hport : socket.peerPort = bootstrap.port
              · simpa [hport] using runBootstrapSteps_exchange keyResponseMd5
                  late bootstrap socket
              · simp [hport]

end Calls

/-! ## One successful send -/

/-- From the exchange that raised the flag to the end of a send, and on to the
store that lowers the flag again. -/
def BootstrapStep.Sending (step : BootstrapStep) : Prop :=
  ∃ socket, step = .send socket ∨ step = .lower socket

/-- Where a call that began late may still stand. -/
def BootstrapStep.Dismissed (bootstrap : DirectViewBootstrap) :
    BootstrapStep → Prop
  | .loadReady _ => bootstrap.decided = true
  | .loadFailed _ => bootstrap.failed = true
  | _ => False

/-- The view login has been sent in full. -/
def LoginSent (records : List BootstrapRecord) : Prop :=
  ∃ late send, BootstrapRecord.sent late send ∈ records ∧
    send.result = (viewLoginSize : ℤ)

/-- A record of a packet, given the records before it. -/
def BootstrapDemand (packet : List UInt8) (before : List BootstrapRecord) :
    BootstrapRecord → Prop
  | .sent late send => late = false ∧ send.bytes = packet ∧ ¬LoginSent before
  | .settled late _ _ _ => late = false

section Once

variable {ι : Type*}

def BootstrapThreads.Sender (threads : BootstrapThreads ι) (guest : ι) :
    Prop :=
  ∃ thread, threads.guests guest = some thread ∧ thread.step.Sending

/-- The flag belongs to the thread that sends, and to nobody any more once the
view login has been sent. -/
def BootstrapHolds (threads : BootstrapThreads ι)
    (records : List BootstrapRecord) : Option ι → Prop
  | some guest => threads.Sender guest
  | none => LoginSent records

structure BootstrapHistory (packet : Bytes viewLoginSize)
    (threads : BootstrapThreads ι) (records : List BootstrapRecord) :
    Prop where
  held : HeldAlone threads.bootstrap.requestSent
    (BootstrapHolds threads records)
  kept : ¬LoginSent records → threads.bootstrap.packet = packet
  erasing : ∀ guest thread socket, threads.guests guest = some thread →
    thread.step = .erase socket → LoginSent records
  late : ∀ guest thread, threads.guests guest = some thread →
    thread.late = true → thread.step.Dismissed threads.bootstrap
  justified : Machine.Justified (BootstrapDemand packet.val) records
  ready_iff : threads.bootstrap.responseReady = true ↔
    ∃ late keyResponseMd5 socket,
      .settled late keyResponseMd5 socket true ∈ records

theorem BootstrapStep.Dismissed.mono
    {step : BootstrapStep} {before after : DirectViewBootstrap}
    (hdismissed : step.Dismissed before)
    (hready : before.responseReady = true → after.responseReady = true)
    (hfailed : before.failed = true → after.failed = true) :
    step.Dismissed after := by
  cases step with
  | loadReady socket =>
      rcases Bool.or_eq_true_iff.mp hdismissed with hbefore | hbefore
      · exact Bool.or_eq_true_iff.mpr (Or.inl (hready hbefore))
      · exact Bool.or_eq_true_iff.mpr (Or.inr (hfailed hbefore))
  | loadFailed socket => exact hfailed hdismissed
  | _ => exact hdismissed.elim

theorem loginSent_append
    {records : List BootstrapRecord} {record : BootstrapRecord}
    (hrecord : ∀ late send, record = .sent late send →
      send.result ≠ (viewLoginSize : ℤ)) :
    LoginSent (records ++ [record]) ↔ LoginSent records := by
  constructor
  · rintro ⟨late, send, hmem, hresult⟩
    rcases List.mem_append.mp hmem with hold | hnew
    · exact ⟨late, send, hold, hresult⟩
    · exact absurd hresult
        (hrecord late send (List.mem_singleton.mp hnew).symm)
  · rintro ⟨late, send, hmem, hresult⟩
    exact ⟨late, send, List.mem_append_left _ hmem, hresult⟩

/-- Neither part of a send nor the store of an answer. -/
@[simp] def BootstrapStep.Quiet (bootstrap : DirectViewBootstrap) :
    BootstrapStep → Prop
  | .exchange _ => bootstrap.requestSent = true
  | .send _ => False
  | .lower _ => False
  | .settle _ _ => False
  | _ => True

theorem BootstrapStep.Quiet.not_sending
    {bootstrap : DirectViewBootstrap} {step : BootstrapStep}
    (hquiet : step.Quiet bootstrap) : ¬step.Sending := by
  rintro ⟨socket, rfl | rfl⟩
  · exact hquiet
  · exact hquiet

/-- A peek leads neither to a send nor behind one. -/
theorem peekStep_waits
    (keyResponseMd5 : ℕ → Md5) (socket : GuestSocket) (attempt : ℕ) :
    ¬(peekStep keyResponseMd5 socket attempt).Sending ∧
      ∀ other, peekStep keyResponseMd5 socket attempt ≠ .erase other := by
  rcases peekStep_peeks keyResponseMd5 socket attempt with
    hpeek | ⟨ready, hsettle⟩
  · rw [hpeek]
    exact ⟨by simp [BootstrapStep.Sending], by simp⟩
  · rw [hsettle]
    exact ⟨by simp [BootstrapStep.Sending], by simp⟩

/-- What a quiet step may do. -/
structure QuietStep (bootstrap : DirectViewBootstrap)
    (thread : BootstrapThread)
    (after : DirectViewBootstrap × Option BootstrapStep ×
      List BootstrapRecord) : Prop where
  records : after.2.2 = []
  requestSent : after.1.requestSent = bootstrap.requestSent
  responseReady : after.1.responseReady = bootstrap.responseReady
  failed : bootstrap.failed = true → after.1.failed = true
  packet : after.1.packet = bootstrap.packet ∨
    ∃ socket, thread.step = .erase socket
  next : ∀ step, after.2.1 = some step → ¬step.Sending ∧
    (∀ socket, step ≠ .erase socket) ∧
    (thread.step.Dismissed bootstrap → step.Dismissed bootstrap)

theorem bootstrapStep_quiet
    {bootstrap : DirectViewBootstrap} {thread : BootstrapThread}
    (hquiet : thread.step.Quiet bootstrap) :
    QuietStep bootstrap thread (bootstrapStep bootstrap thread) := by
  cases hthread : thread.step with
  | loadReady socket =>
      simp only [bootstrapStep, hthread]
      refine ⟨rfl, rfl, rfl, id, Or.inl rfl, ?_⟩
      intro step hstep
      simp only at hstep
      split at hstep
      · cases hstep
      · rename_i hready
        cases hstep
        refine ⟨by simp [BootstrapStep.Sending], by simp, ?_⟩
        rw [hthread]
        intro hdecided
        exact (Bool.or_eq_true_iff.mp hdecided).resolve_left hready
  | loadFailed socket =>
      simp only [bootstrapStep, hthread]
      split
      · exact ⟨rfl, rfl, rfl, id, Or.inl rfl, by simp⟩
      · rename_i hfailed
        have hnever : ¬thread.step.Dismissed bootstrap := by
          rw [hthread]
          exact hfailed
        split
        · exact ⟨rfl, rfl, rfl, id, Or.inl rfl, by simp⟩
        · refine ⟨rfl, rfl, rfl, id, Or.inl rfl, ?_⟩
          intro step hstep
          simp only at hstep
          split at hstep
          · cases hstep
            exact ⟨by simp [BootstrapStep.Sending], by simp,
              fun hdismissed => absurd hdismissed hnever⟩
          · cases hstep
  | exchange socket =>
      have hup : bootstrap.requestSent = true := by simpa [hthread] using hquiet
      simp only [bootstrapStep, hthread, hup, if_true]
      refine ⟨rfl, hup.symm, rfl, id, Or.inl rfl, ?_⟩
      intro step hstep
      cases hstep
      exact ⟨by simp [BootstrapStep.Sending], by simp,
        by simp [hthread, BootstrapStep.Dismissed]⟩
  | send socket => simp [hthread] at hquiet
  | lower socket => simp [hthread] at hquiet
  | fail socket =>
      simp only [bootstrapStep, hthread]
      refine ⟨rfl, rfl, rfl, fun _ => rfl, Or.inl rfl, ?_⟩
      intro step hstep
      cases hstep
      exact ⟨by simp [BootstrapStep.Sending], by simp,
        by simp [hthread, BootstrapStep.Dismissed]⟩
  | erase socket =>
      simp only [bootstrapStep, hthread]
      refine ⟨rfl, rfl, rfl, id, Or.inr ⟨socket, hthread⟩, ?_⟩
      intro step hstep
      cases hstep
      exact ⟨by simp [BootstrapStep.Sending], by simp,
        by simp [hthread, BootstrapStep.Dismissed]⟩
  | loadSent socket =>
      simp only [bootstrapStep, hthread]
      refine ⟨rfl, rfl, rfl, id, Or.inl rfl, ?_⟩
      intro step hstep
      simp only at hstep
      split at hstep
      · cases hstep
        exact ⟨by simp [BootstrapStep.Sending], by simp,
          by simp [hthread, BootstrapStep.Dismissed]⟩
      · cases hstep
  | peek socket attempt =>
      simp only [bootstrapStep, hthread]
      refine ⟨rfl, rfl, rfl, id, Or.inl rfl, ?_⟩
      intro step hstep
      obtain rfl := Option.some.inj hstep
      obtain ⟨hsending, herase⟩ :=
        peekStep_waits thread.keyResponseMd5 socket attempt
      exact ⟨hsending, herase, by simp [hthread, BootstrapStep.Dismissed]⟩
  | settle socket ready => simp [hthread] at hquiet

variable [DecidableEq ι] {packet : Bytes viewLoginSize}
  {threads : BootstrapThreads ι} {records : List BootstrapRecord} {guest : ι}
  {thread : BootstrapThread}

/-- The threads after one of them moved on. -/
def BootstrapThreads.move (threads : BootstrapThreads ι) (guest : ι)
    (bootstrap : DirectViewBootstrap) (moved : Option BootstrapThread) :
    BootstrapThreads ι :=
  { bootstrap, guests := Function.update threads.guests guest moved }

@[simp] theorem guests_move_self
    (bootstrap : DirectViewBootstrap) (moved : Option BootstrapThread) :
    (threads.move guest bootstrap moved).guests guest = moved :=
  Function.update_self _ _ _

@[simp] theorem guests_move_of_ne
    {other : ι} (hother : other ≠ guest) (bootstrap : DirectViewBootstrap)
    (moved : Option BootstrapThread) :
    (threads.move guest bootstrap moved).guests other =
      threads.guests other :=
  Function.update_of_ne hother _ _

theorem sender_move_of_ne
    {other : ι} (hother : other ≠ guest) (bootstrap : DirectViewBootstrap)
    (moved : Option BootstrapThread) :
    (threads.move guest bootstrap moved).Sender other ↔
      threads.Sender other := by
  simp [BootstrapThreads.Sender, hother]

theorem sender_move_self
    (bootstrap : DirectViewBootstrap) (moved : Option BootstrapThread) :
    (threads.move guest bootstrap moved).Sender guest ↔
      ∃ next, moved = some next ∧ next.step.Sending := by
  simp [BootstrapThreads.Sender]

namespace BootstrapHistory

/-- What a step has to show about the thread that takes it. -/
theorem move
    (hhistory : BootstrapHistory packet threads records)
    {bootstrap : DirectViewBootstrap} {moved : Option BootstrapThread}
    {more : List BootstrapRecord}
    (hready : threads.bootstrap.responseReady = true →
      bootstrap.responseReady = true)
    (hfailed : threads.bootstrap.failed = true → bootstrap.failed = true)
    (hheld : HeldAlone bootstrap.requestSent
      (BootstrapHolds (threads.move guest bootstrap moved) (records ++ more)))
    (hkept : ¬LoginSent (records ++ more) → bootstrap.packet = packet)
    (hmoved : ∀ next, moved = some next →
      (∀ socket, next.step = .erase socket → LoginSent (records ++ more)) ∧
      (next.late = true → next.step.Dismissed bootstrap))
    (hjustified : Machine.Justified (BootstrapDemand packet.val)
      (records ++ more))
    (hsettled : bootstrap.responseReady = true ↔
      ∃ late keyResponseMd5 socket,
        .settled late keyResponseMd5 socket true ∈ records ++ more) :
    BootstrapHistory packet (threads.move guest bootstrap moved)
      (records ++ more) where
  held := hheld
  kept := hkept
  erasing := by
    intro other next socket hother hstep
    by_cases hsame : other = guest
    · subst other
      rw [guests_move_self] at hother
      exact (hmoved next hother).1 socket hstep
    · rw [guests_move_of_ne hsame] at hother
      obtain ⟨late, send, hmem, hresult⟩ :=
        hhistory.erasing other next socket hother hstep
      exact ⟨late, send, List.mem_append_left _ hmem, hresult⟩
  late := by
    intro other next hother hlate
    by_cases hsame : other = guest
    · subst other
      rw [guests_move_self] at hother
      exact (hmoved next hother).2 hlate
    · rw [guests_move_of_ne hsame] at hother
      exact (hhistory.late other next hother hlate).mono hready hfailed
  justified := hjustified
  ready_iff := hsettled

/-- A step of a thread which neither sends nor settles anything. -/
theorem quiet
    (hhistory : BootstrapHistory packet threads records)
    (hsender : ¬threads.Sender guest) {bootstrap : DirectViewBootstrap}
    (hsent : bootstrap.requestSent = threads.bootstrap.requestSent)
    (hready : bootstrap.responseReady = threads.bootstrap.responseReady)
    (hfailed : threads.bootstrap.failed = true → bootstrap.failed = true)
    (hpacket : bootstrap.packet = threads.bootstrap.packet ∨
      LoginSent records)
    {moved : Option BootstrapThread}
    (hmoved : ∀ next, moved = some next → ¬next.step.Sending ∧
      (∀ socket, next.step = .erase socket → LoginSent records) ∧
      (next.late = true → next.step.Dismissed bootstrap)) :
    BootstrapHistory packet (threads.move guest bootstrap moved) records := by
  have hholds : ∀ party,
      BootstrapHolds (threads.move guest bootstrap moved) records party ↔
        BootstrapHolds threads records party := by
    intro party
    cases party with
    | none => exact Iff.rfl
    | some other =>
        by_cases hother : other = guest
        · subst other
          refine iff_of_false ?_ hsender
          rintro hafter
          obtain ⟨next, hnext, hsending⟩ :=
            (sender_move_self bootstrap moved).mp hafter
          exact (hmoved next hnext).1 hsending
        · exact sender_move_of_ne hother bootstrap moved
  have hstep := @move ι _ packet threads records guest hhistory bootstrap moved
    [] (by rw [hready]; exact id) hfailed
  rw [List.append_nil] at hstep
  refine hstep ?_ ?_ (fun next hnext => (hmoved next hnext).2)
    hhistory.justified ?_
  · rw [hsent]
    exact hhistory.held.congr hholds
  · intro hunsent
    rcases hpacket with hsame | hlogin
    · rw [hsame]
      exact hhistory.kept hunsent
    · exact absurd hlogin hunsent
  · rw [hready]
    exact hhistory.ready_iff

section Sends

variable {socket : GuestSocket}
  (hhistory : BootstrapHistory packet threads records)
  (hguest : threads.guests guest = some thread)
include hhistory hguest

omit [DecidableEq ι] in
/-- Only the first two loads may belong to a call that began late. -/
theorem not_late (hstep : ∀ bootstrap, ¬thread.step.Dismissed bootstrap) :
    thread.late = false := by
  rw [← Bool.not_eq_true]
  intro hlate
  exact hstep _ (hhistory.late guest thread hguest hlate)

theorem raise
    (hstep : thread.step = .exchange socket)
    (hdown : threads.bootstrap.requestSent = false) :
    BootstrapHistory packet
      (threads.move guest { threads.bootstrap with requestSent := true }
        (some { thread with step := .send socket })) records := by
  have hlate := hhistory.not_late hguest (by simp [hstep,
    BootstrapStep.Dismissed])
  have hstepped := @move ι _ packet threads records guest hhistory
    { threads.bootstrap with requestSent := true }
    (some { thread with step := .send socket }) [] id id
  rw [List.append_nil] at hstepped
  refine hstepped ?_ hhistory.kept ?_ hhistory.justified hhistory.ready_iff
  · refine @HeldAlone.raised _ _ (some guest) ?_
    intro party
    have hparty := hhistory.held.not_holds hdown party
    cases party with
    | none => simpa [BootstrapHolds] using hparty
    | some other =>
        by_cases hother : other = guest
        · subst other
          refine iff_of_true ?_ rfl
          exact (sender_move_self _ _).mpr ⟨_, rfl, socket, Or.inl rfl⟩
        · refine iff_of_false ?_ (by simpa using hother)
          exact fun hafter =>
            hparty ((sender_move_of_ne hother _ _).mp hafter)
  · rintro next hnext
    obtain rfl := Option.some.inj hnext
    exact ⟨by simp, by simp [hlate]⟩

theorem send (hstep : thread.step = .send socket) :
    let sent := socket.send threads.bootstrap.packet.val
    BootstrapHistory packet
      (threads.move guest threads.bootstrap (some { thread with
        step := if sent ≠ viewLoginSize then .lower socket
          else .erase socket }))
      (records ++ [.sent thread.late
        ⟨threads.bootstrap.packet.val, sent⟩]) := by
  intro sent
  have hsender : threads.Sender guest :=
    ⟨thread, hguest, socket, Or.inl hstep⟩
  have honly := hhistory.held.holds_iff
    (show BootstrapHolds threads records (some guest) from hsender)
  have hunsent : ¬LoginSent records := by
    intro hlogin
    have hsame := (honly none).mp hlogin
    cases hsame
  have hlate := hhistory.not_late hguest (by simp [hstep,
    BootstrapStep.Dismissed])
  have hjustified := hhistory.justified.snoc
    (show BootstrapDemand packet.val records (.sent thread.late
        ⟨threads.bootstrap.packet.val, sent⟩) from
      ⟨hlate, congrArg Subtype.val (hhistory.kept hunsent), hunsent⟩)
  refine hhistory.move id id ?_ ?_ ?_ hjustified ?_
  · by_cases hresult : sent = viewLoginSize
    · have hlogin : LoginSent (records ++ [.sent thread.late
          ⟨threads.bootstrap.packet.val, sent⟩]) :=
        ⟨thread.late, _, List.mem_append_right _ List.mem_cons_self, hresult⟩
      refine hhistory.held.passed
        (show BootstrapHolds threads records (some guest) from hsender) none ?_
      intro party
      cases party with
      | none => exact iff_of_true hlogin rfl
      | some other =>
          refine iff_of_false ?_ (by simp)
          intro hafter
          by_cases hother : other = guest
          · subst other
            obtain ⟨next, hnext, _, hsending⟩ :=
              (sender_move_self _ _).mp hafter
            obtain rfl := Option.some.inj hnext
            simp [hresult] at hsending
          · have hbefore := (sender_move_of_ne hother _ _).mp hafter
            exact hother (Option.some.inj ((honly (some other)).mp hbefore))
    · refine hhistory.held.congr ?_
      intro party
      cases party with
      | none =>
          refine loginSent_append ?_
          rintro late send hrecord
          cases hrecord
          exact hresult
      | some other =>
          by_cases hother : other = guest
          · subst other
            refine iff_of_true ?_ hsender
            refine (sender_move_self _ _).mpr ⟨_, rfl, socket, Or.inr ?_⟩
            simp [hresult]
          · exact sender_move_of_ne hother _ _
  · intro hnot
    exact hhistory.kept hunsent
  · rintro next hnext
    obtain rfl := Option.some.inj hnext
    refine ⟨?_, by simp [hlate]⟩
    intro other herase
    have hresult : sent = viewLoginSize := by
      by_contra hne
      simp [hne] at herase
    exact ⟨thread.late, _, List.mem_append_right _ List.mem_cons_self, hresult⟩
  · rw [hhistory.ready_iff]
    simp

theorem lower (hstep : thread.step = .lower socket) :
    BootstrapHistory packet
      (threads.move guest { threads.bootstrap with requestSent := false }
        (some { thread with step := .fail socket })) records := by
  have honly := hhistory.held.holds_iff
    (show BootstrapHolds threads records (some guest) from
      ⟨thread, hguest, socket, Or.inr hstep⟩)
  have hlate := hhistory.not_late hguest (by simp [hstep,
    BootstrapStep.Dismissed])
  have hstepped := @move ι _ packet threads records guest hhistory
    { threads.bootstrap with requestSent := false }
    (some { thread with step := .fail socket }) [] id id
  rw [List.append_nil] at hstepped
  refine hstepped ?_ hhistory.kept ?_ hhistory.justified hhistory.ready_iff
  · refine HeldAlone.down ?_
    rintro (_ | other) hafter
    · have hsame := (honly none).mp hafter
      cases hsame
    · by_cases hother : other = guest
      · subst other
        obtain ⟨next, hnext, _, hsending⟩ := (sender_move_self _ _).mp hafter
        obtain rfl := Option.some.inj hnext
        simp at hsending
      · have hbefore := (sender_move_of_ne hother _ _).mp hafter
        exact hother (Option.some.inj ((honly (some other)).mp hbefore))
  · rintro next hnext
    obtain rfl := Option.some.inj hnext
    exact ⟨by simp, by simp [hlate]⟩

theorem settle {ready : Bool} (hstep : thread.step = .settle socket ready) :
    BootstrapHistory packet
      (threads.move guest
        (if ready then { threads.bootstrap with responseReady := true }
          else { threads.bootstrap with failed := true }) none)
      (records ++
        [.settled thread.late thread.keyResponseMd5 socket ready]) := by
  have hlate := hhistory.not_late hguest (by simp [hstep,
    BootstrapStep.Dismissed])
  have hunsent : ∀ late send,
      BootstrapRecord.settled thread.late thread.keyResponseMd5 socket ready =
          .sent late send → send.result ≠ (viewLoginSize : ℤ) := by
    intro late send hrecord
    cases hrecord
  have hnot : ¬threads.Sender guest := by
    rintro ⟨other, hother, socket, hsending⟩
    obtain rfl := Option.some.inj (hguest.symm.trans hother)
    simp [hstep] at hsending
  refine hhistory.move ?_ ?_ ?_ ?_ (by simp)
    (hhistory.justified.snoc hlate) ?_
  · cases ready <;> simp
  · cases ready <;> simp
  · have hflag : (if ready then { threads.bootstrap with responseReady := true }
        else { threads.bootstrap with failed := true }).requestSent =
          threads.bootstrap.requestSent := by
      cases ready <;> rfl
    rw [hflag]
    refine hhistory.held.congr ?_
    intro party
    cases party with
    | none => exact loginSent_append hunsent
    | some other =>
        by_cases hother : other = guest
        · subst other
          refine iff_of_false ?_ hnot
          intro hafter
          obtain ⟨next, hnext, -⟩ := (sender_move_self _ _).mp hafter
          cases hnext
        · exact sender_move_of_ne hother _ _
  · rw [loginSent_append hunsent]
    intro hnone
    cases ready <;> exact hhistory.kept hnone
  · cases ready with
    | true =>
        refine iff_of_true rfl ⟨thread.late, thread.keyResponseMd5, socket, ?_⟩
        exact List.mem_append_right _ List.mem_cons_self
    | false => simpa using hhistory.ready_iff

/-- The loads, the waits and the stores that concern no other thread. -/
theorem quietStep (hquiet : thread.step.Quiet threads.bootstrap) :
    let next := bootstrapStep threads.bootstrap thread
    BootstrapHistory packet
      (threads.move guest next.1
        (next.2.1.map fun step => { thread with step := step }))
      (records ++ next.2.2) := by
  intro next
  have hspec := bootstrapStep_quiet hquiet
  have hsender : ¬threads.Sender guest := by
    rintro ⟨other, hother, hsending⟩
    obtain rfl := Option.some.inj (hguest.symm.trans hother)
    exact hquiet.not_sending hsending
  rw [hspec.records, List.append_nil]
  refine hhistory.quiet hsender hspec.requestSent hspec.responseReady
    hspec.failed ?_ ?_
  · rcases hspec.packet with hsame | ⟨socket, herase⟩
    · exact Or.inl hsame
    · exact Or.inr (hhistory.erasing guest thread socket hguest herase)
  · intro moved hmoved
    obtain ⟨step, hstep, rfl⟩ := Option.map_eq_some_iff.mp hmoved
    obtain ⟨hsending, herase, hdismissed⟩ := hspec.next step hstep
    refine ⟨hsending, ?_, ?_⟩
    · intro socket hsocket
      exact absurd hsocket (herase socket)
    · intro hlate
      refine (hdismissed (hhistory.late guest thread hguest hlate)).mono ?_
        hspec.failed
      rw [hspec.responseReady]
      exact id

theorem guestStep :
    let next := bootstrapStep threads.bootstrap thread
    BootstrapHistory packet
      (threads.move guest next.1
        (next.2.1.map fun step => { thread with step := step }))
      (records ++ next.2.2) := by
  cases hthread : thread.step with
  | send socket =>
      simpa only [bootstrapStep, hthread, Option.map_some] using
        hhistory.send hguest hthread
  | lower socket =>
      simpa [bootstrapStep, hthread] using hhistory.lower hguest hthread
  | settle socket ready =>
      simpa only [bootstrapStep, hthread, Option.map_none] using
        hhistory.settle hguest hthread
  | exchange socket =>
      cases hsent : threads.bootstrap.requestSent with
      | false =>
          simpa [bootstrapStep, hthread, hsent] using
            hhistory.raise hguest hthread hsent
      | true =>
          exact hhistory.quietStep hguest (by simpa [hthread] using hsent)
  | loadReady socket =>
      exact hhistory.quietStep hguest (by simp [hthread])
  | loadFailed socket =>
      exact hhistory.quietStep hguest (by simp [hthread])
  | fail socket => exact hhistory.quietStep hguest (by simp [hthread])
  | erase socket => exact hhistory.quietStep hguest (by simp [hthread])
  | loadSent socket => exact hhistory.quietStep hguest (by simp [hthread])
  | peek socket attempt =>
      exact hhistory.quietStep hguest (by simp [hthread])

end Sends

theorem step
    (hhistory : BootstrapHistory packet threads records)
    (event : BootstrapEvent ι) :
    BootstrapHistory packet (bootstrapMachine.step threads event).1
      (records ++ (bootstrapMachine.step threads event).2) := by
  cases event with
  | receive guest keyResponseMd5 socket =>
      simp only [bootstrapMachine, bootstrapThreadsStep]
      split
      · simpa using hhistory
      · rename_i hidle
        have hnone : threads.guests guest = none := by
          have hpresent := (not_or.mp hidle).1
          simpa using hpresent
        rw [List.append_nil]
        refine hhistory.quiet ?_ rfl rfl id (Or.inl rfl) ?_
        · rintro ⟨thread, hthread, -⟩
          simp [hnone] at hthread
        · intro next hnext
          obtain rfl := Option.some.inj hnext
          exact ⟨by simp [BootstrapStep.Sending], by simp, id⟩
  | guest guest =>
      simp only [bootstrapMachine, bootstrapThreadsStep]
      split
      · simpa using hhistory
      · rename_i thread hguest
        exact hhistory.guestStep hguest

omit [DecidableEq ι] in
theorem initial
    {bootstrap : DirectViewBootstrap} (hsent : bootstrap.requestSent = false)
    (hready : bootstrap.responseReady = false) :
    BootstrapHistory bootstrap.packet ({ bootstrap } : BootstrapThreads ι)
      [] where
  held := by
    rw [hsent]
    refine HeldAlone.down ?_
    rintro (_ | guest)
    · rintro ⟨late, send, hmem, -⟩
      cases hmem
    · rintro ⟨thread, hthread, -⟩
      cases hthread
  kept := fun _ => rfl
  erasing := by simp
  late := by simp
  justified := Machine.justified_nil _
  ready_iff := by simp [hready]

end BootstrapHistory

/-! ## The wait for the key response -/

/-- Where a call stands in its wait: on a socket of the view port, with the
answer of the attempts that are left. -/
def BootstrapStep.OnCourse (port : UInt16) (keyResponseMd5 : ℕ → Md5) :
    BootstrapStep → Prop
  | .loadReady _ => True
  | .loadFailed _ => True
  | .exchange socket => socket.peerPort = port
  | .send socket => socket.peerPort = port
  | .lower socket => socket.peerPort = port
  | .fail socket => socket.peerPort = port
  | .erase socket => socket.peerPort = port
  | .loadSent socket => socket.peerPort = port
  | .peek socket attempt => socket.peerPort = port ∧
      attempt < responseWaitAttempts ∧
      awaitKeyResponse keyResponseMd5 socket.keyResponsePeek
          responseWaitAttempts 0 =
        awaitKeyResponse keyResponseMd5 socket.keyResponsePeek
          (responseWaitAttempts - attempt) attempt
  | .settle socket ready => socket.peerPort = port ∧
      ready = awaitKeyResponse keyResponseMd5 socket.keyResponsePeek
        responseWaitAttempts 0

/-- A call settles as its own wait on its own socket has it. -/
def BootstrapRecord.OnCourse (port : UInt16) : BootstrapRecord → Prop
  | .sent _ _ => True
  | .settled _ keyResponseMd5 socket ready =>
      (BootstrapStep.settle socket ready).OnCourse port keyResponseMd5

structure OnCourseStep (port : UInt16) (thread : BootstrapThread)
    (after : DirectViewBootstrap × Option BootstrapStep ×
      List BootstrapRecord) : Prop where
  samePort : after.1.port = port
  next : ∀ step, after.2.1 = some step →
    step.OnCourse port thread.keyResponseMd5
  records : ∀ record ∈ after.2.2, record.OnCourse port

theorem peekStep_onCourse
    {port : UInt16} {keyResponseMd5 : ℕ → Md5} {socket : GuestSocket}
    {attempt : ℕ}
    (hcourse : (BootstrapStep.peek socket attempt).OnCourse port
      keyResponseMd5) :
    (peekStep keyResponseMd5 socket attempt).OnCourse port keyResponseMd5 := by
  obtain ⟨hport, hattempt, hanswer⟩ := hcourse
  rcases peekStep_cases keyResponseMd5 socket hattempt with
    ⟨hpeek, hmore, hsame⟩ | hsettle
  · rw [hpeek]
    exact ⟨hport, hmore, hanswer.trans hsame⟩
  · rw [hsettle]
    exact ⟨hport, hanswer.symm⟩

theorem bootstrapStep_onCourse
    {bootstrap : DirectViewBootstrap} {thread : BootstrapThread}
    (hcourse : thread.step.OnCourse bootstrap.port thread.keyResponseMd5) :
    OnCourseStep bootstrap.port thread (bootstrapStep bootstrap thread) := by
  cases hthread : thread.step with
  | loadReady socket =>
      simp only [bootstrapStep, hthread]
      exact ⟨rfl, by simp [BootstrapStep.OnCourse], by simp⟩
  | loadFailed socket =>
      simp only [bootstrapStep, hthread]
      split
      · exact ⟨rfl, by simp, by simp⟩
      split
      · exact ⟨rfl, by simp, by simp⟩
      · refine ⟨rfl, ?_, by simp⟩
        intro step hstep
        simp only at hstep
        split at hstep
        · rename_i hport
          cases hstep
          exact hport
        · cases hstep
  | exchange socket =>
      rw [hthread] at hcourse
      simp only [bootstrapStep, hthread]
      refine ⟨rfl, ?_, by simp⟩
      intro step hstep
      cases hstep
      split
      · exact hcourse
      · exact hcourse
  | send socket =>
      rw [hthread] at hcourse
      simp only [bootstrapStep, hthread]
      refine ⟨rfl, ?_, by simp [BootstrapRecord.OnCourse]⟩
      intro step hstep
      cases hstep
      split
      · exact hcourse
      · exact hcourse
  | lower socket =>
      rw [hthread] at hcourse
      simp only [bootstrapStep, hthread]
      refine ⟨rfl, ?_, by simp⟩
      intro step hstep
      cases hstep
      exact hcourse
  | fail socket =>
      rw [hthread] at hcourse
      simp only [bootstrapStep, hthread]
      refine ⟨rfl, ?_, by simp⟩
      intro step hstep
      cases hstep
      exact hcourse
  | erase socket =>
      rw [hthread] at hcourse
      simp only [bootstrapStep, hthread]
      refine ⟨rfl, ?_, by simp⟩
      intro step hstep
      cases hstep
      exact hcourse
  | loadSent socket =>
      rw [hthread] at hcourse
      simp only [bootstrapStep, hthread]
      refine ⟨rfl, ?_, by simp⟩
      intro step hstep
      simp only at hstep
      split at hstep
      · cases hstep
        exact ⟨hcourse, by decide, rfl⟩
      · cases hstep
  | peek socket attempt =>
      rw [hthread] at hcourse
      simp only [bootstrapStep, hthread]
      refine ⟨rfl, ?_, by simp⟩
      intro step hstep
      obtain rfl := Option.some.inj hstep
      exact peekStep_onCourse hcourse
  | settle socket ready =>
      rw [hthread] at hcourse
      simp only [bootstrapStep, hthread]
      refine ⟨?_, by simp, ?_⟩
      · cases ready <;> rfl
      · intro record hrecord
        obtain rfl := List.mem_singleton.mp hrecord
        exact hcourse

structure WaitHistory (port : UInt16) (threads : BootstrapThreads ι)
    (records : List BootstrapRecord) : Prop where
  samePort : threads.bootstrap.port = port
  guests : ∀ guest thread, threads.guests guest = some thread →
    thread.step.OnCourse port thread.keyResponseMd5
  records : ∀ record ∈ records, record.OnCourse port

theorem WaitHistory.step
    {port : UInt16} (hhistory : WaitHistory port threads records)
    (event : BootstrapEvent ι) :
    WaitHistory port (bootstrapMachine.step threads event).1
      (records ++ (bootstrapMachine.step threads event).2) := by
  have hrest : ∀ (guest : ι) (moved : Option BootstrapThread),
      (∀ thread, moved = some thread →
        thread.step.OnCourse port thread.keyResponseMd5) →
      ∀ other thread,
        Function.update threads.guests guest moved other = some thread →
          thread.step.OnCourse port thread.keyResponseMd5 := by
    intro guest moved hmoved other thread hother
    by_cases hsame : other = guest
    · subst other
      rw [Function.update_self] at hother
      exact hmoved thread hother
    · rw [Function.update_of_ne hsame] at hother
      exact hhistory.guests other thread hother
  cases event with
  | receive guest keyResponseMd5 socket =>
      simp only [bootstrapMachine, bootstrapThreadsStep]
      split
      · simpa using hhistory
      · rw [List.append_nil]
        refine ⟨hhistory.samePort, hrest guest _ ?_, hhistory.records⟩
        intro thread hthread
        obtain rfl := Option.some.inj hthread
        trivial
  | guest guest =>
      simp only [bootstrapMachine, bootstrapThreadsStep]
      split
      · simpa using hhistory
      · rename_i thread hguest
        have hcourse := hhistory.guests guest thread hguest
        rw [← hhistory.samePort] at hcourse
        have hspec := bootstrapStep_onCourse hcourse
        rw [hhistory.samePort] at hspec
        refine ⟨hspec.samePort, hrest guest _ ?_, ?_⟩
        · intro next hnext
          obtain ⟨step, hstep, rfl⟩ := Option.map_eq_some_iff.mp hnext
          exact hspec.next step hstep
        · intro record hrecord
          rcases List.mem_append.mp hrecord with hold | hnew
          · exact hhistory.records record hold
          · exact hspec.records record hnew

omit [DecidableEq ι] in
theorem WaitHistory.initial (bootstrap : DirectViewBootstrap) :
    WaitHistory bootstrap.port ({ bootstrap } : BootstrapThreads ι) [] where
  samePort := rfl
  guests := by simp
  records := by simp

end Once

/-- However the receives of the guest threads interleave, the view login is
sent as it was configured, by one thread at a time and never again once it was
sent in full; calls that begin when the bootstrap is decided take no part; the
request flag is up exactly while a thread sends or after the full send; and the
response is ready exactly if a call on a socket of the view port has seen a key
response there. -/
theorem bootstrapThreads_once
    {ι : Type*} [DecidableEq ι] {viewPort : UInt16} {bytes : List UInt8}
    {before configured : Globals}
    (hconfigured : revanaConfigureDirectLobbyViewBootstrap viewPort
      (some bytes) before = (true, configured))
    (events : List (BootstrapEvent ι)) :
    let outcome := bootstrapMachine.run
      ({ bootstrap := configured.bootstrap } : BootstrapThreads ι) events
    (∀ early late send later,
      outcome.2 = early ++ .sent late send :: later →
        late = false ∧ send.bytes = bytes ∧ ¬LoginSent early) ∧
    (∀ guest other, outcome.1.Sender guest → outcome.1.Sender other →
      other = guest) ∧
    (outcome.1.bootstrap.requestSent = true ↔
      LoginSent outcome.2 ∨ ∃ guest, outcome.1.Sender guest) ∧
    (∀ late keyResponseMd5 socket ready,
      .settled late keyResponseMd5 socket ready ∈ outcome.2 →
        late = false ∧ socket.peerPort = viewPort ∧
        (ready = true ↔ KeyResponseSeen keyResponseMd5 socket.keyResponsePeek
          0 responseWaitAttempts)) ∧
    (outcome.1.bootstrap.responseReady = true ↔
      ∃ keyResponseMd5 socket,
        .settled false keyResponseMd5 socket true ∈ outcome.2) := by
  intro outcome
  have hstart : configured.bootstrap.requestSent = false ∧
      configured.bootstrap.responseReady = false ∧
      configured.bootstrap.port = viewPort ∧
      configured.bootstrap.packet.val = bytes := by
    unfold revanaConfigureDirectLobbyViewBootstrap at hconfigured
    simp only at hconfigured
    split at hconfigured
    · obtain ⟨-, rfl⟩ := Prod.mk.inj hconfigured
      exact ⟨rfl, rfl, rfl, rfl⟩
    · cases (Prod.mk.inj hconfigured).1
  obtain ⟨hsent, hready, hport, hpacket⟩ := hstart
  have hhistory : BootstrapHistory configured.bootstrap.packet outcome.1
      outcome.2 :=
    Machine.run_history (BootstrapHistory configured.bootstrap.packet)
      (fun _ _ event hhistory => hhistory.step event)
      (BootstrapHistory.initial hsent hready) events
  have hwait : WaitHistory configured.bootstrap.port outcome.1 outcome.2 :=
    Machine.run_history (WaitHistory configured.bootstrap.port)
      (fun _ _ event hwait => hwait.step event)
      (WaitHistory.initial configured.bootstrap) events
  have hsettled : ∀ late keyResponseMd5 socket ready,
      .settled late keyResponseMd5 socket ready ∈ outcome.2 →
        late = false := by
    intro late keyResponseMd5 socket ready hmem
    obtain ⟨early, later, hsplit⟩ := List.append_of_mem hmem
    exact hhistory.justified early (.settled late keyResponseMd5 socket ready)
      later hsplit
  refine ⟨?_, ?_, ?_, ?_, ?_⟩
  · intro early late send later hsplit
    rw [← hpacket]
    exact hhistory.justified early (.sent late send) later hsplit
  · intro guest other hguest hother
    exact Option.some.inj (hhistory.held.unique (some guest) (some other)
      hguest hother)
  · rw [hhistory.held.up_iff, Option.exists]
    exact Iff.rfl
  · intro late keyResponseMd5 socket ready hmem
    obtain ⟨hview, hanswer⟩ := hwait.records _ hmem
    refine ⟨hsettled late keyResponseMd5 socket ready hmem,
      hview.trans hport, ?_⟩
    rw [hanswer, awaitKeyResponse_iff, Nat.zero_add]
  · rw [hhistory.ready_iff]
    constructor
    · rintro ⟨late, keyResponseMd5, socket, hmem⟩
      obtain rfl := hsettled late keyResponseMd5 socket true hmem
      exact ⟨keyResponseMd5, socket, hmem⟩
    · rintro ⟨keyResponseMd5, socket, hmem⟩
      exact ⟨false, keyResponseMd5, socket, hmem⟩

def exampleLogin : List UInt8 := List.replicate viewLoginSize 7

def exampleArmed : Bool × Globals :=
  revanaConfigureDirectLobbyViewBootstrap 1 (some exampleLogin) {}

theorem exampleArmed_configured :
    revanaConfigureDirectLobbyViewBootstrap 1 (some exampleLogin) {} =
      (true, exampleArmed.2) := by
  have harmed : exampleArmed.1 = true := by decide +kernel
  rw [← harmed]
  exact Prod.mk.eta.symm

/-- Two guests that receive at the same time from a socket that takes all and
shows the key response at the second peek. -/
def exampleReceives : List (BootstrapEvent Bool) :=
  let peeks (attempt : ℕ) : PeekResult :=
    if attempt = 0 then .failed else .peeked keyResponse
  let socket : GuestSocket :=
    ⟨1, 1, fun bytes => bytes.length, peeks, .failed, .failed,
      fun _ => .failed⟩
  let call (guest : Bool) : BootstrapEvent Bool :=
    .receive guest (fun _ => md5Call (fun _ => keyResponseDigest) true)
      (some socket)
  [call false, call true] ++
    (List.replicate 9 [.guest false, .guest true]).flatten

def exampleReceived : BootstrapThreads Bool × List BootstrapRecord :=
  bootstrapMachine.run { bootstrap := exampleArmed.2.bootstrap }
    exampleReceives

theorem exampleReceived_sends :
    exampleReceived.2.filterMap BootstrapRecord.send? =
      [⟨exampleLogin, viewLoginSize⟩] := by
  decide +kernel

/-- Of two threads that pass the loads at the same time only one sends, and
the response is ready because one has seen it. -/
theorem bootstrapThreads_once_twoGuests :
    exampleReceived.1.bootstrap.requestSent = true ∧
      ∃ keyResponseMd5 socket,
        .settled false keyResponseMd5 socket true ∈ exampleReceived.2 ∧
        KeyResponseSeen keyResponseMd5 socket.keyResponsePeek 0
          responseWaitAttempts := by
  have hlogin : LoginSent exampleReceived.2 := by
    have hsend : (⟨exampleLogin, viewLoginSize⟩ : SocketSend) ∈
        exampleReceived.2.filterMap BootstrapRecord.send? := by
      rw [exampleReceived_sends]
      exact List.mem_cons_self
    obtain ⟨record, hmem, hrecord⟩ := List.mem_filterMap.mp hsend
    cases record with
    | sent late send =>
        obtain rfl := Option.some.inj hrecord
        exact ⟨late, _, hmem, rfl⟩
    | settled late keyResponseMd5 socket ready => cases hrecord
  have hready : exampleReceived.1.bootstrap.responseReady = true := by
    decide +kernel
  unfold exampleReceived at hlogin hready ⊢
  obtain ⟨-, -, hsent, hsettled, hresponse⟩ :=
    bootstrapThreads_once exampleArmed_configured exampleReceives
  obtain ⟨keyResponseMd5, socket, hmem⟩ := hresponse.mp hready
  exact ⟨hsent.mpr (Or.inl hlogin), keyResponseMd5, socket, hmem,
    (hsettled false keyResponseMd5 socket true hmem).2.2.mp rfl⟩

end Revana.Runtime
