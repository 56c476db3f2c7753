import Revana.Login.LobbyClient

/-!
# The verdict of a cancellable reception

`ReceiveExactUntil` polls the stop token, the clock and the socket in this
order.  It ends in the first iteration in which one of them ends it, or as
soon as the buffer is filled, and until then each iteration makes one `recv`.
-/

namespace Revana.Login

open Foundation

/-! ## Polling a socket -/

structure Poll where
  socket : StreamSocket
  missing : ℕ
  stored : List UInt8

namespace Poll

def start (socket : StreamSocket) (size : ℕ) : Poll := ⟨socket, size, []⟩

/-- What the next `recv` answers. -/
def answer (poll : Poll) : RecvResult × StreamSocket :=
  poll.socket.recv (min poll.missing intMax)

def next (poll : Poll) : Poll :=
  match poll.answer with
  | (.received bytes, socket) =>
      ⟨socket, poll.missing - bytes.length, poll.stored ++ bytes⟩
  | (.timedOut, socket) => { poll with socket := socket }
  | (.wouldBlock, socket) => { poll with socket := socket }
  | (.failed, socket) => { poll with socket := socket }

def after (poll : Poll) : ℕ → Poll
  | 0 => poll
  | count + 1 => poll.next.after count

/-- The same reception behind bytes that were stored before. -/
def behind (bytes : List UInt8) (poll : Poll) : Poll :=
  { poll with stored := bytes ++ poll.stored }

/-- The peer has closed or the call failed for good. -/
def Ended (poll : Poll) : Prop :=
  poll.answer.1 = .received [] ∨ poll.answer.1 = .failed

variable (bytes : List UInt8) (poll : Poll)

@[simp] theorem behind_missing : (poll.behind bytes).missing = poll.missing :=
  rfl

@[simp] theorem behind_socket : (poll.behind bytes).socket = poll.socket :=
  rfl

@[simp] theorem behind_stored :
    (poll.behind bytes).stored = bytes ++ poll.stored := rfl

@[simp] theorem behind_answer : (poll.behind bytes).answer = poll.answer :=
  rfl

theorem next_behind : (poll.behind bytes).next = poll.next.behind bytes := by
  unfold next
  rw [behind_answer]
  split
  · simp [behind]
  · rfl
  · rfl
  · rfl

theorem after_behind (count : ℕ) :
    (poll.behind bytes).after count = (poll.after count).behind bytes := by
  induction count generalizing poll with
  | zero => rfl
  | succ count ih =>
      unfold after
      rw [next_behind]
      exact ih poll.next

theorem eq_behind_start :
    poll = (start poll.socket poll.missing).behind poll.stored := by
  unfold behind start
  rw [List.append_nil]

/-! ## What is stored and what is left -/

/-- The stored bytes are the beginning of the stream, and the calls stay
within the buffer. -/
structure Holds (stream : List UInt8) (size : ℕ) (poll : Poll) : Prop where
  stream_eq : stream = poll.stored ++ poll.socket.incoming
  size_eq : poll.stored.length + poll.missing = size

variable {poll} {stream : List UInt8} {size : ℕ}

theorem Holds.next (hholds : poll.Holds stream size) :
    poll.next.Holds stream size := by
  obtain ⟨hstream, hsize⟩ := hholds
  unfold Poll.next answer StreamSocket.recv
  cases poll.socket.recvOutcomes 0 with
  | data limit =>
      dsimp only
      constructor
      · dsimp only
        rw [List.append_assoc, List.take_append_drop]
        exact hstream
      · dsimp only
        rw [List.length_append, List.length_take]
        omega
  | timedOut => exact ⟨hstream, hsize⟩
  | wouldBlock => exact ⟨hstream, hsize⟩
  | failed => exact ⟨hstream, hsize⟩

theorem Holds.after
    (hholds : poll.Holds stream size) (count : ℕ) :
    (poll.after count).Holds stream size := by
  induction count generalizing poll with
  | zero => exact hholds
  | succ count ih => exact ih hholds.next

/-- A call that ends the reception takes nothing out of the stream. -/
theorem Ended.incoming (hended : poll.Ended) :
    poll.answer.2.incoming = poll.socket.incoming := by
  unfold Ended answer StreamSocket.recv at *
  cases houtcome : poll.socket.recvOutcomes 0 with
  | data limit =>
      simp only [houtcome, RecvResult.received.injEq, reduceCtorEq,
        or_false] at hended ⊢
      have hsplit := List.take_append_drop
        (min (min poll.missing intMax) (limit + 1)) poll.socket.incoming
      rw [hended, List.nil_append] at hsplit
      exact hsplit
  | timedOut => rfl
  | wouldBlock => rfl
  | failed => rfl

theorem holds_start (socket : StreamSocket) (size : ℕ) :
    (start socket size).Holds socket.incoming size :=
  ⟨rfl, Nat.zero_add size⟩

end Poll

/-! ## The end of the loop -/

/-- What ends an iteration that reads this stop token and this time. -/
inductive Concludes (stopped : Bool) (time deadline : ℕ) (poll : Poll) :
    ReceiveWait → Prop
  | complete (hfilled : poll.missing = 0) :
      Concludes stopped time deadline poll
        (.complete, poll.stored, poll.socket)
  | cancelled (hmissing : poll.missing ≠ 0) (hstopped : stopped = true) :
      Concludes stopped time deadline poll
        (.cancelled, poll.stored, poll.socket)
  | timedOut (hmissing : poll.missing ≠ 0) (hrunning : stopped = false)
      (hlate : deadline ≤ time) :
      Concludes stopped time deadline poll
        (.timedOut, poll.stored, poll.socket)
  | ioFailed (hmissing : poll.missing ≠ 0) (hrunning : stopped = false)
      (hearly : time < deadline) (hended : poll.Ended) :
      Concludes stopped time deadline poll
        (.ioFailed, poll.stored, poll.answer.2)

/-- An iteration that ends nothing: bytes are missing, no stop was requested,
the deadline lies ahead and `recv` delivered bytes or found none yet. -/
structure GoesOn (stopped : Bool) (time deadline : ℕ) (poll : Poll) :
    Prop where
  missing : poll.missing ≠ 0
  running : stopped = false
  early : time < deadline
  open_ : ¬poll.Ended

/-- The loop ends in iteration `count`, the first that ends it. -/
structure EndsAt (stopRequested : ℕ → Bool) (clock : ℕ → ℕ) (deadline : ℕ)
    (poll : Poll) (count : ℕ) (wait : ReceiveWait) : Prop where
  before : ∀ earlier < count,
    GoesOn (stopRequested earlier) (clock earlier) deadline
      (poll.after earlier)
  concludes : Concludes (stopRequested count) (clock count) deadline
    (poll.after count) wait

/-- A wait whose first bytes were stored before. -/
def ReceiveWait.behind (bytes : List UInt8) (wait : ReceiveWait) :
    ReceiveWait :=
  (wait.1, bytes ++ wait.2.1, wait.2.2)

section Loop

variable {stopRequested : ℕ → Bool} {clock : ℕ → ℕ} {deadline : ℕ}
  {poll : Poll} {wait : ReceiveWait}

theorem Concludes.behind
    {stopped : Bool} {time : ℕ} (bytes : List UInt8)
    (hconcludes : Concludes stopped time deadline poll wait) :
    Concludes stopped time deadline (poll.behind bytes)
      (ReceiveWait.behind bytes wait) := by
  cases hconcludes with
  | complete hfilled => exact .complete hfilled
  | cancelled hmissing hstopped => exact .cancelled hmissing hstopped
  | timedOut hmissing hrunning hlate =>
      exact .timedOut hmissing hrunning hlate
  | ioFailed hmissing hrunning hearly hended =>
      exact .ioFailed hmissing hrunning hearly hended

theorem EndsAt.behind
    {count : ℕ} (bytes : List UInt8)
    (hends : EndsAt stopRequested clock deadline poll count wait) :
    EndsAt stopRequested clock deadline (poll.behind bytes) count
      (ReceiveWait.behind bytes wait) := by
  constructor
  · intro earlier hearlier
    have hgoes := hends.before earlier hearlier
    rw [Poll.after_behind]
    exact ⟨hgoes.missing, hgoes.running, hgoes.early, hgoes.open_⟩
  · rw [Poll.after_behind]
    exact hends.concludes.behind bytes

/-- One iteration that goes on in front of a loop that ends. -/
theorem EndsAt.later
    {iteration count : ℕ}
    (hgoes : GoesOn (stopRequested iteration) (clock iteration) deadline poll)
    (hends : EndsAt (fun call => stopRequested (iteration + 1 + call))
      (fun call => clock (iteration + 1 + call)) deadline poll.next count
      wait) :
    EndsAt (fun call => stopRequested (iteration + call))
      (fun call => clock (iteration + call)) deadline poll (count + 1)
      wait := by
  have hshift : ∀ call, iteration + (call + 1) = iteration + 1 + call := by
    intro call
    omega
  constructor
  · intro earlier hearlier
    cases earlier with
    | zero => exact hgoes
    | succ earlier =>
        rw [hshift]
        exact hends.before earlier (Nat.lt_of_succ_lt_succ hearlier)
  · rw [hshift]
    exact hends.concludes

theorem endsAt_zero
    (hconcludes : Concludes (stopRequested 0) (clock 0) deadline poll wait) :
    EndsAt stopRequested clock deadline poll 0 wait := by
  constructor
  · intro earlier hearlier
    exact absurd hearlier (Nat.not_lt_zero earlier)
  · exact hconcludes

theorem concludes_or_goesOn
    (stopped : Bool) (time deadline : ℕ) (poll : Poll) :
    (∃ wait, Concludes stopped time deadline poll wait) ∨
      GoesOn stopped time deadline poll := by
  by_cases hfilled : poll.missing = 0
  · exact Or.inl ⟨_, .complete hfilled⟩
  cases hstopped : stopped with
  | true => exact Or.inl ⟨_, .cancelled hfilled rfl⟩
  | false =>
      by_cases hlate : deadline ≤ time
      · exact Or.inl ⟨_, .timedOut hfilled rfl hlate⟩
      by_cases hended : poll.Ended
      · exact Or.inl ⟨_, .ioFailed hfilled rfl (not_le.mp hlate) hended⟩
      · exact Or.inr ⟨hfilled, rfl, not_le.mp hlate, hended⟩

variable {iteration size : ℕ} {socket : StreamSocket}

theorem receiveUntilDeadline_concludes
    (hconcludes : Concludes (stopRequested iteration) (clock iteration)
      deadline (Poll.start socket size) wait) {fuel : ℕ} (hfuel : 0 < fuel) :
    receiveUntilDeadline stopRequested clock deadline fuel iteration socket
      size = some wait := by
  obtain ⟨fuel, rfl⟩ := Nat.exists_eq_succ_of_ne_zero hfuel.ne'
  unfold receiveUntilDeadline
  cases hconcludes with
  | complete hfilled =>
      have hsize : size = 0 := hfilled
      rw [if_pos hsize]
      rfl
  | cancelled hmissing hstopped =>
      have hsize : size ≠ 0 := hmissing
      rw [if_neg hsize]
      dsimp only
      rw [if_pos hstopped]
      rfl
  | timedOut hmissing hrunning hlate =>
      have hsize : size ≠ 0 := hmissing
      rw [if_neg hsize]
      dsimp only
      rw [if_neg (by rw [hrunning]; exact Bool.false_ne_true), if_pos hlate]
      rfl
  | ioFailed hmissing hrunning hearly hended =>
      have hsize : size ≠ 0 := hmissing
      rw [if_neg hsize]
      dsimp only
      rw [if_neg (by rw [hrunning]; exact Bool.false_ne_true),
        if_neg (not_le.mpr hearly)]
      unfold Poll.Ended Poll.answer at hended
      unfold Poll.answer
      change (socket.recv (min size intMax)).1 = .received [] ∨
        (socket.recv (min size intMax)).1 = .failed at hended
      change _ = some (ReceiveWaitResult.ioFailed, [],
        (socket.recv (min size intMax)).2)
      rcases hrecv : socket.recv (min size intMax) with ⟨result, later⟩
      rw [hrecv] at hended
      rcases hended with hclosed | hfailed
      · obtain rfl : result = .received [] := hclosed
        rfl
      · obtain rfl : result = .failed := hfailed
        rfl

theorem receiveUntilDeadline_goesOn
    (hgoes : GoesOn (stopRequested iteration) (clock iteration) deadline
      (Poll.start socket size)) (fuel : ℕ) :
    receiveUntilDeadline stopRequested clock deadline (fuel + 1) iteration
        socket size =
      (receiveUntilDeadline stopRequested clock deadline fuel (iteration + 1)
        (Poll.start socket size).next.socket
        (Poll.start socket size).next.missing).map
          (ReceiveWait.behind (Poll.start socket size).next.stored) := by
  have hsize : size ≠ 0 := hgoes.missing
  have hopen : ¬((socket.recv (min size intMax)).1 = .received [] ∨
      (socket.recv (min size intMax)).1 = .failed) := hgoes.open_
  have hnothing : ∀ wait : Option ReceiveWait,
      wait.map (ReceiveWait.behind []) = wait := by
    intro wait
    cases wait with
    | none => rfl
    | some wait => rfl
  conv_lhs => unfold receiveUntilDeadline
  rw [if_neg hsize]
  dsimp only
  rw [if_neg (by rw [hgoes.running]; exact Bool.false_ne_true),
    if_neg (not_le.mpr hgoes.early)]
  unfold Poll.next Poll.answer Poll.start
  dsimp only
  rcases hrecv : socket.recv (min size intMax) with ⟨result, later⟩
  rw [hrecv] at hopen
  cases result with
  | received bytes =>
      cases bytes with
      | nil => exact absurd (Or.inl rfl) hopen
      | cons byte rest => rfl
  | timedOut => exact (hnothing _).symm
  | wouldBlock => exact (hnothing _).symm
  | failed => exact absurd (Or.inr rfl) hopen

/-- The induction is on the distance to an iteration that reads the clock past
the deadline. -/
theorem receiveUntilDeadline_ends
    {distance : ℕ} (iteration size : ℕ) (socket : StreamSocket)
    (hlate : deadline ≤ clock (iteration + distance)) :
    ∃ wait count,
      (∀ fuel, distance < fuel →
        receiveUntilDeadline stopRequested clock deadline fuel iteration
          socket size = some wait) ∧
      count ≤ distance ∧
      EndsAt (fun call => stopRequested (iteration + call))
        (fun call => clock (iteration + call)) deadline
        (Poll.start socket size) count wait := by
  induction distance generalizing iteration size socket with
  | zero =>
      rcases concludes_or_goesOn (stopRequested iteration) (clock iteration)
        deadline (Poll.start socket size) with ⟨wait, hconcludes⟩ | hgoes
      · exact ⟨wait, 0, fun fuel => receiveUntilDeadline_concludes hconcludes,
          le_rfl, endsAt_zero hconcludes⟩
      · exact absurd hgoes.early (not_lt.mpr hlate)
  | succ distance ih =>
      rcases concludes_or_goesOn (stopRequested iteration) (clock iteration)
        deadline (Poll.start socket size) with ⟨wait, hconcludes⟩ | hgoes
      · exact ⟨wait, 0, fun fuel hfuel => receiveUntilDeadline_concludes
          hconcludes (Nat.zero_lt_of_lt hfuel), Nat.zero_le _,
          endsAt_zero hconcludes⟩
      · have hshift : iteration + (distance + 1) =
            iteration + 1 + distance := by omega
        rw [hshift] at hlate
        let next := (Poll.start socket size).next
        obtain ⟨wait, count, hrun, hcount, hends⟩ :=
          ih (iteration + 1) next.missing next.socket hlate
        refine ⟨ReceiveWait.behind next.stored wait, count + 1, ?_,
          Nat.succ_le_succ hcount, ?_⟩
        · intro fuel hfuel
          obtain ⟨fuel, rfl⟩ :=
            Nat.exists_eq_succ_of_ne_zero (Nat.ne_zero_of_lt hfuel)
          rw [receiveUntilDeadline_goesOn hgoes,
            hrun fuel (Nat.lt_of_succ_lt_succ hfuel)]
          rfl
        · have hbehind := hends.behind next.stored
          rw [← Poll.eq_behind_start] at hbehind
          exact EndsAt.later hgoes hbehind

end Loop

/-- What a conclusion says of the bytes, whatever the calls returned. -/
theorem Concludes.bytes
    {stopped : Bool} {time deadline size : ℕ} {poll : Poll}
    {wait : ReceiveWait} {stream : List UInt8}
    (hconcludes : Concludes stopped time deadline poll wait)
    (hholds : poll.Holds stream size) :
    (wait.1 = .complete ↔ wait.2.1.length = size) ∧
      wait.2.1.length ≤ size ∧ stream = wait.2.1 ++ wait.2.2.incoming := by
  obtain ⟨hstream, hsize⟩ := hholds
  have hlength : poll.stored.length ≤ size := by omega
  have hshort (hmissing : poll.missing ≠ 0) :
      poll.stored.length ≠ size := by
    omega
  cases hconcludes with
  | complete hfilled =>
      have hfull : poll.stored.length = size := by omega
      exact ⟨iff_of_true rfl hfull, hlength, hstream⟩
  | cancelled hmissing hstopped =>
      exact ⟨iff_of_false (by simp) (hshort hmissing), hlength, hstream⟩
  | timedOut hmissing hrunning hlate =>
      exact ⟨iff_of_false (by simp) (hshort hmissing), hlength, hstream⟩
  | ioFailed hmissing hrunning hearly hended =>
      refine ⟨iff_of_false (by simp) (hshort hmissing), hlength, ?_⟩
      rw [hended.incoming]
      exact hstream

/-- With a clock that passes the deadline the loop terminates, in the first
iteration that ends it.  The verdict is complete exactly when the buffer is
filled, and what is stored and what is left make up the stream.  Before the
loop ends each iteration makes one `recv`, and none follows a stop request or
a deadline that was seen. -/
theorem receiveExactUntil_verdict
    (env : LobbyEnvironment) (socket : StreamSocket) (size timeoutMs : ℕ)
    (hpasses : ∃ iteration,
      env.clock 0 + timeoutMs ≤ env.clock (iteration + 1)) :
    ∃ wait enough,
      (∀ fuel, enough < fuel →
        receiveExactUntil env fuel socket size timeoutMs = some wait) ∧
      (env.receiveTimeoutSet = false → wait = (.ioFailed, [], socket)) ∧
      (env.receiveTimeoutSet = true →
        (∃ count ≤ enough, EndsAt env.stopRequested
          (fun call => env.clock (call + 1)) (env.clock 0 + timeoutMs)
          (Poll.start socket size) count wait) ∧
        (wait.1 = .complete ↔ wait.2.1.length = size) ∧
        wait.2.1.length ≤ size ∧
        socket.incoming = wait.2.1 ++ wait.2.2.incoming) := by
  cases hset : env.receiveTimeoutSet with
  | false =>
      refine ⟨(.ioFailed, [], socket), 0, ?_, fun _ => rfl, ?_⟩
      · intro fuel hfuel
        unfold receiveExactUntil
        rw [if_pos hset]
      · intro htrue
        exact absurd htrue Bool.false_ne_true
  | true =>
      obtain ⟨iteration, hlate⟩ := hpasses
      have hends := @receiveUntilDeadline_ends env.stopRequested
        (fun call => env.clock (call + 1)) (env.clock 0 + timeoutMs)
        iteration 0 size socket (by rw [Nat.zero_add]; exact hlate)
      simp only [Nat.zero_add] at hends
      obtain ⟨wait, count, hrun, hcount, hends⟩ := hends
      refine ⟨wait, iteration, ?_, ?_, ?_⟩
      · intro fuel hfuel
        unfold receiveExactUntil
        rw [if_neg (by simp [hset])]
        exact hrun fuel hfuel
      · intro hfalse
        exact absurd hfalse.symm Bool.false_ne_true
      · intro _
        have hholds := (Poll.holds_start socket size).after count
        exact ⟨⟨count, hcount, hends⟩, hends.concludes.bytes hholds⟩

/-- Bytes arrive one by one while the clock runs past the deadline. -/
def trickleEnvironment : LobbyEnvironment where
  winsockReady := true
  getAddrInfo := fun _ => some []
  connects := fun _ _ => true
  receiveTimeoutSet := true
  stopRequested := fun _ => false
  clock := fun call => 60 * call
  socket :=
    { incoming := [1, 2, 3, 4]
      recvOutcomes := fun _ => .data 0
      sendOutcomes := fun _ => .failed
      log := [] }

theorem receiveExactUntil_verdict_trickle :
    ∃ enough later, ∀ fuel, enough < fuel →
      receiveExactUntil trickleEnvironment fuel trickleEnvironment.socket 4
        100 = some (.timedOut, [1], later) := by
  obtain ⟨wait, enough, hrun, -, -⟩ := receiveExactUntil_verdict
    trickleEnvironment trickleEnvironment.socket 4 100 ⟨1, by decide⟩
  have hwait := hrun (enough + 3) (by omega)
  have hlate : receiveExactUntil trickleEnvironment (enough + 3)
      trickleEnvironment.socket 4 100 = some (.timedOut, [1], _) := rfl
  rw [hlate] at hwait
  obtain rfl := Option.some.inj hwait
  exact ⟨enough, _, hrun⟩

end Revana.Login
