import Mathlib.Tactic

/-!
# Stream sockets with arbitrary fragmentation

A connected socket holds the bytes its peer will still deliver before the end
of the stream, and the outcome of every later `recv` and `send` call.  The
loops which send or receive a fixed number of bytes are characterised here by
the unfragmented stream; how the calls split it does not matter.
-/

namespace Foundation

/-- `data size` hands over at most `size + 1` bytes, nothing only at the end
of the stream. -/
inductive RecvOutcome where
  | data (size : ℕ)
  | timedOut
  | wouldBlock
  | failed
  deriving DecidableEq, Repr

/-- `accepted size` takes at most `size + 1` bytes. -/
inductive SendOutcome where
  | accepted (size : ℕ)
  | failed
  deriving DecidableEq, Repr

inductive RecvResult where
  | received (bytes : List UInt8)
  | timedOut
  | wouldBlock
  | failed
  deriving DecidableEq, Repr

inductive SocketEvent where
  | sent (bytes : List UInt8)
  | received (bytes : List UInt8)
  deriving DecidableEq, Repr

structure StreamSocket where
  incoming : List UInt8
  recvOutcomes : ℕ → RecvOutcome
  sendOutcomes : ℕ → SendOutcome
  log : List SocketEvent

/-- The largest count one call can be asked for. -/
def intMax : ℕ := 2147483647

namespace StreamSocket

/-- Every `recv` hands over stream bytes: no timeout and no error. -/
def Delivers (socket : StreamSocket) : Prop :=
  ∀ call, ∃ size, socket.recvOutcomes call = .data size

def recv (socket : StreamSocket) (limit : ℕ) : RecvResult × StreamSocket :=
  let later := { socket with
    recvOutcomes := fun call => socket.recvOutcomes (call + 1) }
  match socket.recvOutcomes 0 with
  | .data size =>
      let count := min limit (size + 1)
      let bytes := socket.incoming.take count
      (.received bytes, { later with
        incoming := socket.incoming.drop count
        log := socket.log ++ [.received bytes] })
  | .timedOut => (.timedOut, later)
  | .wouldBlock => (.wouldBlock, later)
  | .failed => (.failed, later)

/-- The count `send` returns, or `none` for an error. -/
def send (socket : StreamSocket) (bytes : List UInt8) :
    Option ℕ × StreamSocket :=
  let later := { socket with
    sendOutcomes := fun call => socket.sendOutcomes (call + 1) }
  match socket.sendOutcomes 0 with
  | .accepted size =>
      let count := min bytes.length (size + 1)
      (some count, { later with
        log := socket.log ++ [.sent (bytes.take count)] })
  | .failed => (none, later)

theorem send_count_pos
    {socket next : StreamSocket} {bytes : List UInt8} {count : ℕ}
    (hsend : socket.send bytes = (some count, next)) (hbytes : bytes ≠ []) :
    0 < count := by
  have hlength := List.length_pos_iff.mpr hbytes
  unfold send at hsend
  cases houtcome : socket.sendOutcomes 0 with
  | accepted size =>
      rw [houtcome] at hsend
      simp only [Prod.mk.injEq, Option.some.injEq] at hsend
      omega
  | failed =>
      rw [houtcome] at hsend
      simp at hsend

/-! ## Sending everything -/

/-- Sends until nothing is left; `false` when a call fails. -/
def transmit (socket : StreamSocket) (bytes : List UInt8) :
    Bool × StreamSocket :=
  if bytes = [] then (true, socket)
  else
    match _hsend : socket.send (bytes.take intMax) with
    | (none, next) => (false, next)
    | (some count, next) => transmit next (bytes.drop count)
termination_by bytes.length
decreasing_by
  rename_i hbytes
  have htake : bytes.take intMax ≠ [] := by
    simpa [intMax] using hbytes
  have hcount := send_count_pos _hsend htake
  have hlength := List.length_pos_iff.mpr hbytes
  rw [List.length_drop]
  omega

/-- How many of `size` bytes the calls accept before one fails, and the
outcomes left for later. -/
def acceptedCount (outcomes : ℕ → SendOutcome) (size : ℕ) :
    ℕ × (ℕ → SendOutcome) :=
  if size = 0 then (0, outcomes)
  else
    let later := fun call => outcomes (call + 1)
    match outcomes 0 with
    | .failed => (0, later)
    | .accepted limit =>
        let count := min (min size intMax) (limit + 1)
        let rest := acceptedCount later (size - count)
        (count + rest.1, rest.2)
termination_by size
decreasing_by
  simp only [intMax]
  omega

theorem acceptedCount_le (outcomes : ℕ → SendOutcome) (size : ℕ) :
    (acceptedCount outcomes size).1 ≤ size := by
  induction size using Nat.strong_induction_on generalizing outcomes with
  | _ size ih =>
      rw [acceptedCount]
      split
      · exact Nat.zero_le _
      · simp only
        split
        · exact Nat.zero_le _
        · rename_i limit _
          have hcount : min (min size intMax) (limit + 1) ≤ size := by omega
          have hpos : 0 < min (min size intMax) (limit + 1) := by
            simp only [intMax]
            omega
          have hrest := ih (size - min (min size intMax) (limit + 1))
            (by omega) (fun call => outcomes (call + 1))
          simp only
          omega

theorem acceptedCount_of_accepted
    {outcomes : ℕ → SendOutcome}
    (haccepted : ∀ call, ∃ limit, outcomes call = .accepted limit)
    (size : ℕ) :
    (acceptedCount outcomes size).1 = size ∧
      ∀ call, ∃ limit, (acceptedCount outcomes size).2 call =
        .accepted limit := by
  induction size using Nat.strong_induction_on generalizing outcomes with
  | _ size ih =>
      rw [acceptedCount]
      by_cases hsize : size = 0
      · rw [if_pos hsize]
        exact ⟨hsize.symm, haccepted⟩
      · rw [if_neg hsize]
        obtain ⟨limit, hlimit⟩ := haccepted 0
        have hpos : 0 < min (min size intMax) (limit + 1) := by
          simp only [intMax]
          omega
        obtain ⟨hcount, hlater⟩ :=
          ih (size - min (min size intMax) (limit + 1)) (by omega)
            (fun call => haccepted (call + 1))
        simp only [hlimit]
        exact ⟨by omega, hlater⟩

/-- What `transmit` does, whatever its calls return. -/
structure Transmitted (socket : StreamSocket) (bytes : List UInt8)
    (succeeded : Bool) (next : StreamSocket) : Prop where
  succeeded_iff : succeeded = true ↔
    (acceptedCount socket.sendOutcomes bytes.length).1 = bytes.length
  sendOutcomes : next.sendOutcomes =
    (acceptedCount socket.sendOutcomes bytes.length).2
  incoming : next.incoming = socket.incoming
  recvOutcomes : next.recvOutcomes = socket.recvOutcomes
  log : ∃ chunks : List (List UInt8),
    next.log = socket.log ++ chunks.map .sent ∧
    chunks.flatten =
      bytes.take (acceptedCount socket.sendOutcomes bytes.length).1

theorem Transmitted.refused
    {socket next : StreamSocket} {bytes : List UInt8} (hbytes : bytes ≠ [])
    (hsend : socket.send (bytes.take intMax) = (none, next)) :
    Transmitted socket bytes false next := by
  have hsize : bytes.length ≠ 0 := by simpa using hbytes
  have hfailed : socket.sendOutcomes 0 = .failed := by
    cases houtcome : socket.sendOutcomes 0 with
    | accepted size => simp [send, houtcome] at hsend
    | failed => rfl
  obtain rfl : { socket with
      sendOutcomes := fun call => socket.sendOutcomes (call + 1) } = next := by
    simpa [send, hfailed] using hsend
  refine ⟨?_, ?_, rfl, rfl, [], by simp, ?_⟩ <;>
    rw [acceptedCount, if_neg hsize, hfailed]
  · simpa using hsize.symm
  · simp

/-- Sending some bytes and then the rest sends them all. -/
theorem Transmitted.after_send
    {socket next last : StreamSocket} {bytes : List UInt8} {count : ℕ}
    {succeeded : Bool} (hbytes : bytes ≠ [])
    (hsend : socket.send (bytes.take intMax) = (some count, next))
    (hrest : Transmitted next (bytes.drop count) succeeded last) :
    Transmitted socket bytes succeeded last := by
  have hsize : bytes.length ≠ 0 := by simpa using hbytes
  cases houtcome : socket.sendOutcomes 0 with
  | failed => simp [send, houtcome] at hsend
  | accepted size =>
      simp only [send, houtcome, Prod.mk.injEq, Option.some.injEq,
        List.length_take] at hsend
      obtain ⟨hcount, hnext⟩ := hsend
      have hcount' : min (min bytes.length intMax) (size + 1) = count := by
        rw [← hcount, Nat.min_comm intMax]
      have haccepted : acceptedCount socket.sendOutcomes bytes.length =
          (count + (acceptedCount next.sendOutcomes
            (bytes.drop count).length).1,
          (acceptedCount next.sendOutcomes
            (bytes.drop count).length).2) := by
        rw [acceptedCount, if_neg hsize, houtcome]
        simp only [hcount', ← hnext, List.length_drop]
      have hle : count ≤ bytes.length := by omega
      obtain ⟨chunks, hlog, hflatten⟩ := hrest.log
      refine ⟨?_, ?_, ?_, ?_, (bytes.take intMax).take count :: chunks,
        ?_, ?_⟩
      · rw [hrest.succeeded_iff, haccepted]
        simp only [List.length_drop]
        omega
      · rw [hrest.sendOutcomes, haccepted]
      · rw [hrest.incoming, ← hnext]
      · rw [hrest.recvOutcomes, ← hnext]
      · rw [hlog, ← hnext]
        simp [hcount]
      · rw [haccepted, List.flatten_cons, hflatten, List.take_take,
          Nat.min_eq_left (by omega : count ≤ intMax), ← List.take_add]

theorem transmit_spec (socket : StreamSocket) (bytes : List UInt8) :
    Transmitted socket bytes (transmit socket bytes).1
      (transmit socket bytes).2 := by
  induction socket, bytes using transmit.induct with
  | case1 socket =>
      rw [transmit, if_pos rfl]
      exact ⟨by simp [acceptedCount], by simp [acceptedCount], rfl, rfl,
        [], by simp, by simp⟩
  | case2 socket bytes hbytes next hsend =>
      rw [transmit, if_neg hbytes]
      split
      · rename_i other hother
        rw [hsend] at hother
        obtain rfl : next = other := by simpa using hother
        exact .refused hbytes hsend
      · rename_i hother
        rw [hsend] at hother
        simp at hother
  | case3 socket bytes hbytes count next hsend ih =>
      rw [transmit, if_neg hbytes]
      split
      · rename_i hother
        rw [hsend] at hother
        simp at hother
      · rename_i otherCount other hother
        rw [hsend] at hother
        obtain ⟨rfl, rfl⟩ : count = otherCount ∧ next = other := by
          simpa using hother
        exact .after_send hbytes hsend ih

/-! ## Receiving a fixed number of bytes -/

theorem recv_of_delivers
    {socket : StreamSocket} (hdelivers : socket.Delivers) {limit : ℕ}
    (hlimit : 0 < limit) :
    ∃ count next, 0 < count ∧ count ≤ limit ∧
      socket.recv limit = (.received (socket.incoming.take count), next) ∧
      next.incoming = socket.incoming.drop count ∧
      next.Delivers ∧ next.sendOutcomes = socket.sendOutcomes ∧
      next.log =
        socket.log ++ [.received (socket.incoming.take count)] := by
  obtain ⟨size, hsize⟩ := hdelivers 0
  let next : StreamSocket := {
    incoming := socket.incoming.drop (min limit (size + 1))
    recvOutcomes := fun call => socket.recvOutcomes (call + 1)
    sendOutcomes := socket.sendOutcomes
    log := socket.log ++
      [.received (socket.incoming.take (min limit (size + 1)))] }
  refine ⟨min limit (size + 1), next, by omega, by omega, ?_, rfl, ?_, rfl,
    rfl⟩
  · simp [recv, hsize, next]
  · exact fun call => hdelivers (call + 1)

/-- Whatever one call returns, no byte of the stream is lost or repeated. -/
theorem recv_conserves (socket : StreamSocket) (limit : ℕ) :
    match socket.recv limit with
    | (.received bytes, next) =>
        bytes.length ≤ limit ∧ bytes ++ next.incoming = socket.incoming
    | (_, next) => next.incoming = socket.incoming := by
  unfold recv
  cases socket.recvOutcomes 0 with
  | data size =>
      refine ⟨?_, List.take_append_drop _ _⟩
      rw [List.length_take]
      omega
  | timedOut => rfl
  | wouldBlock => rfl
  | failed => rfl

theorem recv_delivers
    {socket : StreamSocket} (hdelivers : socket.Delivers) (limit : ℕ) :
    (socket.recv limit).2.Delivers := by
  obtain ⟨size, hsize⟩ := hdelivers 0
  unfold recv
  rw [hsize]
  exact fun call => hdelivers (call + 1)

/-- Receives until `size` bytes have arrived; `none` when the stream ends or
a call fails before. -/
def fetch (socket : StreamSocket) (size : ℕ) :
    Option (List UInt8) × StreamSocket :=
  if size = 0 then (some [], socket)
  else
    match socket.recv (min size intMax) with
    | (.received [], next) => (none, next)
    | (.received (byte :: rest), next) =>
        let after := fetch next (size - (rest.length + 1))
        (after.1.map fun bytes => byte :: rest ++ bytes, after.2)
    | (.timedOut, next) => (none, next)
    | (.wouldBlock, next) => (none, next)
    | (.failed, next) => (none, next)
termination_by size

/-- What a complete or an incomplete reception of `size` bytes leaves. -/
structure Fetched (socket : StreamSocket) (size : ℕ)
    (result : Option (List UInt8)) (next : StreamSocket) : Prop where
  result : result =
    if size ≤ socket.incoming.length then some (socket.incoming.take size)
    else none
  incoming : next.incoming = socket.incoming.drop size
  delivers : next.Delivers
  sendOutcomes : next.sendOutcomes = socket.sendOutcomes
  log : ∃ chunks : List (List UInt8),
    next.log = socket.log ++ chunks.map .received ∧
    chunks.flatten = socket.incoming.take size

theorem Fetched.zero {socket : StreamSocket} (hdelivers : socket.Delivers) :
    Fetched socket 0 (some []) socket :=
  ⟨by simp, by simp, hdelivers, rfl, [], by simp, by simp⟩

/-- A `recv` at the end of the stream. -/
theorem Fetched.ended
    {socket next : StreamSocket} {size count : ℕ} (hsize : size ≠ 0)
    (hempty : socket.incoming = [])
    (hincoming : next.incoming = socket.incoming.drop count)
    (hdelivers : next.Delivers)
    (hsend : next.sendOutcomes = socket.sendOutcomes)
    (hlog : next.log =
      socket.log ++ [.received (socket.incoming.take count)]) :
    Fetched socket size none next := by
  refine ⟨?_, ?_, hdelivers, hsend, [socket.incoming.take count], hlog, ?_⟩
  · simp [hempty, hsize]
  · simp [hincoming, hempty]
  · simp [hempty]

/-- A `recv` of `count` bytes followed by the reception of the rest. -/
theorem Fetched.more
    {socket next last : StreamSocket} {size count : ℕ}
    {result : Option (List UInt8)} (hcount : count ≤ size)
    (havailable : count ≤ socket.incoming.length)
    (hincoming : next.incoming = socket.incoming.drop count)
    (hsend : next.sendOutcomes = socket.sendOutcomes)
    (hlog : next.log =
      socket.log ++ [.received (socket.incoming.take count)])
    (hrest : Fetched next (size - count) result last) :
    Fetched socket size
      (result.map fun bytes => socket.incoming.take count ++ bytes) last := by
  obtain ⟨chunks, hchunks, hflatten⟩ := hrest.log
  have htake : socket.incoming.take count ++
      (socket.incoming.drop count).take (size - count) =
        socket.incoming.take size := by
    rw [← List.take_add, Nat.add_sub_cancel' hcount]
  refine ⟨?_, ?_, hrest.delivers, hrest.sendOutcomes.trans hsend,
    socket.incoming.take count :: chunks, ?_, ?_⟩
  · rw [hrest.result, hincoming, List.length_drop]
    by_cases hsize : size ≤ socket.incoming.length
    · rw [if_pos (by omega), if_pos hsize, Option.map_some, htake]
    · rw [if_neg (by omega), if_neg hsize, Option.map_none]
  · rw [hrest.incoming, hincoming, List.drop_drop,
      Nat.add_sub_cancel' hcount]
  · rw [hchunks, hlog]
    simp
  · rw [List.flatten_cons, hflatten, hincoming, htake]

theorem fetch_spec
    {socket : StreamSocket} (hdelivers : socket.Delivers) (size : ℕ) :
    Fetched socket size (fetch socket size).1 (fetch socket size).2 := by
  induction size using Nat.strong_induction_on generalizing socket with
  | _ size ih =>
      rw [fetch]
      by_cases hsize : size = 0
      · subst hsize
        rw [if_pos rfl]
        exact Fetched.zero hdelivers
      · rw [if_neg hsize]
        have hlimit : 0 < min size intMax := by simp [intMax]; omega
        obtain ⟨count, next, hpos, hle, hrecv, hincoming, hnext, hsend,
          hlog⟩ := recv_of_delivers hdelivers hlimit
        rw [hrecv]
        cases htake : socket.incoming.take count with
        | nil =>
            have hempty : socket.incoming = [] := by
              cases List.take_eq_nil_iff.mp htake with
              | inl hzero => omega
              | inr hnil => exact hnil
            exact Fetched.ended hsize hempty hincoming hnext hsend hlog
        | cons byte rest =>
            have hlength : min count socket.incoming.length =
                rest.length + 1 := by
              have h := congrArg List.length htake
              simpa using h
            have hinitial : socket.incoming.take (rest.length + 1) =
                byte :: rest := by
              rw [← hlength, ← List.take_take, List.take_length, htake]
            have hdrop : socket.incoming.drop count =
                socket.incoming.drop (rest.length + 1) := by
              by_cases hshort : count ≤ socket.incoming.length
              · rw [← hlength, Nat.min_eq_left hshort]
              · rw [List.drop_eq_nil_of_le (by omega),
                  List.drop_eq_nil_of_le (by omega)]
            have hrest := ih (size - (rest.length + 1)) (by omega) hnext
            have hmore := Fetched.more
              (by omega) (by omega) (hincoming.trans hdrop) hsend
              (by rw [hlog, htake, hinitial]) hrest
            rw [hinitial] at hmore
            exact hmore

end StreamSocket

/-! ## Reading a log -/

def SocketEvent.written : SocketEvent → List UInt8
  | .sent bytes => bytes
  | .received _ => []

def SocketEvent.consumed : SocketEvent → List UInt8
  | .sent _ => []
  | .received bytes => bytes

def writtenBytes (log : List SocketEvent) : List UInt8 :=
  log.flatMap SocketEvent.written

def consumedBytes (log : List SocketEvent) : List UInt8 :=
  log.flatMap SocketEvent.consumed

@[simp] theorem writtenBytes_append (before after : List SocketEvent) :
    writtenBytes (before ++ after) =
      writtenBytes before ++ writtenBytes after :=
  List.flatMap_append

@[simp] theorem consumedBytes_append (before after : List SocketEvent) :
    consumedBytes (before ++ after) =
      consumedBytes before ++ consumedBytes after :=
  List.flatMap_append

@[simp] theorem writtenBytes_sent (chunks : List (List UInt8)) :
    writtenBytes (chunks.map .sent) = chunks.flatten := by
  induction chunks with
  | nil => rfl
  | cons chunk rest ih => simpa [writtenBytes, SocketEvent.written] using ih

@[simp] theorem writtenBytes_received (chunks : List (List UInt8)) :
    writtenBytes (chunks.map .received) = [] := by
  simp [writtenBytes, SocketEvent.written]

@[simp] theorem consumedBytes_sent (chunks : List (List UInt8)) :
    consumedBytes (chunks.map .sent) = [] := by
  simp [consumedBytes, SocketEvent.consumed]

@[simp] theorem consumedBytes_received (chunks : List (List UInt8)) :
    consumedBytes (chunks.map .received) = chunks.flatten := by
  induction chunks with
  | nil => rfl
  | cons chunk rest ih => simpa [consumedBytes, SocketEvent.consumed] using ih

/-- Whenever a byte is sent, the gate allows it: the gate sees how many bytes
were written and which were consumed before. -/
def GatedLog (Gate : ℕ → List UInt8 → Prop) (log : List SocketEvent) : Prop :=
  ∀ before chunk after, log = before ++ .sent chunk :: after →
    ∀ count < chunk.length,
      Gate ((writtenBytes before).length + count) (consumedBytes before)

theorem GatedLog.nil (Gate : ℕ → List UInt8 → Prop) : GatedLog Gate [] := by
  intro before chunk after hlog
  simp at hlog

theorem GatedLog.snoc
    {Gate : ℕ → List UInt8 → Prop} {log : List SocketEvent}
    {event : SocketEvent} (hlog : GatedLog Gate log)
    (hevent : ∀ chunk, event = .sent chunk → ∀ count < chunk.length,
      Gate ((writtenBytes log).length + count) (consumedBytes log)) :
    GatedLog Gate (log ++ [event]) := by
  intro before chunk after hsplit
  rcases List.eq_nil_or_concat after with hnil | ⟨init, last, hconcat⟩
  · subst hnil
    obtain ⟨hlogEq, heventEq⟩ := List.append_inj' hsplit rfl
    rw [← hlogEq]
    exact hevent chunk (by simpa using heventEq)
  · subst hconcat
    have hsplit' : log ++ [event] =
        (before ++ .sent chunk :: init) ++ [last] := by
      simpa using hsplit
    obtain ⟨hlogEq, _⟩ := List.append_inj' hsplit' rfl
    exact hlog before chunk init hlogEq

theorem GatedLog.received
    {Gate : ℕ → List UInt8 → Prop} {log : List SocketEvent}
    (hlog : GatedLog Gate log) (chunks : List (List UInt8)) :
    GatedLog Gate (log ++ chunks.map .received) := by
  induction chunks generalizing log with
  | nil => simpa using hlog
  | cons chunk rest ih =>
      have hnext : GatedLog Gate (log ++ [.received chunk]) :=
        hlog.snoc (by simp)
      simpa [List.append_assoc] using ih hnext

/-- Chunks may be sent when the gate stays open for all their bytes. -/
theorem GatedLog.sent
    {Gate : ℕ → List UInt8 → Prop} {log : List SocketEvent}
    (hlog : GatedLog Gate log) (chunks : List (List UInt8))
    (hgate : ∀ count < chunks.flatten.length,
      Gate ((writtenBytes log).length + count) (consumedBytes log)) :
    GatedLog Gate (log ++ chunks.map .sent) := by
  induction chunks generalizing log with
  | nil => simpa using hlog
  | cons chunk rest ih =>
      have hnext : GatedLog Gate (log ++ [.sent chunk]) := by
        refine hlog.snoc fun other hother count hcount => ?_
        obtain rfl : chunk = other := by simpa using hother
        exact hgate count
          (by rw [List.flatten_cons, List.length_append]; omega)
      have hrest : ∀ count < rest.flatten.length,
          Gate ((writtenBytes (log ++ [.sent chunk])).length + count)
            (consumedBytes (log ++ [.sent chunk])) := by
        intro count hcount
        have hopen := hgate (chunk.length + count)
          (by rw [List.flatten_cons, List.length_append]; omega)
        simpa [writtenBytes, consumedBytes, SocketEvent.written,
          SocketEvent.consumed, Nat.add_assoc] using hopen
      simpa [List.append_assoc] using ih hnext hrest

end Foundation
