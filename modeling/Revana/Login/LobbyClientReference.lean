import Revana.Login.LobbyClient

/-!
# The data-socket protocol as a function of the server's stream

`referenceExchange` decides the outcome, the bytes written and the number of
bytes consumed from the unfragmented stream.  The client agrees with it for
every fragmentation and every schedule of partial sends, and its log shows
that no message is begun before the reply in front of it was validated.
-/

namespace Revana.Login

open Foundation
open StreamSocket

/-- The server's stream in front of a client that has sent nothing yet. -/
def fragmentedSocket (stream : List UInt8) (sizes : ℕ → ℕ)
    (sends : ℕ → SendOutcome) : StreamSocket where
  incoming := stream
  recvOutcomes := fun call => .data (sizes call)
  sendOutcomes := sends
  log := []

structure ReferenceExchange where
  outcome : Except LobbyFailure DataCharacterLoginResult
  written : List UInt8
  consumed : ℕ

def dataTriggerBytes : List UInt8 := [0x01, 0, 0, 0, 0]
def selectionTriggerBytes : List UInt8 := [0x02, 0, 0, 0, 0]

/-- Bytes up to the end of the loader list, and of the selection trigger. -/
def loaderListEnd : ℕ := dataTriggerSize + loaderCharacterListSize
def selectionTriggerEnd : ℕ := loaderListEnd + dataTriggerSize

def referenceExchange (session : SessionMaterial) (serverAddress : Ipv4Address)
    (mapSessionKey : MapSessionKey) (sends : ℕ → SendOutcome)
    (stream : List UInt8) : ReferenceExchange :=
  let bind := makeDataBind session.sessionHash
  let account := makeDataAccountRequest session serverAddress
  let selection := makeDataSelectionRequest mapSessionKey
  let bindSent := acceptedCount sends dataRequestSize
  let accountSent := acceptedCount bindSent.2 dataRequestSize
  let selectionSent := acceptedCount accountSent.2 dataRequestSize
  if bindSent.1 < dataRequestSize then
    ⟨.error ⟨.ioFailed, .dataBind, none⟩, bind.take bindSent.1, 0⟩
  else if stream.length < dataTriggerSize then
    ⟨.error ⟨.ioFailed, .dataTrigger, none⟩, bind, stream.length⟩
  else if stream.take dataTriggerSize ≠ dataTriggerBytes then
    ⟨.error ⟨.unexpectedResponse, .dataTrigger, none⟩, bind,
      dataTriggerSize⟩
  else if accountSent.1 < dataRequestSize then
    ⟨.error ⟨.ioFailed, .dataAccountRequest, none⟩,
      bind ++ account.take accountSent.1, dataTriggerSize⟩
  else if stream.length < loaderListEnd then
    ⟨.error ⟨.ioFailed, .dataCharacterList, none⟩, bind ++ account,
      stream.length⟩
  else if byteAt stream 5 ≠ 0x03 ∨ 16 < byteAt stream 6 then
    ⟨.error ⟨.unexpectedResponse, .dataCharacterList, none⟩,
      bind ++ account, loaderListEnd⟩
  else if stream.length < selectionTriggerEnd then
    ⟨.error ⟨.ioFailed, .dataSelectionTrigger, none⟩, bind ++ account,
      stream.length⟩
  else if (stream.drop loaderListEnd).take dataTriggerSize ≠
      selectionTriggerBytes then
    ⟨.error ⟨.unexpectedResponse, .dataSelectionTrigger, none⟩,
      bind ++ account, selectionTriggerEnd⟩
  else if selectionSent.1 < dataRequestSize then
    ⟨.error ⟨.ioFailed, .dataSelectionRequest, none⟩,
      bind ++ account ++ selection.take selectionSent.1,
      selectionTriggerEnd⟩
  else
    ⟨.ok ⟨byteAt stream 6⟩, bind ++ account ++ selection,
      selectionTriggerEnd⟩

/-! ## Replies as stream positions -/

theorem isTrigger_iff
    {first : UInt8} {trigger : List UInt8}
    (hlength : trigger.length = dataTriggerSize) :
    isTrigger first trigger = true ↔ trigger = [first, 0, 0, 0, 0] := by
  match trigger, hlength with
  | [b0, b1, b2, b3, b4], _ =>
      simp [isTrigger, byteAt]

theorem byteAt_take_drop
    (stream : List UInt8) {offset size index : ℕ} (hindex : index < size) :
    byteAt ((stream.drop offset).take size) index =
      byteAt stream (offset + index) := by
  simp [byteAt, hindex, List.getElem?_drop]

theorem isLoaderList_iff (stream : List UInt8) :
    isLoaderList ((stream.drop dataTriggerSize).take
      loaderCharacterListSize) = true ↔
        ¬(byteAt stream 5 ≠ 0x03 ∨ 16 < byteAt stream 6) := by
  have hfields : ∀ loaderList, isLoaderList loaderList = true ↔
      byteAt loaderList 0 = 0x03 ∧ byteAt loaderList 1 ≤ 16 := by
    intro loaderList
    simp [isLoaderList]
  rw [hfields, byteAt_take_drop stream (by decide),
    byteAt_take_drop stream (by decide)]
  simp [dataTriggerSize]

/-! ## One exchange -/

/-- The socket after `sent` bytes of a request and `received` reply bytes. -/
structure Exchanged (socket : StreamSocket) (request : List UInt8)
    (sent received : ℕ) (next : StreamSocket) : Prop where
  incoming : next.incoming = socket.incoming.drop received
  delivers : next.Delivers
  sendOutcomes : next.sendOutcomes =
    (acceptedCount socket.sendOutcomes request.length).2
  log : ∃ sends receives : List (List UInt8),
    next.log = socket.log ++ sends.map .sent ++ receives.map .received ∧
    sends.flatten = request.take sent ∧
    receives.flatten = socket.incoming.take received

theorem Transmitted.exchanged
    {socket next : StreamSocket} {request : List UInt8} {succeeded : Bool}
    (hdelivers : socket.Delivers)
    (hsent : Transmitted socket request succeeded next) :
    Exchanged socket request
      (acceptedCount socket.sendOutcomes request.length).1 0 next := by
  obtain ⟨chunks, hlog, hflatten⟩ := hsent.log
  refine ⟨by simp [hsent.incoming], ?_, hsent.sendOutcomes, chunks, [],
    by simp [hlog], hflatten, by simp⟩
  intro call
  rw [hsent.recvOutcomes]
  exact hdelivers call

theorem Exchanged.fetched
    {socket middle next : StreamSocket} {request : List UInt8} {sent size : ℕ}
    {result : Option (List UInt8)}
    (hsent : Exchanged socket request sent 0 middle)
    (hfetched : Fetched middle size result next) :
    Exchanged socket request sent size next := by
  obtain ⟨sends, receives, hlog, hsends, hreceives⟩ := hsent.log
  obtain ⟨chunks, hchunks, hflatten⟩ := hfetched.log
  have hincoming : middle.incoming = socket.incoming := by
    simpa using hsent.incoming
  refine ⟨by rw [hfetched.incoming, hincoming], hfetched.delivers,
    hfetched.sendOutcomes.trans hsent.sendOutcomes, sends,
    receives ++ chunks, ?_, hsends, ?_⟩
  · simp [hchunks, hlog]
  · simp [hreceives, hflatten, hincoming]

/-- An exchange decided by the stream: send failure, short reply, or a reply
that is accepted or not. -/
theorem exchangeRequest_spec
    {socket : StreamSocket} (hdelivers : socket.Delivers)
    (request : List UInt8) (sendStage : LobbyStage) (replySize : ℕ)
    (replyStage : LobbyStage) (accepts : List UInt8 → Bool) :
    let exchange := exchangeRequest socket request sendStage replySize
      replyStage accepts
    let accepted := (acceptedCount socket.sendOutcomes request.length).1
    (accepted < request.length ∧
      exchange.1 = .error ⟨.ioFailed, sendStage, none⟩ ∧
      Exchanged socket request accepted 0 exchange.2) ∨
    (accepted = request.length ∧ socket.incoming.length < replySize ∧
      exchange.1 = .error ⟨.ioFailed, replyStage, none⟩ ∧
      Exchanged socket request request.length replySize exchange.2) ∨
    (accepted = request.length ∧ replySize ≤ socket.incoming.length ∧
      accepts (socket.incoming.take replySize) = false ∧
      exchange.1 = .error ⟨.unexpectedResponse, replyStage, none⟩ ∧
      Exchanged socket request request.length replySize exchange.2) ∨
    (accepted = request.length ∧ replySize ≤ socket.incoming.length ∧
      accepts (socket.incoming.take replySize) = true ∧
      exchange.1 = .ok (socket.incoming.take replySize) ∧
      Exchanged socket request request.length replySize exchange.2) := by
  intro exchange accepted
  have hsent := transmit_spec socket request
  have hexchanged := Transmitted.exchanged hdelivers hsent
  have hle := acceptedCount_le socket.sendOutcomes request.length
  by_cases hall : accepted = request.length
  · have hsucceeded : (sendAll socket request).1 = true :=
      hsent.succeeded_iff.mpr hall
    change Exchanged socket request accepted 0 (sendAll socket request).2
      at hexchanged
    rw [hall] at hexchanged
    have hincoming : (sendAll socket request).2.incoming =
        socket.incoming := hsent.incoming
    have hfetched := fetch_spec hexchanged.delivers replySize
    have hnext := hexchanged.fetched hfetched
    have hresult := hfetched.result
    rw [hincoming] at hresult
    by_cases hreply : replySize ≤ socket.incoming.length
    · rw [if_pos hreply] at hresult
      cases haccepts : accepts (socket.incoming.take replySize) with
      | false =>
          have hexchange : exchange =
              (.error ⟨.unexpectedResponse, replyStage, none⟩,
              (fetch (sendAll socket request).2 replySize).2) := by
            simp [exchange, exchangeRequest, hsucceeded, receiveExact,
              hresult, haccepts]
          right; right; left
          rw [hexchange]
          exact ⟨hall, hreply, rfl, rfl, hnext⟩
      | true =>
          have hexchange : exchange =
              (.ok (socket.incoming.take replySize),
              (fetch (sendAll socket request).2 replySize).2) := by
            simp [exchange, exchangeRequest, hsucceeded, receiveExact,
              hresult, haccepts]
          right; right; right
          rw [hexchange]
          exact ⟨hall, hreply, rfl, rfl, hnext⟩
    · rw [if_neg hreply] at hresult
      have hexchange : exchange =
          (.error ⟨.ioFailed, replyStage, none⟩,
          (fetch (sendAll socket request).2 replySize).2) := by
        simp [exchange, exchangeRequest, hsucceeded, receiveExact, hresult]
      right; left
      rw [hexchange]
      exact ⟨hall, by omega, rfl, hnext⟩
  · have hfailed : (sendAll socket request).1 = false := by
      rw [← Bool.not_eq_true]
      exact fun hsucceeded => hall (hsent.succeeded_iff.mp hsucceeded)
    have hexchange : exchange =
        (.error ⟨.ioFailed, sendStage, none⟩, (sendAll socket request).2) := by
      simp [exchange, exchangeRequest, hfailed]
    left
    rw [hexchange]
    exact ⟨by omega, rfl, hexchanged⟩

/-- Without cancellation and timeout, the cancellable reception is the plain
one. -/
theorem receiveUntilDeadline_eq_fetch
    {stopRequested : ℕ → Bool} {clock : ℕ → ℕ} {deadline : ℕ}
    (hstop : ∀ call, stopRequested call = false)
    (hclock : ∀ call, clock call < deadline)
    {socket : StreamSocket} (hdelivers : socket.Delivers) {size fuel : ℕ}
    (hfuel : size ≤ fuel) (iteration : ℕ) :
    ∃ verdict bytes,
      receiveUntilDeadline stopRequested clock deadline fuel iteration socket
        size = some (verdict, bytes, (fetch socket size).2) ∧
      (∀ expected, (fetch socket size).1 = some expected →
        verdict = .complete ∧ bytes = expected) ∧
      ((fetch socket size).1 = none → verdict = .ioFailed) := by
  induction fuel generalizing socket size iteration with
  | zero =>
      obtain rfl : size = 0 := by omega
      refine ⟨.complete, [], ?_, ?_, ?_⟩ <;>
        simp [receiveUntilDeadline, fetch]
  | succ fuel ih =>
      rw [receiveUntilDeadline, fetch]
      by_cases hsize : size = 0
      · rw [if_pos hsize, if_pos hsize]
        exact ⟨.complete, [], rfl, by simp, by simp⟩
      · rw [if_neg hsize, if_neg hsize]
        have hlimit : 0 < min size intMax := by simp [intMax]; omega
        obtain ⟨count, next, hpos, hle, hrecv, _, hnext, _, _⟩ :=
          recv_of_delivers hdelivers hlimit
        have hrunning : ¬clock iteration ≥ deadline := by
          have := hclock iteration
          omega
        simp only [hstop, Bool.false_eq_true, if_false, if_neg hrunning,
          hrecv]
        cases htake : socket.incoming.take count with
        | nil => exact ⟨.ioFailed, [], rfl, by simp, by simp⟩
        | cons byte rest =>
            obtain ⟨verdict, bytes, hwait, hcomplete, hfailed⟩ :=
              ih hnext (by omega : size - (rest.length + 1) ≤ fuel)
                (iteration + 1)
            refine ⟨verdict, byte :: rest ++ bytes, ?_, ?_, ?_⟩
            · simp only [hwait, Option.map_some]
            · intro expected hexpected
              obtain ⟨tail, htail, rfl⟩ := Option.map_eq_some_iff.mp hexpected
              obtain ⟨hverdict, hbytes⟩ := hcomplete tail htail
              exact ⟨hverdict, by rw [hbytes]⟩
            · intro hnone
              exact hfailed (Option.map_eq_none_iff.mp hnone)

/-! ## Following the log -/

/-- Which replies must have been consumed before a byte at position
`written` is sent: none for the first message, the data trigger for the
second, and all three for the message that carries the map key. -/
def ReplyGate (written : ℕ) (consumed : List UInt8) : Prop :=
  (written < dataRequestSize ∧ consumed = []) ∨
  (dataRequestSize ≤ written ∧ written < 2 * dataRequestSize ∧
    consumed = dataTriggerBytes) ∨
  (2 * dataRequestSize ≤ written ∧ written < 3 * dataRequestSize ∧
    ∃ loaderList : List UInt8,
      loaderList.length = loaderCharacterListSize ∧
      byteAt loaderList 0 = 0x03 ∧ byteAt loaderList 1 ≤ 16 ∧
      consumed = dataTriggerBytes ++ loaderList ++ selectionTriggerBytes)

/-- The socket has written `written` and consumed a prefix of the stream,
with every message gated. -/
structure Progress (stream written : List UInt8) (consumed : ℕ)
    (socket : StreamSocket) : Prop where
  writes : writtenBytes socket.log = written
  consumes : consumedBytes socket.log = stream.take consumed
  incoming : socket.incoming = stream.drop consumed
  gated : GatedLog ReplyGate socket.log

theorem Progress.exchanged
    {stream written request : List UInt8} {consumed sent received : ℕ}
    {socket next : StreamSocket}
    (hprogress : Progress stream written consumed socket)
    (hexchanged : Exchanged socket request sent received next)
    (hgate : ∀ count < request.length,
      ReplyGate (written.length + count) (stream.take consumed)) :
    Progress stream (written ++ request.take sent) (consumed + received)
      next := by
  obtain ⟨sends, receives, hlog, hsends, hreceives⟩ := hexchanged.log
  refine ⟨?_, ?_, ?_, ?_⟩
  · simp [hlog, hprogress.writes, hsends]
  · rw [hprogress.incoming] at hreceives
    simp [hlog, hprogress.consumes, hreceives, List.take_add]
  · rw [hexchanged.incoming, hprogress.incoming, List.drop_drop]
  · rw [hlog]
    apply GatedLog.received
    apply hprogress.gated.sent
    intro count hcount
    rw [hsends] at hcount
    rw [hprogress.writes, hprogress.consumes]
    apply hgate
    have hle := List.length_take_le sent request
    simp only [List.length_take] at hcount
    omega

theorem Progress.fetched
    {stream written : List UInt8} {consumed size : ℕ}
    {socket next : StreamSocket} {result : Option (List UInt8)}
    (hprogress : Progress stream written consumed socket)
    (hfetched : Fetched socket size result next) :
    Progress stream written (consumed + size) next := by
  obtain ⟨chunks, hlog, hchunks⟩ := hfetched.log
  refine ⟨?_, ?_, ?_, ?_⟩
  · simp [hlog, hprogress.writes]
  · rw [hprogress.incoming] at hchunks
    simp [hlog, hprogress.consumes, hchunks, List.take_add]
  · rw [hfetched.incoming, hprogress.incoming, List.drop_drop]
  · rw [hlog]
    exact hprogress.gated.received chunks

theorem Progress.consumed_all
    {stream written : List UInt8} {consumed : ℕ} {socket : StreamSocket}
    (hprogress : Progress stream written consumed socket)
    (hshort : stream.length < consumed) :
    Progress stream written stream.length socket := by
  refine ⟨hprogress.writes, ?_, ?_, hprogress.gated⟩
  · rw [hprogress.consumes, List.take_of_length_le hshort.le,
      List.take_length]
  · rw [hprogress.incoming, List.drop_eq_nil_of_le hshort.le,
      List.drop_length]

/-- A result agrees with the reference when it has its outcome and its log
has the reference's bytes, every message gated. -/
def Agrees (stream : List UInt8) (reference : ReferenceExchange)
    (result : Option (Except LobbyFailure DataCharacterLoginResult ×
      StreamSocket)) : Prop :=
  ∃ socket, result = some (reference.outcome, socket) ∧
    Progress stream reference.written reference.consumed socket

/-- The conditions under which the environment lets the exchange run without
a cancellation or a timeout. -/
structure Undisturbed (env : LobbyEnvironment) (options : LobbyOptions) :
    Prop where
  receiveTimeoutSet : env.receiveTimeoutSet = true
  notStopped : ∀ call, env.stopRequested call = false
  notExpired : ∀ call,
    env.clock (call + 1) < env.clock 0 + options.selectionTimeoutMs

theorem receiveExactUntil_eq_fetch
    {env : LobbyEnvironment} {options : LobbyOptions}
    (hquiet : Undisturbed env options) {socket : StreamSocket}
    (hdelivers : socket.Delivers) {size fuel : ℕ} (hfuel : size ≤ fuel) :
    ∃ verdict bytes,
      receiveExactUntil env fuel socket size options.selectionTimeoutMs =
        some (verdict, bytes, (fetch socket size).2) ∧
      (∀ expected, (fetch socket size).1 = some expected →
        verdict = .complete ∧ bytes = expected) ∧
      ((fetch socket size).1 = none → verdict = .ioFailed) := by
  have htimeout : ¬env.receiveTimeoutSet = false := by
    simp [hquiet.receiveTimeoutSet]
  rw [receiveExactUntil, if_neg htimeout]
  exact receiveUntilDeadline_eq_fetch hquiet.notStopped hquiet.notExpired
    hdelivers hfuel 0

/-- The map key's request, sent or cut off by a failing send. -/
theorem selectionRequest_agrees
    {stream written : List UInt8} {consumed : ℕ} {socket : StreamSocket}
    (hdelivers : socket.Delivers)
    (hprogress : Progress stream written consumed socket)
    (mapSessionKey : MapSessionKey) (result : DataCharacterLoginResult)
    (hgate : ∀ count < dataRequestSize,
      ReplyGate (written.length + count) (stream.take consumed)) :
    let selection := makeDataSelectionRequest mapSessionKey
    let accepted := acceptedCount socket.sendOutcomes dataRequestSize
    Agrees stream
      (if accepted.1 < dataRequestSize then
        ⟨.error ⟨.ioFailed, .dataSelectionRequest, none⟩,
          written ++ selection.take accepted.1, consumed⟩
      else
        ⟨.ok result, written ++ selection, consumed⟩)
      (if (sendAll socket selection).1 = false then
        some (.error ⟨.ioFailed, .dataSelectionRequest, none⟩,
          (sendAll socket selection).2)
      else
        some (.ok result, (sendAll socket selection).2)) := by
  intro selection accepted
  have hsize : selection.length = dataRequestSize :=
    makeDataSelectionRequest_length mapSessionKey
  have hsent := transmit_spec socket selection
  have hdone := hprogress.exchanged (Transmitted.exchanged hdelivers hsent)
    (by rw [hsize]; exact hgate)
  have hsucceeded := hsent.succeeded_iff
  rw [hsize] at hdone hsucceeded
  by_cases haccepted : accepted.1 < dataRequestSize
  · have hfalse : (sendAll socket selection).1 = false := by
      rw [← Bool.not_eq_true]
      intro htrue
      exact haccepted.ne (hsucceeded.mp htrue)
    rw [if_pos haccepted, if_pos hfalse]
    exact ⟨_, rfl, hdone⟩
  · have hle := acceptedCount_le socket.sendOutcomes dataRequestSize
    have hfull : accepted.1 = dataRequestSize :=
      hle.antisymm (not_lt.mp haccepted)
    have htrue : (sendAll socket selection).1 = true := hsucceeded.mpr hfull
    rw [show (acceptedCount socket.sendOutcomes dataRequestSize).1 =
      selection.length from hfull.trans hsize.symm, List.take_length] at hdone
    rw [if_neg haccepted, if_neg (by simp [htrue])]
    exact ⟨_, rfl, hdone⟩

/-- The tail of `referenceExchange` that starts behind the loader list. -/
theorem coordinateSelection_agrees
    {env : LobbyEnvironment} {options : LobbyOptions}
    (hquiet : Undisturbed env options) {fuel : ℕ}
    (hfuel : dataTriggerSize ≤ fuel) {stream written : List UInt8}
    {consumed : ℕ} {socket : StreamSocket} (hdelivers : socket.Delivers)
    (hprogress : Progress stream written consumed socket)
    (mapSessionKey : MapSessionKey) (result : DataCharacterLoginResult)
    (hgate : stream.take consumed ++ selectionTriggerBytes =
        stream.take (consumed + dataTriggerSize) →
      ∀ count < dataRequestSize, ReplyGate (written.length + count)
        (stream.take (consumed + dataTriggerSize))) :
    let selection := makeDataSelectionRequest mapSessionKey
    let accepted := acceptedCount socket.sendOutcomes dataRequestSize
    Agrees stream
      (if stream.length < consumed + dataTriggerSize then
        ⟨.error ⟨.ioFailed, .dataSelectionTrigger, none⟩, written,
          stream.length⟩
      else if (stream.drop consumed).take dataTriggerSize ≠
          selectionTriggerBytes then
        ⟨.error ⟨.unexpectedResponse, .dataSelectionTrigger, none⟩, written,
          consumed + dataTriggerSize⟩
      else if accepted.1 < dataRequestSize then
        ⟨.error ⟨.ioFailed, .dataSelectionRequest, none⟩,
          written ++ selection.take accepted.1, consumed + dataTriggerSize⟩
      else
        ⟨.ok result, written ++ selection, consumed + dataTriggerSize⟩)
      (coordinateSelection env fuel socket mapSessionKey options result) := by
  intro selection accepted
  have hfetched := fetch_spec hdelivers dataTriggerSize
  have hnext := hprogress.fetched hfetched
  have hresult := hfetched.result
  rw [hprogress.incoming] at hresult
  obtain ⟨verdict, bytes, hreceive, hcomplete, hfailed⟩ :=
    receiveExactUntil_eq_fetch hquiet hdelivers hfuel
  by_cases hshort : stream.length < consumed + dataTriggerSize
  · have hnone : (fetch socket dataTriggerSize).1 = none := by
      rw [hresult, if_neg]
      simp only [List.length_drop, dataTriggerSize] at hshort ⊢
      omega
    have hrun : coordinateSelection env fuel socket mapSessionKey options
        result = some (.error ⟨.ioFailed, .dataSelectionTrigger, none⟩,
          (fetch socket dataTriggerSize).2) := by
      simp [coordinateSelection, hreceive, hfailed hnone, selectionWaitError]
    rw [if_pos hshort, hrun]
    exact ⟨_, rfl, hnext.consumed_all hshort⟩
  · have hsome : (fetch socket dataTriggerSize).1 =
        some ((stream.drop consumed).take dataTriggerSize) := by
      rw [hresult, if_pos]
      simp only [List.length_drop]
      omega
    obtain ⟨hverdict, hbytes⟩ := hcomplete _ hsome
    subst hverdict hbytes
    have hlength : ((stream.drop consumed).take dataTriggerSize).length =
        dataTriggerSize := by
      simp only [List.length_take, List.length_drop]
      omega
    rw [if_neg hshort]
    by_cases htrigger : (stream.drop consumed).take dataTriggerSize =
        selectionTriggerBytes
    · have haccepts := (isTrigger_iff hlength).mpr htrigger
      have hconsumed : stream.take consumed ++ selectionTriggerBytes =
          stream.take (consumed + dataTriggerSize) := by
        rw [← htrigger, List.take_add]
      have hrequest := selectionRequest_agrees hfetched.delivers hnext
        mapSessionKey result (hgate hconsumed)
      have hrun : coordinateSelection env fuel socket mapSessionKey options
          result =
            if (sendAll (fetch socket dataTriggerSize).2 selection).1 = false
            then some (.error ⟨.ioFailed, .dataSelectionRequest, none⟩,
              (sendAll (fetch socket dataTriggerSize).2 selection).2)
            else some (.ok result,
              (sendAll (fetch socket dataTriggerSize).2 selection).2) := by
        simp [coordinateSelection, hreceive, haccepts, selection]
      rw [hfetched.sendOutcomes] at hrequest
      rw [if_neg (not_not_intro htrigger), hrun]
      exact hrequest
    · have hrejected : isTrigger 0x02
          ((stream.drop consumed).take dataTriggerSize) = false := by
        rw [← Bool.not_eq_true]
        exact fun haccepts => htrigger ((isTrigger_iff hlength).mp haccepts)
      have hrun : coordinateSelection env fuel socket mapSessionKey options
          result = some (.error ⟨.unexpectedResponse, .dataSelectionTrigger,
            none⟩, (fetch socket dataTriggerSize).2) := by
        simp [coordinateSelection, hreceive, hrejected]
      rw [if_pos htrigger, hrun]
      exact ⟨_, rfl, hnext⟩

/-! ## The whole exchange -/

theorem fragmentedSocket_progress
    (stream : List UInt8) (sizes : ℕ → ℕ) (sends : ℕ → SendOutcome) :
    Progress stream [] 0 (fragmentedSocket stream sizes sends) :=
  ⟨rfl, rfl, rfl, GatedLog.nil ReplyGate⟩

theorem fragmentedSocket_delivers
    (stream : List UInt8) (sizes : ℕ → ℕ) (sends : ℕ → SendOutcome) :
    (fragmentedSocket stream sizes sends).Delivers :=
  fun call => ⟨sizes call, rfl⟩

theorem replyGate_account
    {stream written : List UInt8} (hwritten : written.length = dataRequestSize)
    (htrigger : stream.take dataTriggerSize = dataTriggerBytes) :
    ∀ count < dataRequestSize, ReplyGate (written.length + count)
      (stream.take dataTriggerSize) := by
  intro count hcount
  rw [hwritten]
  right; left
  exact ⟨by omega, by omega, htrigger⟩

theorem replyGate_selection
    {stream written : List UInt8}
    (hwritten : written.length = 2 * dataRequestSize)
    (havailable : loaderListEnd ≤ stream.length)
    (htrigger : stream.take dataTriggerSize = dataTriggerBytes)
    (hlist : ¬(byteAt stream 5 ≠ 0x03 ∨ 16 < byteAt stream 6))
    (hselection : stream.take loaderListEnd ++ selectionTriggerBytes =
      stream.take (loaderListEnd + dataTriggerSize)) :
    ∀ count < dataRequestSize, ReplyGate (written.length + count)
      (stream.take (loaderListEnd + dataTriggerSize)) := by
  intro count hcount
  let loaderList := (stream.drop dataTriggerSize).take loaderCharacterListSize
  have hlength : loaderList.length = loaderCharacterListSize := by
    simp only [loaderList, List.length_take, List.length_drop]
    simp only [loaderListEnd] at havailable
    omega
  have haccepted := (isLoaderList_iff stream).mpr hlist
  simp only [isLoaderList, Bool.and_eq_true, decide_eq_true_eq] at haccepted
  have hinitial : stream.take loaderListEnd = dataTriggerBytes ++ loaderList := by
    rw [loaderListEnd, List.take_add, htrigger]
  rw [hwritten]
  right; right
  refine ⟨by omega, by omega, loaderList, hlength, haccepted.1, haccepted.2, ?_⟩
  rw [← hselection, hinitial]

/-- The exchange from the validated data trigger on. -/
theorem coordinateAccount_agrees
    {env : LobbyEnvironment} {options : LobbyOptions}
    (hquiet : Undisturbed env options) {fuel : ℕ}
    (hfuel : dataTriggerSize ≤ fuel) {stream : List UInt8}
    {sends : ℕ → SendOutcome} {socket : StreamSocket}
    (session : SessionMaterial) (serverAddress : Ipv4Address)
    (mapSessionKey : MapSessionKey) (hdelivers : socket.Delivers)
    (hprogress : Progress stream (makeDataBind session.sessionHash)
      dataTriggerSize socket)
    (hbindSent : (acceptedCount sends dataRequestSize).1 = dataRequestSize)
    (hsends : socket.sendOutcomes = (acceptedCount sends dataRequestSize).2)
    (htriggerSize : dataTriggerSize ≤ stream.length)
    (htrigger : stream.take dataTriggerSize = dataTriggerBytes) :
    let account := exchangeRequest socket
      (makeDataAccountRequest session serverAddress) .dataAccountRequest
      loaderCharacterListSize .dataCharacterList isLoaderList
    Agrees stream
      (referenceExchange session serverAddress mapSessionKey sends stream)
      (match account.1 with
        | .error failure => some (.error failure, account.2)
        | .ok loaderList =>
            coordinateSelection env fuel account.2 mapSessionKey options
              ⟨byteAt loaderList 1⟩) := by
  intro account
  have hbindSize := makeDataBind_length session.sessionHash
  have haccountSize := makeDataAccountRequest_length session serverAddress
  have hgate : ∀ count < (makeDataAccountRequest session serverAddress).length,
      ReplyGate ((makeDataBind session.sessionHash).length + count)
        (stream.take dataTriggerSize) := by
    rw [haccountSize]
    exact replyGate_account hbindSize htrigger
  have hbegun : ∀ {sent received : ℕ},
      Exchanged socket (makeDataAccountRequest session serverAddress) sent
        received account.2 →
      Progress stream (makeDataBind session.sessionHash ++
        (makeDataAccountRequest session serverAddress).take sent)
        (dataTriggerSize + received) account.2 :=
    fun hexchanged => hprogress.exchanged hexchanged hgate
  have hspec := exchangeRequest_spec hdelivers
    (makeDataAccountRequest session serverAddress) .dataAccountRequest
    loaderCharacterListSize .dataCharacterList isLoaderList
  simp only [referenceExchange]
  rw [if_neg hbindSent.not_lt, if_neg htriggerSize.not_gt,
    if_neg (not_not_intro htrigger)]
  rw [haccountSize, hsends, hprogress.incoming, List.length_drop] at hspec
  obtain ⟨hsent, herror, hexchanged⟩ |
    ⟨hsent, hshort, herror, hexchanged⟩ |
    ⟨hsent, hreply, hrejected, herror, hexchanged⟩ |
    ⟨hsent, hreply, haccepted, hok, hexchanged⟩ := hspec
  · rw [if_pos hsent]
    simp only [account, herror]
    exact ⟨_, rfl, hbegun hexchanged⟩
  · have hlist : stream.length < loaderListEnd := by
      rw [loaderListEnd]
      omega
    have hdone := (hbegun hexchanged).consumed_all hlist
    rw [← haccountSize, List.take_length] at hdone
    rw [if_neg hsent.not_lt, if_pos hlist]
    simp only [account, herror]
    exact ⟨_, rfl, hdone⟩
  · have hlist : ¬stream.length < loaderListEnd := by
      rw [loaderListEnd]
      omega
    have hfields : byteAt stream 5 ≠ 0x03 ∨ 16 < byteAt stream 6 := by
      by_contra hgood
      rw [(isLoaderList_iff stream).mpr hgood] at hrejected
      cases hrejected
    have hdone := hbegun hexchanged
    rw [← haccountSize, List.take_length] at hdone
    rw [if_neg hsent.not_lt, if_neg hlist, if_pos hfields]
    simp only [account, herror]
    exact ⟨_, rfl, hdone⟩
  · have hlist : loaderListEnd ≤ stream.length := by
      rw [loaderListEnd]
      omega
    have hfields := (isLoaderList_iff stream).mp haccepted
    have hdone := hbegun hexchanged
    rw [← haccountSize, List.take_length] at hdone
    have hcount : byteAt ((stream.drop dataTriggerSize).take
        loaderCharacterListSize) 1 = byteAt stream 6 :=
      byteAt_take_drop stream (by decide)
    have hselection := coordinateSelection_agrees hquiet hfuel
      hexchanged.delivers hdone mapSessionKey ⟨byteAt stream 6⟩
      (replyGate_selection (by simp [hbindSize, haccountSize]; omega) hlist
        htrigger hfields)
    rw [hexchanged.sendOutcomes, haccountSize, hsends] at hselection
    rw [if_neg hsent.not_lt, if_neg hlist.not_gt, if_neg hfields]
    simp only [account, hok, hcount]
    exact hselection

theorem coordinateExchange_agrees
    {env : LobbyEnvironment} {options : LobbyOptions}
    (hquiet : Undisturbed env options) {fuel : ℕ}
    (hfuel : dataTriggerSize ≤ fuel) {stream : List UInt8} {sizes : ℕ → ℕ}
    {sends : ℕ → SendOutcome}
    (hsocket : env.socket = fragmentedSocket stream sizes sends)
    (session : SessionMaterial) (serverAddress : Ipv4Address)
    (mapSessionKey : MapSessionKey) :
    Agrees stream
      (referenceExchange session serverAddress mapSessionKey sends stream)
      (coordinateExchange env fuel session serverAddress mapSessionKey
        options) := by
  let socket := fragmentedSocket stream sizes sends
  let bind := exchangeRequest socket (makeDataBind session.sessionHash)
    .dataBind dataTriggerSize .dataTrigger (isTrigger 0x01)
  have hsize := makeDataBind_length session.sessionHash
  have hgate : ∀ count < (makeDataBind session.sessionHash).length,
      ReplyGate (([] : List UInt8).length + count) (stream.take 0) := by
    intro count hcount
    left
    exact ⟨by simpa [hsize] using hcount, rfl⟩
  have hbegun : ∀ {sent received : ℕ},
      Exchanged socket (makeDataBind session.sessionHash) sent received
        bind.2 →
      Progress stream ((makeDataBind session.sessionHash).take sent) received
        bind.2 := by
    intro sent received hexchanged
    have hdone := (fragmentedSocket_progress stream sizes sends).exchanged
      hexchanged hgate
    rwa [List.nil_append, Nat.zero_add] at hdone
  have hspec := exchangeRequest_spec
    (fragmentedSocket_delivers stream sizes sends)
    (makeDataBind session.sessionHash) .dataBind dataTriggerSize .dataTrigger
    (isTrigger 0x01)
  have hincoming : socket.incoming = stream := rfl
  have hsends : socket.sendOutcomes = sends := rfl
  change (_ ∨ _) at hspec
  rw [hsize, hincoming, hsends] at hspec
  simp only [coordinateExchange, hsocket]
  obtain ⟨hsent, herror, hexchanged⟩ |
    ⟨hsent, hshort, herror, hexchanged⟩ |
    ⟨hsent, hreply, hrejected, herror, hexchanged⟩ |
    ⟨hsent, hreply, haccepted, hok, hexchanged⟩ := hspec
  · simp only [referenceExchange, herror]
    rw [if_pos hsent]
    exact ⟨_, rfl, hbegun hexchanged⟩
  · have hdone := (hbegun hexchanged).consumed_all hshort
    rw [← hsize, List.take_length] at hdone
    simp only [referenceExchange, herror]
    rw [if_neg hsent.not_lt, if_pos hshort]
    exact ⟨_, rfl, hdone⟩
  · have htrigger : stream.take dataTriggerSize ≠ dataTriggerBytes := by
      intro hequal
      rw [(isTrigger_iff (by simp [hreply])).mpr hequal] at hrejected
      cases hrejected
    have hdone := hbegun hexchanged
    rw [← hsize, List.take_length] at hdone
    simp only [referenceExchange, herror]
    rw [if_neg hsent.not_lt, if_neg hreply.not_gt, if_pos htrigger]
    exact ⟨_, rfl, hdone⟩
  · have htrigger : stream.take dataTriggerSize = dataTriggerBytes :=
      (isTrigger_iff (by simp [hreply])).mp haccepted
    have hdone := hbegun hexchanged
    rw [← hsize, List.take_length] at hdone
    have houtcomes := hexchanged.sendOutcomes
    rw [hsize] at houtcomes
    simp only [hok]
    exact coordinateAccount_agrees hquiet hfuel session serverAddress
      mapSessionKey hexchanged.delivers hdone hsent houtcomes hreply htrigger

/-! ## What the reference says -/

/-- Every call that has to send part of one of the three messages accepts
some of it. -/
structure AllSendsSucceed (sends : ℕ → SendOutcome) : Prop where
  bind : (acceptedCount sends dataRequestSize).1 = dataRequestSize
  account : (acceptedCount (acceptedCount sends dataRequestSize).2
    dataRequestSize).1 = dataRequestSize
  selection : (acceptedCount (acceptedCount (acceptedCount sends
    dataRequestSize).2 dataRequestSize).2 dataRequestSize).1 = dataRequestSize

/-- The stream of a server that lets the client log in with `slots`
character slots. -/
def LoginStream (slots : UInt8) (stream : List UInt8) : Prop :=
  ∃ characters rest : List UInt8,
    characters.length + 2 = loaderCharacterListSize ∧ slots ≤ 16 ∧
    stream = dataTriggerBytes ++ (0x03 :: slots :: characters) ++
      selectionTriggerBytes ++ rest

theorem loginStream_iff (slots : UInt8) (stream : List UInt8) :
    LoginStream slots stream ↔
      selectionTriggerEnd ≤ stream.length ∧
      stream.take dataTriggerSize = dataTriggerBytes ∧
      ¬(byteAt stream 5 ≠ 0x03 ∨ 16 < byteAt stream 6) ∧
      (stream.drop loaderListEnd).take dataTriggerSize =
        selectionTriggerBytes ∧ byteAt stream 6 = slots := by
  constructor
  · rintro ⟨characters, rest, hlength, hslots, rfl⟩
    have hend : (dataTriggerBytes ++ (0x03 :: slots :: characters)).length =
        loaderListEnd := by
      simp [loaderListEnd, dataTriggerBytes, dataTriggerSize, ← hlength]
      omega
    refine ⟨?_, ?_, ?_, ?_, ?_⟩
    · simp only [List.length_append, hend, selectionTriggerEnd,
        selectionTriggerBytes, dataTriggerSize, List.length_cons,
        List.length_nil]
      omega
    · rfl
    · simpa [byteAt, dataTriggerBytes] using hslots
    · rw [List.append_assoc, ← hend, List.drop_left]
      rfl
    · rfl
  · rintro ⟨hlength, htrigger, hfields, hselection, rfl⟩
    rw [not_or, not_not, UInt8.not_lt] at hfields
    let tail := stream.drop dataTriggerSize
    have hsix : 6 < stream.length := by
      simp only [selectionTriggerEnd, loaderListEnd, dataTriggerSize,
        loaderCharacterListSize] at hlength
      omega
    have hfive : 5 < stream.length := by omega
    have htwo : tail.take 2 = [0x03, byteAt stream 6] := by
      have htail : tail = stream[5] :: stream[6] :: stream.drop 7 := by
        rw [← List.drop_eq_getElem_cons hsix, ← List.drop_eq_getElem_cons hfive]
        rfl
      rw [htail, ← hfields.1, byteAt_eq_getElem hfive, byteAt_eq_getElem hsix]
      rfl
    have hlist : tail.take loaderCharacterListSize =
        0x03 :: byteAt stream 6 ::
          (tail.drop 2).take (loaderCharacterListSize - 2) := by
      rw [show loaderCharacterListSize = 2 + (loaderCharacterListSize - 2)
        from rfl, List.take_add, htwo]
      rfl
    have hinitial : stream.take selectionTriggerEnd =
        dataTriggerBytes ++ tail.take loaderCharacterListSize ++
          selectionTriggerBytes := by
      rw [← htrigger, ← hselection]
      simp only [tail, ← List.take_add, loaderListEnd, selectionTriggerEnd]
    refine ⟨(tail.drop 2).take (loaderCharacterListSize - 2),
      stream.drop selectionTriggerEnd, ?_, hfields.2, ?_⟩
    · simp only [List.length_take, List.length_drop, tail]
      simp only [selectionTriggerEnd, loaderListEnd, dataTriggerSize,
        loaderCharacterListSize] at hlength ⊢
      omega
    · rw [← hlist, ← hinitial, List.take_append_drop]

theorem referenceExchange_ok_iff
    (session : SessionMaterial) (serverAddress : Ipv4Address)
    (mapSessionKey : MapSessionKey) (sends : ℕ → SendOutcome)
    (stream : List UInt8) (slots : UInt8) :
    (referenceExchange session serverAddress mapSessionKey sends
      stream).outcome = .ok ⟨slots⟩ ↔
        AllSendsSucceed sends ∧ LoginStream slots stream := by
  have hbind := acceptedCount_le sends dataRequestSize
  have haccount := acceptedCount_le (acceptedCount sends dataRequestSize).2
    dataRequestSize
  have hselection := acceptedCount_le (acceptedCount (acceptedCount sends
    dataRequestSize).2 dataRequestSize).2 dataRequestSize
  rw [loginStream_iff]
  constructor
  · let Succeeds : ReferenceExchange → Prop := fun run =>
      run.outcome = .ok ⟨slots⟩ → AllSendsSucceed sends ∧
        selectionTriggerEnd ≤ stream.length ∧
        stream.take dataTriggerSize = dataTriggerBytes ∧
        ¬(byteAt stream 5 ≠ 0x03 ∨ 16 < byteAt stream 6) ∧
        (stream.drop loaderListEnd).take dataTriggerSize =
          selectionTriggerBytes ∧ byteAt stream 6 = slots
    show Succeeds (referenceExchange session serverAddress mapSessionKey sends
      stream)
    unfold referenceExchange
    apply iteInduction
    · intro _ hfailed
      cases hfailed
    intro hbindSent
    apply iteInduction
    · intro _ hfailed
      cases hfailed
    intro _
    apply iteInduction
    · intro _ hfailed
      cases hfailed
    intro htrigger
    apply iteInduction
    · intro _ hfailed
      cases hfailed
    intro haccountSent
    apply iteInduction
    · intro _ hfailed
      cases hfailed
    intro _
    apply iteInduction
    · intro _ hfailed
      cases hfailed
    intro hfields
    apply iteInduction
    · intro _ hfailed
      cases hfailed
    intro hselectionSize
    apply iteInduction
    · intro _ hfailed
      cases hfailed
    intro hselectionTrigger
    apply iteInduction
    · intro _ hfailed
      cases hfailed
    intro hselectionSent hok
    cases hok
    refine ⟨⟨by omega, by omega, by omega⟩, by omega, ?_, hfields, ?_, rfl⟩
    · exact not_not.mp htrigger
    · exact not_not.mp hselectionTrigger
  · rintro ⟨hsends, hlength, htrigger, hfields, hselectionTrigger, rfl⟩
    have htriggerSize : ¬stream.length < dataTriggerSize := by
      simp only [selectionTriggerEnd, loaderListEnd] at hlength
      omega
    have hlist : ¬stream.length < loaderListEnd := by
      simp only [selectionTriggerEnd] at hlength
      omega
    simp only [referenceExchange]
    rw [if_neg hsends.bind.not_lt, if_neg htriggerSize,
      if_neg (not_not_intro htrigger), if_neg hsends.account.not_lt,
      if_neg hlist, if_neg hfields, if_neg hlength.not_gt,
      if_neg (not_not_intro hselectionTrigger),
      if_neg hsends.selection.not_lt]

theorem referenceExchange_consumed_le
    (session : SessionMaterial) (serverAddress : Ipv4Address)
    (mapSessionKey : MapSessionKey) (sends : ℕ → SendOutcome)
    (stream : List UInt8) :
    (referenceExchange session serverAddress mapSessionKey sends
      stream).consumed ≤ selectionTriggerEnd := by
  have hlist : loaderListEnd ≤ selectionTriggerEnd := Nat.le_add_right _ _
  have htrigger : dataTriggerSize ≤ selectionTriggerEnd :=
    le_trans (Nat.le_add_right _ _) hlist
  let Bounded : ReferenceExchange → Prop :=
    fun run => run.consumed ≤ selectionTriggerEnd
  show Bounded (referenceExchange session serverAddress mapSessionKey sends
    stream)
  unfold referenceExchange
  apply iteInduction
  · intro _
    exact Nat.zero_le _
  intro _
  apply iteInduction
  · intro hshort
    exact le_trans hshort.le htrigger
  intro _
  apply iteInduction
  · intro _
    exact htrigger
  intro _
  apply iteInduction
  · intro _
    exact htrigger
  intro _
  apply iteInduction
  · intro hshort
    exact le_trans hshort.le hlist
  intro _
  apply iteInduction
  · intro _
    exact hlist
  intro _
  apply iteInduction
  · intro hshort
    exact hshort.le
  intro _
  apply iteInduction
  · intro _
    exact le_rfl
  intro _
  apply iteInduction
  · intro _
    exact le_rfl
  · intro _
    exact le_rfl

theorem referenceExchange_written_prefix
    (session : SessionMaterial) (serverAddress : Ipv4Address)
    (mapSessionKey : MapSessionKey) (sends : ℕ → SendOutcome)
    (stream : List UInt8) :
    (referenceExchange session serverAddress mapSessionKey sends
      stream).written <+: makeDataBind session.sessionHash ++
        makeDataAccountRequest session serverAddress ++
        makeDataSelectionRequest mapSessionKey := by
  have hbegun : ∀ (before message after : List UInt8) (count : ℕ),
      before ++ message.take count <+: before ++ (message ++ after) :=
    fun before message after count => (List.prefix_append_right_inj before).mpr
      ((List.take_prefix count message).trans (List.prefix_append _ _))
  let Begins : ReferenceExchange → Prop := fun run =>
    run.written <+: makeDataBind session.sessionHash ++
      makeDataAccountRequest session serverAddress ++
      makeDataSelectionRequest mapSessionKey
  show Begins (referenceExchange session serverAddress mapSessionKey sends
    stream)
  unfold referenceExchange
  apply iteInduction
  · intro _
    simpa [Begins] using hbegun [] (makeDataBind session.sessionHash) _ _
  intro _
  apply iteInduction
  · intro _
    exact (List.prefix_append _ _).trans (List.prefix_append _ _)
  intro _
  apply iteInduction
  · intro _
    exact (List.prefix_append _ _).trans (List.prefix_append _ _)
  intro _
  apply iteInduction
  · intro _
    dsimp only [Begins]
    rw [List.append_assoc]
    exact hbegun _ _ _ _
  intro _
  apply iteInduction
  · intro _
    exact List.prefix_append _ _
  intro _
  apply iteInduction
  · intro _
    exact List.prefix_append _ _
  intro _
  apply iteInduction
  · intro _
    exact List.prefix_append _ _
  intro _
  apply iteInduction
  · intro _
    exact List.prefix_append _ _
  intro _
  apply iteInduction
  · intro _
    exact (List.prefix_append_right_inj _).mpr (List.take_prefix _ _)
  · intro _
    exact List.prefix_rfl

/-- The client computes the reference of the unfragmented stream: for every
fragmentation and every schedule of partial sends the outcome, the bytes
written and the bytes consumed are the same, a login succeeds exactly on a
login stream, nothing behind the selection trigger is consumed, and no message
is begun before the replies in front of it were received and validated. -/
theorem coordinateCharacterLoginData_eq_reference
    {env : LobbyEnvironment} {options : LobbyOptions} {host : List UInt8}
    {session : SessionMaterial} {mapSessionKey : MapSessionKey}
    {addresses : List Ipv4Address} {serverAddress : Ipv4Address}
    (hvalid : validLobbyInput host session mapSessionKey options = true)
    (hready : env.winsockReady = true)
    (hresolve : resolveIpv4 env host = .ok addresses)
    (hopen : openDataSocket env addresses options = .ok serverAddress)
    (hquiet : Undisturbed env options) {fuel : ℕ}
    (hfuel : dataTriggerSize ≤ fuel) {stream : List UInt8} {sizes : ℕ → ℕ}
    {sends : ℕ → SendOutcome}
    (hsocket : env.socket = fragmentedSocket stream sizes sends) :
    let reference := referenceExchange session serverAddress mapSessionKey
      sends stream
    (∃ socket, coordinateCharacterLoginData env fuel host session
        mapSessionKey options = some (reference.outcome, socket) ∧
      writtenBytes socket.log = reference.written ∧
      consumedBytes socket.log = stream.take reference.consumed ∧
      socket.incoming = stream.drop reference.consumed ∧
      GatedLog ReplyGate socket.log) ∧
    (∀ slots, reference.outcome = .ok ⟨slots⟩ ↔
      AllSendsSucceed sends ∧ LoginStream slots stream) ∧
    reference.consumed ≤ selectionTriggerEnd ∧
    reference.written <+: makeDataBind session.sessionHash ++
      makeDataAccountRequest session serverAddress ++
      makeDataSelectionRequest mapSessionKey := by
  intro reference
  refine ⟨?_, referenceExchange_ok_iff session serverAddress mapSessionKey
    sends stream, referenceExchange_consumed_le ..,
    referenceExchange_written_prefix ..⟩
  have hrun : coordinateCharacterLoginData env fuel host session mapSessionKey
      options = coordinateExchange env fuel session serverAddress
        mapSessionKey options := by
    simp [coordinateCharacterLoginData, hvalid, hready, hresolve, hopen]
  obtain ⟨socket, hresult, hprogress⟩ := coordinateExchange_agrees hquiet
    hfuel hsocket session serverAddress mapSessionKey
  rw [hrun]
  exact ⟨socket, hresult, hprogress.writes, hprogress.consumes,
    hprogress.incoming, hprogress.gated⟩

def oneSlotSession : SessionMaterial :=
  ⟨7, ⟨List.replicate 16 1, rfl⟩⟩

def oneSlotStream : List UInt8 :=
  dataTriggerBytes ++ (0x03 :: 1 :: List.replicate 326 0) ++
    selectionTriggerBytes ++ [0x7F]

/-- One byte at a time in both directions. -/
def oneSlotEnvironment : LobbyEnvironment where
  winsockReady := true
  getAddrInfo := fun _ => some [⟨[127, 0, 0, 1], rfl⟩]
  connects := fun _ _ => true
  receiveTimeoutSet := true
  stopRequested := fun _ => false
  clock := fun _ => 0
  socket := fragmentedSocket oneSlotStream (fun _ => 0) (fun _ => .accepted 0)

theorem allSendsSucceed_of_accepted
    {sends : ℕ → SendOutcome}
    (haccepted : ∀ call, ∃ limit, sends call = .accepted limit) :
    AllSendsSucceed sends := by
  obtain ⟨hbind, hlater⟩ := acceptedCount_of_accepted haccepted dataRequestSize
  obtain ⟨haccount, hlast⟩ := acceptedCount_of_accepted hlater dataRequestSize
  exact ⟨hbind, haccount, (acceptedCount_of_accepted hlast dataRequestSize).1⟩

theorem coordinateCharacterLoginData_oneSlot :
    ∃ socket, coordinateCharacterLoginData oneSlotEnvironment 5 [0x6C]
      oneSlotSession ⟨List.replicate 20 2, rfl⟩ {} =
        some (.ok ⟨1⟩, socket) ∧
      GatedLog ReplyGate socket.log := by
  have hquiet : Undisturbed oneSlotEnvironment {} :=
    ⟨rfl, fun _ => rfl, fun _ => by simp [oneSlotEnvironment]⟩
  obtain ⟨⟨socket, hrun, _, _, _, hgated⟩, hok, _⟩ :=
    coordinateCharacterLoginData_eq_reference
      (by decide : validLobbyInput [0x6C] oneSlotSession
        ⟨List.replicate 20 2, rfl⟩ {} = true)
      rfl rfl rfl hquiet (le_refl 5) rfl
  have hstream : LoginStream 1 oneSlotStream :=
    ⟨List.replicate 326 0, [0x7F], by rw [List.length_replicate]; rfl,
      by decide, rfl⟩
  have houtcome := (hok 1).mpr
    ⟨allSendsSucceed_of_accepted fun _ => ⟨0, rfl⟩, hstream⟩
  exact ⟨socket, by rw [hrun, houtcome], hgated⟩

end Revana.Login
