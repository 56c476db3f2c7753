import Revana.Login.TlsConnection

/-!
# Framing of the login answer

Two reassembly layers stand between the ciphertext and the answer: `recv`
splits the stream anywhere, and the peer splits the response into records.
A record layer says what a stream of records means; `referenceReceive` reads
it off the unfragmented stream, and `ReceiveJson` is shown to agree whatever
the fragmentation and whatever was left over from the handshake.
-/

namespace Revana.Login

open Foundation

/-! ## Records -/

/-- The plaintext limit of one record. -/
def maximumRecordSize : ℕ := 16 * 1024

/-- How a ciphertext stream divides into records and what they decrypt to. -/
structure RecordLayer (κ : Type) where
  overhead : ℕ
  recordSize : List UInt8 → Option ℕ
  decryptRecord : κ → List UInt8 → Option (κ × List UInt8)
  overhead_le : maximumRecordSize + overhead ≤
    maximumEncryptedSize - receiveChunkSize
  size_pos : ∀ {bytes size}, recordSize bytes = some size → 0 < size
  size_le : ∀ {bytes size}, recordSize bytes = some size →
    size ≤ bytes.length
  size_append : ∀ {bytes size}, recordSize bytes = some size →
    ∀ more, recordSize (bytes ++ more) = some size
  partial_le : ∀ {bytes}, recordSize bytes = none →
    bytes.length ≤ maximumRecordSize + overhead

variable {κ : Type}

/-- What a package reports for a decrypted record of the given size. -/
structure DecryptAnswer.Decrypts (answer : DecryptAnswer κ)
    (buffer : List UInt8) (size : ℕ) (context : κ) (data : List UInt8) :
    Prop where
  status : answer.status = .ok
  context : answer.context = context
  data : answer.data.flatten = data
  extra : answer.extra.getD 0 = buffer.length - size
  buffer_length : answer.buffer.length = buffer.length
  rest : answer.buffer.drop size = buffer.drop size

/-- The package decrypts exactly the first whole record, reports what follows
it as extra, and changes nothing without one. -/
structure SecurityPackage.Follows (package : SecurityPackage κ)
    (layer : RecordLayer κ) : Prop where
  incomplete : ∀ context buffer, layer.recordSize buffer = none →
    let answer := package.decryptMessage context buffer
    answer.status = .incompleteMessage ∧ answer.context = context ∧
      answer.buffer = buffer
  decrypted : ∀ context buffer size next data,
    layer.recordSize buffer = some size →
    layer.decryptRecord context (buffer.take size) = some (next, data) →
    (package.decryptMessage context buffer).Decrypts buffer size next data
  refused : ∀ context buffer size, layer.recordSize buffer = some size →
    layer.decryptRecord context (buffer.take size) = none →
    (package.decryptMessage context buffer).status = .failed

/-- The answer on the unfragmented stream. -/
def referenceReceive (layer : RecordLayer κ) (library : JsonLibrary)
    (context : κ) (plaintext stream : List UInt8) :
    Except AuthFailure (List UInt8) :=
  match _hsize : layer.recordSize stream with
  | none =>
      if stream = [] ∧ plaintext ≠ [] then
        .error (failure .malformedResponse)
      else .error (failure .ioFailed)
  | some size =>
      match layer.decryptRecord context (stream.take size) with
      | none => .error (failure .tlsFailed)
      | some (next, data) =>
          if maximumResponseSize < (plaintext ++ data).length then
            .error (failure .responseTooLarge)
          else if isCompleteJson library (plaintext ++ data) then
            .ok (plaintext ++ data)
          else
            referenceReceive layer library next (plaintext ++ data)
              (stream.drop size)
termination_by stream.length
decreasing_by
  have hpos := layer.size_pos _hsize
  have hle := layer.size_le _hsize
  rw [List.length_drop]
  omega

theorem RecordLayer.size_nil (layer : RecordLayer κ) :
    layer.recordSize [] = none := by
  cases hsize : layer.recordSize [] with
  | none => rfl
  | some size =>
      have hpos := layer.size_pos hsize
      have hle := layer.size_le hsize
      rw [List.length_nil] at hle
      omega

section Reference

variable {layer : RecordLayer κ} {library : JsonLibrary} {context next : κ}
  {plaintext data stream : List UInt8} {size : ℕ}

theorem referenceReceive_nil (plaintext : List UInt8) :
    referenceReceive layer library context plaintext [] =
      .error (failure
        (if plaintext = [] then .ioFailed else .malformedResponse)) := by
  unfold referenceReceive
  split
  · by_cases hplaintext : plaintext = []
    · simp [hplaintext]
    · simp [hplaintext]
  · rename_i size hsize
    rw [layer.size_nil] at hsize
    cases hsize

theorem referenceReceive_partial
    (hstream : stream ≠ []) (hsize : layer.recordSize stream = none) :
    referenceReceive layer library context plaintext stream =
      .error (failure .ioFailed) := by
  unfold referenceReceive
  split
  · simp [hstream]
  · rename_i size hother
    rw [hsize] at hother
    cases hother

theorem referenceReceive_refused
    (hsize : layer.recordSize stream = some size)
    (hrecord : layer.decryptRecord context (stream.take size) = none) :
    referenceReceive layer library context plaintext stream =
      .error (failure .tlsFailed) := by
  unfold referenceReceive
  split
  · rename_i hother
    rw [hsize] at hother
    cases hother
  · rename_i other hother
    rw [hsize] at hother
    cases hother
    rw [hrecord]

theorem referenceReceive_record
    (hsize : layer.recordSize stream = some size)
    (hrecord : layer.decryptRecord context (stream.take size) =
      some (next, data)) :
    referenceReceive layer library context plaintext stream =
      if maximumResponseSize < (plaintext ++ data).length then
        .error (failure .responseTooLarge)
      else if isCompleteJson library (plaintext ++ data) then
        .ok (plaintext ++ data)
      else
        referenceReceive layer library next (plaintext ++ data)
          (stream.drop size) := by
  rw [referenceReceive]
  split
  · rename_i hother
    rw [hsize] at hother
    cases hother
  · rename_i other hother
    rw [hsize] at hother
    cases hother
    rw [hrecord]

end Reference

/-! ## No byte is lost -/

/-- The connection has moved on: every byte of its buffer and its stream was
processed once, in order, or is still there; and the buffer stays within its
limit. -/
structure Progressed (connection : TlsConnection κ) (encrypted : List UInt8)
    (next : TlsConnection κ) (rest : List UInt8) : Prop where
  delivers : connection.socket.Delivers → next.socket.Delivers
  processed : ∃ pieces, next.processed = connection.processed ++ pieces ∧
    pieces.flatten ++ rest ++ next.socket.incoming =
      encrypted ++ connection.socket.incoming
  bounded : connection.largestBuffer ≤ maximumEncryptedSize →
    encrypted.length ≤ maximumEncryptedSize →
    next.largestBuffer ≤ maximumEncryptedSize ∧
      rest.length ≤ maximumEncryptedSize

theorem Progressed.refl (connection : TlsConnection κ)
    (encrypted : List UInt8) :
    Progressed connection encrypted connection encrypted :=
  ⟨id, ⟨[], by simp, by simp⟩, fun hlargest hlength => ⟨hlargest, hlength⟩⟩

theorem Progressed.trans
    {first middle last : TlsConnection κ} {before between after : List UInt8}
    (hbefore : Progressed first before middle between)
    (hafter : Progressed middle between last after) :
    Progressed first before last after := by
  obtain ⟨pieces, hpieces, hstream⟩ := hbefore.processed
  obtain ⟨more, hmore, hrest⟩ := hafter.processed
  constructor
  · exact hafter.delivers ∘ hbefore.delivers
  · refine ⟨pieces ++ more, ?_, ?_⟩
    · rw [hmore, hpieces, List.append_assoc]
    · rw [List.flatten_append, List.append_assoc, List.append_assoc,
        ← List.append_assoc more.flatten, hrest, ← List.append_assoc, hstream]
  · intro hlargest hlength
    obtain ⟨hmiddle, hbetween⟩ := hbefore.bounded hlargest hlength
    exact hafter.bounded hmiddle hbetween

theorem preserveExtra_eq (encrypted : List UInt8) (extra : Option ℕ) :
    preserveExtra encrypted extra =
      encrypted.drop (encrypted.length - extra.getD 0) := by
  unfold preserveExtra
  split
  · simp
  · simp
  · rfl

theorem progressed_consume
    (connection : TlsConnection κ) (encrypted : List UInt8)
    (extra : Option ℕ) :
    Progressed connection encrypted (connection.consume encrypted extra)
      (preserveExtra encrypted extra) := by
  rw [preserveExtra_eq]
  constructor
  · exact id
  · refine ⟨[encrypted.take (encrypted.length - extra.getD 0)], rfl, ?_⟩
    rw [List.flatten_singleton, List.take_append_drop]
    rfl
  · intro hlargest hlength
    refine ⟨hlargest, le_trans ?_ hlength⟩
    rw [List.length_drop]
    exact Nat.sub_le _ _

theorem progressed_holding
    (connection : TlsConnection κ) (encrypted : List UInt8) :
    Progressed connection encrypted (connection.holding encrypted)
      encrypted := by
  refine ⟨id, ⟨[], by simp [TlsConnection.holding], rfl⟩, ?_⟩
  intro hlargest hlength
  exact ⟨max_le hlargest hlength, hlength⟩

/-- A change of the connection that touches neither stream nor records. -/
theorem Progressed.of_eq
    {connection next : TlsConnection κ} (encrypted : List UInt8)
    (hdelivers : connection.socket.Delivers → next.socket.Delivers)
    (hincoming : next.socket.incoming = connection.socket.incoming)
    (hprocessed : next.processed = connection.processed)
    (hlargest : next.largestBuffer = connection.largestBuffer) :
    Progressed connection encrypted next encrypted := by
  refine ⟨hdelivers, ⟨[], by simp [hprocessed], by simp [hincoming]⟩, ?_⟩
  intro hbound hlength
  exact ⟨hlargest ▸ hbound, hlength⟩

theorem progressed_receive
    {connection next : TlsConnection κ} {encrypted : List UInt8}
    {result : Option (List UInt8)}
    (hreceive : connection.receive encrypted = (result, next)) :
    Progressed connection encrypted next (result.getD encrypted) := by
  have hconserves := connection.socket.recv_conserves receiveChunkSize
  have hdelivers : connection.socket.Delivers →
      (connection.socket.recv receiveChunkSize).2.Delivers := fun hsocket =>
    StreamSocket.recv_delivers hsocket receiveChunkSize
  unfold TlsConnection.receive at hreceive
  split at hreceive
  · cases hreceive
    exact Progressed.refl connection encrypted
  rename_i hroom
  split at hreceive
  · rename_i socket hrecv
    rw [hrecv] at hconserves hdelivers
    cases hreceive
    exact Progressed.of_eq encrypted hdelivers (by simpa using hconserves.2)
      rfl rfl
  · rename_i byte rest socket hrecv
    rw [hrecv] at hconserves hdelivers
    obtain ⟨hlimit, hincoming⟩ := hconserves
    cases hreceive
    constructor
    · exact hdelivers
    · refine ⟨[], by simp, ?_⟩
      simpa using hincoming
    · intro hlargest hlength
      refine ⟨hlargest, ?_⟩
      simp only [Option.getD_some, List.length_append]
      simp only [receiveChunkSize, maximumEncryptedSize] at hroom hlimit ⊢
      omega
  · rename_i socket hrecv
    rw [hrecv] at hconserves hdelivers
    cases hreceive
    exact Progressed.of_eq encrypted hdelivers hconserves rfl rfl
  · rename_i socket hrecv
    rw [hrecv] at hconserves hdelivers
    cases hreceive
    exact Progressed.of_eq encrypted hdelivers hconserves rfl rfl
  · rename_i socket hrecv
    rw [hrecv] at hconserves hdelivers
    cases hreceive
    exact Progressed.of_eq encrypted hdelivers hconserves rfl rfl

theorem progressed_receiveIfEmpty
    {connection next : TlsConnection κ} {encrypted : List UInt8}
    {result : Option (List UInt8)}
    (hreceive : connection.receiveIfEmpty encrypted = (result, next)) :
    Progressed connection encrypted next (result.getD encrypted) := by
  unfold TlsConnection.receiveIfEmpty at hreceive
  split at hreceive
  · exact progressed_receive hreceive
  · cases hreceive
    exact Progressed.refl connection encrypted

theorem progressed_completeAndSend
    {package : SecurityPackage κ} {answer : InitializeAnswer κ}
    {connection next : TlsConnection κ} {sent : Bool}
    (hsend : completeAndSend package answer connection = (sent, next))
    (encrypted : List UInt8) :
    Progressed connection encrypted next encrypted := by
  unfold completeAndSend at hsend
  dsimp only at hsend
  split at hsend
  · cases hsend
    exact Progressed.of_eq encrypted id rfl rfl rfl
  · split at hsend
    · cases hsend
      exact Progressed.of_eq encrypted id rfl rfl rfl
    · rename_i token htoken
      have htransmit := connection.socket.transmit_spec token
      cases hsend
      have hdelivers : connection.socket.Delivers →
          (connection.socket.transmit token).2.Delivers := by
        intro hsocket call
        rw [htransmit.recvOutcomes]
        exact hsocket call
      exact Progressed.of_eq encrypted hdelivers htransmit.incoming rfl rfl

/-- What the handshake leaves pending and unread is what it has not processed,
whatever the package answers. -/
theorem continueHandshake_progressed
    {package : SecurityPackage κ} {fuel : ℕ}
    {connection next : TlsConnection κ} {encrypted : List UInt8}
    (hhandshake : continueHandshake package fuel connection encrypted =
      some (true, next)) :
    Progressed connection encrypted next next.pendingEncrypted := by
  induction fuel generalizing connection encrypted with
  | zero => cases hhandshake
  | succ fuel ih =>
      unfold continueHandshake at hhandshake
      split at hhandshake
      · cases hhandshake
      rename_i buffer filled hfill
      have hfilled := progressed_receiveIfEmpty hfill
      have hheld := hfilled.trans (progressed_holding filled buffer)
      dsimp only at hhandshake
      split at hhandshake
      · cases hhandshake
      rename_i sent hsend
      have hsent := hheld.trans (progressed_completeAndSend hsend buffer)
      split at hhandshake
      · split at hhandshake
        · cases hhandshake
        · rename_i more received hreceive
          have hreceived := hsent.trans (progressed_receive hreceive)
          exact hreceived.trans (ih hhandshake)
      · have hconsumed := hsent.trans (progressed_consume sent buffer
          (package.initializeSecurityContext
            (filled.holding buffer).context buffer).extra)
        split at hhandshake
        · split at hhandshake
          · cases hhandshake
          · cases hhandshake
            exact hconsumed.trans (Progressed.of_eq _ id rfl rfl rfl)
        · exact hconsumed.trans (ih hhandshake)
        · cases hhandshake

/-! ## Receiving with any fragmentation -/

/-- What a `Receive` with room in the buffer can do while the stream
delivers. -/
theorem receive_of_delivers
    {connection : TlsConnection κ} {encrypted : List UInt8}
    (hdelivers : connection.socket.Delivers)
    (hroom : encrypted.length ≤ maximumEncryptedSize - receiveChunkSize) :
    (connection.socket.incoming = [] ∧ ∃ next,
      connection.receive encrypted = (none, next)) ∨
    ∃ more socket, more ≠ [] ∧
      more ++ socket.incoming = connection.socket.incoming ∧
      socket.Delivers ∧
      connection.receive encrypted =
        (some (encrypted ++ more), { connection with socket := socket }) := by
  obtain ⟨count, socket, hpos, hlimit, hrecv, hincoming, hdelivers', -, -⟩ :=
    StreamSocket.recv_of_delivers hdelivers
      (by decide : 0 < receiveChunkSize)
  unfold TlsConnection.receive
  rw [if_neg (by omega), hrecv]
  cases hmore : connection.socket.incoming.take count with
  | nil =>
      refine Or.inl ⟨?_, _, rfl⟩
      rw [List.take_eq_nil_iff] at hmore
      exact hmore.resolve_left (by omega)
  | cons byte rest =>
      refine Or.inr ⟨byte :: rest, socket, by simp, ?_, hdelivers', rfl⟩
      rw [hincoming, ← hmore]
      exact List.take_append_drop _ _

theorem receiveIfEmpty_of_delivers
    {connection : TlsConnection κ} (encrypted : List UInt8)
    (hdelivers : connection.socket.Delivers) :
    (encrypted = [] ∧ connection.socket.incoming = [] ∧ ∃ next,
      connection.receiveIfEmpty encrypted = (none, next)) ∨
    ∃ buffer socket, buffer ≠ [] ∧
      buffer ++ socket.incoming =
        encrypted ++ connection.socket.incoming ∧
      encrypted.length ≤ buffer.length ∧ socket.Delivers ∧
      connection.receiveIfEmpty encrypted =
        (some buffer, { connection with socket := socket }) := by
  unfold TlsConnection.receiveIfEmpty
  by_cases hempty : encrypted = []
  · rw [if_pos hempty]
    rcases receive_of_delivers hdelivers
      (by simp [hempty] : encrypted.length ≤
        maximumEncryptedSize - receiveChunkSize) with
      ⟨hended, next, hnext⟩ | ⟨more, socket, hmore, hstream, hnext, hreceive⟩
    · exact Or.inl ⟨hempty, hended, next, hnext⟩
    · refine Or.inr ⟨encrypted ++ more, socket, ?_, ?_, ?_, hnext, hreceive⟩
      · simp [hmore]
      · rw [List.append_assoc, hstream]
      · simp
  · rw [if_neg hempty]
    exact Or.inr ⟨encrypted, connection.socket, hempty, rfl, le_rfl,
      hdelivers, rfl⟩

section Loop

variable {package : SecurityPackage κ} {layer : RecordLayer κ}
  {library : JsonLibrary}

/-- The loop ends with the answer on the unfragmented stream. -/
def LoopAgrees (package : SecurityPackage κ) (layer : RecordLayer κ)
    (library : JsonLibrary) (fuel : ℕ) (connection : TlsConnection κ)
    (encrypted plaintext : List UInt8) : Prop :=
  ∃ reception,
    receiveJsonLoop package library fuel connection encrypted plaintext =
      some reception ∧
    reception.result = referenceReceive layer library connection.context
      plaintext (encrypted ++ connection.socket.incoming) ∧
    Progressed connection encrypted reception.connection
      reception.unprocessed

/-- The work a loop can still do: every byte is received, then processed. -/
def remainingWork (connection : TlsConnection κ) (encrypted : List UInt8) :
    ℕ :=
  encrypted.length + 2 * connection.socket.incoming.length

theorem DecryptAnswer.Decrypts.preserveExtra
    {answer : DecryptAnswer κ} {buffer : List UInt8} {size : ℕ} {context : κ}
    {data : List UInt8} (hanswer : answer.Decrypts buffer size context data)
    (hsize : size ≤ buffer.length) :
    Login.preserveExtra answer.buffer answer.extra = buffer.drop size ∧
      Login.preserveExtra buffer answer.extra = buffer.drop size := by
  have hkept : buffer.length - (buffer.length - size) = size := by omega
  rw [preserveExtra_eq, preserveExtra_eq, hanswer.extra,
    hanswer.buffer_length, hkept, hanswer.rest]
  exact ⟨rfl, rfl⟩

/-! ## One iteration on a buffer that is not empty -/

theorem loop_incomplete
    (hpackage : package.Follows layer) {connection : TlsConnection κ}
    {buffer plaintext : List UInt8} (fuel : ℕ) (hbuffer : buffer ≠ [])
    (hplaintext : plaintext.length ≤ maximumResponseSize)
    (hsize : layer.recordSize buffer = none) :
    receiveJsonLoop package library (fuel + 1) connection buffer plaintext =
      match (connection.holding buffer).receive buffer with
      | (none, next) => some ⟨.error (failure .ioFailed), buffer, next⟩
      | (some encrypted, next) =>
          receiveJsonLoop package library fuel next encrypted plaintext := by
  have hfill : connection.receiveIfEmpty buffer =
      (some buffer, connection) := if_neg hbuffer
  obtain ⟨hstatus, hcontext, hsame⟩ :=
    hpackage.incomplete connection.context buffer hsize
  rw [receiveJsonLoop, if_neg (by omega), hfill]
  simp only [hstatus, hcontext, hsame]
  rfl

theorem loop_refused
    (hpackage : package.Follows layer) {connection : TlsConnection κ}
    {buffer plaintext : List UInt8} {size : ℕ} (fuel : ℕ)
    (hbuffer : buffer ≠ [])
    (hplaintext : plaintext.length ≤ maximumResponseSize)
    (hsize : layer.recordSize buffer = some size)
    (hrecord : layer.decryptRecord connection.context (buffer.take size) =
      none) :
    receiveJsonLoop package library (fuel + 1) connection buffer plaintext =
      some ⟨.error (failure .tlsFailed), buffer,
        { connection.holding buffer with
          context := (package.decryptMessage connection.context
            buffer).context }⟩ := by
  have hfill : connection.receiveIfEmpty buffer =
      (some buffer, connection) := if_neg hbuffer
  have hstatus := hpackage.refused connection.context buffer size hsize hrecord
  rw [receiveJsonLoop, if_neg (by omega), hfill]
  simp only [hstatus]

/-- The connection after a record of the buffer was decrypted. -/
def afterRecord (package : SecurityPackage κ) (connection : TlsConnection κ)
    (buffer : List UInt8) (context : κ) : TlsConnection κ :=
  { connection.holding buffer with context := context }.consume buffer
    (package.decryptMessage connection.context buffer).extra

theorem loop_decrypted
    (hpackage : package.Follows layer) {connection : TlsConnection κ}
    {buffer plaintext data : List UInt8} {size : ℕ} {next : κ} (fuel : ℕ)
    (hbuffer : buffer ≠ [])
    (hplaintext : plaintext.length ≤ maximumResponseSize)
    (hsize : layer.recordSize buffer = some size)
    (hrecord : layer.decryptRecord connection.context (buffer.take size) =
      some (next, data)) :
    receiveJsonLoop package library (fuel + 1) connection buffer plaintext =
      if maximumResponseSize < (plaintext ++ data).length then
        some ⟨.error (failure .responseTooLarge), buffer.drop size,
          afterRecord package connection buffer next⟩
      else if isCompleteJson library (plaintext ++ data) then
        some ⟨.ok (plaintext ++ data), buffer.drop size,
          afterRecord package connection buffer next⟩
      else
        receiveJsonLoop package library fuel
          (afterRecord package connection buffer next) (buffer.drop size)
          (plaintext ++ data) := by
  have hfill : connection.receiveIfEmpty buffer =
      (some buffer, connection) := if_neg hbuffer
  have hanswer := hpackage.decrypted connection.context buffer size next data
    hsize hrecord
  have hextra := (hanswer.preserveExtra (layer.size_le hsize)).1
  rw [receiveJsonLoop, if_neg (by omega), hfill]
  simp only [hanswer.status, hanswer.data, hanswer.context, hextra,
    afterRecord]

theorem progressed_afterRecord
    (hpackage : package.Follows layer) {connection : TlsConnection κ}
    {buffer data : List UInt8} {size : ℕ} {next : κ}
    (hsize : layer.recordSize buffer = some size)
    (hrecord : layer.decryptRecord connection.context (buffer.take size) =
      some (next, data)) :
    Progressed connection buffer (afterRecord package connection buffer next)
      (buffer.drop size) := by
  have hanswer := hpackage.decrypted connection.context buffer size next data
    hsize hrecord
  have hheld : Progressed connection buffer
      { connection.holding buffer with context := next } buffer :=
    (progressed_holding connection buffer).trans
      (Progressed.of_eq buffer id rfl rfl rfl)
  have hconsumed := hheld.trans (progressed_consume _ buffer
    (package.decryptMessage connection.context buffer).extra)
  rw [(hanswer.preserveExtra (layer.size_le hsize)).2] at hconsumed
  exact hconsumed

/-- With less work to do, the loop ends with the answer on the stream. -/
def LoopAgreesBelow (package : SecurityPackage κ) (layer : RecordLayer κ)
    (library : JsonLibrary) (fuel work : ℕ) : Prop :=
  ∀ (next : TlsConnection κ) (encrypted plaintext : List UInt8),
    next.socket.Delivers → plaintext.length ≤ maximumResponseSize →
    remainingWork next encrypted < work →
    LoopAgrees package layer library fuel next encrypted plaintext

theorem loopAgrees_incomplete
    (hpackage : package.Follows layer) {fuel : ℕ}
    {connection : TlsConnection κ} {buffer plaintext : List UInt8}
    (hdelivers : connection.socket.Delivers) (hbuffer : buffer ≠ [])
    (hplaintext : plaintext.length ≤ maximumResponseSize)
    (hsize : layer.recordSize buffer = none)
    (hbelow : LoopAgreesBelow package layer library fuel
      (remainingWork connection buffer)) :
    LoopAgrees package layer library (fuel + 1) connection buffer
      plaintext := by
  have hheld := progressed_holding connection buffer
  unfold LoopAgrees
  rw [loop_incomplete hpackage fuel hbuffer hplaintext hsize]
  have hroom : buffer.length ≤ maximumEncryptedSize - receiveChunkSize :=
    (layer.partial_le hsize).trans layer.overhead_le
  have hholding : (connection.holding buffer).socket.Delivers := hdelivers
  rcases receive_of_delivers hholding hroom with
    ⟨hended, next, hreceive⟩ |
    ⟨more, socket, hmore, hstream, hnext, hreceive⟩
  · have hincoming : connection.socket.incoming = [] := hended
    refine ⟨_, by rw [hreceive], ?_, ?_⟩
    · rw [hincoming, List.append_nil,
        referenceReceive_partial hbuffer hsize]
    · exact hheld.trans (progressed_receive hreceive)
  · have hreceived := hheld.trans (progressed_receive hreceive)
    have hincoming : more ++ socket.incoming =
        connection.socket.incoming := hstream
    have hless : remainingWork { connection.holding buffer with socket }
        (buffer ++ more) < remainingWork connection buffer := by
      have hlength := congrArg List.length hincoming
      have hpos := List.length_pos_iff.mpr hmore
      simp only [remainingWork, List.length_append] at hlength ⊢
      omega
    rw [hreceive]
    obtain ⟨reception, hloop, hresult, hprogress⟩ :=
      hbelow { connection.holding buffer with socket } (buffer ++ more)
        plaintext hnext hplaintext hless
    refine ⟨reception, hloop, ?_, hreceived.trans hprogress⟩
    rw [hresult, List.append_assoc, hincoming]
    rfl

theorem loopAgrees_record
    (hpackage : package.Follows layer) {fuel size : ℕ}
    {connection : TlsConnection κ} {buffer plaintext : List UInt8}
    (hdelivers : connection.socket.Delivers) (hbuffer : buffer ≠ [])
    (hplaintext : plaintext.length ≤ maximumResponseSize)
    (hsize : layer.recordSize buffer = some size)
    (hbelow : LoopAgreesBelow package layer library fuel
      (remainingWork connection buffer)) :
    LoopAgrees package layer library (fuel + 1) connection buffer
      plaintext := by
  have hpos := layer.size_pos hsize
  have hle := layer.size_le hsize
  have hstream := layer.size_append hsize connection.socket.incoming
  have htake : (buffer ++ connection.socket.incoming).take size =
      buffer.take size := List.take_append_of_le_length hle
  have hdrop : (buffer ++ connection.socket.incoming).drop size =
      buffer.drop size ++ connection.socket.incoming :=
    List.drop_append_of_le_length hle
  unfold LoopAgrees
  cases hrecord : layer.decryptRecord connection.context (buffer.take size) with
  | none =>
      rw [loop_refused hpackage fuel hbuffer hplaintext hsize hrecord]
      refine ⟨_, rfl, ?_, ?_⟩
      · rw [referenceReceive_refused hstream (by rw [htake, hrecord])]
      · exact (progressed_holding connection buffer).trans
          (Progressed.of_eq buffer id rfl rfl rfl)
  | some decrypted =>
      obtain ⟨next, data⟩ := decrypted
      have hprogress := progressed_afterRecord hpackage hsize hrecord
      rw [loop_decrypted hpackage fuel hbuffer hplaintext hsize hrecord,
        referenceReceive_record hstream (by rw [htake, hrecord])]
      by_cases hlarge : maximumResponseSize < (plaintext ++ data).length
      · rw [if_pos hlarge, if_pos hlarge]
        exact ⟨_, rfl, rfl, hprogress⟩
      rw [if_neg hlarge, if_neg hlarge]
      by_cases hcomplete : isCompleteJson library (plaintext ++ data) = true
      · rw [if_pos hcomplete, if_pos hcomplete]
        exact ⟨_, rfl, rfl, hprogress⟩
      rw [if_neg hcomplete, if_neg hcomplete, hdrop]
      have hless : remainingWork (afterRecord package connection buffer next)
          (buffer.drop size) < remainingWork connection buffer := by
        have hincoming : (afterRecord package connection buffer
          next).socket = connection.socket := rfl
        simp only [remainingWork, hincoming, List.length_drop]
        omega
      obtain ⟨reception, hloop, hresult, hrest⟩ :=
        hbelow (afterRecord package connection buffer next)
          (buffer.drop size) (plaintext ++ data) hdelivers (by omega) hless
      exact ⟨reception, hloop, hresult, hprogress.trans hrest⟩

theorem loopAgrees_step
    (hpackage : package.Follows layer) {fuel : ℕ}
    {connection : TlsConnection κ} {buffer plaintext : List UInt8}
    (hdelivers : connection.socket.Delivers) (hbuffer : buffer ≠ [])
    (hplaintext : plaintext.length ≤ maximumResponseSize)
    (hbelow : LoopAgreesBelow package layer library fuel
      (remainingWork connection buffer)) :
    LoopAgrees package layer library (fuel + 1) connection buffer
      plaintext := by
  cases hsize : layer.recordSize buffer with
  | none =>
      exact loopAgrees_incomplete hpackage hdelivers hbuffer hplaintext hsize
        hbelow
  | some size =>
      exact loopAgrees_record hpackage hdelivers hbuffer hplaintext hsize
        hbelow

theorem loop_filled
    {connection filled : TlsConnection κ}
    {encrypted buffer plaintext : List UInt8} (fuel : ℕ)
    (hbuffer : buffer ≠ [])
    (hplaintext : plaintext.length ≤ maximumResponseSize)
    (hfill : connection.receiveIfEmpty encrypted = (some buffer, filled)) :
    receiveJsonLoop package library (fuel + 1) connection encrypted plaintext =
      receiveJsonLoop package library (fuel + 1) filled buffer plaintext := by
  have hkept : filled.receiveIfEmpty buffer = (some buffer, filled) :=
    if_neg hbuffer
  have hsmall : ¬maximumResponseSize < plaintext.length := by omega
  rw [receiveJsonLoop, if_neg hsmall, hfill, receiveJsonLoop, if_neg hsmall,
    hkept]

/-- By induction on the fuel: every iteration that goes on has received or
processed a byte. -/
theorem loopAgrees
    (library : JsonLibrary) (hpackage : package.Follows layer) {fuel : ℕ}
    {connection : TlsConnection κ} {encrypted plaintext : List UInt8}
    (hdelivers : connection.socket.Delivers)
    (hplaintext : plaintext.length ≤ maximumResponseSize)
    (hfuel : remainingWork connection encrypted < fuel) :
    LoopAgrees package layer library fuel connection encrypted plaintext := by
  induction fuel generalizing connection encrypted plaintext with
  | zero => omega
  | succ fuel ih =>
      rcases receiveIfEmpty_of_delivers encrypted hdelivers with
        ⟨hempty, hended, next, hfill⟩ |
        ⟨buffer, socket, hbuffer, hstream, hlength, hnext, hfill⟩
      · have hfailed := progressed_receiveIfEmpty hfill
        let error : AuthError :=
          if plaintext = [] then .ioFailed else .malformedResponse
        refine ⟨⟨.error (failure error), encrypted, next⟩, ?_, ?_, hfailed⟩
        · rw [receiveJsonLoop, if_neg (by omega), hfill]
        · rw [hempty, hended, List.append_nil, referenceReceive_nil]
      · have hfilled := progressed_receiveIfEmpty hfill
        have hwork : remainingWork { connection with socket := socket } buffer ≤
            remainingWork connection encrypted := by
          have hbytes := congrArg List.length hstream
          simp only [remainingWork, List.length_append] at hbytes ⊢
          omega
        obtain ⟨reception, hloop, hresult, hprogress⟩ :
            LoopAgrees package layer library (fuel + 1)
              { connection with socket := socket } buffer plaintext := by
          apply loopAgrees_step hpackage hnext hbuffer hplaintext
          intro next rest received hdeliversNext hreceived hless
          exact ih hdeliversNext hreceived (by omega)
        refine ⟨reception, ?_, ?_, hfilled.trans hprogress⟩
        · rw [loop_filled fuel hbuffer hplaintext hfill, hloop]
        · rw [hresult, hstream]

end Loop

/-! ## Responses and their records -/

/-- The stream begins with records that decrypt to these pieces. -/
inductive Carries (layer : RecordLayer κ) :
    κ → List UInt8 → List (List UInt8) → Prop where
  | nil (context : κ) (stream : List UInt8) : Carries layer context stream []
  | cons {context next : κ} {stream piece : List UInt8} {size : ℕ}
      {pieces : List (List UInt8)}
      (hsize : layer.recordSize stream = some size)
      (hrecord : layer.decryptRecord context (stream.take size) =
        some (next, piece))
      (hrest : Carries layer next (stream.drop size) pieces) :
      Carries layer context stream (piece :: pieces)

section Responses

variable {layer : RecordLayer κ} {library : JsonLibrary}

/-- The reception stops at some complete prefix of an object text, and that
prefix decodes like the whole text. -/
theorem referenceReceive_object
    (hlibrary : library.Conforms) {context : κ} {stream : List UInt8}
    {pieces : List (List UInt8)} (hcarries : Carries layer context stream pieces)
    (plaintext : List UInt8)
    (hobject : Json.IsObjectText (plaintext ++ pieces.flatten))
    (hlength : (plaintext ++ pieces.flatten).length ≤ maximumResponseSize)
    (hincomplete : isCompleteJson library plaintext = false) :
    ∃ text, referenceReceive layer library context plaintext stream =
        .ok text ∧
      decodeLoginResponse library text =
        decodeLoginResponse library (plaintext ++ pieces.flatten) := by
  induction hcarries generalizing plaintext with
  | nil context stream =>
      obtain ⟨members, hmembers⟩ := hobject
      have haccepted : isCompleteJson library plaintext = true := by
        apply (hlibrary.accept_iff plaintext).mpr
        exact ⟨_, by simpa using hmembers⟩
      rw [hincomplete] at haccepted
      cases haccepted
  | @cons context next stream piece size pieces hsize hrecord hrest ih =>
      rw [List.flatten_cons, ← List.append_assoc] at hobject hlength ⊢
      rw [referenceReceive_record hsize hrecord]
      have hshort : (plaintext ++ piece).length ≤ maximumResponseSize := by
        rw [List.length_append] at hlength
        omega
      rw [if_neg (by omega)]
      cases hcomplete : isCompleteJson library (plaintext ++ piece) with
      | true =>
          rw [if_pos rfl]
          exact ⟨plaintext ++ piece, rfl,
            decodeLoginResponse_prefix hlibrary hobject hcomplete⟩
      | false =>
          rw [if_neg (by simp)]
          exact ih (plaintext ++ piece) hobject hlength hcomplete

/-- What is incomplete at every record boundary within the limit and goes
beyond it is too large. -/
theorem referenceReceive_tooLarge
    {context : κ} {stream : List UInt8} {pieces : List (List UInt8)}
    (hcarries : Carries layer context stream pieces)
    (plaintext : List UInt8)
    (hlimit : plaintext.length ≤ maximumResponseSize)
    (hlarge : maximumResponseSize < (plaintext ++ pieces.flatten).length)
    (hincomplete : ∀ count,
      (plaintext ++ (pieces.take count).flatten).length ≤
        maximumResponseSize →
      isCompleteJson library (plaintext ++ (pieces.take count).flatten) =
        false) :
    referenceReceive layer library context plaintext stream =
      .error (failure .responseTooLarge) := by
  induction hcarries generalizing plaintext with
  | nil context stream =>
      rw [List.flatten_nil, List.append_nil] at hlarge
      omega
  | @cons context next stream piece size pieces hsize hrecord hrest ih =>
      rw [referenceReceive_record hsize hrecord]
      by_cases hpiece : maximumResponseSize < (plaintext ++ piece).length
      · rw [if_pos hpiece]
      · have hfirst := hincomplete 1
        simp only [List.take_succ_cons, List.take_zero, List.flatten_cons,
          List.flatten_nil, List.append_nil] at hfirst
        rw [if_neg hpiece, hfirst (by omega), if_neg (by simp)]
        apply ih (plaintext ++ piece) (by omega)
        · rw [List.flatten_cons, ← List.append_assoc] at hlarge
          exact hlarge
        · intro count hcount
          have hnext := hincomplete (count + 1)
          rw [List.take_succ_cons, List.flatten_cons,
            ← List.append_assoc] at hnext
          exact hnext hcount

end Responses

/-! ## The login answer -/

/-- All ciphertext `ReceiveJson` can still get hold of. -/
def TlsConnection.ciphertext (connection : TlsConnection κ) : List UInt8 :=
  connection.pendingEncrypted ++ connection.socket.incoming

/-- Once it has the fuel for every byte, `ReceiveJson` ends with this result
and accounts for the ciphertext. -/
def ReceivesJson (package : SecurityPackage κ) (library : JsonLibrary)
    (connection : TlsConnection κ)
    (result : Except AuthFailure (List UInt8)) : Prop :=
  ∀ fuel, remainingWork connection connection.pendingEncrypted < fuel →
    ∃ reception, receiveJson package library fuel connection =
        some reception ∧
      reception.result = result ∧
      Progressed connection connection.pendingEncrypted reception.connection
        reception.unprocessed

section Answer

variable {package : SecurityPackage κ} {layer : RecordLayer κ}
  {library : JsonLibrary}

theorem receivesJson_reference
    (library : JsonLibrary) (hpackage : package.Follows layer) {connection : TlsConnection κ}
    (hdelivers : connection.socket.Delivers) :
    ReceivesJson package library connection
      (referenceReceive layer library connection.context []
        connection.ciphertext) := by
  intro fuel hfuel
  have hmoved : Progressed connection connection.pendingEncrypted
      { connection with pendingEncrypted := [] }
      connection.pendingEncrypted := Progressed.of_eq _ id rfl rfl rfl
  have hstart : ({ connection with
      pendingEncrypted := [] } : TlsConnection κ).socket.Delivers := hdelivers
  have hempty : ([] : List UInt8).length ≤ maximumResponseSize :=
    Nat.zero_le _
  obtain ⟨reception, hloop, hresult, hprogress⟩ :=
    loopAgrees library hpackage hstart hempty hfuel
  exact ⟨reception, hloop, hresult, hmoved.trans hprogress⟩

theorem isCompleteJson_nil (hlibrary : library.Conforms) :
    isCompleteJson library [] = false := by
  rw [← Bool.not_eq_true]
  intro haccepted
  obtain ⟨document, hdocument⟩ := (hlibrary.accept_iff []).mp haccepted
  cases hdocument

/-- The answer is a function of the ciphertext: not of its fragmentation, not
of what the handshake left over, and for an object text not of its records. -/
theorem login_answer_framing
    (hpackage : package.Follows layer) (hlibrary : library.Conforms) :
    (∀ left right : TlsConnection κ, left.socket.Delivers →
      right.socket.Delivers → left.context = right.context →
      left.ciphertext = right.ciphertext →
      ∃ result, ReceivesJson package library left result ∧
        ReceivesJson package library right result) ∧
    (∀ fuel, ∀ connection next : TlsConnection κ,
      continueHandshake package fuel connection [] = some (true, next) →
      Progressed connection [] next next.pendingEncrypted) ∧
    (∀ (connection : TlsConnection κ) (pieces : List (List UInt8)),
      connection.socket.Delivers →
      Carries layer connection.context connection.ciphertext pieces →
      Json.IsObjectText pieces.flatten →
      pieces.flatten.length ≤ maximumResponseSize →
      ∃ text, ReceivesJson package library connection (.ok text) ∧
        decodeLoginResponse library text =
          decodeLoginResponse library pieces.flatten) ∧
    (∀ (connection : TlsConnection κ) (pieces : List (List UInt8)),
      connection.socket.Delivers →
      Carries layer connection.context connection.ciphertext pieces →
      maximumResponseSize < pieces.flatten.length →
      (∀ count, (pieces.take count).flatten.length ≤ maximumResponseSize →
        isCompleteJson library (pieces.take count).flatten = false) →
      ReceivesJson package library connection
        (.error (failure .responseTooLarge))) := by
  refine ⟨?_, ?_, ?_, ?_⟩
  · intro left right hleft hright hcontext hciphertext
    have hreceived := receivesJson_reference library hpackage hright
    rw [← hcontext, ← hciphertext] at hreceived
    exact ⟨_, receivesJson_reference library hpackage hleft, hreceived⟩
  · intro fuel connection next hhandshake
    exact continueHandshake_progressed hhandshake
  · intro connection pieces hdelivers hcarries hobject hlength
    obtain ⟨text, hreference, hdecode⟩ := referenceReceive_object
      hlibrary hcarries [] hobject hlength (isCompleteJson_nil hlibrary)
    refine ⟨text, ?_, hdecode⟩
    rw [← hreference]
    exact receivesJson_reference library hpackage hdelivers
  · intro connection pieces hdelivers hcarries hlarge hincomplete
    rw [← referenceReceive_tooLarge hcarries [] (Nat.zero_le _) hlarge
      hincomplete]
    exact receivesJson_reference library hpackage hdelivers

end Answer

/-! ## A record layer without encryption -/

/-- The size field of a record header. -/
def headerPayload (bytes : List UInt8) : ℕ :=
  256 * (byteAt bytes 3).toNat + (byteAt bytes 4).toNat

theorem headerPayload_append
    {bytes : List UInt8} (hheader : 5 ≤ bytes.length) (more : List UInt8) :
    headerPayload (bytes ++ more) = headerPayload bytes := by
  unfold headerPayload
  rw [byteAt_append (by omega), byteAt_append (by omega)]

/-- A header that announces too much is a record of its own, and refused. -/
def plainRecordSize (bytes : List UInt8) : Option ℕ :=
  if bytes.length < 5 then none
  else if maximumRecordSize < headerPayload bytes then some 5
  else if bytes.length < 5 + headerPayload bytes then none
  else some (5 + headerPayload bytes)

theorem plainRecordSize_cases
    {bytes : List UInt8} {size : ℕ} (hsize : plainRecordSize bytes = some size) :
    5 ≤ size ∧ size ≤ bytes.length ∧
      ∀ more, plainRecordSize (bytes ++ more) = some size := by
  unfold plainRecordSize at hsize
  split at hsize
  · cases hsize
  rename_i hheader
  have hlength : ∀ more : List UInt8,
      bytes.length ≤ (bytes ++ more).length := by simp
  split at hsize
  · rename_i hlarge
    cases hsize
    refine ⟨le_rfl, by omega, ?_⟩
    intro more
    unfold plainRecordSize
    rw [headerPayload_append (by omega), if_neg, if_pos hlarge]
    have hmore := hlength more
    omega
  rename_i hsmall
  split at hsize
  · cases hsize
  · cases hsize
    refine ⟨by omega, by omega, ?_⟩
    intro more
    unfold plainRecordSize
    have hmore := hlength more
    rw [headerPayload_append (by omega), if_neg (by omega), if_neg hsmall,
      if_neg (by omega)]

def plainLayer : RecordLayer Unit where
  overhead := 5
  recordSize := plainRecordSize
  decryptRecord := fun context record =>
    if record.length = 5 + headerPayload record then
      some (context, record.drop 5)
    else none
  overhead_le := by decide
  size_pos := by
    intro bytes size hsize
    have hcases := (plainRecordSize_cases hsize).1
    omega
  size_le := fun hsize => (plainRecordSize_cases hsize).2.1
  size_append := fun hsize => (plainRecordSize_cases hsize).2.2
  partial_le := by
    intro bytes hsize
    unfold plainRecordSize at hsize
    split at hsize
    · simp only [maximumRecordSize]
      omega
    split at hsize
    · cases hsize
    split at hsize
    · omega
    · cases hsize

/-- A package that does what the layer says. -/
def RecordLayer.package (layer : RecordLayer κ) : SecurityPackage κ where
  initializeSecurityContext := fun context _ => ⟨context, .failed, none, none⟩
  completeAuthToken := some
  queryStreamSizes := fun _ => none
  decryptMessage := fun context buffer =>
    match layer.recordSize buffer with
    | none => ⟨context, .incompleteMessage, buffer, [], none⟩
    | some size =>
        match layer.decryptRecord context (buffer.take size) with
        | none => ⟨context, .failed, buffer, [], none⟩
        | some (next, data) =>
            ⟨next, .ok, buffer, [data], some (buffer.length - size)⟩

theorem RecordLayer.package_follows (layer : RecordLayer κ) :
    layer.package.Follows layer := by
  constructor
  · intro context buffer hsize
    simp [package, hsize]
  · intro context buffer size next data hsize hrecord
    constructor <;> simp [package, hsize, hrecord]
  · intro context buffer size hsize hrecord
    simp [package, hsize, hrecord]

/-- `{"result":2}` in two records. -/
def rejectedPieces : List (List UInt8) :=
  [memberName "\x7b\x22resu", memberName "lt\x22:2\x7d"]

/-- The records arrive three bytes at a time, after four bytes which the
handshake left over. -/
def rejectedConnection : TlsConnection Unit where
  socket := {
    incoming := 6 :: memberName "\x7b\x22resu" ++
      [23, 3, 3, 0, 6] ++ memberName "lt\x22:2\x7d"
    recvOutcomes := fun _ => .data 2
    sendOutcomes := fun _ => .failed
    log := [] }
  context := ()
  pendingEncrypted := [23, 3, 3, 0]

theorem login_answer_rejected :
    ∃ text, ReceivesJson plainLayer.package referenceJsonLibrary
        rejectedConnection (.ok text) ∧
      decodeLoginResponse referenceJsonLibrary text =
        .error ⟨.serverRejected, some 2⟩ := by
  have hdelivers : rejectedConnection.socket.Delivers := fun _ => ⟨2, rfl⟩
  have hcarries : Carries plainLayer rejectedConnection.context
      rejectedConnection.ciphertext rejectedPieces := by
    apply Carries.cons (by rfl) (by rfl)
    exact Carries.cons (by rfl) (by rfl) (Carries.nil _ _)
  obtain ⟨-, -, hobject, -⟩ := login_answer_framing
    plainLayer.package_follows referenceJsonLibrary_conforms
  obtain ⟨text, hreceived, hdecode⟩ := hobject rejectedConnection
    rejectedPieces hdelivers hcarries
    ⟨[(memberName "result", .number [0x32])], by rfl⟩ (by decide)
  exact ⟨text, hreceived, hdecode.trans (by rfl)⟩

end Revana.Login
