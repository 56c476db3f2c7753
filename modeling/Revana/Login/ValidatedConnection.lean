import Revana.Foundation.Loop
import Revana.Login.Authenticate
import Revana.Login.LoginAnswer
import Revana.Login.Serializer

/-!
# Credentials leave only over a validated connection

The loop of the handshake as a turn that is iterated: where it can get to does
not depend on the credentials, it sends nothing but tokens of the security
package, and it ends with a connection only if the last status was a success,
the stream sizes are known and the pin matches.  The request is handed over
nowhere else.
-/

namespace Revana.Login

open Foundation

/-! ## What a socket has sent -/

/-- Everything sent between the two sockets is part of some origin. -/
def SentFrom (Origin : List UInt8 → Prop) (socket next : StreamSocket) : Prop :=
  ∀ bytes, .sent bytes ∈ next.log → .sent bytes ∈ socket.log ∨
    ∃ whole, Origin whole ∧ bytes <:+: whole

section Sent

variable {Origin : List UInt8 → Prop} {socket middle next : StreamSocket}

theorem SentFrom.refl (Origin : List UInt8 → Prop) (socket : StreamSocket) :
    SentFrom Origin socket socket :=
  fun _ hsent => Or.inl hsent

theorem SentFrom.trans
    (hbefore : SentFrom Origin socket middle)
    (hafter : SentFrom Origin middle next) :
    SentFrom Origin socket next := by
  intro bytes hsent
  rcases hafter bytes hsent with hmiddle | horigin
  · exact hbefore bytes hmiddle
  · exact Or.inr horigin

theorem sentFrom_recv (socket : StreamSocket) (limit : ℕ) :
    SentFrom Origin socket (socket.recv limit).2 := by
  intro bytes hsent
  left
  unfold StreamSocket.recv at hsent
  cases houtcome : socket.recvOutcomes 0 with
  | data size =>
      rw [houtcome] at hsent
      simpa using hsent
  | timedOut =>
      rw [houtcome] at hsent
      exact hsent
  | wouldBlock =>
      rw [houtcome] at hsent
      exact hsent
  | failed =>
      rw [houtcome] at hsent
      exact hsent

theorem sentFrom_transmit
    {bytes : List UInt8} (horigin : Origin bytes) (socket : StreamSocket) :
    SentFrom Origin socket (socket.transmit bytes).2 := by
  obtain ⟨chunks, hlog, hchunks⟩ := (socket.transmit_spec bytes).log
  intro chunk hsent
  rw [hlog, List.mem_append, List.mem_map] at hsent
  rcases hsent with hold | ⟨other, hother, hchunk⟩
  · exact Or.inl hold
  · cases hchunk
    refine Or.inr ⟨bytes, horigin, ?_⟩
    have hpiece := List.infix_of_mem_flatten hother
    rw [hchunks] at hpiece
    exact hpiece.trans (List.take_prefix _ _).isInfix

end Sent

variable {κ : Type}

theorem sentFrom_receive
    (Origin : List UInt8 → Prop) (connection : TlsConnection κ)
    (encrypted : List UInt8) :
    SentFrom Origin connection.socket
      (connection.receive encrypted).2.socket := by
  have hrecv : SentFrom Origin connection.socket
      (connection.socket.recv receiveChunkSize).2 :=
    sentFrom_recv connection.socket receiveChunkSize
  unfold TlsConnection.receive
  split
  · exact SentFrom.refl Origin connection.socket
  split
  · rename_i socket hanswer
    rw [hanswer] at hrecv
    exact hrecv
  · rename_i byte rest socket hanswer
    rw [hanswer] at hrecv
    exact hrecv
  · rename_i socket hanswer
    rw [hanswer] at hrecv
    exact hrecv
  · rename_i socket hanswer
    rw [hanswer] at hrecv
    exact hrecv
  · rename_i socket hanswer
    rw [hanswer] at hrecv
    exact hrecv

theorem sentFrom_receiveIfEmpty
    (Origin : List UInt8 → Prop) (connection : TlsConnection κ)
    (encrypted : List UInt8) :
    SentFrom Origin connection.socket
      (connection.receiveIfEmpty encrypted).2.socket := by
  unfold TlsConnection.receiveIfEmpty
  split
  · exact sentFrom_receive Origin connection encrypted
  · exact SentFrom.refl Origin connection.socket

theorem sentFrom_completeAndSend
    {Origin : List UInt8 → Prop} (package : SecurityPackage κ)
    {answer : InitializeAnswer κ}
    (htoken : ∀ token, answer.token = some token → Origin token)
    (connection : TlsConnection κ) :
    SentFrom Origin connection.socket
      (completeAndSend package answer connection).2.socket := by
  unfold completeAndSend
  dsimp only
  split
  · exact SentFrom.refl Origin connection.socket
  · split
    · exact SentFrom.refl Origin connection.socket
    · rename_i token hanswer
      exact sentFrom_transmit (htoken token hanswer) connection.socket

/-! ## The turn of the handshake loop -/

section Handshake

variable (package : SecurityPackage κ)

/-- What follows a sent answer. -/
def answeredTurn (answer : InitializeAnswer κ) (connection : TlsConnection κ)
    (encrypted : List UInt8) :
    Turn (TlsConnection κ × List UInt8) (Bool × TlsConnection κ) :=
  if answer.status = .incompleteMessage then
    match connection.receive encrypted with
    | (none, connection) => .done (false, connection)
    | (some encrypted, connection) => .again (connection, encrypted)
  else
    let connection := connection.consume encrypted answer.extra
    let encrypted := preserveExtra encrypted answer.extra
    match normalizeCompleteStatus answer.status with
    | .ok =>
        let connection := { connection with pendingEncrypted := encrypted }
        match package.queryStreamSizes connection.context with
        | none => .done (false, connection)
        | some sizes => .done (true, { connection with streamSizes := sizes })
    | .continueNeeded => .again (connection, encrypted)
    | _ => .done (false, connection)

def handshakeTurn (state : TlsConnection κ × List UInt8) :
    Turn (TlsConnection κ × List UInt8) (Bool × TlsConnection κ) :=
  match state.1.receiveIfEmpty state.2 with
  | (none, connection) => .done (false, connection)
  | (some encrypted, connection) =>
      let connection := connection.holding encrypted
      let answer := package.initializeSecurityContext connection.context
        encrypted
      match completeAndSend package answer connection with
      | (false, connection) => .done (false, connection)
      | (true, connection) =>
          answeredTurn package answer connection encrypted

theorem continueHandshake_eq_iterate
    (fuel : ℕ) (connection : TlsConnection κ) (encrypted : List UInt8) :
    continueHandshake package fuel connection encrypted =
      Turn.iterate (handshakeTurn package) fuel (connection, encrypted) := by
  induction fuel generalizing connection encrypted with
  | zero => rfl
  | succ fuel ih =>
      rw [continueHandshake, Turn.iterate, handshakeTurn]
      rcases connection.receiveIfEmpty encrypted with ⟨_ | buffer, filled⟩
      · rfl
      dsimp only
      rcases completeAndSend package _ (filled.holding buffer) with
        ⟨_ | _, sent⟩
      · rfl
      dsimp only [answeredTurn]
      split
      · rcases sent.receive buffer with ⟨_ | more, received⟩
        · rfl
        · exact ih received more
      · generalize normalizeCompleteStatus _ = status
        cases status with
        | ok =>
            dsimp only
            generalize package.queryStreamSizes _ = sizes
            cases sizes with
            | none => rfl
            | some sizes => rfl
        | continueNeeded => exact ih _ _
        | completeNeeded => rfl
        | completeAndContinue => rfl
        | incompleteMessage => rfl
        | renegotiate => rfl
        | failed => rfl

variable {package}

/-- A turn got hold of a buffer, and its answer was completed and sent. -/
structure Answered (package : SecurityPackage κ)
    (state : TlsConnection κ × List UInt8) (buffer : List UInt8)
    (answer : InitializeAnswer κ) (sent : TlsConnection κ) : Prop where
  reached : ∃ filled, state.1.receiveIfEmpty state.2 = (some buffer, filled) ∧
    answer = package.initializeSecurityContext filled.context buffer ∧
    completeAndSend package answer (filled.holding buffer) = (true, sent)

/-- A turn fails before its answer is sent, or goes on behind it. -/
theorem handshakeTurn_cases
    (package : SecurityPackage κ) (state : TlsConnection κ × List UInt8) :
    (∃ next, handshakeTurn package state = .done (false, next)) ∨
    ∃ buffer answer sent, Answered package state buffer answer sent ∧
      handshakeTurn package state =
        answeredTurn package answer sent buffer := by
  unfold handshakeTurn
  rcases hfill : state.1.receiveIfEmpty state.2 with ⟨_ | buffer, filled⟩
  · exact Or.inl ⟨filled, rfl⟩
  · dsimp only
    rcases hsend : completeAndSend package
        (package.initializeSecurityContext (filled.holding buffer).context
          buffer) (filled.holding buffer) with ⟨_ | _, sent⟩
    · exact Or.inl ⟨sent, rfl⟩
    · exact Or.inr ⟨buffer, _, sent, ⟨filled, hfill, rfl, hsend⟩, rfl⟩

theorem answeredTurn_again
    {answer : InitializeAnswer κ} {sent : TlsConnection κ}
    {buffer : List UInt8} {next : TlsConnection κ × List UInt8}
    (hturn : answeredTurn package answer sent buffer = .again next) :
    (answer.status = .incompleteMessage ∧
      sent.receive buffer = (some next.2, next.1)) ∨
    (normalizeCompleteStatus answer.status = .continueNeeded ∧
      next = (sent.consume buffer answer.extra,
        preserveExtra buffer answer.extra)) := by
  unfold answeredTurn at hturn
  split at hturn
  · rename_i hincomplete
    split at hturn
    · cases hturn
    · rename_i encrypted received hreceive
      cases hturn
      exact Or.inl ⟨hincomplete, hreceive⟩
  · dsimp only at hturn
    split at hturn
    · split at hturn
      · cases hturn
      · cases hturn
    · rename_i hcontinue
      cases hturn
      exact Or.inr ⟨hcontinue, rfl⟩
    · cases hturn

theorem answeredTurn_established
    {answer : InitializeAnswer κ} {sent next : TlsConnection κ}
    {buffer : List UInt8}
    (hturn : answeredTurn package answer sent buffer = .done (true, next)) :
    normalizeCompleteStatus answer.status = .ok ∧
      next.context = sent.context ∧
      package.queryStreamSizes sent.context = some next.streamSizes := by
  unfold answeredTurn at hturn
  split at hturn
  · split at hturn
    · cases hturn
    · cases hturn
  · dsimp only at hturn
    split at hturn
    · rename_i hok
      split at hturn
      · cases hturn
      · rename_i sizes hsizes
        cases hturn
        exact ⟨hok, rfl, hsizes⟩
    · cases hturn
    · cases hturn

/-- A turn that ends with a connection had a successful last status, and the
stream sizes are those of its context. -/
theorem handshakeTurn_established
    {state : TlsConnection κ × List UInt8} {next : TlsConnection κ}
    (hturn : handshakeTurn package state = .done (true, next)) :
    ∃ buffer answer sent, Answered package state buffer answer sent ∧
      normalizeCompleteStatus answer.status = .ok ∧
      next.context = sent.context ∧
      package.queryStreamSizes sent.context = some next.streamSizes := by
  rcases handshakeTurn_cases package state with
    ⟨other, hdone⟩ | ⟨buffer, answer, sent, hanswered, heq⟩
  · rw [hdone] at hturn
    cases hturn
  · rw [heq] at hturn
    exact ⟨buffer, answer, sent, hanswered, answeredTurn_established hturn⟩

/-! ## What a turn sends -/

def turnConnection :
    Turn (TlsConnection κ × List UInt8) (Bool × TlsConnection κ) →
      TlsConnection κ
  | .again state => state.1
  | .done result => result.2

/-- Every token of the package has this origin. -/
def SecurityPackage.IssuesFrom (package : SecurityPackage κ)
    (Origin : List UInt8 → Prop) : Prop :=
  ∀ context input token,
    (package.initializeSecurityContext context input).token = some token →
      Origin token

theorem answeredTurn_sent
    (Origin : List UInt8 → Prop) (answer : InitializeAnswer κ)
    (sent : TlsConnection κ) (buffer : List UInt8) :
    SentFrom Origin sent.socket
      (turnConnection (answeredTurn package answer sent buffer)).socket := by
  have hreceive := sentFrom_receive Origin sent buffer
  unfold answeredTurn
  split
  · split
    · rename_i received hanswer
      rw [hanswer] at hreceive
      exact hreceive
    · rename_i encrypted received hanswer
      rw [hanswer] at hreceive
      exact hreceive
  · dsimp only
    split
    · split
      · exact SentFrom.refl Origin sent.socket
      · exact SentFrom.refl Origin sent.socket
    · exact SentFrom.refl Origin sent.socket
    · exact SentFrom.refl Origin sent.socket

/-- A turn sends nothing but its token. -/
theorem handshakeTurn_sent
    {Origin : List UInt8 → Prop} (hissues : package.IssuesFrom Origin)
    (state : TlsConnection κ × List UInt8) :
    SentFrom Origin state.1.socket
      (turnConnection (handshakeTurn package state)).socket := by
  have hfilled := sentFrom_receiveIfEmpty Origin state.1 state.2
  unfold handshakeTurn
  rcases hfill : state.1.receiveIfEmpty state.2 with ⟨_ | buffer, filled⟩
  · rw [hfill] at hfilled
    exact hfilled
  · rw [hfill] at hfilled
    dsimp only at hfilled ⊢
    have hsent := sentFrom_completeAndSend package
      (hissues (filled.holding buffer).context buffer)
      (filled.holding buffer)
    rcases hsend : completeAndSend package _ (filled.holding buffer) with
      ⟨_ | _, sent⟩
    · rw [hsend] at hsent
      exact hfilled.trans hsent
    · rw [hsend] at hsent
      exact (hfilled.trans hsent).trans
        (answeredTurn_sent Origin _ sent buffer)

theorem reaches_sent
    {Origin : List UInt8 → Prop} (hissues : package.IssuesFrom Origin)
    {state last : TlsConnection κ × List UInt8}
    (hreaches : Turn.Reaches (handshakeTurn package) state last) :
    SentFrom Origin state.1.socket last.1.socket := by
  refine hreaches.invariant
    (fun reached => SentFrom Origin state.1.socket reached.1.socket) ?_
    (SentFrom.refl Origin state.1.socket)
  intro before next hbefore hturn
  have hsent := handshakeTurn_sent hissues before
  rw [hturn] at hsent
  exact hbefore.trans hsent

theorem continueHandshake_sent
    {Origin : List UInt8 → Prop} (hissues : package.IssuesFrom Origin)
    {fuel : ℕ} {connection next : TlsConnection κ} {encrypted : List UInt8}
    {established : Bool}
    (hhandshake : continueHandshake package fuel connection encrypted =
      some (established, next)) :
    SentFrom Origin connection.socket next.socket := by
  rw [continueHandshake_eq_iterate] at hhandshake
  obtain ⟨last, hreaches, hlast⟩ := Turn.reaches_of_iterate hhandshake
  have hsent := handshakeTurn_sent hissues last
  rw [hlast] at hsent
  exact (reaches_sent hissues hreaches).trans hsent

/-! ## A handshake that ends -/

theorem receive_some
    {connection next : TlsConnection κ} {encrypted more : List UInt8}
    (hreceive : connection.receive encrypted = (some more, next)) :
    encrypted.length < more.length ∧
      more.length + next.socket.incoming.length =
        encrypted.length + connection.socket.incoming.length := by
  have hconserves := connection.socket.recv_conserves receiveChunkSize
  unfold TlsConnection.receive at hreceive
  split at hreceive
  · cases hreceive
  split at hreceive
  · cases hreceive
  · rename_i byte rest socket hrecv
    rw [hrecv] at hconserves
    cases hreceive
    have hlength := congrArg List.length hconserves.2
    simp only [List.length_append, List.length_cons] at hlength ⊢
    omega
  · cases hreceive
  · cases hreceive
  · cases hreceive

theorem receiveIfEmpty_some
    {connection filled : TlsConnection κ} {encrypted buffer : List UInt8}
    (hfill : connection.receiveIfEmpty encrypted = (some buffer, filled)) :
    buffer ≠ [] ∧ remainingWork filled buffer ≤
      remainingWork connection encrypted := by
  unfold TlsConnection.receiveIfEmpty at hfill
  split at hfill
  · obtain ⟨hless, hlength⟩ := receive_some hfill
    refine ⟨List.length_pos_iff.mp (by omega), ?_⟩
    unfold remainingWork
    omega
  · rename_i hencrypted
    cases hfill
    exact ⟨hencrypted, le_rfl⟩

theorem completeAndSend_incoming
    (answer : InitializeAnswer κ) (connection : TlsConnection κ) :
    (completeAndSend package answer connection).2.socket.incoming =
      connection.socket.incoming := by
  unfold completeAndSend
  dsimp only
  split
  · rfl
  · split
    · rfl
    · rename_i token _
      exact (connection.socket.transmit_spec token).incoming

theorem Answered.work
    {state : TlsConnection κ × List UInt8} {buffer : List UInt8}
    {answer : InitializeAnswer κ} {sent : TlsConnection κ}
    (hanswered : Answered package state buffer answer sent) :
    buffer ≠ [] ∧
      remainingWork sent buffer ≤ remainingWork state.1 state.2 := by
  obtain ⟨filled, hfill, -, hsend⟩ := hanswered.reached
  obtain ⟨hbuffer, hwork⟩ := receiveIfEmpty_some hfill
  have hincoming : (completeAndSend package answer
      (filled.holding buffer)).2.socket.incoming =
        (filled.holding buffer).socket.incoming :=
    completeAndSend_incoming answer (filled.holding buffer)
  rw [hsend] at hincoming
  refine ⟨hbuffer, le_trans ?_ hwork⟩
  unfold remainingWork
  rw [hincoming]
  exact le_rfl

/-- With each status that asks for more, some of the input is consumed. -/
def SecurityPackage.Consumes (package : SecurityPackage κ) : Prop :=
  ∀ context input, input ≠ [] →
    let answer := package.initializeSecurityContext context input
    normalizeCompleteStatus answer.status = .continueNeeded →
      answer.extra.getD 0 < input.length

theorem handshakeTurn_less
    (hconsumes : package.Consumes)
    {state next : TlsConnection κ × List UInt8}
    (hturn : handshakeTurn package state = .again next) :
    remainingWork next.1 next.2 < remainingWork state.1 state.2 := by
  rcases handshakeTurn_cases package state with
    ⟨other, hdone⟩ | ⟨buffer, answer, sent, hanswered, heq⟩
  · rw [hdone] at hturn
    cases hturn
  rw [heq] at hturn
  obtain ⟨hbuffer, hwork⟩ := hanswered.work
  refine lt_of_lt_of_le ?_ hwork
  rcases answeredTurn_again hturn with
    ⟨-, hreceive⟩ | ⟨hcontinue, rfl⟩
  · obtain ⟨hless, hlength⟩ := receive_some hreceive
    unfold remainingWork
    omega
  · obtain ⟨filled, -, hanswer, -⟩ := hanswered.reached
    rw [hanswer] at hcontinue
    have hextra := hconsumes filled.context buffer hbuffer hcontinue
    rw [← hanswer] at hextra
    have hincoming : (sent.consume buffer answer.extra).socket = sent.socket :=
      rfl
    unfold remainingWork
    rw [preserveExtra_eq, hincoming, List.length_drop]
    omega

/-- A package that consumes ends the handshake with the stream. -/
theorem continueHandshake_ends
    (hconsumes : package.Consumes) {connection : TlsConnection κ}
    {encrypted : List UInt8} {fuel : ℕ}
    (hfuel : remainingWork connection encrypted < fuel) :
    ∃ result, continueHandshake package fuel connection encrypted =
      some result := by
  rw [continueHandshake_eq_iterate]
  have hless : ∀ state next,
      handshakeTurn package state = .again next →
      remainingWork next.1 next.2 < remainingWork state.1 state.2 :=
    fun state next => handshakeTurn_less hconsumes
  exact Turn.iterate_of_measure hless hfuel

end Handshake

/-! ## A validated connection -/

section Validated

variable (schannel : Schannel κ) (socket : StreamSocket)
  (serverName : List UInt16) (certificateSha256 : Option CertificateSha256)

/-- A token of some call of the package. -/
def Schannel.IsToken (token : List UInt8) : Prop :=
  (∃ credentials name,
    (schannel.beginSecurityContext credentials name).token = some token) ∨
  ∃ context input,
    (schannel.initializeSecurityContext context input).token = some token

/-- The first answer was sent and asks for more; the loop begins here. -/
def HandshakeStarts (start : TlsConnection κ) : Prop :=
  ∃ credentials, schannel.acquireCredentialsHandle
      (schannelCredentials certificateSha256) = some credentials ∧
    let answer := schannel.beginSecurityContext credentials serverName
    completeAndSend schannel.toSecurityPackage answer
        { socket := socket, context := credentials } = (true, start) ∧
      normalizeCompleteStatus answer.status = .continueNeeded

/-- The loop of the handshake gets to this state. -/
def HandshakeReaches (state : TlsConnection κ × List UInt8) : Prop :=
  ∃ start,
    HandshakeStarts schannel socket serverName certificateSha256 start ∧
    Turn.Reaches (handshakeTurn schannel.toSecurityPackage) (start, []) state

/-- The loop ended with a success and known stream sizes, and the digest of
the peer certificate is the one asked for. -/
structure Validated (connection : TlsConnection κ) : Prop where
  ended : ∃ state buffer answer sent,
    HandshakeReaches schannel socket serverName certificateSha256 state ∧
    Answered schannel.toSecurityPackage state buffer answer sent ∧
    normalizeCompleteStatus answer.status = .ok ∧
    connection.context = sent.context ∧
    schannel.queryStreamSizes sent.context = some connection.streamSizes
  pinned : ∀ expected, certificateSha256 = some expected →
    ∃ certificate actual,
      schannel.queryRemoteCertificate connection.context =
        some (some certificate) ∧
      certificate.sha256 = some (actual, certificateSha256Size) ∧
      actual = expected

/-- What `Handshake` makes of the loop's result. -/
def concludeHandshake :
    Option (Bool × TlsConnection κ) →
      Option (Except StreamSocket (TlsConnection κ))
  | none => none
  | some (false, connection) => some (.error connection.socket)
  | some (true, connection) =>
      match certificateSha256 with
      | none => some (.ok connection)
      | some expected =>
          if validateCertificatePin schannel connection expected then
            some (.ok connection)
          else some (.error connection.socket)

variable {schannel socket serverName certificateSha256}

theorem issuesFrom_isToken :
    schannel.toSecurityPackage.IssuesFrom schannel.IsToken :=
  fun context input _ htoken => Or.inr ⟨context, input, htoken⟩

/-- The handshake fails before its loop, or it is what the loop makes of
it. -/
theorem handshake_cases
    (schannel : Schannel κ) (socket : StreamSocket) (serverName : List UInt16)
    (certificateSha256 : Option CertificateSha256) :
    (∃ next, SentFrom schannel.IsToken socket next ∧ ∀ fuel,
      handshake schannel fuel socket serverName certificateSha256 =
        some (.error next)) ∨
    ∃ start,
      HandshakeStarts schannel socket serverName certificateSha256 start ∧
      SentFrom schannel.IsToken socket start.socket ∧ ∀ fuel,
      handshake schannel fuel socket serverName certificateSha256 =
        concludeHandshake schannel certificateSha256
          (continueHandshake schannel.toSecurityPackage fuel start []) := by
  unfold handshake
  cases hcredentials : schannel.acquireCredentialsHandle
      (schannelCredentials certificateSha256) with
  | none => exact Or.inl ⟨socket, SentFrom.refl _ socket, fun fuel => rfl⟩
  | some credentials =>
      dsimp only
      have htokens : ∀ token,
          (schannel.beginSecurityContext credentials serverName).token =
            some token → schannel.IsToken token :=
        fun _ htoken => Or.inl ⟨credentials, serverName, htoken⟩
      have hsent := sentFrom_completeAndSend schannel.toSecurityPackage
        htokens { socket := socket, context := credentials }
      rcases hsend : completeAndSend schannel.toSecurityPackage
          (schannel.beginSecurityContext credentials serverName)
          { socket := socket, context := credentials } with ⟨_ | _, start⟩
      · rw [hsend] at hsent
        exact Or.inl ⟨start.socket, hsent, fun fuel => rfl⟩
      · rw [hsend] at hsent
        dsimp only
        by_cases hstatus : normalizeCompleteStatus
            (schannel.beginSecurityContext credentials serverName).status =
              .continueNeeded
        · refine Or.inr ⟨start, ⟨credentials, hcredentials, hsend, hstatus⟩,
            hsent, ?_⟩
          intro fuel
          rw [if_neg (not_not.mpr hstatus)]
          rcases continueHandshake schannel.toSecurityPackage fuel start []
            with _ | ⟨_ | _, connection⟩
          · rfl
          · rfl
          · cases certificateSha256 with
            | none => rfl
            | some expected => rfl
        · refine Or.inl ⟨start.socket, hsent, ?_⟩
          intro fuel
          rw [if_pos hstatus]

theorem validateCertificatePin_cases
    {connection : TlsConnection κ} {expected : CertificateSha256}
    (hvalid : validateCertificatePin schannel connection expected = true) :
    ∃ certificate actual,
      schannel.queryRemoteCertificate connection.context =
        some (some certificate) ∧
      certificate.sha256 = some (actual, certificateSha256Size) ∧
      actual = expected := by
  unfold validateCertificatePin at hvalid
  split at hvalid
  · cases hvalid
  · cases hvalid
  · rename_i certificate hcertificate
    split at hvalid
    · cases hvalid
    · rename_i actual actualSize hdigest
      simp only [Bool.and_eq_true, decide_eq_true_eq] at hvalid
      obtain ⟨hsize, hequal⟩ := hvalid
      exact ⟨certificate, actual, hcertificate, hsize ▸ hdigest, hequal⟩

theorem concludeHandshake_ok
    {result : Option (Bool × TlsConnection κ)} {connection : TlsConnection κ}
    (hconclude : concludeHandshake schannel certificateSha256 result =
      some (.ok connection)) :
    result = some (true, connection) ∧
      ∀ expected, certificateSha256 = some expected →
        validateCertificatePin schannel connection expected = true := by
  unfold concludeHandshake at hconclude
  split at hconclude
  · cases hconclude
  · cases hconclude
  · split at hconclude
    · cases hconclude
      refine ⟨rfl, ?_⟩
      intro expected hnone
      cases hnone
    · rename_i pin
      split at hconclude
      · rename_i hvalid
        cases hconclude
        refine ⟨rfl, ?_⟩
        intro expected hpin
        cases hpin
        exact hvalid
      · cases hconclude

theorem concludeHandshake_error
    {result : Option (Bool × TlsConnection κ)} {next : StreamSocket}
    (hconclude : concludeHandshake schannel certificateSha256 result =
      some (.error next)) :
    ∃ established connection, result = some (established, connection) ∧
      connection.socket = next := by
  unfold concludeHandshake at hconclude
  split at hconclude
  · cases hconclude
  · cases hconclude
    exact ⟨false, _, rfl, rfl⟩
  · split at hconclude
    · cases hconclude
    · split at hconclude
      · cases hconclude
      · cases hconclude
        exact ⟨true, _, rfl, rfl⟩

/-- When `Handshake` returns true, its connection is validated. -/
theorem handshake_validated
    {fuel : ℕ} {connection : TlsConnection κ}
    (hhandshake : handshake schannel fuel socket serverName
      certificateSha256 = some (.ok connection)) :
    Validated schannel socket serverName certificateSha256 connection := by
  rcases handshake_cases schannel socket serverName certificateSha256 with
    ⟨next, -, hfailed⟩ | ⟨start, hstart, -, hloop⟩
  · rw [hfailed fuel] at hhandshake
    cases hhandshake
  rw [hloop fuel] at hhandshake
  obtain ⟨hended, hpinned⟩ := concludeHandshake_ok hhandshake
  rw [continueHandshake_eq_iterate] at hended
  obtain ⟨last, hreaches, hlast⟩ := Turn.reaches_of_iterate hended
  obtain ⟨buffer, answer, sent, hanswered, hok, hcontext, hsizes⟩ :=
    handshakeTurn_established hlast
  constructor
  · exact ⟨last, buffer, answer, sent, ⟨start, hstart, hreaches⟩, hanswered,
      hok, hcontext, hsizes⟩
  · intro expected hpin
    exact validateCertificatePin_cases (hpinned expected hpin)

theorem handshake_error_sent
    {fuel : ℕ} {next : StreamSocket}
    (hhandshake : handshake schannel fuel socket serverName
      certificateSha256 = some (.error next)) :
    SentFrom schannel.IsToken socket next := by
  rcases handshake_cases schannel socket serverName certificateSha256 with
    ⟨other, hsent, hfailed⟩ | ⟨start, -, hsent, hloop⟩
  · rw [hfailed fuel] at hhandshake
    cases hhandshake
    exact hsent
  · rw [hloop fuel] at hhandshake
    obtain ⟨established, connection, hended, rfl⟩ :=
      concludeHandshake_error hhandshake
    exact hsent.trans (continueHandshake_sent issuesFrom_isToken hended)

theorem handshakeReaches_sent
    {state : TlsConnection κ × List UInt8}
    (hreaches : HandshakeReaches schannel socket serverName
      certificateSha256 state) :
    SentFrom schannel.IsToken socket state.1.socket := by
  obtain ⟨start, ⟨credentials, -, hsend, -⟩, hpath⟩ := hreaches
  have htokens : ∀ token,
      (schannel.beginSecurityContext credentials serverName).token =
        some token → schannel.IsToken token :=
    fun _ htoken => Or.inl ⟨credentials, serverName, htoken⟩
  have hsent := sentFrom_completeAndSend schannel.toSecurityPackage
    htokens { socket := socket, context := credentials }
  rw [hsend] at hsent
  exact hsent.trans (reaches_sent issuesFrom_isToken hpath)

/-- With a package that consumes, the handshake ends. -/
theorem handshake_ends
    (hconsumes : schannel.toSecurityPackage.Consumes) (socket : StreamSocket)
    (serverName : List UInt16)
    (certificateSha256 : Option CertificateSha256) :
    ∃ bound, ∀ fuel, bound < fuel →
      handshake schannel fuel socket serverName certificateSha256 ≠ none := by
  rcases handshake_cases schannel socket serverName certificateSha256 with
    ⟨next, -, hfailed⟩ | ⟨start, -, -, hloop⟩
  · refine ⟨0, fun fuel _ => ?_⟩
    rw [hfailed fuel]
    exact Option.some_ne_none _
  · refine ⟨remainingWork start [], fun fuel hfuel => ?_⟩
    obtain ⟨⟨established, connection⟩, hended⟩ :=
      continueHandshake_ends hconsumes hfuel
    rw [hloop fuel, hended]
    unfold concludeHandshake
    split
    · rename_i hnone
      cases hnone
    · exact Option.some_ne_none _
    · split
      · exact Option.some_ne_none _
      · split
        · exact Option.some_ne_none _
        · exact Option.some_ne_none _

end Validated

/-! ## The run of `Authenticate` -/

section Authenticate

variable (environment : AuthEnvironment κ) (host : List UInt8)
  (credentials : AuthCredentials) (options : AuthOptions)

/-- The socket and the server name of the run's handshake. -/
def Opens (socket : StreamSocket) (serverName : List UInt16) : Prop :=
  openSocket environment.system host options.port options.timeoutMs =
      .ok socket ∧
    toWide environment.system host = .ok serverName

def Encodes (request : List UInt8) : Prop :=
  encodeLoginAttempt environment.serializer credentials = .ok (.ok request)

variable {environment host credentials options}

theorem exchange_request
    (fuel : ℕ) (connection : TlsConnection κ) (request : List UInt8) :
    (exchange environment fuel connection request).request =
      some request := by
  unfold exchange
  split
  · rfl
  · split
    · rfl
    · rfl

/-- A run that has handed over no request: it fails or its handshake is not
over, and its socket has sent nothing but tokens. -/
structure Withheld (environment : AuthEnvironment κ) (host : List UInt8)
    (options : AuthOptions) (fuel : ℕ) (run : Authentication) : Prop where
  request : run.request = none
  failed : run.outcome ≠ none →
    ∃ error, run.outcome = some (.ok (.error error))
  ended : run.outcome = none → ∃ socket serverName,
    Opens environment host options socket serverName ∧
    handshake environment.schannel fuel socket serverName
      options.certificateSha256 = none
  sent : ∀ next, run.socket = some next → ∃ socket,
    openSocket environment.system host options.port options.timeoutMs =
      .ok socket ∧
    SentFrom environment.schannel.IsToken socket next

theorem withheld_failed (fuel : ℕ) (error : AuthFailure) :
    Withheld environment host options fuel (.failed error) := by
  constructor
  · rfl
  · exact fun _ => ⟨error, rfl⟩
  · intro hnone
    cases hnone
  · intro next hnone
    cases hnone

/-- Before the request is handed over nothing depends on it. -/
theorem converse_cases
    {socket : StreamSocket} (fuel : ℕ)
    (hsocket : openSocket environment.system host options.port
      options.timeoutMs = .ok socket) :
    (∃ run, Withheld environment host options fuel run ∧ ∀ request,
      converse environment fuel socket host request options = run) ∨
    ∃ serverName connection,
      Opens environment host options socket serverName ∧
      handshake environment.schannel fuel socket serverName
        options.certificateSha256 = some (.ok connection) ∧
      ∀ request, converse environment fuel socket host request options =
        exchange environment fuel connection request := by
  unfold converse
  cases hwide : toWide environment.system host with
  | error error =>
      refine Or.inl ⟨_, ?_, fun request => rfl⟩
      refine ⟨rfl, fun _ => ⟨error, rfl⟩, (fun hnone => nomatch hnone), ?_⟩
      rintro next ⟨⟩
      exact ⟨socket, hsocket, SentFrom.refl _ socket⟩
  | ok serverName =>
      dsimp only
      cases hhandshake : handshake environment.schannel fuel socket serverName
          options.certificateSha256 with
      | none =>
          refine Or.inl ⟨_, ?_, fun request => rfl⟩
          refine ⟨rfl, fun hsome => absurd rfl hsome, ?_,
            (fun next hnone => nomatch hnone)⟩
          exact fun _ => ⟨socket, serverName, ⟨hsocket, hwide⟩, hhandshake⟩
      | some result =>
          cases result with
          | error left =>
              refine Or.inl ⟨_, ?_, fun request => rfl⟩
              refine ⟨rfl, fun _ => ⟨failure .tlsFailed, rfl⟩,
                (fun hnone => nomatch hnone), ?_⟩
              rintro next ⟨⟩
              exact ⟨socket, hsocket, handshake_error_sent hhandshake⟩
          | ok connection =>
              exact Or.inr ⟨serverName, connection, ⟨hsocket, hwide⟩,
                hhandshake, fun request => rfl⟩

/-- The run of credentials that were encoded as this request. -/
def authenticateWith (environment : AuthEnvironment κ) (fuel : ℕ)
    (host : List UInt8) (options : AuthOptions) (request : List UInt8) :
    Authentication :=
  if host = [] ∨ options.port = 0 ∨ options.timeoutMs = 0 then
    .failed (failure .invalidInput)
  else if !environment.system.startup then .failed (failure .connectionFailed)
  else
    match openSocket environment.system host options.port
        options.timeoutMs with
    | .error error => .failed error
    | .ok socket => converse environment fuel socket host request options

theorem authenticate_encoded
    {request : List UInt8} (hrequest : Encodes environment credentials request)
    (fuel : ℕ) :
    authenticate environment fuel host credentials options =
      authenticateWith environment fuel host options request := by
  unfold authenticate authenticateWith
  rewrite [hrequest]
  rfl

theorem authenticateWith_cases
    (environment : AuthEnvironment κ) (host : List UInt8)
    (options : AuthOptions) (fuel : ℕ) :
    (∃ run, Withheld environment host options fuel run ∧ ∀ request,
      authenticateWith environment fuel host options request = run) ∨
    ∃ socket serverName connection,
      Opens environment host options socket serverName ∧
      handshake environment.schannel fuel socket serverName
        options.certificateSha256 = some (.ok connection) ∧
      ∀ request, authenticateWith environment fuel host options request =
        exchange environment fuel connection request := by
  unfold authenticateWith
  split
  · exact Or.inl ⟨_, withheld_failed fuel _, fun request => rfl⟩
  split
  · exact Or.inl ⟨_, withheld_failed fuel _, fun request => rfl⟩
  split
  · exact Or.inl ⟨_, withheld_failed fuel _, fun request => rfl⟩
  · rename_i socket hsocket
    rcases converse_cases fuel hsocket with hwithheld | hexchange
    · exact Or.inl hwithheld
    · exact Or.inr ⟨socket, hexchange⟩

/-- A run whose credentials were not encoded. -/
structure Unencoded (environment : AuthEnvironment κ)
    (credentials : AuthCredentials) (run : Authentication) : Prop where
  unencoded : ∀ request, ¬Encodes environment credentials request
  request : run.request = none
  socket : run.socket = none
  failed : (∃ error, run.outcome = some (.ok (.error error))) ∨
    ∃ exception,
      encodeLoginAttempt environment.serializer credentials =
        .error exception ∧
      run.outcome = some (.error exception)

theorem authenticate_unencoded
    (hunencoded : ∀ request, ¬Encodes environment credentials request)
    (fuel : ℕ) :
    Unencoded environment credentials
      (authenticate environment fuel host credentials options) := by
  unfold authenticate
  split
  · exact ⟨hunencoded, rfl, rfl, Or.inl ⟨_, rfl⟩⟩
  split
  · rename_i exception hencode
    exact ⟨hunencoded, rfl, rfl, Or.inr ⟨exception, hencode, rfl⟩⟩
  · exact ⟨hunencoded, rfl, rfl, Or.inl ⟨_, rfl⟩⟩
  · rename_i request hencode
    exact absurd hencode (hunencoded request)

/-- A run that handed over its request. -/
structure HandedOver (environment : AuthEnvironment κ) (host : List UInt8)
    (credentials : AuthCredentials) (options : AuthOptions) (fuel : ℕ)
    (run : Authentication) (request : List UInt8) : Prop where
  encodes : Encodes environment credentials request
  request : run.request = some request
  established : ∃ socket serverName connection,
    Opens environment host options socket serverName ∧
    handshake environment.schannel fuel socket serverName
      options.certificateSha256 = some (.ok connection)

/-- Credentials are not encoded, or withheld and then like any others, or
handed over behind a handshake that returned true. -/
theorem authenticate_cases
    (environment : AuthEnvironment κ) (host : List UInt8)
    (credentials : AuthCredentials) (options : AuthOptions) (fuel : ℕ) :
    let run := authenticate environment fuel host credentials options
    Unencoded environment credentials run ∨
    (Withheld environment host options fuel run ∧
      ∀ other request, Encodes environment other request →
        authenticate environment fuel host other options = run) ∨
    ∃ request, HandedOver environment host credentials options fuel run
      request := by
  intro run
  by_cases hencodes : ∃ request, Encodes environment credentials request
  · obtain ⟨request, hrequest⟩ := hencodes
    have hrun : run =
        authenticateWith environment fuel host options request :=
      authenticate_encoded hrequest fuel
    right
    rcases authenticateWith_cases environment host options fuel with
      ⟨withheld, hwithheld, hsame⟩ |
        ⟨socket, serverName, connection, hopens, hhandshake, hexchange⟩
    · left
      rw [hrun, hsame request]
      refine ⟨hwithheld, ?_⟩
      intro other otherRequest hother
      rw [authenticate_encoded hother, hsame otherRequest]
    · right
      rw [hexchange request] at hrun
      refine ⟨request, hrequest, ?_,
        ⟨socket, serverName, connection, hopens, hhandshake⟩⟩
      rw [hrun, exchange_request]
  · exact Or.inl (authenticate_unencoded (not_exists.mp hencodes) fuel)

theorem request_validated
    {fuel : ℕ} {request : List UInt8}
    (hrequest : (authenticate environment fuel host credentials
      options).request = some request) :
    Encodes environment credentials request ∧
      ∃ socket serverName connection,
        Opens environment host options socket serverName ∧
        handshake environment.schannel fuel socket serverName
          options.certificateSha256 = some (.ok connection) ∧
        Validated environment.schannel socket serverName
          options.certificateSha256 connection := by
  rcases authenticate_cases environment host credentials options fuel with
    hunencoded | ⟨hwithheld, -⟩ | ⟨other, hhanded⟩
  · rw [hunencoded.request] at hrequest
    cases hrequest
  · rw [hwithheld.request] at hrequest
    cases hrequest
  · obtain ⟨socket, serverName, connection, hopens, hhandshake⟩ :=
      hhanded.established
    have heq : other = request :=
      Option.some.inj (hhanded.request.symm.trans hrequest)
    exact ⟨heq ▸ hhanded.encodes, socket, serverName, connection, hopens,
      hhandshake, handshake_validated hhandshake⟩

/-- What holds of a run that hands nothing over. -/
theorem authenticate_withheld
    {fuel : ℕ}
    (hnone : (authenticate environment fuel host credentials
      options).request = none) :
    let run := authenticate environment fuel host credentials options
    Unencoded environment credentials run ∨
    (Withheld environment host options fuel run ∧
      ∀ other request, Encodes environment other request →
        authenticate environment fuel host other options = run) := by
  intro run
  rcases authenticate_cases environment host credentials options fuel with
    hunencoded | hwithheld | ⟨request, hhanded⟩
  · exact Or.inl hunencoded
  · exact Or.inr hwithheld
  · rw [hhanded.request] at hnone
    cases hnone

theorem withheld_ends
    (hconsumes : environment.schannel.toSecurityPackage.Consumes)
    (host : List UInt8) (credentials : AuthCredentials)
    (options : AuthOptions) :
    ∃ bound, ∀ fuel, bound < fuel →
      (authenticate environment fuel host credentials options).request =
        none →
      (authenticate environment fuel host credentials options).outcome ≠
        none := by
  -- The bound is that of the only handshake the run can come to.
  have hbound : ∃ bound, ∀ socket serverName,
      Opens environment host options socket serverName →
      ∀ fuel, bound < fuel → handshake environment.schannel fuel socket
        serverName options.certificateSha256 ≠ none := by
    by_cases hopens : ∃ socket serverName,
        Opens environment host options socket serverName
    · obtain ⟨socket, serverName, hsocket, hname⟩ := hopens
      obtain ⟨bound, hends⟩ := handshake_ends hconsumes socket serverName
        options.certificateSha256
      refine ⟨bound, ?_⟩
      rintro other otherName ⟨hother, hotherName⟩
      rw [hsocket] at hother
      rw [hname] at hotherName
      cases hother
      cases hotherName
      exact hends
    · refine ⟨0, ?_⟩
      intro socket serverName hother
      exact absurd ⟨socket, serverName, hother⟩ hopens
  obtain ⟨bound, hends⟩ := hbound
  refine ⟨bound, ?_⟩
  intro fuel hfuel hnone houtcome
  rcases authenticate_withheld hnone with hunencoded | ⟨hwithheld, -⟩
  · rcases hunencoded.failed with ⟨error, hsome⟩ | ⟨exception, -, hsome⟩
    · rw [houtcome] at hsome
      cases hsome
    · rw [houtcome] at hsome
      cases hsome
  · obtain ⟨socket, serverName, hopens, hrunning⟩ := hwithheld.ended houtcome
    exact hends socket serverName hopens fuel hfuel hrunning

/-- The request is handed to `Send` only behind a handshake that returned
true.  Otherwise a run that ends fails, no run depends on which credentials
it withholds, and the handshake sends nothing but tokens of the package; with
a package that consumes, a run that withholds its request ends. -/
theorem credentials_only_over_validated_connection
    (environment : AuthEnvironment κ) (host : List UInt8)
    (credentials : AuthCredentials) (options : AuthOptions) :
    let run := fun fuel =>
      authenticate environment fuel host credentials options
    (∀ fuel request, (run fuel).request = some request →
      Encodes environment credentials request ∧
      ∃ socket serverName connection,
        Opens environment host options socket serverName ∧
        handshake environment.schannel fuel socket serverName
          options.certificateSha256 = some (.ok connection) ∧
        Validated environment.schannel socket serverName
          options.certificateSha256 connection) ∧
    (∀ fuel, (run fuel).request = none → (run fuel).outcome ≠ none →
      (∃ error, (run fuel).outcome = some (.ok (.error error))) ∨
      ∃ exception,
        encodeLoginAttempt environment.serializer credentials =
          .error exception ∧
        (run fuel).outcome = some (.error exception) ∧
        (run fuel).socket = none) ∧
    (∀ fuel, (run fuel).request = none → ∀ request other otherRequest,
      Encodes environment credentials request →
      Encodes environment other otherRequest →
      authenticate environment fuel host other options = run fuel) ∧
    (∀ fuel, (run fuel).request = none →
      ∀ next, (run fuel).socket = some next → ∃ socket,
        openSocket environment.system host options.port options.timeoutMs =
          .ok socket ∧
        SentFrom environment.schannel.IsToken socket next) ∧
    (∀ socket serverName state,
      HandshakeReaches environment.schannel socket serverName
        options.certificateSha256 state →
      SentFrom environment.schannel.IsToken socket state.1.socket) ∧
    (environment.schannel.toSecurityPackage.Consumes → ∃ bound, ∀ fuel,
      bound < fuel → (run fuel).request = none →
        (run fuel).outcome ≠ none) := by
  intro run
  refine ⟨fun fuel request hrequest => request_validated hrequest,
    ?_, ?_, ?_, fun socket serverName state hreaches =>
      handshakeReaches_sent hreaches,
    fun hconsumes => withheld_ends hconsumes host credentials options⟩
  · intro fuel hnone hended
    rcases authenticate_withheld hnone with hunencoded | ⟨hwithheld, -⟩
    · rcases hunencoded.failed with herror | ⟨exception, hthrown, houtcome⟩
      · exact Or.inl herror
      · exact Or.inr ⟨exception, hthrown, houtcome, hunencoded.socket⟩
    · exact Or.inl (hwithheld.failed hended)
  · intro fuel hnone request other otherRequest hrequest hother
    rcases authenticate_withheld hnone with hunencoded | ⟨-, hsame⟩
    · exact absurd hrequest (hunencoded.unencoded request)
    · exact hsame other otherRequest hother
  · intro fuel hnone next hnext
    rcases authenticate_withheld hnone with hunencoded | ⟨hwithheld, -⟩
    · rw [hunencoded.socket] at hnext
      cases hnext
    · exact hwithheld.sent next hnext

end Authenticate

/-! ## A package that stalls and one that accepts -/

def exampleSocket : StreamSocket where
  incoming := [0x16]
  recvOutcomes := fun _ => .data 0
  sendOutcomes := fun _ => .accepted 0
  log := []

def exampleCandidate : Candidate where
  socket := some exampleSocket
  nonblockingSet := true
  connectResult := .connected
  selected := 0
  inErrorSet := false
  socketError := none
  blockingSet := true
  receiveTimeoutSet := true
  sendTimeoutSet := true

def exampleSystem : System where
  startup := true
  getaddrinfo := fun _ _ => some [fun _ => exampleCandidate]
  multiByteToWideChar := fun input _ =>
    (input.length, input.map UInt8.toUInt16)

def exampleCredentials : AuthCredentials := ⟨[0x75], [0x70], []⟩

def examplePin : CertificateSha256 :=
  ⟨List.replicate certificateSha256Size 7, rfl⟩

/-- Every answer of the loop has this status, no token, and this extra. -/
def exampleSchannel (status : SecurityStatus)
    (extra : List UInt8 → Option ℕ) : Schannel Unit where
  acquireCredentialsHandle := fun _ => some ()
  beginSecurityContext := fun _ _ => ⟨(), .continueNeeded, none, none⟩
  initializeSecurityContext := fun _ input => ⟨(), status, none, extra input⟩
  completeAuthToken := fun _ => some ()
  queryStreamSizes := fun _ => some ⟨5, 16, 1024⟩
  decryptMessage := fun _ buffer => ⟨(), .failed, buffer, [], none⟩
  queryRemoteCertificate := fun _ =>
    some (some ⟨some (examplePin, certificateSha256Size)⟩)
  encryptMessage := fun _ _ plaintext => some ⟨(), [], plaintext, []⟩

def exampleAuthEnvironment (schannel : Schannel Unit) :
    AuthEnvironment Unit where
  system := exampleSystem
  schannel := schannel
  serializer := referenceSerializer

/-- It asks for more and consumes nothing. -/
def stallingSchannel : Schannel Unit :=
  exampleSchannel .continueNeeded fun input => some input.length

def acceptingSchannel : Schannel Unit := exampleSchannel .ok fun _ => none

theorem exampleCredentials_encode (schannel : Schannel Unit) :
    Encodes (exampleAuthEnvironment schannel) exampleCredentials
      (Json.write (loginRequest exampleCredentials).toJson) := by
  have hutf8 : (loginRequest exampleCredentials).isUtf8 = true := by rfl
  have haccepted : ¬(exampleCredentials.username = [] ∨
      maximumUsernameSize < exampleCredentials.username.length ∨
      exampleCredentials.password = [] ∨
      maximumPasswordSize < exampleCredentials.password.length ∨
      containsNull exampleCredentials.username ∨
      containsNull exampleCredentials.password ∨
      containsNull exampleCredentials.otp) := by decide
  unfold Encodes encodeLoginAttempt
  rw [if_neg haccepted]
  simp [exampleAuthEnvironment, referenceSerializer, hutf8, Except.map]

/-- Bytes that are there stay, and the socket has one to begin with. -/
theorem stalling_turn
    (state : TlsConnection Unit × List UInt8)
    (hstate : state.2 ≠ [] ∨ state.1.socket = exampleSocket) :
    ∃ next, handshakeTurn stallingSchannel.toSecurityPackage state =
      .again next ∧ (next.2 ≠ [] ∨ next.1.socket = exampleSocket) := by
  obtain ⟨connection, encrypted⟩ := state
  cases encrypted with
  | nil =>
      have hsocket : connection.socket = exampleSocket :=
        hstate.resolve_left (fun hne => hne rfl)
      cases connection
      cases hsocket
      exact ⟨_, rfl, Or.inl (List.cons_ne_nil _ _)⟩
  | cons byte rest =>
      refine ⟨(_, preserveExtra (byte :: rest) (some (byte :: rest).length)),
        rfl, Or.inl ?_⟩
      rw [preserveExtra_eq]
      simp

theorem exampleEnvironment_converse
    (schannel : Schannel Unit) (fuel : ℕ) (request : List UInt8)
    (pin : Option CertificateSha256) :
    authenticateWith (exampleAuthEnvironment schannel) fuel [0x68]
        { certificateSha256 := pin } request =
      converse (exampleAuthEnvironment schannel) fuel exampleSocket [0x68]
        request { certificateSha256 := pin } := by
  rfl

theorem exampleSystem_toWide : toWide exampleSystem [0x68] = .ok [0x68] := by
  rfl

theorem exampleSchannel_handshake
    (status : SecurityStatus) (extra : List UInt8 → Option ℕ) (fuel : ℕ) :
    handshake (exampleSchannel status extra) fuel exampleSocket [0x68] none =
      concludeHandshake (exampleSchannel status extra) none
        (continueHandshake (exampleSchannel status extra).toSecurityPackage
          fuel { socket := exampleSocket, context := () } []) := by
  rfl

/-- The handshake of a package that consumes nothing goes on for ever. -/
theorem stalling_never_returns :
    ¬∃ fuel, authenticate (exampleAuthEnvironment stallingSchannel) fuel
      [0x68] exampleCredentials {} ≠ { outcome := none } := by
  rintro ⟨fuel, hreturns⟩
  apply hreturns
  have hnone : continueHandshake stallingSchannel.toSecurityPackage fuel
      { socket := exampleSocket, context := () } [] = none := by
    rw [continueHandshake_eq_iterate]
    exact Turn.iterate_none_of_again stalling_turn (Or.inr rfl) fuel
  have hhandshake : handshake stallingSchannel fuel exampleSocket [0x68]
      none = none := by
    unfold stallingSchannel at hnone ⊢
    rw [exampleSchannel_handshake, hnone]
    rfl
  rw [authenticate_encoded (exampleCredentials_encode stallingSchannel),
    exampleEnvironment_converse]
  unfold converse exampleAuthEnvironment
  dsimp only
  rw [exampleSystem_toWide]
  dsimp only
  rw [hhandshake]

theorem accepting_hands_over :
    (authenticate (exampleAuthEnvironment acceptingSchannel) 1 [0x68]
      exampleCredentials { certificateSha256 := some examplePin }).request =
        some (Json.write (loginRequest exampleCredentials).toJson) := by
  rw [authenticate_encoded (exampleCredentials_encode acceptingSchannel),
    exampleEnvironment_converse]
  exact exchange_request 1 _ _

theorem accepting_connection_validated :
    ∃ socket serverName connection,
      Validated acceptingSchannel socket serverName (some examplePin)
        connection := by
  obtain ⟨hvalidated, -⟩ := credentials_only_over_validated_connection
    (exampleAuthEnvironment acceptingSchannel) [0x68] exampleCredentials
    { certificateSha256 := some examplePin }
  obtain ⟨-, socket, serverName, connection, -, -, hconnection⟩ :=
    hvalidated 1 _ accepting_hands_over
  exact ⟨socket, serverName, connection, hconnection⟩

end Revana.Login
