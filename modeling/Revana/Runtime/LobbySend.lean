import Revana.Runtime.LobbyBridge

/-!
# Outgoing lobby packets

Which guest packets `PrepareLobbySend` rewrites and into what.  The rewrite
overwrites the session hash and, in a view login, the client version, so it
absorbs an earlier rewrite and agrees with the login the bootstrap injects.
-/

namespace Revana.Runtime

open Foundation
open Login

/-- The packets that are rewritten. -/
structure Recognized (source : List UInt8)
    (peerPort dataPort viewPort : UInt16) : Prop where
  port : peerPort = dataPort ∨ peerPort = viewPort
  length : 28 ≤ source.length
  marker : (source.drop 4).take 4 = lobbyMarker
  command : readLe32 (byteAt source) 8 ∈ authenticatedLobbyCommands
  login : readLe32 (byteAt source) 8 = 0x26 →
    peerPort = viewPort ∧ 152 ≤ source.length

def HasRoom (source : List UInt8) : Prop :=
  28 ≤ source.length ∧
    (readLe32 (byteAt source) 8 = 0x26 → 152 ≤ source.length)

/-- The packet with its session hash and its client version overwritten. -/
def authenticated (source : List UInt8) (sessionHash : SessionHash)
    (clientVersion : ClientVersion) : List UInt8 :=
  if readLe32 (byteAt source) 8 = 0x26 then
    splice (splice source 12 sessionHash.val) 116 clientVersion.val
  else splice source 12 sessionHash.val

section Rewrite

variable {source : List UInt8} {peerPort dataPort viewPort : UInt16}
  {sessionHash : SessionHash} {clientVersion : ClientVersion}

theorem Recognized.hasRoom
    (hrecognized : Recognized source peerPort dataPort viewPort) :
    HasRoom source :=
  ⟨hrecognized.length, fun hcommand => (hrecognized.login hcommand).2⟩

/-! ## Recognition -/

theorem prepareLobbySend_of_recognized
    (hrecognized : Recognized source peerPort dataPort viewPort) :
    prepareLobbySend source peerPort dataPort viewPort sessionHash
        clientVersion =
      (true, authenticated source sessionHash clientVersion) := by
  have hpassed : ¬((peerPort ≠ dataPort ∧ peerPort ≠ viewPort) ∨
      source.length < dataRequestSize ∨
      (source.drop 4).take 4 ≠ lobbyMarker) := by
    rintro (⟨hdata, hview⟩ | hshort | hmarker)
    · rcases hrecognized.port with hport | hport
      · exact hdata hport
      · exact hview hport
    · exact absurd hrecognized.length (not_le.mpr hshort)
    · exact hmarker hrecognized.marker
  unfold prepareLobbySend authenticated
  rw [if_neg hpassed]
  dsimp only
  rw [if_neg (not_not.mpr hrecognized.command)]
  by_cases hcommand : readLe32 (byteAt source) 8 = 0x26
  · obtain ⟨hview, hlength⟩ := hrecognized.login hcommand
    have hroom : ¬(peerPort ≠ viewPort ∨
        (copySessionHash source sessionHash).length < viewLoginSize) := by
      rw [copySessionHash_length hrecognized.length]
      rintro (hport | hshort)
      · exact hport hview
      · exact absurd hlength (not_le.mpr hshort)
    rw [if_pos hcommand, if_pos hcommand, if_neg hroom]
    rfl
  · rw [if_neg hcommand, if_neg hcommand]
    rfl

theorem prepareLobbySend_of_not_recognized
    (hunrecognized : ¬Recognized source peerPort dataPort viewPort) :
    prepareLobbySend source peerPort dataPort viewPort sessionHash
        clientVersion = (false, []) := by
  unfold prepareLobbySend
  by_cases hpassed : (peerPort ≠ dataPort ∧ peerPort ≠ viewPort) ∨
      source.length < dataRequestSize ∨
      (source.drop 4).take 4 ≠ lobbyMarker
  · rw [if_pos hpassed]
  rw [if_neg hpassed]
  dsimp only
  by_cases hmember : readLe32 (byteAt source) 8 ∈ authenticatedLobbyCommands
  swap
  · rw [if_pos hmember]
  rw [not_or, not_or, not_and_or, not_not, not_not, not_lt, not_not] at hpassed
  obtain ⟨hport, hlength, hmarker⟩ := hpassed
  have hlogin : ¬(readLe32 (byteAt source) 8 = 0x26 →
      peerPort = viewPort ∧ 152 ≤ source.length) := fun hlogin =>
    hunrecognized ⟨hport, hlength, hmarker, hmember, hlogin⟩
  rw [Classical.not_imp, not_and_or, not_le] at hlogin
  obtain ⟨hcommand, hinvalid⟩ := hlogin
  have hrefused : peerPort ≠ viewPort ∨ source.length < viewLoginSize :=
    hinvalid
  rw [if_neg (not_not.mpr hmember), if_pos hcommand,
    copySessionHash_length hlength, if_pos hrefused]

theorem prepareLobbySend_cases
    (source : List UInt8) (peerPort dataPort viewPort : UInt16)
    (sessionHash : SessionHash) (clientVersion : ClientVersion) :
    (Recognized source peerPort dataPort viewPort ∧
      prepareLobbySend source peerPort dataPort viewPort sessionHash
          clientVersion =
        (true, authenticated source sessionHash clientVersion)) ∨
    (¬Recognized source peerPort dataPort viewPort ∧
      prepareLobbySend source peerPort dataPort viewPort sessionHash
          clientVersion = (false, [])) := by
  by_cases hrecognized : Recognized source peerPort dataPort viewPort
  · exact Or.inl ⟨hrecognized, prepareLobbySend_of_recognized hrecognized⟩
  · exact Or.inr ⟨hrecognized,
      prepareLobbySend_of_not_recognized hrecognized⟩

/-- Recognition looks at the length and the first twelve bytes. -/
theorem Recognized.congr
    {other : List UInt8} (hlength : other.length = source.length)
    (hheader : other.take 12 = source.take 12)
    (hrecognized : Recognized source peerPort dataPort viewPort) :
    Recognized other peerPort dataPort viewPort := by
  have hcommand : readLe32 (byteAt other) 8 = readLe32 (byteAt source) 8 := by
    have hword : readLe32 (byteAt (other.take 12)) 8 =
        readLe32 (byteAt other) 8 := readLe32_take (by omega)
    rw [← hword, hheader, readLe32_take (by omega)]
  have hmarker : (other.drop 4).take 4 = (source.drop 4).take 4 := by
    have hbytes : ((other.take 12).drop 4).take 4 = (other.drop 4).take 4 :=
      drop_take_take (by omega)
    rw [← hbytes, hheader, drop_take_take (by omega)]
  constructor
  · exact hrecognized.port
  · rw [hlength]
    exact hrecognized.length
  · rw [hmarker]
    exact hrecognized.marker
  · rw [hcommand]
    exact hrecognized.command
  · rw [hcommand, hlength]
    exact hrecognized.login

/-! ## The rewritten packet -/

theorem authenticated_length (hroom : HasRoom source) :
    (authenticated source sessionHash clientVersion).length =
      source.length := by
  have hhash := sessionHash.property
  have hversion := clientVersion.property
  have hlength := hroom.1
  have hinner : (splice source 12 sessionHash.val).length = source.length :=
    splice_length (by omega)
  unfold authenticated
  split
  · rename_i hcommand
    have hlogin := hroom.2 hcommand
    rw [splice_length (by omega), hinner]
  · exact hinner

theorem authenticated_take (hroom : HasRoom source) :
    (authenticated source sessionHash clientVersion).take 12 =
      source.take 12 := by
  have hhash := sessionHash.property
  have hlength := hroom.1
  have hinner : (splice source 12 sessionHash.val).length = source.length :=
    splice_length (by omega)
  have hheader : (splice source 12 sessionHash.val).take 12 =
      source.take 12 := splice_take (by omega)
  unfold authenticated
  split
  · have htake : ∀ bytes : List UInt8, bytes.take 12 =
        (bytes.take 116).take 12 := by
      intro bytes
      rw [List.take_take]
      rfl
    rename_i hcommand
    have hlogin := hroom.2 hcommand
    rw [htake, splice_take (by omega), ← htake, hheader]
  · exact hheader

theorem authenticated_command (hroom : HasRoom source) :
    readLe32 (byteAt (authenticated source sessionHash clientVersion)) 8 =
      readLe32 (byteAt source) 8 := by
  have hword : readLe32 (byteAt ((authenticated source sessionHash
      clientVersion).take 12)) 8 =
        readLe32 (byteAt (authenticated source sessionHash clientVersion)) 8 :=
    readLe32_take (by omega)
  rw [← hword, authenticated_take hroom, readLe32_take (by omega)]

/-- The rewrite, byte by byte. -/
theorem authenticated_byteAt
    (hroom : HasRoom source) (index : ℕ) :
    byteAt (authenticated source sessionHash clientVersion) index =
      if 12 ≤ index ∧ index < 28 then byteAt sessionHash.val (index - 12)
      else if readLe32 (byteAt source) 8 = 0x26 ∧ 116 ≤ index ∧ index < 126
      then byteAt clientVersion.val (index - 116)
      else byteAt source index := by
  have hhash := sessionHash.property
  have hversion := clientVersion.property
  have hlength := hroom.1
  have hinner : (splice source 12 sessionHash.val).length = source.length :=
    splice_length (by omega)
  unfold authenticated
  by_cases hcommand : readLe32 (byteAt source) 8 = 0x26
  · have hlogin := hroom.2 hcommand
    rw [if_pos hcommand, byteAt_splice (by omega), byteAt_splice (by omega),
      hhash, hversion]
    by_cases hfirst : 12 ≤ index ∧ index < 28
    · rw [if_neg (by omega), if_pos hfirst, if_pos hfirst]
    · by_cases hsecond : 116 ≤ index ∧ index < 126
      · rw [if_pos hsecond, if_neg hfirst, if_pos ⟨hcommand, hsecond⟩]
      · rw [if_neg hsecond, if_neg hfirst, if_neg hfirst,
          if_neg fun hboth => hsecond hboth.2]
  · rw [if_neg hcommand, byteAt_splice (by omega), hhash]
    by_cases hfirst : 12 ≤ index ∧ index < 28
    · rw [if_pos hfirst, if_pos hfirst]
    · rw [if_neg hfirst, if_neg hfirst,
        if_neg fun hboth => hcommand hboth.1]

theorem HasRoom.authenticated
    (hroom : HasRoom source) (sessionHash : SessionHash)
    (clientVersion : ClientVersion) :
    HasRoom (authenticated source sessionHash clientVersion) := by
  unfold HasRoom
  rw [authenticated_length hroom, authenticated_command hroom]
  exact hroom

/-- A second rewrite absorbs the first. -/
theorem authenticated_authenticated
    (hroom : HasRoom source) (otherHash : SessionHash)
    (otherVersion : ClientVersion) :
    authenticated (authenticated source sessionHash clientVersion) otherHash
        otherVersion =
      authenticated source otherHash otherVersion := by
  have hagain := hroom.authenticated sessionHash clientVersion
  apply ext_byteAt
  · rw [authenticated_length hagain, authenticated_length hroom,
      authenticated_length hroom]
  intro index _
  rw [authenticated_byteAt hagain, authenticated_byteAt hroom,
    authenticated_byteAt hroom, authenticated_command hroom]
  split
  · rfl
  · split
    · rfl
    · rfl

/-- A rewritten packet is prepared like the one it was rewritten from. -/
theorem prepareLobbySend_authenticated
    (hroom : HasRoom source) (otherHash : SessionHash)
    (otherVersion : ClientVersion) :
    prepareLobbySend (authenticated source sessionHash clientVersion) peerPort
        dataPort viewPort otherHash otherVersion =
      prepareLobbySend source peerPort dataPort viewPort otherHash
        otherVersion := by
  have hlength : (authenticated source sessionHash clientVersion).length =
      source.length := authenticated_length hroom
  have hheader : (authenticated source sessionHash clientVersion).take 12 =
      source.take 12 := authenticated_take hroom
  by_cases hrecognized : Recognized source peerPort dataPort viewPort
  · rw [prepareLobbySend_of_recognized (hrecognized.congr hlength hheader),
      prepareLobbySend_of_recognized hrecognized,
      authenticated_authenticated hroom]
  · have hagain : ¬Recognized (authenticated source sessionHash clientVersion)
        peerPort dataPort viewPort := fun hrewritten =>
      hrecognized (hrewritten.congr hlength.symm hheader.symm)
    rw [prepareLobbySend_of_not_recognized hagain,
      prepareLobbySend_of_not_recognized hrecognized]

/-! ## The injected view login -/

/-- `MakeViewLogin` before the session hash and the version are copied in. -/
def viewLoginHeader : List UInt8 :=
  writeLe32 (writeLe32 (writeLe32 (List.replicate viewLoginSize 0) 0
    (UInt32.ofNat viewLoginSize)) 4 lobbyTerminator) 8 0x26

theorem viewLoginHeader_length : viewLoginHeader.length = 152 := by
  simp [viewLoginHeader, writeLe32, splice, viewLoginSize]

theorem viewLoginHeader_command :
    readLe32 (byteAt viewLoginHeader) 8 = 0x26 :=
  readLe32_writeLe32 0x26 (by simp [writeLe32, splice, viewLoginSize])

theorem viewLoginHeader_recognized (dataPort viewPort : UInt16) :
    Recognized viewLoginHeader viewPort dataPort viewPort := by
  constructor
  · exact Or.inr rfl
  · rw [viewLoginHeader_length]
    decide
  · decide
  · rw [viewLoginHeader_command]
    decide
  · intro _
    exact ⟨rfl, le_of_eq viewLoginHeader_length.symm⟩

theorem makeViewLogin_eq_authenticated
    (sessionHash : SessionHash) (clientVersion : ClientVersion) :
    makeViewLogin sessionHash clientVersion =
      authenticated viewLoginHeader sessionHash clientVersion := by
  unfold authenticated
  rw [if_pos viewLoginHeader_command]
  rfl

theorem prepareLobbySend_makeViewLogin
    (dataPort viewPort : UInt16) (otherHash : SessionHash)
    (otherVersion : ClientVersion) :
    prepareLobbySend (makeViewLogin otherHash otherVersion) viewPort dataPort
        viewPort sessionHash clientVersion =
      (true, makeViewLogin sessionHash clientVersion) := by
  have hrecognized := viewLoginHeader_recognized dataPort viewPort
  rw [makeViewLogin_eq_authenticated, makeViewLogin_eq_authenticated,
    prepareLobbySend_authenticated hrecognized.hasRoom,
    prepareLobbySend_of_recognized hrecognized]

/-- The copy back stays within the guest's buffer. -/
theorem beforeSend_copies
    (state : BridgeState) (peerPort : UInt16) (source : List UInt8) :
    let copied := (prepareLobbySend source peerPort state.dataPort
      state.viewPort state.session.sessionHash state.clientVersion).2
    copied.length ≤ source.length ∧
      beforeSend state peerPort source = splice source 0 copied := by
  unfold beforeSend
  rcases prepareLobbySend_cases source peerPort state.dataPort state.viewPort
      state.session.sessionHash state.clientVersion with
    ⟨hrecognized, hprepared⟩ | ⟨-, hprepared⟩
  · have hlength : (authenticated source state.session.sessionHash
        state.clientVersion).length = source.length :=
      authenticated_length hrecognized.hasRoom
    rw [hprepared]
    dsimp only
    refine ⟨le_of_eq hlength, ?_⟩
    rw [if_pos rfl, splice, List.take_zero, List.nil_append, Nat.zero_add,
      hlength, List.drop_length, List.append_nil]
  · rw [hprepared]
    exact ⟨Nat.zero_le _, rfl⟩

end Rewrite

/-- The outgoing rewrite: what it accepts, what it changes, that it absorbs an
earlier one, and that it turns any view login into the injected one. -/
theorem prepareLobbySend_exact
    (source : List UInt8) (peerPort dataPort viewPort : UInt16)
    (sessionHash : SessionHash) (clientVersion : ClientVersion) :
    let prepared := prepareLobbySend source peerPort dataPort viewPort
      sessionHash clientVersion
    (prepared.1 = true ↔ Recognized source peerPort dataPort viewPort) ∧
    (prepared.1 = false → prepared.2 = []) ∧
    (prepared.1 = true →
      prepared.2.length = source.length ∧
      (∀ index, byteAt prepared.2 index =
        if 12 ≤ index ∧ index < 28 then byteAt sessionHash.val (index - 12)
        else if readLe32 (byteAt source) 8 = 0x26 ∧ 116 ≤ index ∧ index < 126
        then byteAt clientVersion.val (index - 116)
        else byteAt source index) ∧
      prepareLobbySend prepared.2 peerPort dataPort viewPort sessionHash
        clientVersion = prepared ∧
      ∀ otherHash otherVersion,
        prepareLobbySend prepared.2 peerPort dataPort viewPort otherHash
            otherVersion =
          prepareLobbySend source peerPort dataPort viewPort otherHash
            otherVersion) ∧
    (∀ otherHash otherVersion,
      prepareLobbySend (makeViewLogin otherHash otherVersion) viewPort dataPort
          viewPort sessionHash clientVersion =
        (true, makeViewLogin sessionHash clientVersion)) ∧
    ∀ state : BridgeState,
      let copied := (prepareLobbySend source peerPort state.dataPort
        state.viewPort state.session.sessionHash state.clientVersion).2
      copied.length ≤ source.length ∧
        beforeSend state peerPort source = splice source 0 copied := by
  intro prepared
  rcases prepareLobbySend_cases source peerPort dataPort viewPort sessionHash
      clientVersion with ⟨hrecognized, hprepared⟩ | ⟨hunrecognized, hprepared⟩
  · have hroom := hrecognized.hasRoom
    have hsome : prepared =
        (true, authenticated source sessionHash clientVersion) := hprepared
    rw [hsome]
    refine ⟨iff_of_true rfl hrecognized, ?_, ?_,
      prepareLobbySend_makeViewLogin dataPort viewPort,
      fun state => beforeSend_copies state peerPort source⟩
    · intro hfalse
      cases hfalse
    · intro _
      refine ⟨authenticated_length hroom, authenticated_byteAt hroom, ?_, ?_⟩
      · rw [prepareLobbySend_authenticated hroom, hprepared]
      · intro otherHash otherVersion
        exact prepareLobbySend_authenticated hroom otherHash otherVersion
  · have hnone : prepared = (false, []) := hprepared
    rw [hnone]
    refine ⟨iff_of_false Bool.false_ne_true hunrecognized, fun _ => rfl, ?_,
      prepareLobbySend_makeViewLogin dataPort viewPort,
      fun state => beforeSend_copies state peerPort source⟩
    intro htrue
    cases htrue

end Revana.Runtime
