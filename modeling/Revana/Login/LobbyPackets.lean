import Revana.Foundation.ByteWords

/-!
# Lobby packets

The packet builders, the packet parsers and the map-key derivation of
`lobby_packets.cpp`.  One call of the platform's MD5 is a parameter which may
report failure, so every function that hashes takes it as an argument.
-/

namespace Revana.Login

open Foundation

def sessionHashSize : ℕ := 16
def mapSessionKeySize : ℕ := 20
def clientVersionSize : ℕ := 10
def dataRequestSize : ℕ := 28
def viewLoginSize : ℕ := 152
def keyResponseSize : ℕ := 40
def lobbyHeaderSize : ℕ := 28
def characterListHeaderSize : ℕ := 32
def characterEntrySize : ℕ := 140
def lobbyTerminator : UInt32 := 0x46465849

abbrev SessionHash := Bytes 16
abbrev MapSessionKey := Bytes 20
abbrev MapCipherKey := Bytes 16
abbrev LobbyIdentifier := Bytes 16
abbrev ClientVersion := Bytes 10
abbrev Ipv4Address := Bytes 4

/-- One call of the platform's MD5: the digest, or `none` when it fails. -/
abbrev Md5 := List UInt8 → Option (Bytes 16)

/-- A fixed digest function one of whose calls was available or was not. -/
def md5Call (digest : List UInt8 → Bytes 16) (available : Bool) : Md5 :=
  fun bytes => if available then some (digest bytes) else none

structure SessionMaterial where
  accountId : UInt32
  sessionHash : SessionHash

def lobbyMarker : List UInt8 := [0x49, 0x58, 0x46, 0x46]

def authenticatedLobbyCommands : List UInt32 :=
  [0x07, 0x14, 0x1F, 0x21, 0x22, 0x24, 0x26, 0x28, 0x2B]

inductive ParseError where
  | truncated
  | invalidSize
  | invalidTerminator
  | unexpectedCommand
  | invalidCharacterCount
  | invalidIdentifier
  | checksumUnavailable
  deriving DecidableEq, Repr

def copySessionHash (bytes : List UInt8) (sessionHash : SessionHash) :
    List UInt8 :=
  splice bytes 12 sessionHash.val

/-! ## Validation shared by the parsers -/

def validateLobbyHeader (bytes : List UInt8) (expectedCommand : UInt32)
    (minimumSize : ℕ) : Except ParseError ℕ :=
  if bytes.length < minimumSize then .error .truncated
  else
    let packetSize := (readLe32 (byteAt bytes) 0).toNat
    if packetSize < minimumSize ∨ packetSize > bytes.length then
      .error .invalidSize
    else if readLe32 (byteAt bytes) 4 ≠ lobbyTerminator then
      .error .invalidTerminator
    else if readLe32 (byteAt bytes) 8 ≠ expectedCommand then
      .error .unexpectedCommand
    else .ok packetSize

def calculateLobbyIdentifier (md5 : Md5) (bytes : List UInt8) :
    Except ParseError LobbyIdentifier :=
  if bytes.length < lobbyHeaderSize then .error .truncated
  else
    let packetSize := (readLe32 (byteAt bytes) 0).toNat
    if packetSize < lobbyHeaderSize ∨ packetSize > bytes.length then
      .error .invalidSize
    else
      let hashInput :=
        splice (bytes.take packetSize) 12 (List.replicate 16 0)
      match md5 hashInput with
      | none => .error .checksumUnavailable
      | some identifier => .ok identifier

def validateLobbyIdentifier (md5 : Md5) (bytes : List UInt8)
    (packetSize : ℕ) : Except ParseError Unit :=
  match calculateLobbyIdentifier md5 (bytes.take packetSize) with
  | .error error => .error error
  | .ok calculated =>
      if calculated.val = (bytes.drop 12).take 16 then .ok ()
      else .error .invalidIdentifier

/-! ## Outgoing packets -/

/-- `PrepareLobbySend`: whether the packet was recognized, and `output`. -/
def prepareLobbySend (source : List UInt8)
    (peerPort dataPort viewPort : UInt16) (sessionHash : SessionHash)
    (clientVersion : ClientVersion) : Bool × List UInt8 :=
  if (peerPort ≠ dataPort ∧ peerPort ≠ viewPort) ∨
      source.length < dataRequestSize ∨
      (source.drop 4).take 4 ≠ lobbyMarker then
    (false, [])
  else
    let command := readLe32 (byteAt source) 8
    if command ∉ authenticatedLobbyCommands then (false, [])
    else
      let output := copySessionHash source sessionHash
      if command = 0x26 then
        if peerPort ≠ viewPort ∨ output.length < viewLoginSize then
          (false, [])
        else (true, splice output 116 clientVersion.val)
      else (true, output)

theorem copySessionHash_length
    {bytes : List UInt8} (hbytes : dataRequestSize ≤ bytes.length)
    (sessionHash : SessionHash) :
    (copySessionHash bytes sessionHash).length = bytes.length := by
  have hhash := sessionHash.property
  exact splice_length (by simp only [dataRequestSize] at hbytes; omega)

/-- A prepared packet keeps its length and its bytes before the session hash. -/
theorem prepareLobbySend_frame
    {source : List UInt8} {peerPort dataPort viewPort : UInt16}
    {sessionHash : SessionHash} {clientVersion : ClientVersion}
    (hprepared : (prepareLobbySend source peerPort dataPort viewPort
      sessionHash clientVersion).1 = true) :
    let output := (prepareLobbySend source peerPort dataPort viewPort
      sessionHash clientVersion).2
    output.length = source.length ∧
      ∀ index < 12, byteAt output index = byteAt source index := by
  simp only [prepareLobbySend] at hprepared ⊢
  split_ifs at hprepared ⊢ with hunrelated hcommand hlogin hinvalid
  · have hsource : dataRequestSize ≤ source.length := by
      simp only [not_or, not_lt] at hunrelated
      exact hunrelated.2.1
    have hlength := copySessionHash_length hsource sessionHash
    have hversion := clientVersion.property
    simp only [not_or, not_lt, viewLoginSize] at hinvalid
    constructor
    · rw [splice_length (by omega), hlength]
    · intro index hindex
      simp only [dataRequestSize] at hsource
      rw [byteAt_splice_of_lt (by omega) (by omega), copySessionHash,
        byteAt_splice_of_lt (by omega) hindex]
  · have hsource : dataRequestSize ≤ source.length := by
      simp only [not_or, not_lt] at hunrelated
      exact hunrelated.2.1
    refine ⟨copySessionHash_length hsource sessionHash, ?_⟩
    intro index hindex
    simp only [dataRequestSize] at hsource
    exact byteAt_splice_of_lt (by omega) hindex

def makeDataBind (sessionHash : SessionHash) : List UInt8 :=
  copySessionHash ((List.replicate dataRequestSize 0).set 0 0xFE) sessionHash

def makeDataAccountRequest (session : SessionMaterial)
    (serverAddress : Ipv4Address) : List UInt8 :=
  let packet := (List.replicate dataRequestSize 0).set 0 0xA1
  let packet := writeLe32 packet 1 session.accountId
  let packet := splice packet 5 serverAddress.val
  copySessionHash packet session.sessionHash

def makeDataSelectionRequest (mapSessionKey : MapSessionKey) : List UInt8 :=
  splice ((List.replicate dataRequestSize 0).set 0 0xA2) 1 mapSessionKey.val

def makeViewLogin (sessionHash : SessionHash) (clientVersion : ClientVersion) :
    List UInt8 :=
  let packet := List.replicate viewLoginSize 0
  let packet := writeLe32 packet 0 (UInt32.ofNat viewLoginSize)
  let packet := writeLe32 packet 4 lobbyTerminator
  let packet := writeLe32 packet 8 0x26
  let packet := copySessionHash packet sessionHash
  splice packet 116 clientVersion.val

theorem makeDataBind_length (sessionHash : SessionHash) :
    (makeDataBind sessionHash).length = dataRequestSize := by
  have hhash := sessionHash.property
  exact splice_length (by simp [hhash, dataRequestSize])

theorem makeDataAccountRequest_length
    (session : SessionMaterial) (serverAddress : Ipv4Address) :
    (makeDataAccountRequest session serverAddress).length =
      dataRequestSize := by
  have hhash := session.sessionHash.property
  have haddress := serverAddress.property
  simp [makeDataAccountRequest, copySessionHash, writeLe32, splice,
    dataRequestSize, hhash, haddress]

theorem makeDataSelectionRequest_length (mapSessionKey : MapSessionKey) :
    (makeDataSelectionRequest mapSessionKey).length = dataRequestSize := by
  have hkey := mapSessionKey.property
  exact splice_length (by simp [hkey, dataRequestSize])

theorem makeViewLogin_length
    (sessionHash : SessionHash) (clientVersion : ClientVersion) :
    (makeViewLogin sessionHash clientVersion).length = viewLoginSize := by
  have hhash := sessionHash.property
  have hversion := clientVersion.property
  simp [makeViewLogin, copySessionHash, writeLe32, splice, viewLoginSize,
    hhash, hversion]

/-! ## Map keys -/

/-- `GenerateMapSessionKey` on one answer of the random generator. -/
def generateMapSessionKey (random : Option MapSessionKey) :
    Bool × MapSessionKey :=
  match random with
  | none => (false, Bytes.zero 20)
  | some key => (true, key)

def rolloverWordOffset : ℕ := 4 * 4

def rolloverWord (key : MapSessionKey) : UInt32 :=
  readLe32 (byteAt key.val) rolloverWordOffset

def withRolloverWord (key : MapSessionKey) (word : UInt32) : MapSessionKey :=
  ⟨writeLe32 key.val rolloverWordOffset word, by
    rw [writeLe32_length word (by simp [key.property, rolloverWordOffset])]
    exact key.property⟩

def advanceMapSessionKey (key : MapSessionKey) : MapSessionKey :=
  withRolloverWord key (rolloverWord key + 2)

/-- `std::find` of the first zero byte and `std::fill` from there on. -/
def zeroFromFirstZero (bytes : List UInt8) : List UInt8 :=
  let kept := bytes.takeWhile (· ≠ 0)
  kept ++ List.replicate (bytes.length - kept.length) 0

theorem zeroFromFirstZero_length (bytes : List UInt8) :
    (zeroFromFirstZero bytes).length = bytes.length := by
  have hkept : (bytes.takeWhile (· ≠ 0)).length ≤ bytes.length :=
    (List.takeWhile_prefix _).length_le
  simp only [zeroFromFirstZero, List.length_append, List.length_replicate]
  omega

def truncateDigest (digest : Bytes 16) : MapCipherKey :=
  ⟨zeroFromFirstZero digest.val, by
    rw [zeroFromFirstZero_length, digest.property]⟩

def deriveMapCipherKey (md5 : Md5) (mapSessionKey : MapSessionKey) :
    Option MapCipherKey :=
  (md5 mapSessionKey.val).map truncateDigest

@[simp] theorem rolloverWord_withRolloverWord
    (key : MapSessionKey) (word : UInt32) :
    rolloverWord (withRolloverWord key word) = word :=
  readLe32_writeLe32 word (by simp [key.property, rolloverWordOffset])

theorem withRolloverWord_take (key : MapSessionKey) (word : UInt32) :
    (withRolloverWord key word).val.take rolloverWordOffset =
      key.val.take rolloverWordOffset :=
  splice_take (by simp [key.property, rolloverWordOffset])

/-- The cipher key is the digest up to its first zero byte, then zeros. -/
def TruncatedAtFirstZero (digest : Bytes 16) (cipherKey : MapCipherKey) :
    Prop :=
  ∀ index < 16,
    ((∃ first ≤ index, byteAt digest.val first = 0) →
      byteAt cipherKey.val index = 0) ∧
    ((∀ earlier ≤ index, byteAt digest.val earlier ≠ 0) →
      byteAt cipherKey.val index = byteAt digest.val index)

theorem zeroFromFirstZero_byteAt
    (bytes : List UInt8) {index : ℕ} (hindex : index < bytes.length) :
    ((∃ first ≤ index, byteAt bytes first = 0) →
      byteAt (zeroFromFirstZero bytes) index = 0) ∧
    ((∀ earlier ≤ index, byteAt bytes earlier ≠ 0) →
      byteAt (zeroFromFirstZero bytes) index = byteAt bytes index) := by
  induction bytes generalizing index with
  | nil => simp at hindex
  | cons byte rest ih =>
      by_cases hbyte : byte = 0
      · subst hbyte
        have hzeros : zeroFromFirstZero (0 :: rest) =
            List.replicate (rest.length + 1) 0 := by
          simp [zeroFromFirstZero]
        constructor
        · intro _
          simp only [hzeros, byteAt, List.getD_eq_getElem?_getD,
            List.getElem?_replicate]
          split <;> rfl
        · intro hkept
          exact absurd rfl (hkept 0 (Nat.zero_le _))
      · have hcons : zeroFromFirstZero (byte :: rest) =
            byte :: zeroFromFirstZero rest := by
          simp [zeroFromFirstZero, hbyte]
        rw [hcons]
        cases index with
        | zero =>
            constructor
            · rintro ⟨first, hfirst, hvalue⟩
              obtain rfl : first = 0 := by omega
              exact absurd hvalue hbyte
            · intro _
              rfl
        | succ index =>
            obtain ⟨hzeroed, hsame⟩ :=
              ih (by simpa using hindex : index < rest.length)
            constructor
            · rintro ⟨first, hfirst, hvalue⟩
              cases first with
              | zero => exact absurd hvalue hbyte
              | succ first =>
                  exact hzeroed ⟨first, by omega, hvalue⟩
            · intro hkept
              exact hsame fun earlier hearlier =>
                hkept (earlier + 1) (by omega)

theorem truncateDigest_spec (digest : Bytes 16) :
    TruncatedAtFirstZero digest (truncateDigest digest) := by
  intro index hindex
  exact zeroFromFirstZero_byteAt digest.val
    (by rw [digest.property]; exact hindex)

/-! ## Incoming packets -/

structure KeyResponse where
  key : UInt32
  expansionMask : UInt32
  featureMask : UInt32
  deriving DecidableEq, Repr

def parseKeyResponse (md5 : Md5) (bytes : List UInt8) :
    Except ParseError KeyResponse :=
  match validateLobbyHeader bytes 0x05 keyResponseSize with
  | .error error => .error error
  | .ok packetSize =>
      if packetSize ≠ keyResponseSize then .error .invalidSize
      else
        match validateLobbyIdentifier md5 bytes packetSize with
        | .error error => .error error
        | .ok () =>
            .ok {
              key := readLe32 (byteAt bytes) 28
              expansionMask := readLe32 (byteAt bytes) 32
              featureMask := readLe32 (byteAt bytes) 36 }

def isCompleteKeyResponse (md5 : Md5) (bytes : List UInt8) : Bool :=
  bytes.length = keyResponseSize && (parseKeyResponse md5 bytes).toBool

structure CharacterSummary where
  contentId : UInt32
  status : UInt16
  name : List UInt8
  deriving DecidableEq, Repr

def readCharacterEntry (bytes : List UInt8) (index : ℕ) : CharacterSummary :=
  let entryOffset := characterListHeaderSize + index * characterEntrySize
  let nameOffset := entryOffset + 12
  { contentId := readLe32 (byteAt bytes) entryOffset
    status := readLe16 (byteAt bytes) (entryOffset + 8)
    name := ((bytes.drop nameOffset).take 16).takeWhile (· ≠ 0) }

def parseCharacterList (md5 : Md5) (bytes : List UInt8) :
    Except ParseError (List CharacterSummary) :=
  match validateLobbyHeader bytes 0x20 characterListHeaderSize with
  | .error error => .error error
  | .ok packetSize =>
      let characterCount := (readLe32 (byteAt bytes) 28).toNat
      if characterCount > 16 then .error .invalidCharacterCount
      else
        let expectedSize :=
          characterListHeaderSize + characterEntrySize * characterCount
        if packetSize ≠ expectedSize then .error .invalidSize
        else
          match validateLobbyIdentifier md5 bytes packetSize with
          | .error error => .error error
          | .ok () =>
              .ok ((List.range characterCount).map (readCharacterEntry bytes))

end Revana.Login
