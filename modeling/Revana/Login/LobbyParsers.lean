import Revana.Login.LobbyIdentifier

/-!
# The lobby packet parsers

Which byte strings `ParseKeyResponse` and `ParseCharacterList` accept, what
they decode, and that nothing behind the declared size matters.
-/

namespace Revana.Login

open Foundation

/-! ## Headers -/

/-- The checks of `ValidateLobbyHeader`. -/
structure HeaderAccepted (bytes : List UInt8) (command : UInt32)
    (minimumSize : ℕ) : Prop where
  length : minimumSize ≤ bytes.length
  minimum : minimumSize ≤ declaredSize bytes
  declared : declaredSize bytes ≤ bytes.length
  terminator : readLe32 (byteAt bytes) 4 = lobbyTerminator
  command : readLe32 (byteAt bytes) 8 = command

theorem validateLobbyHeader_iff
    {bytes : List UInt8} {command : UInt32} {minimumSize packetSize : ℕ} :
    validateLobbyHeader bytes command minimumSize = .ok packetSize ↔
      HeaderAccepted bytes command minimumSize ∧
        packetSize = declaredSize bytes := by
  unfold validateLobbyHeader
  constructor
  · intro hvalid
    split at hvalid
    · cases hvalid
    rename_i hlength
    dsimp only at hvalid
    split at hvalid
    · cases hvalid
    rename_i hsize
    rw [not_or, not_lt, gt_iff_lt, not_lt] at hsize
    split at hvalid
    · cases hvalid
    rename_i hterminator
    split at hvalid
    · cases hvalid
    rename_i hcommand
    cases hvalid
    exact ⟨⟨not_lt.mp hlength, hsize.1, hsize.2, not_not.mp hterminator,
      not_not.mp hcommand⟩, rfl⟩
  · rintro ⟨haccepted, rfl⟩
    have hsize : ¬((readLe32 (byteAt bytes) 0).toNat < minimumSize ∨
        (readLe32 (byteAt bytes) 0).toNat > bytes.length) := by
      rw [not_or, not_lt, gt_iff_lt, not_lt]
      exact ⟨haccepted.minimum, haccepted.declared⟩
    rw [if_neg (not_lt.mpr haccepted.length)]
    dsimp only
    rw [if_neg hsize, if_neg (not_not.mpr haccepted.terminator),
      if_neg (not_not.mpr haccepted.command)]
    rfl

theorem HeaderAccepted.framed
    {bytes : List UInt8} {command : UInt32} {minimumSize : ℕ}
    (haccepted : HeaderAccepted bytes command minimumSize)
    (hminimum : lobbyHeaderSize ≤ minimumSize) :
    Framed bytes :=
  ⟨le_trans hminimum haccepted.minimum, haccepted.declared⟩

/-! ## Key responses -/

section KeyResponse

variable {md5 : Md5} {bytes : List UInt8}

def readKeyResponse (bytes : List UInt8) : KeyResponse where
  key := readLe32 (byteAt bytes) 28
  expansionMask := readLe32 (byteAt bytes) 32
  featureMask := readLe32 (byteAt bytes) 36

theorem parseKeyResponse_iff
    {response : KeyResponse} :
    parseKeyResponse md5 bytes = .ok response ↔
      HeaderAccepted bytes 0x05 keyResponseSize ∧
        declaredSize bytes = keyResponseSize ∧ IdentifierValid md5 bytes ∧
        response = readKeyResponse bytes := by
  unfold parseKeyResponse
  constructor
  · intro hparsed
    split at hparsed
    · cases hparsed
    rename_i packetSize hheader
    obtain ⟨haccepted, rfl⟩ := validateLobbyHeader_iff.mp hheader
    split at hparsed
    · cases hparsed
    rename_i hsize
    split at hparsed
    · cases hparsed
    rename_i hvalid
    cases hparsed
    have hframed := haccepted.framed (by decide)
    exact ⟨haccepted, not_not.mp hsize,
      (validateLobbyIdentifier_iff hframed).mp hvalid, rfl⟩
  · rintro ⟨haccepted, hsize, hvalid, rfl⟩
    have hheader := validateLobbyHeader_iff.mpr
      ⟨haccepted, (rfl : declaredSize bytes = declaredSize bytes)⟩
    have hframed := haccepted.framed (by decide)
    rw [hheader]
    dsimp only
    rw [if_neg (not_not.mpr hsize),
      (validateLobbyIdentifier_iff hframed).mpr hvalid]
    rfl

theorem isCompleteKeyResponse_iff :
    isCompleteKeyResponse md5 bytes = true ↔
      bytes.length = keyResponseSize ∧
        ∃ response, parseKeyResponse md5 bytes = .ok response := by
  unfold isCompleteKeyResponse
  rw [Bool.and_eq_true, decide_eq_true_eq]
  cases parseKeyResponse md5 bytes with
  | error error => simp [Except.toBool]
  | ok response => simp [Except.toBool]

end KeyResponse

/-! ## Character lists -/

section CharacterList

variable {md5 : Md5} {bytes : List UInt8}

def characterCount (bytes : List UInt8) : ℕ :=
  (readLe32 (byteAt bytes) 28).toNat

/-- The format of a character list. -/
structure CharacterListFormat (md5 : Md5) (bytes : List UInt8) : Prop where
  length : 32 ≤ bytes.length
  declared : declaredSize bytes ≤ bytes.length
  terminator : readLe32 (byteAt bytes) 4 = lobbyTerminator
  command : readLe32 (byteAt bytes) 8 = 0x20
  count : characterCount bytes ≤ 16
  size : declaredSize bytes = 32 + 140 * characterCount bytes
  identifier : IdentifierValid md5 bytes

theorem parseCharacterList_iff
    {characters : List CharacterSummary} :
    parseCharacterList md5 bytes = .ok characters ↔
      CharacterListFormat md5 bytes ∧
        characters = (List.range (characterCount bytes)).map
          (readCharacterEntry bytes) := by
  unfold parseCharacterList
  constructor
  · intro hparsed
    split at hparsed
    · cases hparsed
    rename_i packetSize hheader
    obtain ⟨haccepted, rfl⟩ := validateLobbyHeader_iff.mp hheader
    dsimp only at hparsed
    split at hparsed
    · cases hparsed
    rename_i hcount
    split at hparsed
    · cases hparsed
    rename_i hsize
    split at hparsed
    · cases hparsed
    rename_i hvalid
    cases hparsed
    have hframed := haccepted.framed (by decide)
    exact ⟨⟨haccepted.length, haccepted.declared, haccepted.terminator,
      haccepted.command, not_lt.mp hcount, not_not.mp hsize,
      (validateLobbyIdentifier_iff hframed).mp hvalid⟩, rfl⟩
  · rintro ⟨hformat, rfl⟩
    have hminimum : characterListHeaderSize ≤ declaredSize bytes := by
      have hsize := hformat.size
      unfold characterListHeaderSize
      omega
    have haccepted : HeaderAccepted bytes 0x20 characterListHeaderSize :=
      ⟨hformat.length, hminimum, hformat.declared, hformat.terminator,
        hformat.command⟩
    have hheader := validateLobbyHeader_iff.mpr
      ⟨haccepted, (rfl : declaredSize bytes = declaredSize bytes)⟩
    have hframed := haccepted.framed (by decide)
    have hcount : ¬(readLe32 (byteAt bytes) 28).toNat > 16 :=
      not_lt.mpr hformat.count
    have hsize : ¬declaredSize bytes ≠ characterListHeaderSize +
        characterEntrySize * (readLe32 (byteAt bytes) 28).toNat :=
      not_not.mpr hformat.size
    rw [hheader]
    dsimp only
    rw [if_neg hcount, if_neg hsize,
      (validateLobbyIdentifier_iff hframed).mpr hformat.identifier]
    rfl

/-- The name is the longest prefix of its field without a NUL. -/
structure LongestNulFree (field name : List UInt8) : Prop where
  initial : name <+: field
  nulFree : ∀ byte ∈ name, byte ≠ 0
  longest : ∀ other, other <+: field → (∀ byte ∈ other, byte ≠ 0) →
    other <+: name

theorem longestNulFree_takeWhile (field : List UInt8) :
    LongestNulFree field (field.takeWhile (· ≠ 0)) := by
  constructor
  · exact List.takeWhile_prefix _
  · intro byte hbyte
    have hall : (field.takeWhile (· ≠ 0)).all (· ≠ 0) = true :=
      List.all_takeWhile
    simpa using List.all_eq_true.mp hall byte hbyte
  · intro other hother hfree
    obtain ⟨rest, rfl⟩ := hother
    have hall : ∀ byte ∈ other, decide (byte ≠ 0) = true :=
      fun byte hbyte => decide_eq_true (hfree byte hbyte)
    rw [List.takeWhile_append_of_pos hall]
    exact List.prefix_append _ _

/-- The entry stored at an offset. -/
structure EntryAt (bytes : List UInt8) (offset : ℕ)
    (character : CharacterSummary) : Prop where
  contentId : character.contentId = readLe32 (byteAt bytes) offset
  status : character.status = readLe16 (byteAt bytes) (offset + 8)
  name : LongestNulFree ((bytes.drop (offset + 12)).take 16) character.name

theorem entryOffset (index : ℕ) :
    characterListHeaderSize + index * characterEntrySize =
      32 + 140 * index := by
  rw [Nat.mul_comm]
  rfl

theorem entryAt_readCharacterEntry (bytes : List UInt8) (index : ℕ) :
    EntryAt bytes (32 + 140 * index) (readCharacterEntry bytes index) := by
  rw [← entryOffset]
  exact ⟨rfl, rfl, longestNulFree_takeWhile _⟩

theorem LongestNulFree.unique
    {field name other : List UInt8} (hname : LongestNulFree field name)
    (hother : LongestNulFree field other) :
    name = other := by
  have hle := (hother.longest name hname.initial hname.nulFree)
  have hge := (hname.longest other hother.initial hother.nulFree)
  exact hle.eq_of_length (le_antisymm hle.length_le hge.length_le)

theorem EntryAt.unique
    {offset : ℕ} {character other : CharacterSummary}
    (hcharacter : EntryAt bytes offset character)
    (hother : EntryAt bytes offset other) :
    character = other := by
  have hname := hcharacter.name.unique hother.name
  have hcontent := hcharacter.contentId.trans hother.contentId.symm
  have hstatus := hcharacter.status.trans hother.status.symm
  cases character
  cases other
  simp only at hname hcontent hstatus
  rw [hname, hcontent, hstatus]

/-- What an accepted list holds, entry by entry, within the packet. -/
theorem parseCharacterList_entries
    {characters : List CharacterSummary}
    (hparsed : parseCharacterList md5 bytes = .ok characters) :
    characters.length = characterCount bytes ∧
      ∀ index (hindex : index < characters.length),
        EntryAt bytes (32 + 140 * index) characters[index] ∧
        32 + 140 * index + 28 ≤ declaredSize bytes ∧
        declaredSize bytes ≤ bytes.length := by
  obtain ⟨hformat, rfl⟩ := parseCharacterList_iff.mp hparsed
  have hsize := hformat.size
  refine ⟨by simp, ?_⟩
  intro index hindex
  rw [List.length_map, List.length_range] at hindex
  refine ⟨?_, by omega, hformat.declared⟩
  rw [List.getElem_map, List.getElem_range]
  exact entryAt_readCharacterEntry bytes index

end CharacterList

/-! ## Behind the declared size -/

section Declared

variable {bytes : List UInt8} {size : ℕ}

theorem validateLobbyHeader_take
    {minimumSize : ℕ} (command : UInt32) (hheader : 12 ≤ minimumSize)
    (hminimum : minimumSize ≤ size) (hdeclared : declaredSize bytes ≤ size)
    (hsize : size ≤ bytes.length) :
    validateLobbyHeader (bytes.take size) command minimumSize =
      validateLobbyHeader bytes command minimumSize := by
  have hlength : (bytes.take size).length = size := by
    rw [List.length_take]
    exact min_eq_left hsize
  have hwithin : ¬(readLe32 (byteAt bytes) 0).toNat > size :=
    not_lt.mpr hdeclared
  have hbefore : ¬(readLe32 (byteAt bytes) 0).toNat > bytes.length :=
    not_lt.mpr (le_trans hdeclared hsize)
  unfold validateLobbyHeader
  rw [hlength, readLe32_take (by omega), readLe32_take (by omega),
    readLe32_take (by omega), if_neg (not_lt.mpr hminimum),
    if_neg (not_lt.mpr (le_trans hminimum hsize))]
  simp only [hwithin, hbefore]

theorem validateLobbyIdentifier_take
    {md5 : Md5} {packetSize : ℕ} (hheader : 28 ≤ size)
    (hpacket : packetSize ≤ size) :
    validateLobbyIdentifier md5 (bytes.take size) packetSize =
      validateLobbyIdentifier md5 bytes packetSize := by
  unfold validateLobbyIdentifier
  rw [List.take_take, min_eq_left hpacket, drop_take_take (by omega)]

theorem readCharacterEntry_take
    {index : ℕ} (hentry : 32 + 140 * index + 28 ≤ size) :
    readCharacterEntry (bytes.take size) index =
      readCharacterEntry bytes index := by
  unfold readCharacterEntry
  dsimp only
  rw [entryOffset, readLe32_take (by omega), readLe16_take (by omega),
    drop_take_take (by omega)]

/-- The parser reads nothing behind the declared size and the header. -/
theorem parseCharacterList_take
    (md5 : Md5) (hheader : 32 ≤ size) (hdeclared : declaredSize bytes ≤ size)
    (hsize : size ≤ bytes.length) :
    parseCharacterList md5 (bytes.take size) = parseCharacterList md5 bytes := by
  have haccepted : validateLobbyHeader (bytes.take size) 0x20
      characterListHeaderSize =
        validateLobbyHeader bytes 0x20 characterListHeaderSize :=
    validateLobbyHeader_take 0x20 (by decide) hheader hdeclared hsize
  unfold parseCharacterList
  rw [haccepted, readLe32_take (by omega)]
  split
  · rfl
  · rename_i packetSize hvalid
    obtain ⟨-, rfl⟩ := validateLobbyHeader_iff.mp hvalid
    dsimp only
    split
    · rfl
    split
    · rfl
    rename_i hexact
    rw [validateLobbyIdentifier_take (by omega) hdeclared]
    split
    · rfl
    · congr 1
      apply List.map_congr_left
      intro index hindex
      rw [List.mem_range] at hindex
      apply readCharacterEntry_take
      have hexpected := not_not.mp hexact
      unfold characterListHeaderSize characterEntrySize at hexpected
      omega

/-- Only the header and the declared bytes count. -/
theorem parseCharacterList_congr
    (md5 : Md5) {other : List UInt8}
    (hagree : other.take (max 32 (declaredSize bytes)) =
      bytes.take (max 32 (declaredSize bytes))) :
    parseCharacterList md5 other = parseCharacterList md5 bytes := by
  by_cases hlength : max 32 (declaredSize bytes) ≤ bytes.length
  · have hother : max 32 (declaredSize bytes) ≤ other.length := by
      have hlengths := congrArg List.length hagree
      rw [List.length_take, List.length_take, min_eq_left hlength] at hlengths
      exact min_eq_left_iff.mp hlengths
    have hdeclared : declaredSize other = declaredSize bytes := by
      have hword : readLe32
          (byteAt (other.take (max 32 (declaredSize bytes)))) 0 =
            readLe32 (byteAt other) 0 := readLe32_take (by omega)
      rw [hagree, readLe32_take (by omega)] at hword
      exact congrArg UInt32.toNat hword.symm
    rw [← parseCharacterList_take md5 (le_max_left 32 (declaredSize bytes))
        (le_max_right 32 (declaredSize bytes)) hlength, ← hagree,
      parseCharacterList_take md5 (le_max_left 32 (declaredSize bytes))
        (by rw [hdeclared]; exact le_max_right _ _) hother]
  · -- A shorter buffer is all of the common bytes.
    have hwhole : bytes.take (max 32 (declaredSize bytes)) = bytes :=
      List.take_of_length_le (by omega)
    have hsame : other = bytes := by
      have hlengths := congrArg List.length hagree
      rw [hwhole, List.length_take] at hlengths
      rw [← hwhole, ← hagree]
      exact (List.take_of_length_le (by omega)).symm
    rw [hsame]

end Declared

end Revana.Login
