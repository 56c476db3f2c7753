import Revana.Login.LobbyParsers

/-!
# Lobby packets read back

A packet that is laid out and stamped with its identifier is parsed back, and
an accepted packet is fixed by its identifier up to a collision of MD5.
-/

namespace Revana.Login

open Foundation

/-! ## Laying out a character list -/

/-- A packet laid out as the list: each name is followed by a NUL unless it
fills its field. -/
structure LaidOut (characters : List CharacterSummary) (bytes : List UInt8) :
    Prop where
  size : declaredSize bytes = 32 + 140 * characters.length
  declared : declaredSize bytes ≤ bytes.length
  terminator : readLe32 (byteAt bytes) 4 = lobbyTerminator
  command : readLe32 (byteAt bytes) 8 = 0x20
  count : characterCount bytes = characters.length
  contentId : ∀ index (hindex : index < characters.length),
    readLe32 (byteAt bytes) (32 + 140 * index) = characters[index].contentId
  status : ∀ index (hindex : index < characters.length),
    readLe16 (byteAt bytes) (32 + 140 * index + 8) = characters[index].status
  name : ∀ index (hindex : index < characters.length), ∃ padding,
    (bytes.drop (32 + 140 * index + 12)).take 16 =
      characters[index].name ++ padding ∧
    ∀ byte, padding.head? = some byte → byte = 0

theorem longestNulFree_of_padded
    {name padding : List UInt8} (hname : ∀ byte ∈ name, byte ≠ 0)
    (hpadding : ∀ byte, padding.head? = some byte → byte = 0) :
    LongestNulFree (name ++ padding) name := by
  refine ⟨List.prefix_append _ _, hname, ?_⟩
  intro other hother hfree
  rcases List.prefix_or_prefix_of_prefix hother (List.prefix_append name padding)
    with hshort | ⟨more, rfl⟩
  · exact hshort
  · -- A longer prefix takes the first byte of the padding.
    have hmore : more <+: padding := (List.prefix_append_right_inj name).mp hother
    cases more with
    | nil =>
        rw [List.append_nil]
    | cons byte rest =>
        obtain ⟨behind, rfl⟩ := hmore
        exact absurd (hpadding byte rfl) (hfree byte (by simp))

section Layout

def layoutCharacterEntry (character : CharacterSummary) : List UInt8 :=
  le32Bytes character.contentId ++ (List.replicate 4 0 ++
    (le16Bytes character.status ++ (List.replicate 2 0 ++
      (character.name ++ List.replicate (128 - character.name.length) 0))))

def layoutCharacterList (characters : List CharacterSummary) : List UInt8 :=
  le32Bytes (UInt32.ofNat (32 + 140 * characters.length)) ++
    (le32Bytes lobbyTerminator ++ (le32Bytes 0x20 ++
      ((Bytes.zero 16).val ++ (le32Bytes (UInt32.ofNat characters.length) ++
        characters.flatMap layoutCharacterEntry))))

variable {characters : List CharacterSummary}

theorem layoutCharacterEntry_length
    {character : CharacterSummary} (hname : character.name.length ≤ 16) :
    (layoutCharacterEntry character).length = 140 := by
  simp only [layoutCharacterEntry, List.length_append, le32Bytes_length,
    List.length_replicate, le16Bytes, List.length_cons, List.length_nil]
  omega

theorem layoutCharacterEntries_length
    (hnames : ∀ character ∈ characters, character.name.length ≤ 16) :
    (characters.flatMap layoutCharacterEntry).length =
      140 * characters.length := by
  induction characters with
  | nil => rfl
  | cons character rest ih =>
      have hrest := ih fun other hother =>
        hnames other (List.mem_cons_of_mem _ hother)
      rw [List.flatMap_cons, List.length_append, hrest,
        layoutCharacterEntry_length (hnames character List.mem_cons_self),
        List.length_cons]
      omega

/-- The bytes in front of an entry and behind it. -/
theorem layoutCharacterList_split
    (hnames : ∀ character ∈ characters, character.name.length ≤ 16)
    {index : ℕ} (hindex : index < characters.length) :
    ∃ before after,
      layoutCharacterList characters =
        before ++ (layoutCharacterEntry characters[index] ++ after) ∧
      before.length = 32 + 140 * index := by
  have hsplit : characters.flatMap layoutCharacterEntry =
      (characters.take index).flatMap layoutCharacterEntry ++
        (layoutCharacterEntry characters[index] ++
          (characters.drop (index + 1)).flatMap layoutCharacterEntry) := by
    rw [← List.flatMap_cons, List.getElem_cons_drop, ← List.flatMap_append,
      List.take_append_drop]
  have hbefore : ((characters.take index).flatMap
      layoutCharacterEntry).length = 140 * index := by
    rw [layoutCharacterEntries_length fun character hcharacter =>
      hnames character (List.mem_of_mem_take hcharacter), List.length_take,
      min_eq_left (by omega)]
  refine ⟨le32Bytes (UInt32.ofNat (32 + 140 * characters.length)) ++
    (le32Bytes lobbyTerminator ++ (le32Bytes 0x20 ++
      ((Bytes.zero 16).val ++ (le32Bytes (UInt32.ofNat characters.length) ++
        (characters.take index).flatMap layoutCharacterEntry)))),
    (characters.drop (index + 1)).flatMap layoutCharacterEntry, ?_, ?_⟩
  · unfold layoutCharacterList
    rw [hsplit]
    simp only [List.append_assoc]
  · simp only [List.length_append, le32Bytes_length, hbefore,
      (Bytes.zero 16).property]
    omega

theorem head?_take_zeros
    {count size : ℕ} {after : List UInt8} {byte : UInt8} (hcount : 0 < count)
    (hbyte : ((List.replicate count 0 ++ after).take size).head? =
      some byte) :
    byte = 0 := by
  cases size with
  | zero => cases hbyte
  | succ size =>
      cases count with
      | zero => exact absurd hcount (lt_irrefl 0)
      | succ count =>
          cases hbyte
          rfl

/-- The fields of an entry inside a packet. -/
theorem layoutCharacterEntry_fields
    {character : CharacterSummary} (hname : character.name.length ≤ 16)
    (before after : List UInt8) :
    let bytes := before ++ (layoutCharacterEntry character ++ after)
    readLe32 (byteAt bytes) before.length = character.contentId ∧
      readLe16 (byteAt bytes) (before.length + 8) = character.status ∧
      ∃ padding, (bytes.drop (before.length + 12)).take 16 =
          character.name ++ padding ∧
        ∀ byte, padding.head? = some byte → byte = 0 := by
  intro bytes
  let zeros := List.replicate (128 - character.name.length) (0 : UInt8)
  let front := before ++ (le32Bytes character.contentId ++
    List.replicate 4 0)
  have hfront : front.length = before.length + 8 := by
    simp [front]
  have hword : bytes = before ++ (le32Bytes character.contentId ++
      (List.replicate 4 0 ++ (le16Bytes character.status ++
        (List.replicate 2 0 ++ (character.name ++ (zeros ++ after)))))) := by
    simp only [bytes, zeros, layoutCharacterEntry, List.append_assoc]
  have hhalf : bytes = front ++ (le16Bytes character.status ++
      (List.replicate 2 0 ++ (character.name ++ (zeros ++ after)))) := by
    rw [hword]
    simp only [front, List.append_assoc]
  have hrest : bytes = (front ++ (le16Bytes character.status ++
      List.replicate 2 0)) ++ (character.name ++ (zeros ++ after)) := by
    rw [hhalf]
    simp only [List.append_assoc]
  have hoffset : (front ++ (le16Bytes character.status ++
      List.replicate 2 0)).length = before.length + 12 := by
    rw [List.length_append, hfront, List.length_append, le16Bytes,
      List.length_replicate, List.length_cons, List.length_cons,
      List.length_nil]
  refine ⟨readLe32_of_append before _ _ hword rfl, ?_, ?_⟩
  · rw [hhalf, ← hfront]
    exact readLe16_append front character.status _
  · refine ⟨(zeros ++ after).take (16 - character.name.length), ?_, ?_⟩
    · rw [hrest, List.drop_left' hoffset, List.take_append,
        List.take_of_length_le hname]
    · intro byte hbyte
      exact head?_take_zeros (by omega) hbyte

theorem layoutCharacterList_length
    (hnames : ∀ character ∈ characters, character.name.length ≤ 16) :
    (layoutCharacterList characters).length =
      32 + 140 * characters.length := by
  simp only [layoutCharacterList, List.length_append, le32Bytes_length,
    (Bytes.zero 16).property, layoutCharacterEntries_length hnames]
  omega

/-- The words in front of the entries. -/
theorem layoutCharacterList_words (characters : List CharacterSummary) :
    let packet := layoutCharacterList characters
    readLe32 (byteAt packet) 0 = UInt32.ofNat (32 + 140 * characters.length) ∧
      readLe32 (byteAt packet) 4 = lobbyTerminator ∧
      readLe32 (byteAt packet) 8 = 0x20 ∧
      readLe32 (byteAt packet) 28 = UInt32.ofNat characters.length := by
  intro packet
  let size := le32Bytes (UInt32.ofNat (32 + 140 * characters.length))
  let entries := characters.flatMap layoutCharacterEntry
  let count := le32Bytes (UInt32.ofNat characters.length)
  let zeros := (Bytes.zero 16).val
  have hzeros : zeros.length = 16 := (Bytes.zero 16).property
  refine ⟨?_, ?_, ?_, ?_⟩
  · apply readLe32_of_append [] _ (le32Bytes lobbyTerminator ++
      (le32Bytes 0x20 ++ (zeros ++ (count ++ entries))))
    · rw [List.nil_append]
      rfl
    · rfl
  · apply readLe32_of_append size _ (le32Bytes 0x20 ++
      (zeros ++ (count ++ entries)))
    · rfl
    · rfl
  · apply readLe32_of_append (size ++ le32Bytes lobbyTerminator) _
      (zeros ++ (count ++ entries))
    · rw [List.append_assoc]
      rfl
    · rfl
  · apply readLe32_of_append (size ++ (le32Bytes lobbyTerminator ++
      (le32Bytes 0x20 ++ zeros))) _ entries
    · simp only [List.append_assoc]
      rfl
    · simp only [size, List.length_append, le32Bytes_length, hzeros]

theorem layoutCharacterList_laidOut
    (hcount : characters.length ≤ 16)
    (hnames : ∀ character ∈ characters, character.name.length ≤ 16) :
    LaidOut characters (layoutCharacterList characters) := by
  obtain ⟨hsizeWord, hterminator, hcommand, hcountWord⟩ :=
    layoutCharacterList_words characters
  have hsize : declaredSize (layoutCharacterList characters) =
      32 + 140 * characters.length := by
    unfold declaredSize
    rw [hsizeWord, UInt32.toNat_ofNat_of_lt' (by unfold UInt32.size; omega)]
  have hentry : ∀ index (hindex : index < characters.length),
      ∃ before after,
        layoutCharacterList characters =
          before ++ (layoutCharacterEntry characters[index] ++ after) ∧
        before.length = 32 + 140 * index ∧
        characters[index].name.length ≤ 16 := by
    intro index hindex
    obtain ⟨before, after, hsplit, hbefore⟩ :=
      layoutCharacterList_split hnames hindex
    exact ⟨before, after, hsplit, hbefore, hnames _ (List.getElem_mem hindex)⟩
  constructor
  · exact hsize
  · rw [hsize, layoutCharacterList_length hnames]
  · exact hterminator
  · exact hcommand
  · unfold characterCount
    rw [hcountWord, UInt32.toNat_ofNat_of_lt' (by unfold UInt32.size; omega)]
  · intro index hindex
    obtain ⟨before, after, hsplit, hbefore, hname⟩ := hentry index hindex
    rw [hsplit, ← hbefore]
    exact (layoutCharacterEntry_fields hname before after).1
  · intro index hindex
    obtain ⟨before, after, hsplit, hbefore, hname⟩ := hentry index hindex
    rw [hsplit, ← hbefore]
    exact (layoutCharacterEntry_fields hname before after).2.1
  · intro index hindex
    obtain ⟨before, after, hsplit, hbefore, hname⟩ := hentry index hindex
    rw [hsplit, ← hbefore]
    exact (layoutCharacterEntry_fields hname before after).2.2

end Layout

/-! ## Stamped packets -/

section Stamped

variable {md5 : Md5} {bytes : List UInt8} {identifier : LobbyIdentifier}

theorem readLe32_stamp
    (hframed : Framed bytes) {offset : ℕ}
    (hdeclared : offset + 4 ≤ declaredSize bytes)
    (houtside : offset + 4 ≤ 12 ∨ 28 ≤ offset) :
    readLe32 (byteAt (stampIdentifier bytes identifier)) offset =
      readLe32 (byteAt bytes) offset := by
  have hagree := stampIdentifier_agrees hframed identifier
  apply readLe32_congr
  intro index hindex
  exact hagree (offset + index) (by omega) (by omega)

theorem readLe16_stamp
    (hframed : Framed bytes) {offset : ℕ}
    (hdeclared : offset + 2 ≤ declaredSize bytes) (houtside : 28 ≤ offset) :
    readLe16 (byteAt (stampIdentifier bytes identifier)) offset =
      readLe16 (byteAt bytes) offset := by
  have hagree := stampIdentifier_agrees hframed identifier
  apply readLe16_congr
  intro index hindex
  exact hagree (offset + index) (by omega) (by omega)

theorem drop_stamp
    (hframed : Framed bytes) {offset : ℕ} (houtside : 28 ≤ offset) :
    (stampIdentifier bytes identifier).drop offset = bytes.drop offset := by
  have hfits : 12 + 16 ≤ bytes.length := hframed.fits
  exact drop_splice (by rw [identifier.property]; exact hfits)
    (by rw [identifier.property]; exact houtside)

theorem declaredSize_stamp (hframed : Framed bytes) :
    declaredSize (stampIdentifier bytes identifier) = declaredSize bytes :=
  (stampIdentifier_agrees hframed identifier).declaredSize hframed

/-- A list that is laid out and stamped is read back. -/
theorem parseCharacterList_stamp
    {characters : List CharacterSummary} (hcount : characters.length ≤ 16)
    (hnames : ∀ character ∈ characters, ∀ byte ∈ character.name, byte ≠ 0)
    (hlaid : LaidOut characters bytes)
    (hcalculated : calculateLobbyIdentifier md5 bytes = .ok identifier) :
    parseCharacterList md5 (stampIdentifier bytes identifier) =
      .ok characters := by
  obtain ⟨hframed, -⟩ := calculateLobbyIdentifier_iff.mp hcalculated
  have hsize := hlaid.size
  have hlength := stampIdentifier_length hframed identifier
  have hdeclared := hlaid.declared
  have hcountStamp : characterCount (stampIdentifier bytes identifier) =
      characters.length := by
    unfold characterCount
    rw [readLe32_stamp hframed (by omega) (Or.inr (by omega))]
    exact hlaid.count
  apply parseCharacterList_iff.mpr
  constructor
  · constructor
    · omega
    · rw [declaredSize_stamp hframed, hlength]
      exact hdeclared
    · rw [readLe32_stamp hframed (by omega) (Or.inl (by omega))]
      exact hlaid.terminator
    · rw [readLe32_stamp hframed (by omega) (Or.inl (by omega))]
      exact hlaid.command
    · rw [hcountStamp]
      exact hcount
    · rw [declaredSize_stamp hframed, hcountStamp]
      exact hsize
    · exact identifierValid_stamp hcalculated
  · rw [hcountStamp]
    apply List.ext_getElem
    · simp
    intro index hindex hother
    rw [List.getElem_map, List.getElem_range]
    have hentry : EntryAt (stampIdentifier bytes identifier)
        (32 + 140 * index) characters[index] := by
      obtain ⟨padding, hfield, hpadding⟩ := hlaid.name index hindex
      constructor
      · rw [readLe32_stamp hframed (by omega) (Or.inr (by omega))]
        exact (hlaid.contentId index hindex).symm
      · rw [readLe16_stamp hframed (by omega) (by omega)]
        exact (hlaid.status index hindex).symm
      · rw [drop_stamp hframed (by omega), hfield]
        exact longestNulFree_of_padded
          (hnames _ (List.getElem_mem hindex)) hpadding
    exact hentry.unique (entryAt_readCharacterEntry _ index)

/-- The key response before it is stamped. -/
def layoutKeyResponse (response : KeyResponse) : List UInt8 :=
  le32Bytes 40 ++ (le32Bytes lobbyTerminator ++ (le32Bytes 0x05 ++
    ((Bytes.zero 16).val ++ (le32Bytes response.key ++
      (le32Bytes response.expansionMask ++
        le32Bytes response.featureMask)))))

theorem layoutKeyResponse_words (response : KeyResponse) :
    (layoutKeyResponse response).length = 40 ∧
      declaredSize (layoutKeyResponse response) = 40 ∧
      readLe32 (byteAt (layoutKeyResponse response)) 4 = lobbyTerminator ∧
      readLe32 (byteAt (layoutKeyResponse response)) 8 = 0x05 ∧
      readKeyResponse (layoutKeyResponse response) = response := by
  let header := le32Bytes 40 ++ (le32Bytes lobbyTerminator ++
    (le32Bytes 0x05 ++ (Bytes.zero 16).val))
  have hzeros : (Bytes.zero 16).val.length = 16 := (Bytes.zero 16).property
  have hheader : header.length = 28 := by
    simp only [header, List.length_append, le32Bytes_length, hzeros]
  have hmasks : layoutKeyResponse response = header ++
      (le32Bytes response.key ++ (le32Bytes response.expansionMask ++
        le32Bytes response.featureMask)) := by
    simp only [header, layoutKeyResponse, List.append_assoc]
  clear_value header
  have hsize : readLe32 (byteAt (layoutKeyResponse response)) 0 = 40 := by
    apply readLe32_of_append []
    · unfold layoutKeyResponse
      rw [List.nil_append]
    · rfl
  have hkey : readLe32 (byteAt (layoutKeyResponse response)) 28 =
      response.key := readLe32_of_append header _ _ hmasks hheader
  have hexpansion : readLe32 (byteAt (layoutKeyResponse response)) 32 =
      response.expansionMask := by
    apply readLe32_of_append (header ++ le32Bytes response.key) _
      (le32Bytes response.featureMask)
    · rw [hmasks, List.append_assoc]
    · rw [List.length_append, hheader, le32Bytes_length]
  have hfeature : readLe32 (byteAt (layoutKeyResponse response)) 36 =
      response.featureMask := by
    apply readLe32_of_append (header ++ (le32Bytes response.key ++
      le32Bytes response.expansionMask)) _ []
    · rw [hmasks, List.append_nil, List.append_assoc, List.append_assoc]
    · rw [List.length_append, hheader, List.length_append, le32Bytes_length,
        le32Bytes_length]
  refine ⟨?_, congrArg UInt32.toNat hsize, ?_, ?_, ?_⟩
  · simp only [layoutKeyResponse, List.length_append, le32Bytes_length, hzeros]
  · apply readLe32_of_append (le32Bytes 40)
    · unfold layoutKeyResponse
      rfl
    · rfl
  · apply readLe32_of_append (le32Bytes 40 ++ le32Bytes lobbyTerminator)
    · unfold layoutKeyResponse
      rw [List.append_assoc]
    · rfl
  · unfold readKeyResponse
    rw [hkey, hexpansion, hfeature]

/-- What follows a key response does not matter. -/
theorem parseKeyResponse_append
    {response : KeyResponse}
    (hparsed : parseKeyResponse md5 bytes = .ok response)
    (trailing : List UInt8) :
    parseKeyResponse md5 (bytes ++ trailing) = .ok response := by
  obtain ⟨haccepted, hsize, hvalid, rfl⟩ := parseKeyResponse_iff.mp hparsed
  have hlength : 40 ≤ bytes.length := haccepted.length
  have hword : ∀ offset, offset + 4 ≤ 40 →
      readLe32 (byteAt (bytes ++ trailing)) offset =
        readLe32 (byteAt bytes) offset := fun offset hoffset =>
    readLe32_append_left (by omega) trailing
  have hdeclared : declaredSize (bytes ++ trailing) = declaredSize bytes :=
    congrArg UInt32.toNat (hword 0 (by omega))
  have hheader : HeaderAccepted (bytes ++ trailing) 0x05 keyResponseSize := by
    constructor
    · rw [List.length_append]
      exact le_trans haccepted.length (Nat.le_add_right _ _)
    · rw [hdeclared]
      exact haccepted.minimum
    · rw [hdeclared, List.length_append]
      exact le_trans haccepted.declared (Nat.le_add_right _ _)
    · rw [hword 4 (by omega)]
      exact haccepted.terminator
    · rw [hword 8 (by omega)]
      exact haccepted.command
  have hbytes : declaredBytes (bytes ++ trailing) = declaredBytes bytes := by
    unfold declaredBytes
    rw [hdeclared, List.take_append_of_le_length haccepted.declared]
  apply parseKeyResponse_iff.mpr
  refine ⟨hheader, hdeclared.trans hsize, ?_, ?_⟩
  · exact (identifierValid_congr (hheader.framed (by decide))
      (haccepted.framed (by decide)) hbytes).mpr hvalid
  · unfold readKeyResponse
    rw [hword 28 (by omega), hword 32 (by omega), hword 36 (by omega)]

/-- A stamped key response is parsed back, whatever follows it. -/
theorem parseKeyResponse_stamp
    {response : KeyResponse}
    (hcalculated : calculateLobbyIdentifier md5 (layoutKeyResponse response) =
      .ok identifier) (trailing : List UInt8) :
    parseKeyResponse md5
        (stampIdentifier (layoutKeyResponse response) identifier ++
          trailing) = .ok response := by
  obtain ⟨hlength, hsize, hterminator, hcommand, hread⟩ :=
    layoutKeyResponse_words response
  obtain ⟨hframed, -⟩ := calculateLobbyIdentifier_iff.mp hcalculated
  have hstampLength := stampIdentifier_length hframed identifier
  have hstampSize : declaredSize (stampIdentifier (layoutKeyResponse response)
      identifier) = 40 := (declaredSize_stamp hframed).trans hsize
  apply parseKeyResponse_append
  apply parseKeyResponse_iff.mpr
  refine ⟨?_, hstampSize, identifierValid_stamp hcalculated, ?_⟩
  · constructor
    · rw [hstampLength, hlength]
      exact le_rfl
    · rw [hstampSize]
      exact le_rfl
    · rw [hstampSize, hstampLength, hlength]
    · rw [readLe32_stamp hframed (by omega) (Or.inl (by omega))]
      exact hterminator
    · rw [readLe32_stamp hframed (by omega) (Or.inl (by omega))]
      exact hcommand
  · have hsame : readKeyResponse
        (stampIdentifier (layoutKeyResponse response) identifier) =
          readKeyResponse (layoutKeyResponse response) := by
      unfold readKeyResponse
      rw [readLe32_stamp hframed (by omega) (Or.inr (by omega)),
        readLe32_stamp hframed (by omega) (Or.inr (by omega)),
        readLe32_stamp hframed (by omega) (Or.inr (by omega))]
    exact (hsame.trans hread).symm

end Stamped

/-! ## The parsers and the identifier -/

/-- `ParseCharacterList` accepts its format, decodes it entry by entry, reads
nothing behind the declared size and decodes what was laid out and stamped. -/
theorem parseCharacterList_exact
    (md5 : Md5) (bytes : List UInt8) :
    ((∃ characters, parseCharacterList md5 bytes = .ok characters) ↔
      CharacterListFormat md5 bytes) ∧
    (∀ characters, parseCharacterList md5 bytes = .ok characters →
      characters.length = characterCount bytes ∧
      ∀ index (hindex : index < characters.length),
        EntryAt bytes (32 + 140 * index) characters[index] ∧
        32 + 140 * index + 28 ≤ declaredSize bytes ∧
        declaredSize bytes ≤ bytes.length) ∧
    (∀ other, other.take (max 32 (declaredSize bytes)) =
        bytes.take (max 32 (declaredSize bytes)) →
      parseCharacterList md5 other = parseCharacterList md5 bytes) ∧
    (∀ characters : List CharacterSummary, characters.length ≤ 16 →
      (∀ character ∈ characters, character.name.length ≤ 16 ∧
        ∀ byte ∈ character.name, byte ≠ 0) →
      LaidOut characters (layoutCharacterList characters) ∧
      (LaidOut characters bytes → ∀ identifier,
        calculateLobbyIdentifier md5 bytes = .ok identifier →
        parseCharacterList md5 (stampIdentifier bytes identifier) =
          .ok characters)) := by
  refine ⟨?_, ?_, ?_, ?_⟩
  · constructor
    · rintro ⟨characters, hparsed⟩
      exact (parseCharacterList_iff.mp hparsed).1
    · intro hformat
      exact ⟨_, parseCharacterList_iff.mpr ⟨hformat, rfl⟩⟩
  · intro characters hparsed
    exact parseCharacterList_entries hparsed
  · intro other hagree
    exact parseCharacterList_congr md5 hagree
  · intro characters hcount hnames
    refine ⟨?_, ?_⟩
    · exact layoutCharacterList_laidOut hcount
        fun character hcharacter => (hnames character hcharacter).1
    · intro hlaid identifier hcalculated
      exact parseCharacterList_stamp hcount
        (fun character hcharacter => (hnames character hcharacter).2)
        hlaid hcalculated

section Accepted

variable {md5 : Md5} {bytes : List UInt8}

/-- What both parsers check of an accepted packet. -/
def Accepted (md5 : Md5) (bytes : List UInt8) : Prop :=
  Framed bytes ∧ IdentifierValid md5 bytes

theorem accepted_of_keyResponse
    {response : KeyResponse}
    (hparsed : parseKeyResponse md5 bytes = .ok response) :
    Accepted md5 bytes := by
  obtain ⟨haccepted, -, hvalid, -⟩ := parseKeyResponse_iff.mp hparsed
  exact ⟨haccepted.framed (by decide), hvalid⟩

theorem accepted_of_characterList
    {characters : List CharacterSummary}
    (hparsed : parseCharacterList md5 bytes = .ok characters) :
    Accepted md5 bytes := by
  obtain ⟨hformat, -⟩ := parseCharacterList_iff.mp hparsed
  have hsize := hformat.size
  refine ⟨⟨?_, hformat.declared⟩, hformat.identifier⟩
  unfold lobbyHeaderSize
  omega

theorem Accepted.binds
    {other : List UInt8} (hbytes : Accepted md5 bytes)
    (hother : Accepted md5 other)
    (hfield : identifierField.read bytes = identifierField.read other) :
    declaredBytes bytes = declaredBytes other ∨
      Collision md5 (identifierInput bytes) (identifierInput other) :=
  identifierValid_binds hbytes.1 hother.1 hbytes.2 hother.2 hfield

theorem Accepted.hashed (haccepted : Accepted md5 bytes) :
    md5 (identifierInput bytes) ≠ none := by
  obtain ⟨-, digest, hdigest, -⟩ := haccepted
  rw [hdigest]
  exact Option.some_ne_none digest

end Accepted

theorem layoutKeyResponse_framed (response : KeyResponse) :
    Framed (layoutKeyResponse response) := by
  obtain ⟨hlength, hsize, -⟩ := layoutKeyResponse_words response
  unfold Framed
  rw [hsize, hlength]
  exact ⟨by decide, le_rfl⟩

/-- Stamping is a fixpoint of `CalculateLobbyIdentifier`, stamped key responses
are parsed back, and the identifier binds what the parsers accept.  Of a framed
packet only the digest can fail. -/
theorem lobbyIdentifier_binds (md5 : Md5) :
    (∀ bytes, Framed bytes →
      (∀ other, declaredSize bytes ≤ other.length →
        AgreeOutsideIdentifier bytes other →
        calculateLobbyIdentifier md5 other =
          calculateLobbyIdentifier md5 bytes) ∧
      ∀ identifier, md5 (identifierInput bytes) = some identifier →
        let stamped := stampIdentifier bytes identifier
        calculateLobbyIdentifier md5 bytes = .ok identifier ∧
        validateLobbyIdentifier md5 stamped (declaredSize stamped) = .ok () ∧
        calculateLobbyIdentifier md5 stamped = .ok identifier ∧
        stampIdentifier stamped identifier = stamped) ∧
    (∀ response identifier,
      md5 (identifierInput (layoutKeyResponse response)) = some identifier →
      calculateLobbyIdentifier md5 (layoutKeyResponse response) =
          .ok identifier ∧
        ∀ trailing, parseKeyResponse md5
          (stampIdentifier (layoutKeyResponse response) identifier ++
            trailing) = .ok response) ∧
    (∀ bytes, isCompleteKeyResponse md5 bytes = true ↔
      bytes.length = 40 ∧
        ∃ response, parseKeyResponse md5 bytes = .ok response) ∧
    (∀ left right,
      (∃ first second, parseKeyResponse md5 left = .ok first ∧
        parseKeyResponse md5 right = .ok second) ∨
      (∃ first second, parseCharacterList md5 left = .ok first ∧
        parseCharacterList md5 right = .ok second) →
      identifierField.read left = identifierField.read right →
      declaredBytes left = declaredBytes right ∨
        Collision md5 (identifierInput left) (identifierInput right)) ∧
    (∀ bytes, md5 (identifierInput bytes) = none →
      (∀ identifier, calculateLobbyIdentifier md5 bytes ≠ .ok identifier) ∧
      (∀ response, parseKeyResponse md5 bytes ≠ .ok response) ∧
      ∀ characters, parseCharacterList md5 bytes ≠ .ok characters) := by
  refine ⟨?_, ?_, ?_, ?_, ?_⟩
  · intro bytes hframed
    refine ⟨?_, ?_⟩
    · intro other hlength hagree
      have hsize := hagree.declaredSize hframed
      have hother : Framed other := by
        unfold Framed
        rw [hsize]
        exact ⟨hframed.1, hlength⟩
      rw [calculateLobbyIdentifier_framed hother,
        calculateLobbyIdentifier_framed hframed,
        identifierInput_congr hframed hlength hagree]
    · intro identifier hdigest
      have hcalculated :=
        calculateLobbyIdentifier_iff.mpr ⟨hframed, hdigest⟩
      have hstamped := stampIdentifier_framed hframed identifier
      exact ⟨hcalculated,
        (validateLobbyIdentifier_iff hstamped).mpr
          (identifierValid_stamp hcalculated),
        calculateLobbyIdentifier_stamp hcalculated identifier,
        stampIdentifier_idem hframed identifier⟩
  · intro response identifier hdigest
    have hcalculated := calculateLobbyIdentifier_iff.mpr
      ⟨layoutKeyResponse_framed response, hdigest⟩
    exact ⟨hcalculated,
      fun trailing => parseKeyResponse_stamp hcalculated trailing⟩
  · intro bytes
    exact isCompleteKeyResponse_iff
  · intro left right hparsed hfield
    rcases hparsed with ⟨first, second, hleft, hright⟩ |
        ⟨first, second, hleft, hright⟩
    · exact (accepted_of_keyResponse hleft).binds
        (accepted_of_keyResponse hright) hfield
    · exact (accepted_of_characterList hleft).binds
        (accepted_of_characterList hright) hfield
  · intro bytes hfailed
    refine ⟨?_, ?_, ?_⟩
    · intro identifier hcalculated
      obtain ⟨-, hdigest⟩ := calculateLobbyIdentifier_iff.mp hcalculated
      rw [hfailed] at hdigest
      cases hdigest
    · intro response hparsed
      exact (accepted_of_keyResponse hparsed).hashed hfailed
    · intro characters hparsed
      exact (accepted_of_characterList hparsed).hashed hfailed

/-- The MD5 of a key response for `1`, `2` and `3` without its identifier. -/
def keyResponseDigest : Bytes 16 :=
  ⟨[105, 190, 149, 22, 204, 42, 83, 228, 15, 17, 190, 77, 140,
    210, 34, 131], rfl⟩

theorem lobbyIdentifier_binds_keyResponse :
    let md5 : Md5 := md5Call (fun _ => keyResponseDigest) true
    calculateLobbyIdentifier md5 (layoutKeyResponse ⟨1, 2, 3⟩) =
        .ok keyResponseDigest ∧
      parseKeyResponse md5
        (stampIdentifier (layoutKeyResponse ⟨1, 2, 3⟩) keyResponseDigest ++
          [0x20]) = .ok ⟨1, 2, 3⟩ ∧
      stampIdentifier (stampIdentifier (layoutKeyResponse ⟨1, 2, 3⟩)
        keyResponseDigest) keyResponseDigest =
          stampIdentifier (layoutKeyResponse ⟨1, 2, 3⟩) keyResponseDigest := by
  intro md5
  obtain ⟨hstamping, hresponses, -⟩ := lobbyIdentifier_binds md5
  obtain ⟨hcalculated, hparsed⟩ := hresponses ⟨1, 2, 3⟩ keyResponseDigest rfl
  obtain ⟨-, hstamped⟩ := hstamping (layoutKeyResponse ⟨1, 2, 3⟩)
    (layoutKeyResponse_framed ⟨1, 2, 3⟩)
  exact ⟨hcalculated, hparsed [0x20],
    (hstamped keyResponseDigest rfl).2.2.2⟩

end Revana.Login
