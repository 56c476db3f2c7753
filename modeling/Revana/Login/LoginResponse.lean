import Revana.Login.Serializer

/-!
# Classifying a login response

Which documents `DecodeLoginResponse` takes for a session, for a rejection and
for neither, in terms of the integers they hold.  Nothing is narrowed: a
number is accepted as the integer it denotes or not at all.
-/

namespace Revana.Login

open Foundation

/-! ## Integers of a document -/

/-- The integer of a number without a fraction and an exponent. -/
def integerOf : List UInt8 → Option ℤ
  | 0x2D :: digits =>
      if digits.all Json.isDigit then some (-(JsonValue.decimal digits : ℤ))
      else none
  | digits =>
      if digits.all Json.isDigit then some (JsonValue.decimal digits : ℤ)
      else none

def DenotesInteger (value : Json) (number : ℤ) : Prop :=
  ∃ lexeme, value = .number lexeme ∧ integerOf lexeme = some number

section Integers

/-- Of the numbers with a sign only `-0` is read. -/
theorem readUnsigned_negative
    {value : ℕ} (hvalue : value ≤ 2 ^ 63) {number : UInt64} :
    readUnsigned (.numberInteger (Int64.ofInt (-(value : ℤ)))) =
        some number ↔
      (-(value : ℤ)) = (number.toNat : ℤ) := by
  have htoInt : (Int64.ofInt (-(value : ℤ))).toInt = -(value : ℤ) :=
    Int64.toInt_ofInt_of_le (by omega) (by omega)
  unfold readUnsigned
  by_cases hzero : value = 0
  · subst hzero
    constructor
    · intro hread
      cases hread
      rfl
    · intro hnumber
      have hsame : number = 0 := UInt64.toNat_inj.mp (by
        have hnat : (number.toNat : ℤ) = 0 := hnumber.symm
        exact Int.ofNat_eq_zero.mp hnat)
      rw [hsame]
      rfl
  · have hnegative : Int64.ofInt (-(value : ℤ)) < 0 := by
      apply Int64.lt_iff_toInt_lt.mpr
      rw [htoInt]
      have hpositive : 0 < value := Nat.pos_of_ne_zero hzero
      exact neg_lt_zero.mpr (Int.ofNat_lt.mpr hpositive)
    dsimp only
    rw [if_pos hnegative]
    constructor
    · intro hread
      cases hread
    · intro hnumber
      omega

theorem integerOf_minus (digits : List UInt8) :
    integerOf (0x2D :: digits) =
      if digits.all Json.isDigit then some (-(JsonValue.decimal digits : ℤ))
      else none := rfl

theorem integerOf_unsigned
    {lexeme : List UInt8} (hsign : ∀ digits, lexeme ≠ 0x2D :: digits) :
    integerOf lexeme =
      if lexeme.all Json.isDigit then some (JsonValue.decimal lexeme : ℤ)
      else none := by
  unfold integerOf
  split
  · exact absurd rfl (hsign _)
  · rfl

theorem readUnsigned_ofLexeme
    {lexeme : List UInt8} {number : UInt64} :
    readUnsigned (JsonValue.ofLexeme lexeme) = some number ↔
      integerOf lexeme = some (number.toNat : ℤ) := by
  have hnumber := number.toNat_lt
  unfold JsonValue.ofLexeme
  split
  · rename_i digits
    rw [integerOf_minus]
    by_cases hdigits : digits.all Json.isDigit = true
    · rw [if_pos hdigits, Option.some.injEq]
      by_cases hrange : JsonValue.decimal digits ≤ 2 ^ 63
      · rw [if_pos ⟨hdigits, hrange⟩]
        exact readUnsigned_negative hrange
      · rw [if_neg fun hboth => hrange hboth.2]
        refine iff_of_false (fun hread => by cases hread) ?_
        intro hvalue
        omega
    · rw [if_neg hdigits, if_neg fun hboth => hdigits hboth.1]
      exact iff_of_false (fun hread => by cases hread)
        (fun hvalue => by cases hvalue)
  · rename_i hsign
    rw [integerOf_unsigned hsign]
    by_cases hdigits : lexeme.all Json.isDigit = true
    · rw [if_pos hdigits, Option.some.injEq]
      by_cases hrange : JsonValue.decimal lexeme < 2 ^ 64
      · rw [if_pos ⟨hdigits, hrange⟩]
        have hvalue : (JsonValue.decimal lexeme).toUInt64.toNat =
            JsonValue.decimal lexeme := Nat.mod_eq_of_lt hrange
        unfold readUnsigned
        rw [Option.some.injEq, ← UInt64.toNat_inj, hvalue, Int.ofNat_inj]
      · rw [if_neg fun hboth => hrange hboth.2]
        refine iff_of_false (fun hread => by cases hread) ?_
        intro hvalue
        omega
    · rw [if_neg hdigits, if_neg fun hboth => hdigits hboth.1]
      exact iff_of_false (fun hread => by cases hread)
        (fun hvalue => by cases hvalue)

theorem readUnsigned_ofJson
    {value : Json} {number : UInt64} :
    readUnsigned (JsonValue.ofJson value) = some number ↔
      DenotesInteger value number.toNat := by
  constructor
  · intro hread
    cases value with
    | number lexeme => exact ⟨lexeme, rfl, readUnsigned_ofLexeme.mp hread⟩
    | null => cases hread
    | boolean value => cases hread
    | string bytes => cases hread
    | array items => cases hread
    | object members => cases hread
  · rintro ⟨lexeme, rfl, hinteger⟩
    exact readUnsigned_ofLexeme.mpr hinteger

theorem readByte_ofJson
    {value : Json} {byte : UInt8} :
    readByte (JsonValue.ofJson value) = some byte ↔
      DenotesInteger value byte.toNat := by
  unfold readByte
  rw [Option.bind_eq_some_iff]
  constructor
  · rintro ⟨number, hnumber, hbyte⟩
    split at hbyte
    · rename_i hsmall
      cases hbyte
      have hle : number.toNat ≤ 0xFF := UInt64.le_iff_toNat_le.mp hsmall
      have hsame : number.toUInt8.toNat = number.toNat := by
        rw [UInt64.toNat_toUInt8]
        exact Nat.mod_eq_of_lt (by omega)
      rw [hsame]
      exact readUnsigned_ofJson.mp hnumber
    · cases hbyte
  · intro hinteger
    have hsame : byte.toUInt64.toNat = byte.toNat := UInt8.toNat_toUInt64 byte
    refine ⟨byte.toUInt64, ?_, ?_⟩
    · apply readUnsigned_ofJson.mpr
      rw [hsame]
      exact hinteger
    · have hlt := byte.toNat_lt
      have hsmall : byte.toUInt64 ≤ 0xFF := by
        apply UInt64.le_iff_toNat_le.mpr
        rw [hsame]
        exact Nat.le_of_lt_succ hlt
      rw [if_pos hsmall, UInt8.toUInt8_toUInt64]

theorem mapM_readByte_ofItems
    {items : List Json} {bytes : List UInt8} :
    (JsonValue.ofItems items).mapM readByte = some bytes ↔
      List.Forall₂ (fun item (byte : UInt8) =>
        DenotesInteger item byte.toNat) items bytes := by
  induction items generalizing bytes with
  | nil =>
      unfold JsonValue.ofItems
      rw [List.mapM_nil]
      constructor
      · intro hempty
        cases hempty
        exact List.Forall₂.nil
      · intro hempty
        cases hempty
        rfl
  | cons item items ih =>
      unfold JsonValue.ofItems
      rw [List.mapM_cons]
      constructor
      · intro hread
        obtain ⟨byte, hbyte, hrest⟩ := Option.bind_eq_some_iff.mp hread
        obtain ⟨more, hmore, hcons⟩ := Option.bind_eq_some_iff.mp hrest
        cases hcons
        exact List.Forall₂.cons (readByte_ofJson.mp hbyte) (ih.mp hmore)
      · intro hintegers
        cases hintegers with
        | cons hbyte hmore =>
            apply Option.bind_eq_some_iff.mpr
            refine ⟨_, readByte_ofJson.mpr hbyte, ?_⟩
            apply Option.bind_eq_some_iff.mpr
            exact ⟨_, ih.mpr hmore, rfl⟩

end Integers

/-! ## Members -/

/-- The last member of that name. -/
def lastMember (members : List (List UInt8 × Json)) (name : String) :
    Option Json :=
  members.reverse.lookup (memberName name)

theorem lookup_map_snd
    {α β γ : Type*} [BEq α] (members : List (α × β)) (f : β → γ) (name : α) :
    (members.map fun member => (member.1, f member.2)).lookup name =
      (members.lookup name).map f := by
  induction members with
  | nil => rfl
  | cons member rest ih =>
      obtain ⟨first, value⟩ := member
      rw [List.map_cons, List.lookup_cons, List.lookup_cons]
      cases name == first with
      | true => rfl
      | false => exact ih

theorem ofMembers_eq_map (members : List (List UInt8 × Json)) :
    JsonValue.ofMembers members =
      members.map fun member => (member.1, JsonValue.ofJson member.2) := by
  induction members with
  | nil => rfl
  | cons member rest ih =>
      obtain ⟨name, value⟩ := member
      rw [JsonValue.ofMembers, ih, List.map_cons]

theorem findMember_ofMembers
    (members : List (List UInt8 × Json)) (name : String) :
    findMember (JsonValue.ofMembers members) (memberName name) =
      (lastMember members name).map JsonValue.ofJson := by
  unfold findMember lastMember
  rw [ofMembers_eq_map, ← List.map_reverse, lookup_map_snd]

/-- The member is the integer. -/
def IntegerMember (members : List (List UInt8 × Json)) (name : String)
    (number : ℤ) : Prop :=
  ∃ value, lastMember members name = some value ∧ DenotesInteger value number

theorem readUnsigned_member
    {members : List (List UInt8 × Json)} {name : String} {number : UInt64} :
    (findMember (JsonValue.ofMembers members) (memberName name)).bind
        readUnsigned = some number ↔
      IntegerMember members name number.toNat := by
  rw [findMember_ofMembers, Option.bind_eq_some_iff]
  constructor
  · rintro ⟨value, hvalue, hread⟩
    obtain ⟨document, hdocument, rfl⟩ := Option.map_eq_some_iff.mp hvalue
    exact ⟨document, hdocument, readUnsigned_ofJson.mp hread⟩
  · rintro ⟨document, hdocument, hinteger⟩
    rw [hdocument]
    exact ⟨_, rfl, readUnsigned_ofJson.mpr hinteger⟩

/-! ## What the documents say -/

/-- The document holds this session. -/
structure HoldsSession (members : List (List UInt8 × Json))
    (session : AuthSession) : Prop where
  result : IntegerMember members "result" 1
  accountId : IntegerMember members "account_id" session.accountId.toNat
  nonzero : session.accountId ≠ 0
  sessionHash : ∃ items,
    lastMember members "session_hash" = some (.array items) ∧
    items.length = 16 ∧
    List.Forall₂ (fun item (byte : UInt8) => DenotesInteger item byte.toNat)
      items session.sessionHash.val

/-- The server refused with this code. -/
def HoldsRejection (members : List (List UInt8 × Json)) (code : UInt8) :
    Prop :=
  IntegerMember members "result" code.toNat ∧ code ≠ 1

/-- The server only sent a message. -/
def HoldsMessage (members : List (List UInt8 × Json)) : Prop :=
  lastMember members "result" = none ∧
    lastMember members "error_message" ≠ none

/-! ## The session members -/

section Session

variable {members : List (List UInt8 × JsonValue)} {session : AuthSession}

theorem decodeSession_ok
    (hdecoded : decodeSession members = .ok session) :
    ∃ accountId items account,
      findMember members (memberName "account_id") = some accountId ∧
      findMember members (memberName "session_hash") = some (.array items) ∧
      items.length = 16 ∧ readUnsigned accountId = some account ∧
      account ≠ 0 ∧ account ≤ 0xFFFFFFFF ∧
      session.accountId = account.toUInt32 ∧
      items.mapM readByte = some session.sessionHash.val := by
  unfold decodeSession at hdecoded
  split at hdecoded
  swap
  · cases hdecoded
  rename_i accountId items haccountId hitems
  split at hdecoded
  · cases hdecoded
  rename_i hlength
  split at hdecoded
  · cases hdecoded
  rename_i account haccount
  split at hdecoded
  · cases hdecoded
  rename_i hrange
  split at hdecoded
  · cases hdecoded
  rename_i bytes hbytes
  split at hdecoded
  swap
  · cases hdecoded
  cases hdecoded
  rw [not_or] at hrange
  exact ⟨accountId, items, account, haccountId, hitems, not_not.mp hlength,
    haccount, hrange.1, UInt64.not_lt.mp hrange.2, rfl, hbytes⟩

theorem decodeSession_of_members
    {accountId : JsonValue} {items : List JsonValue} {account : UInt64}
    (haccountId : findMember members (memberName "account_id") =
      some accountId)
    (hitems : findMember members (memberName "session_hash") =
      some (.array items))
    (hlength : items.length = 16)
    (haccount : readUnsigned accountId = some account)
    (hnonzero : account ≠ 0) (hrange : account ≤ 0xFFFFFFFF)
    (hsession : session.accountId = account.toUInt32)
    (hbytes : items.mapM readByte = some session.sessionHash.val) :
    decodeSession members = .ok session := by
  have hwithin : ¬(account = 0 ∨ account > 0xFFFFFFFF) := by
    rintro (hzero | hlarge)
    · exact hnonzero hzero
    · exact absurd hrange (UInt64.not_le.mpr hlarge)
  have hsize : ¬items.length ≠ sessionHashSize := not_not.mpr hlength
  unfold decodeSession
  rw [haccountId, hitems]
  dsimp only
  rw [if_neg hsize, haccount]
  dsimp only
  rw [if_neg hwithin, hbytes]
  have hhash : session.sessionHash.val.length = sessionHashSize :=
    session.sessionHash.property
  dsimp only
  rw [dif_pos hhash, ← hsession]

theorem decodeSession_error
    {error : AuthFailure} (hdecoded : decodeSession members = .error error) :
    error = failure .malformedResponse := by
  unfold decodeSession at hdecoded
  split at hdecoded
  swap
  · cases hdecoded
    rfl
  split at hdecoded
  · cases hdecoded
    rfl
  split at hdecoded
  · cases hdecoded
    rfl
  split at hdecoded
  · cases hdecoded
    rfl
  split at hdecoded
  · cases hdecoded
    rfl
  split at hdecoded
  · cases hdecoded
  · cases hdecoded
    rfl

end Session

/-! ## The response -/

section Response

variable {library : JsonLibrary} {response : List UInt8}
  {fields : List (List UInt8 × JsonValue)}

def readResult (fields : List (List UInt8 × JsonValue)) : Option UInt64 :=
  (findMember fields (memberName "result")).bind readUnsigned

/-- Every outcome of `DecodeLoginResponse`. -/
theorem decodeLoginResponse_cases
    (library : JsonLibrary) (response : List UInt8) :
    decodeLoginResponse library response =
        .error (failure .malformedResponse) ∨
    (∃ fields, library.parse response = some (.object fields) ∧
      findMember fields (memberName "result") = none ∧
      findMember fields (memberName "error_message") ≠ none ∧
      decodeLoginResponse library response =
        .error (failure .serverRejected)) ∨
    (∃ fields value, library.parse response = some (.object fields) ∧
      readResult fields = some value ∧ value ≤ 0xFF ∧ value ≠ loginSuccess ∧
      decodeLoginResponse library response =
        .error ⟨.serverRejected, some value.toUInt8⟩) ∨
    (∃ fields, library.parse response = some (.object fields) ∧
      readResult fields = some loginSuccess ∧
      decodeLoginResponse library response = decodeSession fields) := by
  unfold decodeLoginResponse
  split
  swap
  · exact Or.inl rfl
  rename_i fields hparse
  split
  · rename_i hresult
    split
    · rename_i hmessage
      exact Or.inr (Or.inl ⟨fields, hparse, hresult,
        Option.isSome_iff_ne_none.mp hmessage, rfl⟩)
    · exact Or.inl rfl
  rename_i result hresult
  split
  · exact Or.inl rfl
  rename_i value hvalue
  have hread : readResult fields = some value := by
    unfold readResult
    rw [hresult]
    exact hvalue
  split
  · exact Or.inl rfl
  rename_i hsmall
  split
  · rename_i hrejected
    exact Or.inr (Or.inr (Or.inl ⟨fields, value, hparse, hread,
      UInt64.not_lt.mp hsmall, hrejected, rfl⟩))
  · rename_i hsuccess
    rw [not_not.mp hsuccess] at hread
    exact Or.inr (Or.inr (Or.inr ⟨fields, hparse, hread, rfl⟩))

theorem decodeLoginResponse_of_message
    (hparse : library.parse response = some (.object fields))
    (hresult : findMember fields (memberName "result") = none)
    (hmessage : findMember fields (memberName "error_message") ≠ none) :
    decodeLoginResponse library response =
      .error (failure .serverRejected) := by
  unfold decodeLoginResponse
  rw [hparse]
  dsimp only
  rw [hresult]
  dsimp only
  rw [if_pos (Option.isSome_iff_ne_none.mpr hmessage)]

theorem decodeLoginResponse_of_result
    (hparse : library.parse response = some (.object fields))
    {value : UInt64} (hresult : readResult fields = some value)
    (hsmall : value ≤ 0xFF) :
    decodeLoginResponse library response =
      if value ≠ loginSuccess then
        .error ⟨.serverRejected, some value.toUInt8⟩
      else decodeSession fields := by
  obtain ⟨result, hmember, hvalue⟩ := Option.bind_eq_some_iff.mp hresult
  have hwithin : ¬value > 0xFF := UInt64.not_lt.mpr hsmall
  unfold decodeLoginResponse
  rw [hparse]
  dsimp only
  rw [hmember]
  dsimp only
  rw [hvalue]
  dsimp only
  rw [if_neg hwithin]

end Response

/-! ## The decision table -/

section Table

variable {library : JsonLibrary} {response : List UInt8}
  {members : List (List UInt8 × Json)} {session : AuthSession}

def isContainer : JsonValue → Bool
  | .array _ => true
  | .object _ => true
  | _ => false

theorem ofLexeme_not_container (lexeme : List UInt8) :
    isContainer (JsonValue.ofLexeme lexeme) = false := by
  unfold JsonValue.ofLexeme
  split
  · split
    · rfl
    · rfl
  · split
    · rfl
    · rfl

theorem parse_object
    (hlibrary : library.Conforms)
    {fields : List (List UInt8 × JsonValue)}
    (hparse : library.parse response = some (.object fields)) :
    ∃ members, Json.parse response = some (.object members) ∧
      fields = JsonValue.ofMembers members := by
  rw [hlibrary.parse_eq] at hparse
  obtain ⟨document, hdocument, hvalue⟩ := Option.map_eq_some_iff.mp hparse
  cases document with
  | object members =>
      cases hvalue
      exact ⟨members, hdocument, rfl⟩
  | number lexeme =>
      have hnumber := ofLexeme_not_container lexeme
      cases hnumber.symm.trans (congrArg isContainer hvalue)
  | null => cases hvalue
  | boolean value => cases hvalue
  | string bytes => cases hvalue
  | array items => cases hvalue

theorem parse_of_object
    (hlibrary : library.Conforms)
    (hdocument : Json.parse response = some (.object members)) :
    library.parse response =
      some (.object (JsonValue.ofMembers members)) := by
  rw [hlibrary.parse_eq, hdocument]
  rfl

theorem array_ofMembers
    {name : String} {fields : List JsonValue}
    (hfield : findMember (JsonValue.ofMembers members) (memberName name) =
      some (.array fields)) :
    ∃ items, lastMember members name = some (.array items) ∧
      fields = JsonValue.ofItems items := by
  rw [findMember_ofMembers] at hfield
  obtain ⟨document, hdocument, hvalue⟩ := Option.map_eq_some_iff.mp hfield
  cases document with
  | array items =>
      cases hvalue
      exact ⟨items, hdocument, rfl⟩
  | number lexeme =>
      have hnumber := ofLexeme_not_container lexeme
      cases hnumber.symm.trans (congrArg isContainer hvalue)
  | null => cases hvalue
  | boolean value => cases hvalue
  | string bytes => cases hvalue
  | object members => cases hvalue

theorem ofItems_length (items : List Json) :
    (JsonValue.ofItems items).length = items.length := by
  induction items with
  | nil => rfl
  | cons item items ih =>
      rw [JsonValue.ofItems, List.length_cons, List.length_cons, ih]

theorem holdsSession_iff :
    (readResult (JsonValue.ofMembers members) = some loginSuccess ∧
      decodeSession (JsonValue.ofMembers members) = .ok session) ↔
      HoldsSession members session := by
  constructor
  · rintro ⟨hresult, hdecoded⟩
    obtain ⟨accountId, fields, account, haccountId, hfields, hlength,
      haccount, hnonzero, hrange, hsession, hbytes⟩ :=
        decodeSession_ok hdecoded
    obtain ⟨items, hitems, rfl⟩ := array_ofMembers hfields
    rw [ofItems_length] at hlength
    have hsmall : account.toNat ≤ 0xFFFFFFFF :=
      UInt64.le_iff_toNat_le.mp hrange
    have hvalue : session.accountId.toNat = account.toNat := by
      rw [hsession, UInt64.toNat_toUInt32]
      exact Nat.mod_eq_of_lt (by omega)
    constructor
    · exact readUnsigned_member.mp hresult
    · rw [hvalue]
      apply readUnsigned_member.mp
      rw [haccountId]
      exact haccount
    · intro hzero
      apply hnonzero
      apply UInt64.toNat_inj.mp
      rw [← hvalue, hzero]
      rfl
    · exact ⟨items, hitems, hlength, mapM_readByte_ofItems.mp hbytes⟩
  · intro hholds
    obtain ⟨items, hitems, hlength, hbytes⟩ := hholds.sessionHash
    have hwide : session.accountId.toUInt64.toNat = session.accountId.toNat :=
      UInt32.toNat_toUInt64 _
    have haccount := hholds.accountId
    rw [← hwide] at haccount
    obtain ⟨accountId, hmember, hread⟩ :=
      Option.bind_eq_some_iff.mp (readUnsigned_member.mpr haccount)
    refine ⟨readUnsigned_member.mpr hholds.result, ?_⟩
    apply decodeSession_of_members hmember
    · rw [findMember_ofMembers, hitems]
      rfl
    · rw [ofItems_length]
      exact hlength
    · exact hread
    · intro hzero
      apply hholds.nonzero
      apply UInt32.toNat_inj.mp
      rw [← hwide, hzero]
      rfl
    · apply UInt64.le_iff_toNat_le.mpr
      have hlt := session.accountId.toNat_lt
      rw [hwide]
      exact Nat.le_of_lt_succ hlt
    · exact (UInt32.toUInt32_toUInt64 _).symm
    · exact mapM_readByte_ofItems.mpr hbytes

theorem holdsRejection_iff {code : UInt8} :
    HoldsRejection members code ↔
      readResult (JsonValue.ofMembers members) = some code.toUInt64 ∧
        code.toUInt64 ≠ loginSuccess := by
  have hwide : code.toUInt64.toNat = code.toNat := UInt8.toNat_toUInt64 code
  have hone : code.toUInt64 = loginSuccess ↔ code = 1 := by
    rw [← UInt64.toNat_inj, ← UInt8.toNat_inj, hwide]
    rfl
  unfold HoldsRejection readResult
  rw [readUnsigned_member, hwide, ne_eq, ne_eq, hone]

theorem holdsMessage_iff :
    HoldsMessage members ↔
      findMember (JsonValue.ofMembers members) (memberName "result") = none ∧
        findMember (JsonValue.ofMembers members)
          (memberName "error_message") ≠ none := by
  unfold HoldsMessage
  rw [findMember_ofMembers, findMember_ofMembers, ne_eq, ne_eq,
    Option.map_eq_none_iff, Option.map_eq_none_iff]

/-- What the response says, if anything. -/
def Classified (members : List (List UInt8 × Json)) : Prop :=
  (∃ session, HoldsSession members session) ∨
    (∃ code, HoldsRejection members code) ∨ HoldsMessage members

theorem decode_of_holdsSession
    (hlibrary : library.Conforms)
    (hdocument : Json.parse response = some (.object members))
    (hholds : HoldsSession members session) :
    decodeLoginResponse library response = .ok session := by
  obtain ⟨hresult, hdecoded⟩ := holdsSession_iff.mpr hholds
  rw [decodeLoginResponse_of_result (parse_of_object hlibrary hdocument)
    hresult (by decide), if_neg (not_not.mpr rfl)]
  exact hdecoded

theorem decode_of_holdsRejection
    (hlibrary : library.Conforms) {code : UInt8}
    (hdocument : Json.parse response = some (.object members))
    (hholds : HoldsRejection members code) :
    decodeLoginResponse library response =
      .error ⟨.serverRejected, some code⟩ := by
  obtain ⟨hresult, hrejected⟩ := holdsRejection_iff.mp hholds
  have hsmall : code.toUInt64 ≤ 0xFF := by
    apply UInt64.le_iff_toNat_le.mpr
    rw [UInt8.toNat_toUInt64]
    exact Nat.le_of_lt_succ code.toNat_lt
  rw [decodeLoginResponse_of_result (parse_of_object hlibrary hdocument)
    hresult hsmall, if_pos hrejected, UInt8.toUInt8_toUInt64]

theorem decode_of_holdsMessage
    (hlibrary : library.Conforms)
    (hdocument : Json.parse response = some (.object members))
    (hholds : HoldsMessage members) :
    decodeLoginResponse library response =
      .error (failure .serverRejected) := by
  obtain ⟨hresult, hmessage⟩ := holdsMessage_iff.mp hholds
  exact decodeLoginResponse_of_message (parse_of_object hlibrary hdocument)
    hresult hmessage

/-- What the document holds when it gets this answer. -/
def Explains (members : List (List UInt8 × Json)) :
    Except AuthFailure AuthSession → Prop
  | .ok session => HoldsSession members session
  | .error ⟨.serverRejected, some code⟩ => HoldsRejection members code
  | .error ⟨.serverRejected, none⟩ => HoldsMessage members
  | .error _ => False

theorem explains_cases
    {answer : Except AuthFailure AuthSession}
    (hexplains : Explains members answer) :
    (∃ session, answer = .ok session ∧ HoldsSession members session) ∨
      (∃ code, answer = .error ⟨.serverRejected, some code⟩ ∧
        HoldsRejection members code) ∨
      answer = .error ⟨.serverRejected, none⟩ ∧ HoldsMessage members := by
  cases answer with
  | ok session => exact Or.inl ⟨session, rfl, hexplains⟩
  | error failed =>
      rcases failed with ⟨error, code⟩
      cases error with
      | serverRejected =>
          cases code with
          | some code => exact Or.inr (Or.inl ⟨code, rfl, hexplains⟩)
          | none => exact Or.inr (Or.inr ⟨rfl, hexplains⟩)
      | _ => exact hexplains.elim

theorem classified_iff :
    Classified members ↔ ∃ answer, Explains members answer := by
  constructor
  · rintro (⟨session, hholds⟩ | ⟨code, hholds⟩ | hholds)
    · exact ⟨.ok session, hholds⟩
    · exact ⟨.error ⟨.serverRejected, some code⟩, hholds⟩
    · exact ⟨.error ⟨.serverRejected, none⟩, hholds⟩
  · rintro ⟨answer, hexplains⟩
    rcases explains_cases hexplains with
      ⟨session, -, hholds⟩ | ⟨code, -, hholds⟩ | ⟨-, hholds⟩
    · exact Or.inl ⟨session, hholds⟩
    · exact Or.inr (Or.inl ⟨code, hholds⟩)
    · exact Or.inr (Or.inr hholds)

theorem decode_of_explains
    (hlibrary : library.Conforms) {answer : Except AuthFailure AuthSession}
    (hdocument : Json.parse response = some (.object members))
    (hexplains : Explains members answer) :
    decodeLoginResponse library response = answer := by
  rcases explains_cases hexplains with
    ⟨session, rfl, hholds⟩ | ⟨code, rfl, hholds⟩ | ⟨rfl, hholds⟩
  · exact decode_of_holdsSession hlibrary hdocument hholds
  · exact decode_of_holdsRejection hlibrary hdocument hholds
  · exact decode_of_holdsMessage hlibrary hdocument hholds

/-- An answer that is not malformed is explained by the document. -/
theorem explained_of_ne
    (hlibrary : library.Conforms)
    (hanswer : decodeLoginResponse library response ≠
      .error (failure .malformedResponse)) :
    ∃ members, Json.parse response = some (.object members) ∧
      Explains members (decodeLoginResponse library response) := by
  rcases decodeLoginResponse_cases library response with hmalformed |
      ⟨fields, hparse, hresult, hmessage, hdecoded⟩ |
      ⟨fields, value, hparse, hresult, hsmall, hrejected, hdecoded⟩ |
      ⟨fields, hparse, hresult, hdecoded⟩
  · exact absurd hmalformed hanswer
  · obtain ⟨members, hdocument, rfl⟩ := parse_object hlibrary hparse
    rw [hdecoded]
    exact ⟨members, hdocument, holdsMessage_iff.mpr ⟨hresult, hmessage⟩⟩
  · obtain ⟨members, hdocument, rfl⟩ := parse_object hlibrary hparse
    have hnarrow : value.toUInt8.toUInt64 = value := by
      apply UInt64.toNat_inj.mp
      have hle : value.toNat ≤ 0xFF := UInt64.le_iff_toNat_le.mp hsmall
      rw [UInt8.toNat_toUInt64, UInt64.toNat_toUInt8]
      exact Nat.mod_eq_of_lt (by omega)
    have hholds : HoldsRejection members value.toUInt8 := by
      apply holdsRejection_iff.mpr
      rw [hnarrow]
      exact ⟨hresult, hrejected⟩
    rw [hdecoded]
    exact ⟨members, hdocument, hholds⟩
  · obtain ⟨members, hdocument, rfl⟩ := parse_object hlibrary hparse
    cases hsession : decodeSession (JsonValue.ofMembers members) with
    | error error =>
        rw [hsession, decodeSession_error hsession] at hdecoded
        exact absurd hdecoded hanswer
    | ok session =>
        rw [hdecoded, hsession]
        exact ⟨members, hdocument,
          holdsSession_iff.mp ⟨hresult, hsession⟩⟩

theorem decode_eq_iff
    (hlibrary : library.Conforms) {answer : Except AuthFailure AuthSession}
    (hanswer : answer ≠ .error (failure .malformedResponse)) :
    decodeLoginResponse library response = answer ↔
      ∃ members, Json.parse response = some (.object members) ∧
        Explains members answer := by
  constructor
  · rintro rfl
    exact explained_of_ne hlibrary hanswer
  · rintro ⟨members, hdocument, hexplains⟩
    exact decode_of_explains hlibrary hdocument hexplains

end Table

/-! ## Encoding a session -/

section Encode

def byteNumber (byte : UInt8) : Json :=
  .number (Json.decimalDigits byte.toNat)

/-- A response that carries the session. -/
def sessionDocument (session : AuthSession) : List (List UInt8 × Json) :=
  [(memberName "account_id",
      .number (Json.decimalDigits session.accountId.toNat)),
    (memberName "result", byteNumber 1),
    (memberName "session_hash",
      .array (session.sessionHash.val.map byteNumber))]

def encodeSession (session : AuthSession) : List UInt8 :=
  Json.write (.object (sessionDocument session))

theorem denotesInteger_decimalDigits (value : ℕ) :
    DenotesInteger (.number (Json.decimalDigits value)) value := by
  refine ⟨_, rfl, ?_⟩
  rw [integerOf_unsigned, JsonValue.all_decimalDigits, if_pos rfl,
    JsonValue.decimal_decimalDigits]
  intro digits hdigits
  have hminus := Json.decimalDigits_isDigit value 0x2D
    (by rw [hdigits]; exact List.mem_cons_self)
  cases hminus

theorem sessionDocument_holds
    {session : AuthSession} (hnonzero : session.accountId ≠ 0) :
    HoldsSession (sessionDocument session) session := by
  constructor
  · exact ⟨_, rfl, denotesInteger_decimalDigits 1⟩
  · exact ⟨_, rfl, denotesInteger_decimalDigits session.accountId.toNat⟩
  · exact hnonzero
  · refine ⟨_, rfl, ?_, ?_⟩
    · rw [List.length_map]
      exact session.sessionHash.property
    · generalize session.sessionHash.val = bytes
      induction bytes with
      | nil => exact List.Forall₂.nil
      | cons byte bytes ih =>
          exact List.Forall₂.cons (denotesInteger_decimalDigits byte.toNat) ih

theorem areWritable_byteNumbers (bytes : List UInt8) :
    Json.areWritable (bytes.map byteNumber) = true := by
  induction bytes with
  | nil => rfl
  | cons byte bytes ih =>
      rw [List.map_cons, Json.areWritable, Bool.and_eq_true]
      exact ⟨Json.isNumber_decimalDigits byte.toNat, ih⟩

theorem parse_encodeSession (session : AuthSession) :
    Json.parse (encodeSession session) =
      some (.object (sessionDocument session)) := by
  have hwritable : Json.isWritable (.object (sessionDocument session)) =
      (Json.isNumber (Json.decimalDigits session.accountId.toNat) &&
        (Json.isNumber (Json.decimalDigits (1 : UInt8).toNat) &&
          (Json.areWritable (session.sessionHash.val.map byteNumber) &&
            true))) := rfl
  apply Json.parse_write
  rw [hwritable, Json.isNumber_decimalDigits, Json.isNumber_decimalDigits,
    areWritable_byteNumbers]
  rfl

end Encode

/-- The whole decision table of `DecodeLoginResponse`, and that an encoded
session is decoded. -/
theorem decodeLoginResponse_exact
    {library : JsonLibrary} (hlibrary : library.Conforms)
    (response : List UInt8) :
    (∀ session, decodeLoginResponse library response = .ok session ↔
      ∃ members, Json.parse response = some (.object members) ∧
        HoldsSession members session) ∧
    (∀ code, decodeLoginResponse library response =
        .error ⟨.serverRejected, some code⟩ ↔
      ∃ members, Json.parse response = some (.object members) ∧
        HoldsRejection members code) ∧
    (decodeLoginResponse library response =
        .error (failure .serverRejected) ↔
      ∃ members, Json.parse response = some (.object members) ∧
        HoldsMessage members) ∧
    (decodeLoginResponse library response =
        .error (failure .malformedResponse) ↔
      ¬∃ members, Json.parse response = some (.object members) ∧
        Classified members) ∧
    ∀ session : AuthSession, session.accountId ≠ 0 →
      decodeLoginResponse library (encodeSession session) = .ok session := by
  refine ⟨?_, ?_, ?_, ?_, ?_⟩
  · intro session
    exact decode_eq_iff hlibrary fun hmalformed => nomatch hmalformed
  · intro code
    exact decode_eq_iff hlibrary fun hmalformed => nomatch hmalformed
  · exact decode_eq_iff hlibrary fun hmalformed => nomatch hmalformed
  · constructor
    · rintro hmalformed ⟨members, hdocument, hclass⟩
      obtain ⟨answer, hexplains⟩ := classified_iff.mp hclass
      have hanswer := decode_of_explains hlibrary hdocument hexplains
      rw [← hanswer, hmalformed] at hexplains
      exact hexplains
    · intro hunclassified
      by_contra hother
      obtain ⟨members, hdocument, hexplains⟩ :=
        explained_of_ne hlibrary hother
      exact hunclassified
        ⟨members, hdocument, classified_iff.mpr ⟨_, hexplains⟩⟩
  · intro session hnonzero
    exact decode_of_holdsSession hlibrary (parse_encodeSession session)
      (sessionDocument_holds hnonzero)

def exampleSession : AuthSession := ⟨1000, ⟨List.replicate 16 0x44, rfl⟩⟩

theorem exampleSession_decoded :
    decodeLoginResponse referenceJsonLibrary (encodeSession exampleSession) =
      .ok exampleSession := by
  obtain ⟨-, -, -, -, hencoded⟩ :=
    decodeLoginResponse_exact referenceJsonLibrary_conforms []
  exact hencoded exampleSession (by decide)

end Revana.Login
