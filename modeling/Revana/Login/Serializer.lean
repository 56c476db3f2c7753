import Revana.Foundation.JsonWriter
import Revana.Login.AuthProtocol

/-!
# Serialising JSON values

What the library promises about `dump` with its default arguments, and the
writer of the grammar as a library that keeps the promise.
-/

namespace Revana.Login

open Foundation

namespace JsonValue

/-! ## Values and their text -/

mutual

/-- Every string of the value is UTF-8, the member names included. -/
def isUtf8 : JsonValue → Bool
  | .null => true
  | .boolean _ => true
  | .numberUnsigned _ => true
  | .numberInteger _ => true
  | .numberFloat _ => true
  | .string bytes => Json.isUtf8 bytes
  | .array items => areUtf8 items
  | .object members => membersUtf8 members

def areUtf8 : List JsonValue → Bool
  | [] => true
  | item :: items => item.isUtf8 && areUtf8 items

def membersUtf8 : List (List UInt8 × JsonValue) → Bool
  | [] => true
  | (name, value) :: members =>
      Json.isUtf8 name && value.isUtf8 && membersUtf8 members

end

mutual

/-- No floating point number, and every object in the order of its names, as
the library keeps it. -/
def isExact : JsonValue → Bool
  | .null => true
  | .boolean _ => true
  | .numberUnsigned _ => true
  | .numberInteger _ => true
  | .numberFloat _ => false
  | .string _ => true
  | .array items => areExact items
  | .object members =>
      decide ((members.map Prod.fst).Pairwise (· < ·)) && membersExact members

def areExact : List JsonValue → Bool
  | [] => true
  | item :: items => item.isExact && areExact items

def membersExact : List (List UInt8 × JsonValue) → Bool
  | [] => true
  | (_, value) :: members => value.isExact && membersExact members

end

mutual

/-- The same value as the parser represents it: only a negative integer is
signed. -/
def canonical : JsonValue → JsonValue
  | .null => .null
  | .boolean value => .boolean value
  | .numberUnsigned value => .numberUnsigned value
  | .numberInteger value =>
      if value < 0 then .numberInteger value else .numberUnsigned value.toUInt64
  | .numberFloat lexeme => .numberFloat lexeme
  | .string bytes => .string bytes
  | .array items => .array (canonicalItems items)
  | .object members => .object (canonicalMembers members)

def canonicalItems : List JsonValue → List JsonValue
  | [] => []
  | item :: items => item.canonical :: canonicalItems items

def canonicalMembers :
    List (List UInt8 × JsonValue) → List (List UInt8 × JsonValue)
  | [] => []
  | (name, value) :: members =>
      (name, value.canonical) :: canonicalMembers members

end

def integerLexeme (value : ℤ) : List UInt8 :=
  if value < 0 then Json.minus :: Json.decimalDigits value.natAbs
  else Json.decimalDigits value.natAbs

mutual

def toJson : JsonValue → Json
  | .null => .null
  | .boolean value => .boolean value
  | .numberUnsigned value => .number (Json.decimalDigits value.toNat)
  | .numberInteger value => .number (integerLexeme value.toInt)
  | .numberFloat lexeme => .number lexeme
  | .string bytes => .string bytes
  | .array items => .array (toItems items)
  | .object members => .object (toMembers members)

def toItems : List JsonValue → List Json
  | [] => []
  | item :: items => item.toJson :: toItems items

def toMembers : List (List UInt8 × JsonValue) → List (List UInt8 × Json)
  | [] => []
  | (name, value) :: members => (name, value.toJson) :: toMembers members

end

end JsonValue

/-- `dump` throws on a string that is not UTF-8, and otherwise emits a text
that parses back to the same value. -/
structure JsonSerializer.Serializes (serializer : JsonSerializer) : Prop where
  conforms : serializer.toJsonLibrary.Conforms
  dump_throws : ∀ value : JsonValue, value.isUtf8 = false →
    ∃ exception, serializer.dump value = .error exception
  dump_parses : ∀ value : JsonValue, value.isUtf8 = true →
    value.isExact = true →
    ∃ text, serializer.dump value = .ok text ∧
      serializer.parse text = some value.canonical

/-- The writer of the grammar as a library. -/
def referenceSerializer : JsonSerializer where
  toJsonLibrary := referenceJsonLibrary
  dump := fun value =>
    if value.isUtf8 then .ok (Json.write value.toJson)
    else .error (.typeError 316)

/-! ## The writer keeps the promise -/

namespace JsonValue

theorem decimal_decimalDigits (value : ℕ) :
    decimal (Json.decimalDigits value) = value :=
  Json.foldl_decimalDigits value

theorem all_decimalDigits (value : ℕ) :
    (Json.decimalDigits value).all Json.isDigit = true :=
  List.all_eq_true.mpr (Json.decimalDigits_isDigit value)

theorem ofLexeme_decimalDigits
    {value : ℕ} (hvalue : value < 2 ^ 64) :
    ofLexeme (Json.decimalDigits value) =
      .numberUnsigned value.toUInt64 := by
  unfold ofLexeme
  split
  · rename_i digits hdigits
    have hminus := Json.decimalDigits_isDigit value 0x2D
      (by rw [hdigits]; exact List.mem_cons_self)
    cases hminus
  · rw [decimal_decimalDigits, if_pos ⟨all_decimalDigits value, hvalue⟩]

theorem ofLexeme_minus
    {value : ℕ} (hvalue : value ≤ 2 ^ 63) :
    ofLexeme (Json.minus :: Json.decimalDigits value) =
      .numberInteger (Int64.ofInt (-(value : ℤ))) := by
  unfold ofLexeme Json.minus
  simp only
  rw [decimal_decimalDigits, if_pos ⟨all_decimalDigits value, hvalue⟩]

theorem toUInt64_of_nonnegative
    {value : Int64} (hvalue : ¬value.toInt < 0) :
    value.toInt.natAbs.toUInt64 = value.toUInt64 := by
  have hhigh := value.toInt_lt
  have hbits : value.toInt =
      if 2 * value.toUInt64.toNat < 2 ^ 64 then (value.toUInt64.toNat : ℤ)
      else (value.toUInt64.toNat : ℤ) - (2 ^ 64 : ℕ) :=
    value.toBitVec.toInt_eq_toNat_cond
  have hword := value.toUInt64.toNat_lt
  have hnat : value.toInt.natAbs = value.toUInt64.toNat := by
    split at hbits
    · omega
    · omega
  rw [hnat]
  exact UInt64.ofNat_toNat

theorem ofLexeme_integerLexeme (value : Int64) :
    ofLexeme (integerLexeme value.toInt) =
      (JsonValue.numberInteger value).canonical := by
  have hlow := value.le_toInt
  have hhigh := value.toInt_lt
  unfold integerLexeme canonical
  by_cases hnegative : value.toInt < 0
  · have hless : value < 0 := Int64.lt_iff_toInt_lt.mpr hnegative
    have hself : -((value.toInt.natAbs : ℕ) : ℤ) = value.toInt := by omega
    rw [if_pos hnegative, if_pos hless, ofLexeme_minus (by omega), hself,
      Int64.ofInt_toInt]
  · have hless : ¬value < 0 := fun h =>
      hnegative (Int64.lt_iff_toInt_lt.mp h)
    rw [if_neg hnegative, if_neg hless, ofLexeme_decimalDigits (by omega),
      toUInt64_of_nonnegative hnegative]

theorem isNumber_integerLexeme (value : ℤ) :
    Json.isNumber (integerLexeme value) = true := by
  unfold integerLexeme
  split
  · exact Json.isNumber_minus (Json.decimalDigits_isDigit value.natAbs)
      (Json.isNumber_decimalDigits value.natAbs)
  · exact Json.isNumber_decimalDigits value.natAbs

mutual

theorem isWritable_toJson :
    ∀ value : JsonValue, value.isUtf8 = true → value.isExact = true →
      Json.isWritable value.toJson = true
  | .null, _, _ => rfl
  | .boolean _, _, _ => rfl
  | .numberUnsigned value, _, _ => Json.isNumber_decimalDigits value.toNat
  | .numberInteger value, _, _ => isNumber_integerLexeme value.toInt
  | .numberFloat _, _, hexact => nomatch hexact
  | .string _, hutf8, _ => hutf8
  | .array items, hutf8, hexact => areWritable_toItems items hutf8 hexact
  | .object members, hutf8, hexact => by
      rw [isExact, Bool.and_eq_true] at hexact
      exact membersWritable_toMembers members hutf8 hexact.2

theorem areWritable_toItems :
    ∀ items, areUtf8 items = true → areExact items = true →
      Json.areWritable (toItems items) = true
  | [], _, _ => rfl
  | item :: items, hutf8, hexact => by
      rw [areUtf8, Bool.and_eq_true] at hutf8
      rw [areExact, Bool.and_eq_true] at hexact
      rw [toItems, Json.areWritable, Bool.and_eq_true]
      exact ⟨isWritable_toJson item hutf8.1 hexact.1,
        areWritable_toItems items hutf8.2 hexact.2⟩

theorem membersWritable_toMembers :
    ∀ members, membersUtf8 members = true → membersExact members = true →
      Json.membersWritable (toMembers members) = true
  | [], _, _ => rfl
  | (name, value) :: members, hutf8, hexact => by
      rw [membersUtf8, Bool.and_eq_true, Bool.and_eq_true] at hutf8
      rw [membersExact, Bool.and_eq_true] at hexact
      rw [toMembers, Json.membersWritable, Bool.and_eq_true,
        Bool.and_eq_true]
      obtain ⟨⟨hname, hvalue⟩, hmembers⟩ := hutf8
      exact ⟨⟨hname, isWritable_toJson value hvalue hexact.1⟩,
        membersWritable_toMembers members hmembers hexact.2⟩

end

mutual

theorem ofJson_toJson :
    ∀ value : JsonValue, value.isExact = true →
      ofJson value.toJson = value.canonical
  | .null, _ => rfl
  | .boolean _, _ => rfl
  | .numberUnsigned value, _ => by
      rw [toJson, ofJson, canonical, ofLexeme_decimalDigits value.toNat_lt]
      exact congrArg JsonValue.numberUnsigned UInt64.ofNat_toNat
  | .numberInteger value, _ => by
      rw [toJson, ofJson, ofLexeme_integerLexeme]
  | .numberFloat _, hexact => nomatch hexact
  | .string _, _ => rfl
  | .array items, hexact => by
      rw [toJson, ofJson, canonical, ofItems_toItems items hexact]
  | .object members, hexact => by
      rw [isExact, Bool.and_eq_true] at hexact
      rw [toJson, ofJson, canonical, ofMembers_toMembers members hexact.2]

theorem ofItems_toItems :
    ∀ items, areExact items = true →
      ofItems (toItems items) = canonicalItems items
  | [], _ => rfl
  | item :: items, hexact => by
      rw [areExact, Bool.and_eq_true] at hexact
      rw [toItems, ofItems, canonicalItems, ofJson_toJson item hexact.1,
        ofItems_toItems items hexact.2]

theorem ofMembers_toMembers :
    ∀ members, membersExact members = true →
      ofMembers (toMembers members) = canonicalMembers members
  | [], _ => rfl
  | (name, value) :: members, hexact => by
      rw [membersExact, Bool.and_eq_true] at hexact
      rw [toMembers, ofMembers, canonicalMembers,
        ofJson_toJson value hexact.1, ofMembers_toMembers members hexact.2]

end

/-- The text the writer makes of a value parses back to it. -/
theorem parse_write_toJson
    {value : JsonValue} (hutf8 : value.isUtf8 = true)
    (hexact : value.isExact = true) :
    (Json.parse (Json.write value.toJson)).map ofJson =
      some value.canonical := by
  rw [Json.parse_write (isWritable_toJson value hutf8 hexact),
    Option.map_some, ofJson_toJson value hexact]

end JsonValue

theorem referenceSerializer_serializes : referenceSerializer.Serializes := by
  constructor
  · exact referenceJsonLibrary_conforms
  · intro value hutf8
    exact ⟨.typeError 316, by simp [referenceSerializer, hutf8]⟩
  · intro value hutf8 hexact
    exact ⟨Json.write value.toJson, by simp [referenceSerializer, hutf8],
      JsonValue.parse_write_toJson hutf8 hexact⟩

end Revana.Login
