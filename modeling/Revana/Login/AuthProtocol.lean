import Revana.Foundation.Json
import Revana.Login.AuthClient

/-!
# The authentication protocol

`EncodeLoginAttempt`, `DecodeLoginResponse` and `IsCompleteJson` of
`auth_protocol.cpp`.  The JSON library is a parameter: what it accepts, the
value it parses, and the text it dumps.
-/

namespace Revana.Login

open Foundation

/-! ## The JSON library -/

/-- A parsed document with the library's number types.  Object members stay in
the order of the text. -/
inductive JsonValue where
  | null
  | boolean (value : Bool)
  | numberUnsigned (value : UInt64)
  | numberInteger (value : Int64)
  | numberFloat (lexeme : List UInt8)
  | string (bytes : List UInt8)
  | array (items : List JsonValue)
  | object (members : List (List UInt8 × JsonValue))

namespace JsonValue

def decimal (digits : List UInt8) : ℕ :=
  digits.foldl (fun value digit => 10 * value + (digit - 0x30).toNat) 0

/-- An integer outside the 64-bit ranges is a floating point number. -/
def ofLexeme (lexeme : List UInt8) : JsonValue :=
  match lexeme with
  | 0x2D :: digits =>
      if digits.all Json.isDigit ∧ decimal digits ≤ 2 ^ 63 then
        .numberInteger (Int64.ofInt (-(decimal digits : ℤ)))
      else .numberFloat lexeme
  | digits =>
      if digits.all Json.isDigit ∧ decimal digits < 2 ^ 64 then
        .numberUnsigned (decimal digits).toUInt64
      else .numberFloat lexeme

mutual

def ofJson : Json → JsonValue
  | .null => .null
  | .boolean value => .boolean value
  | .number lexeme => ofLexeme lexeme
  | .string bytes => .string bytes
  | .array items => .array (ofItems items)
  | .object members => .object (ofMembers members)

def ofItems : List Json → List JsonValue
  | [] => []
  | item :: rest => ofJson item :: ofItems rest

def ofMembers : List (List UInt8 × Json) → List (List UInt8 × JsonValue)
  | [] => []
  | (name, value) :: rest => (name, ofJson value) :: ofMembers rest

end

end JsonValue

/-- `find` on an object: the last of several members of one name wins. -/
def findMember (members : List (List UInt8 × JsonValue)) (name : List UInt8) :
    Option JsonValue :=
  members.reverse.lookup name

structure JsonLibrary where
  accept : List UInt8 → Bool
  parse : List UInt8 → Option JsonValue

/-- The library accepts exactly the JSON texts and parses them to the value
they denote. -/
structure JsonLibrary.Conforms (library : JsonLibrary) : Prop where
  accept_iff : ∀ text, library.accept text = true ↔
    ∃ document, Json.parse text = some document
  parse_eq : ∀ text,
    library.parse text = (Json.parse text).map JsonValue.ofJson

/-- The machine of the grammar as a library. -/
def referenceJsonLibrary : JsonLibrary where
  accept := fun text => (Json.parse text).isSome
  parse := fun text => (Json.parse text).map JsonValue.ofJson

theorem referenceJsonLibrary_conforms : referenceJsonLibrary.Conforms := by
  constructor
  · intro text
    exact Option.isSome_iff_exists
  · intro text
    rfl

/-- What `dump` throws. -/
inductive JsonException where
  | typeError (id : ℕ)
  deriving DecidableEq, Repr

structure JsonSerializer extends JsonLibrary where
  dump : JsonValue → Except JsonException (List UInt8)

def memberName (name : String) : List UInt8 :=
  name.toList.map fun character => character.toNat.toUInt8

def failure (error : AuthError) : AuthFailure := ⟨error, none⟩

/-! ## Encoding -/

def loginAttemptCommand : UInt64 := 0x10
def maximumUsernameSize : ℕ := 16
def maximumPasswordSize : ℕ := 32

def containsNull (value : List UInt8) : Bool := value.any (· = 0x00)

/-- The library keeps the members in the order of their names. -/
def loginRequest (credentials : AuthCredentials) : JsonValue :=
  .object
    [(memberName "client_profile", .string (memberName "july-2009-xbox")),
      (memberName "command", .numberUnsigned loginAttemptCommand),
      (memberName "new_password", .string []),
      (memberName "otp", .string credentials.otp),
      (memberName "password", .string credentials.password),
      (memberName "username", .string credentials.username),
      (memberName "version", .array
        [.numberInteger 2, .numberInteger 1, .numberInteger 0])]

/-- The outer error is an exception. -/
def encodeLoginAttempt (serializer : JsonSerializer)
    (credentials : AuthCredentials) :
    Except JsonException (Except AuthFailure (List UInt8)) :=
  if credentials.username = [] ∨
      maximumUsernameSize < credentials.username.length ∨
      credentials.password = [] ∨
      maximumPasswordSize < credentials.password.length ∨
      containsNull credentials.username ∨
      containsNull credentials.password ∨ containsNull credentials.otp then
    .ok (.error (failure .invalidInput))
  else (serializer.dump (loginRequest credentials)).map .ok

/-! ## Decoding -/

def loginSuccess : UInt64 := 1

def readUnsigned : JsonValue → Option UInt64
  | .numberUnsigned value => some value
  | .numberInteger value => if value < 0 then none else some value.toUInt64
  | _ => none

def readByte (value : JsonValue) : Option UInt8 :=
  (readUnsigned value).bind fun number =>
    if number ≤ 0xFF then some number.toUInt8 else none

/-- The session of a response whose result is a success. -/
def decodeSession (members : List (List UInt8 × JsonValue)) :
    Except AuthFailure AuthSession :=
  match findMember members (memberName "account_id"),
      findMember members (memberName "session_hash") with
  | some accountId, some (.array items) =>
      if items.length ≠ sessionHashSize then
        .error (failure .malformedResponse)
      else
        match readUnsigned accountId with
        | none => .error (failure .malformedResponse)
        | some account =>
            if account = 0 ∨ account > 0xFFFFFFFF then
              .error (failure .malformedResponse)
            else
              match items.mapM readByte with
              | none => .error (failure .malformedResponse)
              | some bytes =>
                  if hsize : bytes.length = sessionHashSize then
                    .ok ⟨account.toUInt32, ⟨bytes, hsize⟩⟩
                  else .error (failure .malformedResponse)
  | _, _ => .error (failure .malformedResponse)

def decodeLoginResponse (library : JsonLibrary) (response : List UInt8) :
    Except AuthFailure AuthSession :=
  match library.parse response with
  | some (.object members) =>
      match findMember members (memberName "result") with
      | none =>
          if (findMember members (memberName "error_message")).isSome then
            .error (failure .serverRejected)
          else .error (failure .malformedResponse)
      | some result =>
          match readUnsigned result with
          | none => .error (failure .malformedResponse)
          | some value =>
              if value > 0xFF then .error (failure .malformedResponse)
              else if value ≠ loginSuccess then
                .error ⟨.serverRejected, some value.toUInt8⟩
              else decodeSession members
  | _ => .error (failure .malformedResponse)

def isCompleteJson (library : JsonLibrary) (input : List UInt8) : Bool :=
  library.accept input

/-- A prefix of an object text that is complete decodes to the same answer. -/
theorem decodeLoginResponse_prefix
    {library : JsonLibrary} (hlibrary : library.Conforms)
    {before after : List UInt8}
    (hobject : Json.IsObjectText (before ++ after))
    (hcomplete : isCompleteJson library before = true) :
    decodeLoginResponse library before =
      decodeLoginResponse library (before ++ after) := by
  obtain ⟨document, hbefore⟩ := (hlibrary.accept_iff before).mp hcomplete
  have hwhole := Json.parse_prefix_of_object hobject hbefore
  have hsame : library.parse before = library.parse (before ++ after) := by
    rw [hlibrary.parse_eq, hlibrary.parse_eq, hbefore, hwhole]
  unfold decodeLoginResponse
  rw [hsame]

end Revana.Login
