import Revana.Login.Serializer

/-!
# Encoding a login attempt

`EncodeLoginAttempt` serialises strings that come from the environment and
catches nothing, so it answers exactly when its own checks refuse them or all
of them are UTF-8.
-/

namespace Revana.Login

open Foundation

/-- What `EncodeLoginAttempt` checks. -/
def Refused (credentials : AuthCredentials) : Prop :=
  credentials.username = [] ∨
    maximumUsernameSize < credentials.username.length ∨
    credentials.password = [] ∨
    maximumPasswordSize < credentials.password.length ∨
    containsNull credentials.username ∨
    containsNull credentials.password ∨ containsNull credentials.otp

instance (credentials : AuthCredentials) : Decidable (Refused credentials) :=
  inferInstanceAs (Decidable (_ ∨ _))

def AllUtf8 (credentials : AuthCredentials) : Prop :=
  Json.isUtf8 credentials.username = true ∧
    Json.isUtf8 credentials.password = true ∧
    Json.isUtf8 credentials.otp = true

/-- A complete object text from which the credentials can be read back. -/
structure CarriesCredentials (library : JsonLibrary) (credentials : AuthCredentials)
    (text : List UInt8) : Prop where
  complete : isCompleteJson library text = true
  parsed : ∃ members, library.parse text = some (.object members) ∧
    findMember members (memberName "command") =
      some (.numberUnsigned loginAttemptCommand) ∧
    findMember members (memberName "username") =
      some (.string credentials.username) ∧
    findMember members (memberName "password") =
      some (.string credentials.password) ∧
    findMember members (memberName "otp") = some (.string credentials.otp)

/-- The call ends in an answer, and in a text when nothing is wrong with the
credentials. -/
structure LoginAttemptAnswered (serializer : JsonSerializer)
    (credentials : AuthCredentials) : Prop where
  answer : encodeLoginAttempt serializer credentials =
      .ok (.error (failure .invalidInput)) ∨
    ∃ text, encodeLoginAttempt serializer credentials = .ok (.ok text) ∧
      CarriesCredentials serializer.toJsonLibrary credentials text
  text : 1 ≤ credentials.username.length →
    credentials.username.length ≤ 16 → 1 ≤ credentials.password.length →
    credentials.password.length ≤ 32 → 0x00 ∉ credentials.username →
    0x00 ∉ credentials.password → 0x00 ∉ credentials.otp →
    AllUtf8 credentials →
    ∃ text, encodeLoginAttempt serializer credentials = .ok (.ok text)

section Encoding

variable {serializer : JsonSerializer} {credentials : AuthCredentials}

theorem containsNull_iff {value : List UInt8} :
    containsNull value = true ↔ 0x00 ∈ value := by
  unfold containsNull
  simp

theorem not_refused
    (husername : 1 ≤ credentials.username.length)
    (husernameSize : credentials.username.length ≤ 16)
    (hpassword : 1 ≤ credentials.password.length)
    (hpasswordSize : credentials.password.length ≤ 32)
    (husernameNull : 0x00 ∉ credentials.username)
    (hpasswordNull : 0x00 ∉ credentials.password)
    (hotpNull : 0x00 ∉ credentials.otp) :
    ¬Refused credentials := by
  rintro (hempty | hlong | hempty | hlong | hnull | hnull | hnull)
  · rw [hempty] at husername
    exact absurd husername (by decide)
  · exact absurd husernameSize (not_le.mpr hlong)
  · rw [hempty] at hpassword
    exact absurd hpassword (by decide)
  · exact absurd hpasswordSize (not_le.mpr hlong)
  · exact husernameNull (containsNull_iff.mp hnull)
  · exact hpasswordNull (containsNull_iff.mp hnull)
  · exact hotpNull (containsNull_iff.mp hnull)

/-! ## The request -/

theorem loginRequest_isUtf8 :
    (loginRequest credentials).isUtf8 = true ↔ AllUtf8 credentials := by
  have hstrings : (loginRequest credentials).isUtf8 =
      (Json.isUtf8 credentials.otp && (Json.isUtf8 credentials.password &&
        (Json.isUtf8 credentials.username && true))) := rfl
  unfold AllUtf8
  rw [hstrings, Bool.and_true, Bool.and_eq_true, Bool.and_eq_true]
  constructor
  · rintro ⟨hotp, hpassword, husername⟩
    exact ⟨husername, hpassword, hotp⟩
  · rintro ⟨husername, hpassword, hotp⟩
    exact ⟨hotp, hpassword, husername⟩

theorem loginRequest_isExact :
    (loginRequest credentials).isExact = true := by
  rfl

theorem loginRequest_canonical (credentials : AuthCredentials) :
    ∃ members, (loginRequest credentials).canonical = .object members ∧
      findMember members (memberName "command") =
        some (.numberUnsigned loginAttemptCommand) ∧
      findMember members (memberName "username") =
        some (.string credentials.username) ∧
      findMember members (memberName "password") =
        some (.string credentials.password) ∧
      findMember members (memberName "otp") =
        some (.string credentials.otp) := by
  exact ⟨_, rfl, rfl, rfl, rfl, rfl⟩

/-! ## The answer -/

theorem encodeLoginAttempt_of_refused (hrefused : Refused credentials) :
    encodeLoginAttempt serializer credentials =
      .ok (.error (failure .invalidInput)) :=
  if_pos hrefused

theorem encodeLoginAttempt_of_not_refused
    (haccepted : ¬Refused credentials) :
    encodeLoginAttempt serializer credentials =
      (serializer.dump (loginRequest credentials)).map .ok :=
  if_neg haccepted

theorem encodeLoginAttempt_carries
    (hserializes : serializer.Serializes) (haccepted : ¬Refused credentials)
    (hutf8 : AllUtf8 credentials) :
    ∃ text, encodeLoginAttempt serializer credentials = .ok (.ok text) ∧
      CarriesCredentials serializer.toJsonLibrary credentials text := by
  obtain ⟨text, hdump, hparse⟩ := hserializes.dump_parses
    (loginRequest credentials) (loginRequest_isUtf8.mpr hutf8)
    loginRequest_isExact
  obtain ⟨members, hcanonical, hmembers⟩ := loginRequest_canonical credentials
  rw [hcanonical] at hparse
  refine ⟨text, ?_, ?_, members, hparse, hmembers⟩
  · rw [encodeLoginAttempt_of_not_refused haccepted, hdump]
    rfl
  · apply (hserializes.conforms.accept_iff text).mpr
    rw [hserializes.conforms.parse_eq] at hparse
    obtain ⟨document, hdocument, -⟩ := Option.map_eq_some_iff.mp hparse
    exact ⟨document, hdocument⟩

/-- A string that is not UTF-8 ends the call in an exception. -/
theorem encodeLoginAttempt_throws
    (hserializes : serializer.Serializes) (haccepted : ¬Refused credentials)
    (hutf8 : ¬AllUtf8 credentials) :
    ∃ exception,
      encodeLoginAttempt serializer credentials = .error exception := by
  have hrequest : (loginRequest credentials).isUtf8 = false := by
    rw [← Bool.not_eq_true]
    exact fun h => hutf8 (loginRequest_isUtf8.mp h)
  obtain ⟨exception, hdump⟩ :=
    hserializes.dump_throws (loginRequest credentials) hrequest
  refine ⟨exception, ?_⟩
  rw [encodeLoginAttempt_of_not_refused haccepted, hdump]
  rfl

/-- An exception is no answer. -/
theorem LoginAttemptAnswered.not_throws
    (hanswered : LoginAttemptAnswered serializer credentials)
    (exception : JsonException) :
    encodeLoginAttempt serializer credentials ≠ .error exception := by
  intro hthrows
  rcases hanswered.answer with hrefused | ⟨text, htext, -⟩
  · rw [hthrows] at hrefused
    cases hrefused
  · rw [hthrows] at htext
    cases htext

end Encoding

theorem encodeLoginAttempt_answered_iff
    {serializer : JsonSerializer} (hserializes : serializer.Serializes)
    (credentials : AuthCredentials) :
    LoginAttemptAnswered serializer credentials ↔
      Refused credentials ∨ AllUtf8 credentials := by
  constructor
  · intro hanswered
    by_contra hneither
    rw [not_or] at hneither
    obtain ⟨exception, hthrows⟩ :=
      encodeLoginAttempt_throws hserializes hneither.1 hneither.2
    exact hanswered.not_throws exception hthrows
  · intro hcondition
    constructor
    · by_cases hrefused : Refused credentials
      · exact Or.inl (encodeLoginAttempt_of_refused hrefused)
      · exact Or.inr (encodeLoginAttempt_carries hserializes hrefused
          (hcondition.resolve_left hrefused))
    · intro husername husernameSize hpassword hpasswordSize husernameNull
        hpasswordNull hotpNull hutf8
      have haccepted := not_refused husername husernameSize hpassword
        hpasswordSize husernameNull hpasswordNull hotpNull
      obtain ⟨text, htext, -⟩ :=
        encodeLoginAttempt_carries hserializes haccepted hutf8
      exact ⟨text, htext⟩

theorem referenceSerializer_answers :
    LoginAttemptAnswered referenceSerializer ⟨[0x75], [0x70], [0x31]⟩ :=
  (encodeLoginAttempt_answered_iff referenceSerializer_serializes _).mpr
    (Or.inr ⟨rfl, rfl, rfl⟩)

/-- A one-time password in a legacy code page. -/
def legacyCredentials : AuthCredentials := ⟨[0x75], [0x70], [0xE9]⟩

theorem legacyCredentials_throw :
    ¬LoginAttemptAnswered referenceSerializer legacyCredentials := by
  intro hanswered
  have hutf8 : ¬AllUtf8 legacyCredentials := by
    rintro ⟨-, -, hotp⟩
    cases hotp
  obtain ⟨exception, hthrows⟩ := encodeLoginAttempt_throws
    referenceSerializer_serializes (by decide) hutf8
  exact hanswered.not_throws exception hthrows

end Revana.Login
