import Revana.Foundation.HexText
import Revana.Runtime.LobbyBridgeConfigure

/-!
# The certificate pin

`ParseCertificatePin` accepts the texts of 64 hexadecimal digits and nothing
else.  `Configure` then reads the all-zero pin as no pin, so that one accepted
text leaves the server's certificate unpinned.
-/

namespace Revana.Runtime

open Foundation
open Login

/-! ## The digits of a pin -/

theorem digitValue_eq_some_iff {byte : UInt8} {value : ℕ} :
    digitValue 16 byte = some value ↔ HexDigit byte value := by
  unfold digitValue
  simp only [UInt8.le_iff_toNat_le, UInt8.reduceToNat]
  constructor
  · intro hvalue
    obtain ⟨hvalue, hlt⟩ := Option.filter_eq_some_iff.mp hvalue
    rw [decide_eq_true_eq] at hlt
    split_ifs at hvalue with hdecimal hlower hupper
    · obtain rfl := Option.some.inj hvalue
      exact .decimal hdecimal.1 hdecimal.2
    · obtain rfl := Option.some.inj hvalue
      exact .lower hlower.1 (by omega)
    · obtain rfl := Option.some.inj hvalue
      exact .upper hupper.1 (by omega)
  · intro hdigit
    apply Option.filter_eq_some_iff.mpr
    refine ⟨?_, decide_eq_true hdigit.lt⟩
    cases hdigit with
    | decimal hlow hhigh => rw [if_pos ⟨hlow, hhigh⟩]
    | lower hlow hhigh =>
        rw [if_neg (by omega), if_pos (by omega)]
    | upper hlow hhigh =>
        rw [if_neg (by omega), if_neg (by omega), if_pos (by omega)]

theorem fromChars_consumed (base : ℕ) (bytes : List UInt8) :
    (fromChars base bytes).consumed =
      (bytes.takeWhile fun byte => (digitValue base byte).isSome).length := by
  unfold fromChars
  simp only
  split
  · rfl
  · rfl

theorem parsePinByte_eq_none
    {high low : UInt8}
    (hconsumed : (fromChars 16 [high, low]).consumed ≠ 2) :
    parsePinByte high low = none := by
  unfold parsePinByte
  simp only
  rw [if_pos hconsumed]

theorem parsePinByte_of_digits
    {high low : UInt8} {highValue lowValue : ℕ}
    (hhigh : HexDigit high highValue) (hlow : HexDigit low lowValue) :
    parsePinByte high low =
      some (UInt8.ofNat (highValue * 16 + lowValue)) := by
  have hsmall : ¬highValue * 16 + lowValue > 0xFFFFFFFF := by
    have hhighLt := hhigh.lt
    have hlowLt := hlow.lt
    omega
  unfold parsePinByte fromChars
  simp [digitValue_eq_some_iff.mpr hhigh, digitValue_eq_some_iff.mpr hlow,
    hsmall]

theorem parsePinByte_eq_some_iff {high low byte : UInt8} :
    parsePinByte high low = some byte ↔
      ∃ highValue lowValue, HexDigit high highValue ∧ HexDigit low lowValue ∧
        byte = UInt8.ofNat (highValue * 16 + lowValue) := by
  constructor
  · intro hbyte
    cases hhigh : digitValue 16 high with
    | none =>
        -- Nothing is consumed.
        rw [parsePinByte_eq_none (by simp [fromChars_consumed, hhigh])]
          at hbyte
        cases hbyte
    | some highValue =>
        cases hlow : digitValue 16 low with
        | none =>
            -- One character of the pair is consumed.
            rw [parsePinByte_eq_none
              (by simp [fromChars_consumed, hhigh, hlow])] at hbyte
            cases hbyte
        | some lowValue =>
            have hhighDigit := digitValue_eq_some_iff.mp hhigh
            have hlowDigit := digitValue_eq_some_iff.mp hlow
            rw [parsePinByte_of_digits hhighDigit hlowDigit] at hbyte
            exact ⟨highValue, lowValue, hhighDigit, hlowDigit,
              (Option.some.inj hbyte).symm⟩
  · rintro ⟨highValue, lowValue, hhigh, hlow, rfl⟩
    exact parsePinByte_of_digits hhigh hlow

theorem parsePinBytes_eq_some_iff
    {text bytes : List UInt8} (count : ℕ)
    (hlength : text.length = 2 * count) :
    parsePinBytes text = some bytes ↔ HexText text bytes := by
  induction count generalizing text bytes with
  | zero =>
      obtain rfl := List.length_eq_zero_iff.mp hlength
      constructor
      · intro hbytes
        obtain rfl := Option.some.inj hbytes
        exact .nil
      · intro htext
        cases htext with
        | nil => rfl
  | succ count ih =>
      match text, hlength with
      | high :: low :: rest, hlength =>
          simp only [List.length_cons] at hlength
          rw [parsePinBytes]
          constructor
          · intro hbytes
            cases hbyte : parsePinByte high low with
            | none => simp [hbyte] at hbytes
            | some byte =>
                rw [hbyte] at hbytes
                obtain ⟨tail, htail, rfl⟩ := Option.map_eq_some_iff.mp hbytes
                obtain ⟨highValue, lowValue, hhigh, hlow, rfl⟩ :=
                  parsePinByte_eq_some_iff.mp hbyte
                exact .cons hhigh hlow ((ih (by omega)).mp htail)
          · intro htext
            cases htext with
            | cons hhigh hlow hrest =>
                rw [parsePinByte_eq_some_iff.mpr ⟨_, _, hhigh, hlow, rfl⟩]
                simp only
                rw [(ih (by omega)).mpr hrest]
                rfl

/-- Exactly the texts of 64 digits are accepted, with the bytes they
denote. -/
theorem parseCertificatePin_eq_some_iff
    {text : List UInt8} {pin : CertificateSha256} :
    parseCertificatePin (some text) = some pin ↔ HexText text pin.val := by
  unfold parseCertificatePin
  simp only
  split_ifs with hsize
  · constructor
    · intro hpin
      cases hpin
    · intro htext
      have hlength := htext.length
      rw [pin.property] at hlength
      exact absurd hlength hsize
  · rw [not_not] at hsize
    have hiff := @parsePinBytes_eq_some_iff text pin.val 32 hsize
    constructor
    · intro hpin
      split at hpin
      · cases hpin
      · rename_i result hresult
        obtain rfl := Option.some.inj hpin
        exact hiff.mp hresult
    · intro htext
      have hparsed := hiff.mpr htext
      split
      · rename_i hnone
        rw [hparsed] at hnone
        cases hnone
      · rename_i result hresult
        rw [hparsed] at hresult
        congr 1
        exact Subtype.ext (Option.some.inj hresult).symm

theorem parseCertificatePin_accepts_iff {text : List UInt8} :
    (∃ pin, parseCertificatePin (some text) = some pin) ↔
      text.length = 64 ∧ ∀ byte ∈ text, ∃ digit, HexDigit byte digit := by
  constructor
  · rintro ⟨pin, hpin⟩
    have htext := parseCertificatePin_eq_some_iff.mp hpin
    have hlength := htext.length
    rw [pin.property] at hlength
    exact ⟨hlength, htext.digits⟩
  · rintro ⟨hlength, hdigits⟩
    obtain ⟨bytes, hbytes⟩ := HexText.exists_of_digits 32 hlength hdigits
    have hsize : bytes.length = 32 := by
      have hpairs := hbytes.length
      omega
    exact ⟨⟨bytes, hsize⟩, parseCertificatePin_eq_some_iff.mpr hbytes⟩

/-! ## What `Configure` does with the pin -/

/-- The environment lets `Configure` reach the login server, whatever the pin
is. -/
structure OtherwiseValid (env : BridgeEnvironment) : Prop where
  host : ∃ host, readEnvironment env "REVANA_LOBBY_HOST" = some host ∧
    (env.inetPton host).isSome
  username : (readEnvironment env "REVANA_LOBBY_USERNAME").isSome
  password : (readEnvironment env "REVANA_LOBBY_PASSWORD").isSome
  authPort : (parsePort (readEnvironment env "REVANA_LOBBY_AUTH_PORT")
    loginAuthPort).isSome
  dataPort : (parsePort (readEnvironment env "REVANA_LOBBY_DATA_PORT")
    loginDataPort).isSome
  viewPort : (parsePort (readEnvironment env "REVANA_LOBBY_VIEW_PORT")
    loginViewPort).isSome
  clientVersion : (validClientVersion
    (readEnvironment env "REVANA_LOBBY_CLIENT_VERSION")).isSome

theorem readParameters_isSome_iff
    {env : BridgeEnvironment} {host username password : List UInt8} :
    (readParameters env host username password).isSome ↔
      (parsePort (readEnvironment env "REVANA_LOBBY_AUTH_PORT")
        loginAuthPort).isSome ∧
      (parsePort (readEnvironment env "REVANA_LOBBY_DATA_PORT")
        loginDataPort).isSome ∧
      (parsePort (readEnvironment env "REVANA_LOBBY_VIEW_PORT")
        loginViewPort).isSome ∧
      (parseCertificatePin (readEnvironment env
        "REVANA_LOBBY_CERTIFICATE_SHA256")).isSome ∧
      (validClientVersion
        (readEnvironment env "REVANA_LOBBY_CLIENT_VERSION")).isSome ∧
      (env.inetPton host).isSome := by
  unfold readParameters
  simp only
  split
  · rename_i hauthPort hdataPort hviewPort hpin hversion
    simp only [hauthPort, hdataPort, hviewPort, hpin, hversion]
    cases env.inetPton host with
    | none => simp
    | some address => simp
  · rename_i hfailed
    constructor
    · intro hsome
      cases hsome
    · rintro ⟨hauthPort, hdataPort, hviewPort, hpin, hversion, -⟩
      exact absurd (Option.some_get hversion).symm
        (hfailed _ _ _ _ _ (Option.some_get hauthPort).symm
          (Option.some_get hdataPort).symm (Option.some_get hviewPort).symm
          (Option.some_get hpin).symm)

theorem readParameters_pin
    {env : BridgeEnvironment} {host username password : List UInt8}
    {parameters : BridgeParameters}
    (hparameters : readParameters env host username password =
      some parameters) :
    ∃ authPort pin,
      parseCertificatePin (readEnvironment env
        "REVANA_LOBBY_CERTIFICATE_SHA256") = some pin ∧
      parameters.authOptions = pinnedOptions authPort pin := by
  unfold readParameters at hparameters
  simp only at hparameters
  split at hparameters
  · rename_i authPort dataPort viewPort pin clientVersion _ _ _ hpin _
    split at hparameters
    · cases hparameters
    · obtain rfl := Option.some.inj hparameters
      exact ⟨authPort, pin, hpin, rfl⟩
  · cases hparameters

theorem configureSession_calls
    (env : BridgeEnvironment) (parameters : BridgeParameters)
    (session : AuthSession) (bridge : LobbyBridge) (hooks : NetworkHooks)
    (globals : Globals) :
    (configureSession env parameters session bridge hooks
      globals).authenticateCalls =
      [⟨parameters.host, parameters.credentials, parameters.authOptions⟩] := by
  unfold configureSession
  simp only
  split_ifs <;> rfl

/-- `Configure` calls the server once if it can read its parameters, and else
fails without a call. -/
theorem configure_calls
    (env : BridgeEnvironment) (hooks : NetworkHooks) (globals : Globals) :
    let result := configure env hooks globals
    (result.succeeded = false ∧ result.authenticateCalls = [] ∧
      ∀ host username password,
        readEnvironment env "REVANA_LOBBY_HOST" = some host →
        readEnvironment env "REVANA_LOBBY_USERNAME" = some username →
        readEnvironment env "REVANA_LOBBY_PASSWORD" = some password →
        readParameters env host username password = none) ∨
    ∃ host username password parameters,
      readEnvironment env "REVANA_LOBBY_HOST" = some host ∧
      readEnvironment env "REVANA_LOBBY_USERNAME" = some username ∧
      readEnvironment env "REVANA_LOBBY_PASSWORD" = some password ∧
      readParameters env host username password = some parameters ∧
      result.authenticateCalls = [⟨parameters.host, parameters.credentials,
        parameters.authOptions⟩] := by
  simp only [configure]
  split
  · rename_i hunset
    refine Or.inl ⟨rfl, rfl, ?_⟩
    intro host username password hhost
    rw [hunset.1] at hhost
    cases hhost
  split
  · rename_i host username password hhost husername hpassword
    cases hparameters : readParameters env host username password with
    | none =>
        refine Or.inl ⟨rfl, rfl, ?_⟩
        intro host' username' password' hhost' husername' hpassword'
        obtain rfl := Option.some.inj (hhost.symm.trans hhost')
        obtain rfl := Option.some.inj (husername.symm.trans husername')
        obtain rfl := Option.some.inj (hpassword.symm.trans hpassword')
        exact hparameters
    | some parameters =>
        refine Or.inr ⟨host, username, password, parameters, hhost, husername,
          hpassword, hparameters, ?_⟩
        simp only
        split
        · rfl
        · exact configureSession_calls _ _ _ _ _ _
  · rename_i hincomplete
    refine Or.inl ⟨rfl, rfl, ?_⟩
    intro host username password hhost husername hpassword
    exact absurd hpassword (hincomplete host username password hhost husername)

/-- `Configure` fails before it calls the server, or it pins exactly the bytes
the value denotes. -/
def PinFailsClosed (value : List UInt8) (result : ConfigureResult) : Prop :=
  (result.succeeded = false ∧ result.authenticateCalls = []) ∨
  (value.length = 64 ∧ ∃ pin : CertificateSha256, HexText value pin.val ∧
    result.authenticateCalls ≠ [] ∧
    ∀ call ∈ result.authenticateCalls,
      call.options.certificateSha256 = some pin)

/-- The one pin that is read as no pin. -/
theorem pinnedOptions_cases (authPort : UInt16) (pin : CertificateSha256) :
    (pin.val = List.replicate 32 0 ∧
      (pinnedOptions authPort pin).certificateSha256 = none) ∨
    (pin.val ≠ List.replicate 32 0 ∧
      (pinnedOptions authPort pin).certificateSha256 = some pin) := by
  unfold pinnedOptions
  simp only
  cases hany : pin.val.any (· ≠ 0) with
  | false =>
      left
      refine ⟨List.eq_replicate_iff.mpr ⟨pin.property, ?_⟩, rfl⟩
      intro byte hbyte
      have hzero := List.any_eq_false.mp hany byte hbyte
      simpa using hzero
  | true =>
      right
      refine ⟨?_, rfl⟩
      intro hzero
      rw [hzero] at hany
      exact absurd hany (by decide)

/-- `OtherwiseValid` and an accepted pin are what it takes to reach the
server. -/
theorem otherwiseValid_iff
    {env : BridgeEnvironment}
    (hpin : (parseCertificatePin (readEnvironment env
      "REVANA_LOBBY_CERTIFICATE_SHA256")).isSome) :
    OtherwiseValid env ↔ ∃ host username password,
      readEnvironment env "REVANA_LOBBY_HOST" = some host ∧
      readEnvironment env "REVANA_LOBBY_USERNAME" = some username ∧
      readEnvironment env "REVANA_LOBBY_PASSWORD" = some password ∧
      (readParameters env host username password).isSome := by
  constructor
  · intro hvalid
    obtain ⟨host, hhost, haddress⟩ := hvalid.host
    obtain ⟨username, husername⟩ := Option.isSome_iff_exists.mp hvalid.username
    obtain ⟨password, hpassword⟩ := Option.isSome_iff_exists.mp hvalid.password
    exact ⟨host, username, password, hhost, husername, hpassword,
      readParameters_isSome_iff.mpr ⟨hvalid.authPort, hvalid.dataPort,
        hvalid.viewPort, hpin, hvalid.clientVersion, haddress⟩⟩
  · rintro ⟨host, username, password, hhost, husername, hpassword,
      hparameters⟩
    obtain ⟨hauthPort, hdataPort, hviewPort, -, hversion, haddress⟩ :=
      readParameters_isSome_iff.mp hparameters
    exact ⟨⟨host, hhost, haddress⟩, Option.isSome_of_mem husername,
      Option.isSome_of_mem hpassword, hauthPort, hdataPort, hviewPort,
      hversion⟩

theorem hexText_zeros :
    HexText (List.replicate 64 0x30) (List.replicate 32 0) :=
  (HexText.replicate_zero_iff 32).mpr rfl

/-- Sixty-four zeros are accepted and the server is called without a pin. -/
theorem configure_zeroPin
    {env : BridgeEnvironment} (hooks : NetworkHooks) (globals : Globals)
    (hvalue : readEnvironment env "REVANA_LOBBY_CERTIFICATE_SHA256" =
      some (List.replicate 64 0x30))
    (hvalid : OtherwiseValid env) :
    ∃ call, (configure env hooks globals).authenticateCalls = [call] ∧
      call.options.certificateSha256 = none := by
  have hzero : parseCertificatePin (readEnvironment env
      "REVANA_LOBBY_CERTIFICATE_SHA256") = some ⟨List.replicate 32 0, rfl⟩ := by
    rw [hvalue]
    exact parseCertificatePin_eq_some_iff.mpr hexText_zeros
  obtain ⟨host, username, password, hhost, husername, hpassword, hread⟩ :=
    (otherwiseValid_iff (Option.isSome_of_mem hzero)).mp hvalid
  rcases configure_calls env hooks globals with
    ⟨-, -, hunread⟩ | ⟨host, username, password, parameters, -, -, -,
      hparameters, hcalls⟩
  · rw [hunread host username password hhost husername hpassword] at hread
    cases hread
  · obtain ⟨authPort, pin, hpin, hoptions⟩ := readParameters_pin hparameters
    obtain rfl := Option.some.inj (hzero.symm.trans hpin)
    refine ⟨_, hcalls, ?_⟩
    rcases pinnedOptions_cases authPort ⟨List.replicate 32 0, rfl⟩ with
      ⟨-, hnone⟩ | ⟨hnonzero, -⟩
    · rw [hoptions]
      exact hnone
    · exact absurd rfl hnonzero

theorem not_pinFailsClosed_of_unpinned
    {value : List UInt8} {result : ConfigureResult} {call : AuthenticateCall}
    (hcalls : result.authenticateCalls = [call])
    (hunpinned : call.options.certificateSha256 = none) :
    ¬PinFailsClosed value result := by
  rintro (⟨-, hnoCall⟩ | ⟨-, pin, -, -, hpinned⟩)
  · rw [hcalls] at hnoCall
    cases hnoCall
  · rw [hcalls] at hpinned
    rw [hpinned call (List.mem_singleton.mpr rfl)] at hunpinned
    cases hunpinned

/-- Any other value stops `Configure` or pins what it denotes. -/
theorem pinFailsClosed_of_not_zeroPin
    {env : BridgeEnvironment} {value : List UInt8} (hooks : NetworkHooks)
    (globals : Globals)
    (hvalue : readEnvironment env "REVANA_LOBBY_CERTIFICATE_SHA256" =
      some value)
    (hother : ¬(value = List.replicate 64 0x30 ∧ OtherwiseValid env)) :
    PinFailsClosed value (configure env hooks globals) := by
  rcases configure_calls env hooks globals with
    ⟨hfailed, hcalls, -⟩ | ⟨host, username, password, parameters, hhost,
      husername, hpassword, hparameters, hcalls⟩
  · exact Or.inl ⟨hfailed, hcalls⟩
  obtain ⟨authPort, pin, hpin, hoptions⟩ := readParameters_pin hparameters
  have hvalid : OtherwiseValid env :=
    (otherwiseValid_iff (Option.isSome_of_mem hpin)).mpr
      ⟨host, username, password, hhost, husername, hpassword,
        Option.isSome_of_mem hparameters⟩
  rw [hvalue] at hpin
  have htext := parseCertificatePin_eq_some_iff.mp hpin
  have hlength := htext.length
  rw [pin.property] at hlength
  rcases pinnedOptions_cases authPort pin with
    ⟨hzero, -⟩ | ⟨hnonzero, hpinned⟩
  · rw [hzero] at htext
    exact absurd ⟨(HexText.replicate_zero_iff 32).mp htext, hvalid⟩ hother
  · refine Or.inr ⟨hlength, pin, htext, ?_, ?_⟩
    · rw [hcalls]
      exact List.cons_ne_nil _ _
    · intro call hcall
      rw [hcalls] at hcall
      obtain rfl := List.mem_singleton.mp hcall
      rw [hoptions]
      exact hpinned

/-- `ParseCertificatePin` accepts the texts of 64 digits, with the bytes they
denote, and pinning fails closed unless the pin is written as 64 zeros and
nothing else stops `Configure`. -/
theorem configure_pinFailsClosed_iff
    {env : BridgeEnvironment} {value : List UInt8} (hooks : NetworkHooks)
    (globals : Globals)
    (hvalue : readEnvironment env "REVANA_LOBBY_CERTIFICATE_SHA256" =
      some value) :
    (∀ text, (∃ pin, parseCertificatePin (some text) = some pin) ↔
      text.length = 64 ∧ ∀ byte ∈ text, ∃ digit, HexDigit byte digit) ∧
    (∀ text pin, parseCertificatePin (some text) = some pin ↔
      HexText text pin.val) ∧
    (PinFailsClosed value (configure env hooks globals) ↔
      ¬(value = List.replicate 64 0x30 ∧ OtherwiseValid env)) := by
  refine ⟨fun text => parseCertificatePin_accepts_iff,
    fun text pin => parseCertificatePin_eq_some_iff, ?_⟩
  constructor
  · rintro hclosed ⟨rfl, hvalid⟩
    obtain ⟨call, hcalls, hunpinned⟩ :=
      configure_zeroPin hooks globals hvalue hvalid
    exact not_pinFailsClosed_of_unpinned hcalls hunpinned hclosed
  · exact pinFailsClosed_of_not_zeroPin hooks globals hvalue

/-- `exampleVariables` with a pin. -/
def pinEnvironment (value : List UInt8) : BridgeEnvironment :=
  { exampleEnvironment with
    getEnvironment := fun name =>
      (("REVANA_LOBBY_CERTIFICATE_SHA256", value) :: exampleVariables).lookup
        name }

theorem configure_pinFailsClosed_mixedCase :
    PinFailsClosed (List.replicate 32 0x61 ++ List.replicate 32 0x42)
      (configure (pinEnvironment
        (List.replicate 32 0x61 ++ List.replicate 32 0x42)) {} {}) := by
  obtain ⟨-, -, hiff⟩ := @configure_pinFailsClosed_iff (pinEnvironment
    (List.replicate 32 0x61 ++ List.replicate 32 0x42))
    (List.replicate 32 0x61 ++ List.replicate 32 0x42) {} {} rfl
  refine hiff.mpr ?_
  rintro ⟨hzeros, -⟩
  exact absurd hzeros (by decide)

/-- The failing pin: `Configure` calls the server with pinning off. -/
theorem zeroPin_disables :
    readEnvironment (pinEnvironment (List.replicate 64 0x30))
        "REVANA_LOBBY_CERTIFICATE_SHA256" = some (List.replicate 64 0x30) ∧
      ¬PinFailsClosed (List.replicate 64 0x30)
        (configure (pinEnvironment (List.replicate 64 0x30)) {} {}) := by
  have hvalid : OtherwiseValid (pinEnvironment (List.replicate 64 0x30)) :=
    ⟨⟨_, rfl, rfl⟩, rfl, rfl, rfl, rfl, rfl, rfl⟩
  obtain ⟨call, hcalls, hunpinned⟩ := configure_zeroPin {} {} rfl hvalid
  exact ⟨rfl, not_pinFailsClosed_of_unpinned hcalls hunpinned⟩

end Revana.Runtime
