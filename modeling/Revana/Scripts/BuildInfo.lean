import Revana.Foundation.Checks
import Revana.Foundation.Json
import Revana.Foundation.Pattern
import Revana.Scripts.Python

/-!
# The build-info record

`read_build_info` and `build_info_summary` of `package.py`.  The fields of the
record are checked by regular expressions over code points, and `\d` stands
for every decimal digit of Unicode.
-/

namespace Revana.Scripts

open Foundation

/-- A `str` that may hold lone surrogates. -/
abbrev CodePoints := List ℕ

def codePoints (source : String) : CodePoints := source.toList.map Char.toNat

/-- The code points of a string of `Json`, which writes a lone surrogate like
any other code point. -/
def decodePoints : List UInt8 → CodePoints
  | [] => []
  | lead :: rest =>
      if lead < 0xC0 then lead.toNat :: decodePoints rest
      else if lead < 0xE0 then
        match rest with
        | b1 :: rest =>
            (0x40 * (lead.toNat - 0xC0) + (b1.toNat - 0x80)) ::
              decodePoints rest
        | [] => []
      else if lead < 0xF0 then
        match rest with
        | b1 :: b2 :: rest =>
            (0x1000 * (lead.toNat - 0xE0) + 0x40 * (b1.toNat - 0x80) +
              (b2.toNat - 0x80)) :: decodePoints rest
        | _ => []
      else
        match rest with
        | b1 :: b2 :: b3 :: rest =>
            (0x40000 * (lead.toNat - 0xF0) + 0x1000 * (b1.toNat - 0x80) +
              0x40 * (b2.toNat - 0x80) + (b3.toNat - 0x80)) ::
              decodePoints rest
        | _ => []

theorem toUInt8_toNat {value : ℕ} (hvalue : value < 0x100) :
    value.toUInt8.toNat = value :=
  Nat.mod_eq_of_lt hvalue

/-! ## Loading -/

def isInteger (lexeme : List UInt8) : Bool :=
  lexeme.all fun byte =>
    byte ≠ Json.decimalPoint && !Json.isExponentMark byte

/-- `int` raises a `ValueError` on more digits. -/
def maximumIntegerDigits : ℕ := 4300

mutual

/-- No object has a name twice and no integer is too long. -/
def loads : Json → Bool
  | .null => true
  | .boolean _ => true
  | .number lexeme =>
      !(isInteger lexeme &&
        maximumIntegerDigits < (lexeme.filter Json.isDigit).length)
  | .string _ => true
  | .array items => loadsItems items
  | .object members => loadsMembers members && (members.map Prod.fst).Nodup

def loadsItems : List Json → Bool
  | [] => true
  | item :: items => loads item && loadsItems items

def loadsMembers : List (List UInt8 × Json) → Bool
  | [] => true
  | member :: members => loads member.2 && loadsMembers members

end

/-- `json.loads` with `_unique_object` on what `decode("ascii")` accepts. -/
def loadAscii (raw : List UInt8) : Option Json :=
  if raw.all (· < 0x80) then (Json.parse raw).filter loads else none

/-! ## Comparing with one -/

/-- The mantissa and the exponent of ten of a lexeme without its sign. -/
def scientific (lexeme : List UInt8) : ℕ × ℤ :=
  let value (digits : List UInt8) : ℕ :=
    digits.foldl (fun value byte => value * 10 + (byte.toNat - 0x30)) 0
  let mantissa := lexeme.takeWhile fun byte => !Json.isExponentMark byte
  let exponent := (lexeme.drop mantissa.length).drop 1
  let whole := mantissa.takeWhile Json.isDigit
  let fraction := (mantissa.drop whole.length).drop 1
  let power : ℤ :=
    if exponent.head? = some Json.minus then -value (exponent.drop 1)
    else value (exponent.filter Json.isDigit)
  (value (whole ++ fraction), power - fraction.length)

/-- The nearest `float` is one: the value lies from `1 - 2 ^ -54` to
`1 + 2 ^ -53`. -/
def roundsToOne (lexeme : List UInt8) : Bool :=
  if lexeme.head? = some Json.minus then false
  else
    let parsed := scientific lexeme
    let value := parsed.1 * 10 ^ parsed.2.toNat
    let unit := 10 ^ (-parsed.2).toNat
    (2 ^ 54 - 1) * unit ≤ 2 ^ 54 * value && 2 ^ 53 * value ≤ (2 ^ 53 + 1) * unit

/-- `value == 1`, which also holds of `True` and `1.0`. -/
def equalsOne : Json → Bool
  | .boolean value => value
  | .number lexeme =>
      if isInteger lexeme then lexeme = [0x31] else roundsToOne lexeme
  | _ => false

/-! ## Regular expressions -/

def isBetween (low high : Char) (point : ℕ) : Bool :=
  low.toNat ≤ point && point ≤ high.toNat

theorem isBetween_iff {low high : Char} {point : ℕ} :
    isBetween low high point = true ↔
      low.toNat ≤ point ∧ point ≤ high.toNat := by
  unfold isBetween
  rw [Bool.and_eq_true, decide_eq_true_eq, decide_eq_true_eq]

/-- The decimal digits beyond ASCII, which depend on the version of Unicode that
the interpreter knows. -/
class UnicodeDigits where
  isForeign : ℕ → Bool

/-- `\d`. -/
def isDecimal [UnicodeDigits] (point : ℕ) : Bool :=
  isBetween '0' '9' point || (0x80 ≤ point && UnicodeDigits.isForeign point)

/-- `[0-9a-f]`. -/
def isLowerHex (point : ℕ) : Bool :=
  isBetween '0' '9' point || isBetween 'a' 'f' point

/-- `[A-Za-z0-9_.+-]`. -/
def isNameChar (point : ℕ) : Bool :=
  isBetween 'A' 'Z' point || isBetween 'a' 'z' point ||
    isBetween '0' '9' point || (codePoints "_.+-").contains point

/-- `[a-z0-9]`. -/
def isProfileChar (point : ℕ) : Bool :=
  isBetween 'a' 'z' point || isBetween '0' '9' point

def literal (char : Char) : Pattern ℕ := .one fun point => point = char.toNat

/-- `\d+\.\d+\.\d+`. -/
def versionPattern [UnicodeDigits] : Pattern ℕ :=
  let number : Pattern ℕ := .plus (.one isDecimal)
  .seq number (.seq (literal '.') (.seq number (.seq (literal '.') number)))

/-- `[0-9a-f]{40}`. -/
def commitPattern : Pattern ℕ := .times 40 (.one isLowerHex)

/-- `[A-Za-z0-9_.+-]+`. -/
def namePattern : Pattern ℕ := .plus (.one isNameChar)

/-- `[a-z0-9]+(?:-[a-z0-9]+)+`. -/
def profilePattern : Pattern ℕ :=
  let word : Pattern ℕ := .plus (.one isProfileChar)
  .seq word (.plus (.seq (literal '-') word))

/-! ## Reading -/

@[ext] structure BuildInfo where
  schema : ℕ
  product : CodePoints
  version : CodePoints
  titleCommit : CodePoints
  dirty : Bool
  sdkCommit : CodePoints
  sdkApiVersion : CodePoints
  platform : CodePoints
  architecture : CodePoints
  configuration : CodePoints
  compiler : CodePoints
  graphicsBackend : CodePoints
  supportedInputProfile : CodePoints
  deriving DecidableEq, Repr

abbrev Members := List (List UInt8 × Json)

def fieldName (name : String) : List UInt8 :=
  name.toList.map fun char => char.toNat.toUInt8

def buildInfoFields : List String :=
  ["schema", "product", "version", "title_commit", "dirty", "sdk_commit",
    "sdk_api_version", "platform", "architecture", "configuration",
    "compiler", "graphics_backend", "supported_input_profile"]

/-- `build_info[field]`, once the fields are known to be exact. -/
def fieldOf (members : Members) (name : String) : Json :=
  (members.lookup (fieldName name)).getD .null

/-- The text of a field that holds a string. -/
def textOf (members : Members) (name : String) : Option CodePoints :=
  match fieldOf members name with
  | .string bytes => some (decodePoints bytes)
  | _ => none

def flagOf (members : Members) (name : String) : Option Bool :=
  match fieldOf members name with
  | .boolean value => some value
  | _ => none

def buildInfoMatches (members : Members) (name : String)
    (pattern : Pattern ℕ) : Bool :=
  (textOf members name).any pattern.fullMatch

/-- `build_info[field] == value`. -/
def holdsText (members : Members) (name value : String) : Bool :=
  textOf members name = some (codePoints value)

/-- The dictionary as a record; a schema that equals one is one. -/
def toBuildInfo (members : Members) : BuildInfo where
  schema := if equalsOne (fieldOf members "schema") then 1 else 0
  product := (textOf members "product").getD []
  version := (textOf members "version").getD []
  titleCommit := (textOf members "title_commit").getD []
  dirty := (flagOf members "dirty").getD false
  sdkCommit := (textOf members "sdk_commit").getD []
  sdkApiVersion := (textOf members "sdk_api_version").getD []
  platform := (textOf members "platform").getD []
  architecture := (textOf members "architecture").getD []
  configuration := (textOf members "configuration").getD []
  compiler := (textOf members "compiler").getD []
  graphicsBackend := (textOf members "graphics_backend").getD []
  supportedInputProfile :=
    (textOf members "supported_input_profile").getD []

/-- What lies at the path of the record. -/
inductive BuildInfoFile where
  | reparsePoint
  | missing
  | regular (raw : List UInt8)

/-- `_regular_file` and `path.read_bytes()`. -/
def readRegular : BuildInfoFile → Except Failure (List UInt8)
  | .reparsePoint => .error (.systemExit
      "error: reparse point is not allowed: revana-build-info.json")
  | .missing => .error (.systemExit
      "error: required file is missing: revana-build-info.json")
  | .regular raw => .ok raw

def loadBuildInfo (raw : List UInt8) : Except Failure Json :=
  match loadAscii raw with
  | none => .error (.systemExit "error: build info is not valid ASCII JSON")
  | some value => .ok value

def exactFields (value : Json) : Except Failure Members :=
  match value with
  | .object members =>
      if (members.map Prod.fst).toFinset =
          (buildInfoFields.map fieldName).toFinset then .ok members
      else .error (.systemExit "error: build info fields are not exact")
  | _ => .error (.systemExit "error: build info fields are not exact")

def readBuildInfo [UnicodeDigits] (file : BuildInfoFile) :
    Except Failure BuildInfo := do
  let raw ← readRegular file
  let value ← loadBuildInfo raw
  let members ← exactFields value
  require (equalsOne (fieldOf members "schema") = true ∧
      holdsText members "product" "vana360" = true)
    (.systemExit "error: unsupported build info schema")
  require (buildInfoMatches members "version" versionPattern = true)
    (.systemExit "error: invalid build version")
  require (buildInfoMatches members "title_commit" commitPattern = true)
    (.systemExit "error: invalid title commit")
  require ((flagOf members "dirty").isSome = true)
    (.systemExit "error: invalid title source state")
  require (buildInfoMatches members "sdk_commit" commitPattern = true)
    (.systemExit "error: invalid SDK commit")
  require (buildInfoMatches members "sdk_api_version" versionPattern = true)
    (.systemExit "error: invalid SDK API version")
  require (holdsText members "platform" "windows" = true ∧
      holdsText members "architecture" "x64" = true)
    (.systemExit "error: package target differs from build info")
  require (buildInfoMatches members "configuration" namePattern = true)
    (.systemExit "error: invalid configuration")
  require (buildInfoMatches members "compiler" namePattern = true)
    (.systemExit "error: invalid compiler")
  require (holdsText members "graphics_backend" "xenos" = true)
    (.systemExit "error: unsupported graphics backend")
  require (buildInfoMatches members "supported_input_profile"
      profilePattern = true)
    (.systemExit "error: invalid supported input profile")
  return toBuildInfo members

/-! ## The summary -/

def buildInfoSummary (info : BuildInfo) : CodePoints :=
  codePoints "vana360 v" ++ info.version ++
  codePoints " title=" ++ info.titleCommit ++ codePoints "-" ++
    codePoints (if info.dirty then "dirty" else "clean") ++
  codePoints " sdk=" ++ info.sdkCommit ++
  codePoints " api=" ++ info.sdkApiVersion ++
  codePoints " platform=" ++ info.platform ++
  codePoints " arch=" ++ info.architecture ++
  codePoints " config=" ++ info.configuration ++
  codePoints " compiler=" ++ info.compiler ++
  codePoints " backend=" ++ info.graphicsBackend ++
  codePoints " input=" ++ info.supportedInputProfile

/-- `text.encode("ascii")`; a `UnicodeEncodeError` is not caught. -/
def encodeAscii (text : CodePoints) : Except Failure (List UInt8) :=
  if ∀ point ∈ text, point < 0x80 then .ok (text.map Nat.toUInt8)
  else .error .exception

/-- The name of the archive and of the staging directory. -/
def archiveName (info : BuildInfo) : CodePoints :=
  codePoints "vana360-v" ++ info.version ++ codePoints "-windows-x64"

/-! ## What is accepted -/

/-- The checks of `read_build_info` on the fields of an object. -/
structure Acceptable [UnicodeDigits] (members : Members) : Prop where
  fields : (members.map Prod.fst).toFinset =
    (buildInfoFields.map fieldName).toFinset
  schema : equalsOne (fieldOf members "schema") = true
  product : holdsText members "product" "vana360" = true
  version : buildInfoMatches members "version" versionPattern = true
  titleCommit : buildInfoMatches members "title_commit" commitPattern = true
  dirty : (flagOf members "dirty").isSome = true
  sdkCommit : buildInfoMatches members "sdk_commit" commitPattern = true
  sdkApiVersion :
    buildInfoMatches members "sdk_api_version" versionPattern = true
  platform : holdsText members "platform" "windows" = true
  architecture : holdsText members "architecture" "x64" = true
  configuration :
    buildInfoMatches members "configuration" namePattern = true
  compiler : buildInfoMatches members "compiler" namePattern = true
  graphicsBackend : holdsText members "graphics_backend" "xenos" = true
  supportedInputProfile :
    buildInfoMatches members "supported_input_profile" profilePattern = true

section Accepted

variable {file : BuildInfoFile} {raw : List UInt8} {members : Members}
  {info : BuildInfo}

theorem readRegular_ok_iff :
    readRegular file = .ok raw ↔ file = .regular raw := by
  cases file with
  | reparsePoint => simp [readRegular]
  | missing => simp [readRegular]
  | regular found => simp [readRegular]

theorem loadBuildInfo_ok_iff {value : Json} :
    loadBuildInfo raw = .ok value ↔ loadAscii raw = some value := by
  unfold loadBuildInfo
  cases loadAscii raw with
  | none => simp
  | some found => simp

theorem exactFields_ok_iff {value : Json} :
    exactFields value = .ok members ↔ value = .object members ∧
      (members.map Prod.fst).toFinset =
        (buildInfoFields.map fieldName).toFinset := by
  cases value with
  | object found =>
      unfold exactFields
      simp only [Json.object.injEq]
      split_ifs with hfields
      · constructor
        · intro hok
          obtain rfl := Except.ok.inj hok
          exact ⟨rfl, hfields⟩
        · rintro ⟨rfl, -⟩
          rfl
      · constructor
        · intro hok
          cases hok
        · rintro ⟨rfl, hexact⟩
          exact absurd hexact hfields
  | null => simp [exactFields]
  | boolean value => simp [exactFields]
  | number lexeme => simp [exactFields]
  | string bytes => simp [exactFields]
  | array items => simp [exactFields]

/-- `read_build_info` returns the record of an object that passes every
check. -/
theorem readBuildInfo_ok_iff [UnicodeDigits] :
    readBuildInfo file = .ok info ↔
      ∃ raw members, file = .regular raw ∧
        loadAscii raw = some (.object members) ∧ Acceptable members ∧
        info = toBuildInfo members := by
  unfold readBuildInfo
  simp only [bind_eq_ok, require_eq_ok, readRegular_ok_iff,
    loadBuildInfo_ok_iff, exactFields_ok_iff]
  constructor
  · rintro ⟨raw, hfile, value, hvalue, members, ⟨rfl, hfields⟩, _,
      ⟨hschema, hproduct⟩, _, hversion, _, htitleCommit, _, hdirty, _,
      hsdkCommit, _, hsdkApiVersion, _, ⟨hplatform, harchitecture⟩, _,
      hconfiguration, _, hcompiler, _, hbackend, _, hprofile, hinfo⟩
    exact ⟨raw, members, hfile, hvalue,
      ⟨hfields, hschema, hproduct, hversion, htitleCommit, hdirty, hsdkCommit,
        hsdkApiVersion, hplatform, harchitecture, hconfiguration, hcompiler,
        hbackend, hprofile⟩, (Except.ok.inj hinfo).symm⟩
  · rintro ⟨raw, members, hfile, hvalue, haccepts, rfl⟩
    exact ⟨raw, hfile, _, hvalue, members, ⟨rfl, haccepts.fields⟩, (),
      ⟨haccepts.schema, haccepts.product⟩, (), haccepts.version, (),
      haccepts.titleCommit, (), haccepts.dirty, (), haccepts.sdkCommit, (),
      haccepts.sdkApiVersion, (), ⟨haccepts.platform, haccepts.architecture⟩,
      (), haccepts.configuration, (), haccepts.compiler, (),
      haccepts.graphicsBackend, (), haccepts.supportedInputProfile, rfl⟩

/-- `read_build_info` fails with its own errors only. -/
theorem readBuildInfo_failsWith [UnicodeDigits] (file : BuildInfoFile) :
    FailsWith Failure.IsExit (readBuildInfo file) := by
  have hrequire (condition : Prop) [Decidable condition] (message : String) :
      FailsWith Failure.IsExit (require condition (.systemExit message)) :=
    failsWith_require ⟨message, rfl⟩
  have hregular : FailsWith Failure.IsExit (readRegular file) := by
    cases file with
    | reparsePoint => exact failsWith_error ⟨_, rfl⟩
    | missing => exact failsWith_error ⟨_, rfl⟩
    | regular raw => exact failsWith_ok raw
  have hload (raw : List UInt8) :
      FailsWith Failure.IsExit (loadBuildInfo raw) := by
    unfold loadBuildInfo
    split
    · exact failsWith_error ⟨_, rfl⟩
    · exact failsWith_ok _
  have hfields (value : Json) :
      FailsWith Failure.IsExit (exactFields value) := by
    unfold exactFields
    split
    · split_ifs
      · exact failsWith_ok _
      · exact failsWith_error ⟨_, rfl⟩
    · exact failsWith_error ⟨_, rfl⟩
  unfold readBuildInfo
  refine hregular.bind fun raw => (hload raw).bind fun value =>
    (hfields value).bind fun members => ?_
  -- The checks of the single fields.
  repeat refine (hrequire _ _).bind fun _ => ?_
  exact failsWith_ok _

/-! ## What a record holds -/

theorem textOf_of_matches
    {name : String} {pattern : Pattern ℕ}
    (hmatches : buildInfoMatches members name pattern = true) :
    pattern.Matches ((textOf members name).getD []) := by
  unfold buildInfoMatches at hmatches
  cases htext : textOf members name with
  | none => simp [htext] at hmatches
  | some text =>
      rw [htext] at hmatches
      exact Pattern.fullMatch_iff.mp hmatches

theorem textOf_of_holds
    {name value : String} (hholds : holdsText members name value = true) :
    (textOf members name).getD [] = codePoints value := by
  have htext : textOf members name = some (codePoints value) :=
    of_decide_eq_true hholds
  rw [htext]
  rfl

end Accepted

/-- The fields of a record that was read. -/
structure BuildInfo.Valid [UnicodeDigits] (info : BuildInfo) : Prop where
  schema : info.schema = 1
  product : info.product = codePoints "vana360"
  version : versionPattern.Matches info.version
  titleCommit : commitPattern.Matches info.titleCommit
  sdkCommit : commitPattern.Matches info.sdkCommit
  sdkApiVersion : versionPattern.Matches info.sdkApiVersion
  platform : info.platform = codePoints "windows"
  architecture : info.architecture = codePoints "x64"
  configuration : namePattern.Matches info.configuration
  compiler : namePattern.Matches info.compiler
  graphicsBackend : info.graphicsBackend = codePoints "xenos"
  supportedInputProfile : profilePattern.Matches info.supportedInputProfile

theorem Acceptable.valid [UnicodeDigits]
    {members : Members} (haccepts : Acceptable members) :
    (toBuildInfo members).Valid where
  schema := if_pos haccepts.schema
  product := textOf_of_holds haccepts.product
  version := textOf_of_matches haccepts.version
  titleCommit := textOf_of_matches haccepts.titleCommit
  sdkCommit := textOf_of_matches haccepts.sdkCommit
  sdkApiVersion := textOf_of_matches haccepts.sdkApiVersion
  platform := textOf_of_holds haccepts.platform
  architecture := textOf_of_holds haccepts.architecture
  configuration := textOf_of_matches haccepts.configuration
  compiler := textOf_of_matches haccepts.compiler
  graphicsBackend := textOf_of_holds haccepts.graphicsBackend
  supportedInputProfile := textOf_of_matches haccepts.supportedInputProfile

theorem valid_of_readBuildInfo [UnicodeDigits]
    {file : BuildInfoFile} {info : BuildInfo}
    (hread : readBuildInfo file = .ok info) :
    info.Valid := by
  obtain ⟨raw, members, -, -, haccepts, rfl⟩ := readBuildInfo_ok_iff.mp hread
  exact haccepts.valid

/-! ## A record and its file -/

def buildInfoOf (version profile : CodePoints) : BuildInfo where
  schema := 1
  product := codePoints "vana360"
  version := version
  titleCommit := List.replicate 40 0x31
  dirty := false
  sdkCommit := List.replicate 40 0x32
  sdkApiVersion := codePoints "0.10.0"
  platform := codePoints "windows"
  architecture := codePoints "x64"
  configuration := codePoints "Release"
  compiler := codePoints "Clang-22.1.0"
  graphicsBackend := codePoints "xenos"
  supportedInputProfile := profile

def quoted (value : List UInt8) : List UInt8 :=
  Json.quotationMark :: (value ++ [Json.quotationMark])

def memberText (name : String) (value : List UInt8) : List UInt8 :=
  quoted (fieldName name) ++ [Json.nameSeparator] ++ value

/-- The text of `buildInfoOf` from the texts of its version and profile. -/
def buildInfoText (version profile : List UInt8) : List UInt8 :=
  [Json.beginObject] ++ List.intercalate [Json.valueSeparator] [
    memberText "schema" [0x31],
    memberText "product" (quoted (fieldName "vana360")),
    memberText "version" (quoted version),
    memberText "title_commit" (quoted (List.replicate 40 0x31)),
    memberText "dirty" (fieldName "false"),
    memberText "sdk_commit" (quoted (List.replicate 40 0x32)),
    memberText "sdk_api_version" (quoted (fieldName "0.10.0")),
    memberText "platform" (quoted (fieldName "windows")),
    memberText "architecture" (quoted (fieldName "x64")),
    memberText "configuration" (quoted (fieldName "Release")),
    memberText "compiler" (quoted (fieldName "Clang-22.1.0")),
    memberText "graphics_backend" (quoted (fieldName "xenos")),
    memberText "supported_input_profile" (quoted profile)] ++
  [Json.endObject]

end Revana.Scripts
