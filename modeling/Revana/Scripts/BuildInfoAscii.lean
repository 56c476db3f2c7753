import Revana.Scripts.BuildInfo

/-!
# Is a build-info record ASCII?

Only the two version fields can hold other characters, since only `\d` stands
for more than ASCII.  A record with such a digit is accepted, and encoding its
summary then fails outside of `read_build_info`.
-/

namespace Revana.Scripts

open Foundation

def AsciiText (text : CodePoints) : Prop := ∀ point ∈ text, point < 0x80

/-- ASCII digits and dots. -/
def VersionText (text : CodePoints) : Prop :=
  ∀ point ∈ text, (0x30 ≤ point ∧ point ≤ 0x39) ∨ point = 0x2E

/-! ## The alphabets of the patterns -/

theorem isDecimal_ascii [UnicodeDigits]
    {point : ℕ} (hdecimal : isDecimal point = true) (hascii : point < 0x80) :
    0x30 ≤ point ∧ point ≤ 0x39 := by
  unfold isDecimal at hdecimal
  rcases Bool.or_eq_true_iff.mp hdecimal with hdigit | hforeign
  · exact isBetween_iff.mp hdigit
  · rw [Bool.and_eq_true, decide_eq_true_eq] at hforeign
    omega

theorem isBetween_lt
    {low high : Char} {point : ℕ} (hhigh : high.toNat < 0x80)
    (hbetween : isBetween low high point = true) :
    point < 0x80 := by
  have hrange := isBetween_iff.mp hbetween
  omega

theorem isLowerHex_lt {point : ℕ} (hhex : isLowerHex point = true) :
    point < 0x80 := by
  unfold isLowerHex at hhex
  rcases Bool.or_eq_true_iff.mp hhex with hdigit | hletter
  · exact isBetween_lt (by decide) hdigit
  · exact isBetween_lt (by decide) hletter

theorem isNameChar_lt {point : ℕ} (hname : isNameChar point = true) :
    point < 0x80 := by
  unfold isNameChar at hname
  simp only [Bool.or_eq_true] at hname
  rcases hname with ((hupper | hlower) | hdigit) | hother
  · exact isBetween_lt (by decide) hupper
  · exact isBetween_lt (by decide) hlower
  · exact isBetween_lt (by decide) hdigit
  · have hothers : ∀ other ∈ codePoints "_.+-", other < 0x80 := by decide
    exact hothers point (List.contains_iff_mem.mp hother)

theorem isProfileChar_lt {point : ℕ} (hprofile : isProfileChar point = true) :
    point < 0x80 := by
  unfold isProfileChar at hprofile
  rcases Bool.or_eq_true_iff.mp hprofile with hlower | hdigit
  · exact isBetween_lt (by decide) hlower
  · exact isBetween_lt (by decide) hdigit

section Matches

variable {text : CodePoints}

/-- A version is made of decimal digits of any script and dots. -/
theorem versionPattern_points [UnicodeDigits]
    (hmatches : versionPattern.Matches text) :
    ∀ point ∈ text, isDecimal point = true ∨ point = 0x2E := by
  intro point hpoint
  have huses := hmatches.uses point hpoint
  simpa [versionPattern, literal, Pattern.uses, or_comm, or_assoc,
    or_left_comm] using huses

theorem commitPattern_ascii (hmatches : commitPattern.Matches text) :
    AsciiText text :=
  fun point hpoint => isLowerHex_lt (hmatches.uses point hpoint)

theorem namePattern_ascii (hmatches : namePattern.Matches text) :
    AsciiText text :=
  fun point hpoint => isNameChar_lt (hmatches.uses point hpoint)

theorem profilePattern_ascii (hmatches : profilePattern.Matches text) :
    AsciiText text := by
  intro point hpoint
  have huses := hmatches.uses point hpoint
  simp only [profilePattern, literal, Pattern.uses, Bool.or_eq_true,
    decide_eq_true_eq] at huses
  rcases huses with hword | hdash | hword
  · exact isProfileChar_lt hword
  · rw [hdash]
    decide
  · exact isProfileChar_lt hword

theorem versionText_of_ascii [UnicodeDigits]
    (hmatches : versionPattern.Matches text) (hascii : AsciiText text) :
    VersionText text := by
  intro point hpoint
  exact (versionPattern_points hmatches point hpoint).imp_left
    fun hdecimal => isDecimal_ascii hdecimal (hascii point hpoint)

end Matches

/-! ## Records -/

theorem AsciiText.append
    {first second : CodePoints} (hfirst : AsciiText first)
    (hsecond : AsciiText second) :
    AsciiText (first ++ second) := by
  intro point hpoint
  exact (List.mem_append.mp hpoint).elim (hfirst point) (hsecond point)

theorem encodeAscii_ok_iff {text : CodePoints} :
    (∃ bytes, encodeAscii text = .ok bytes) ↔ AsciiText text := by
  unfold encodeAscii AsciiText
  split_ifs with hascii
  · exact iff_of_true ⟨_, rfl⟩ hascii
  · exact iff_of_false (by simp) hascii

def BuildInfo.texts (info : BuildInfo) : List CodePoints :=
  [info.product, info.version, info.titleCommit, info.sdkCommit,
    info.sdkApiVersion, info.platform, info.architecture,
    info.configuration, info.compiler, info.graphicsBackend,
    info.supportedInputProfile]

structure AsciiRecord (info : BuildInfo) : Prop where
  texts : ∀ text ∈ info.texts, AsciiText text
  version : VersionText info.version
  sdkApiVersion : VersionText info.sdkApiVersion
  summary : ∃ bytes, encodeAscii (buildInfoSummary info) = .ok bytes
  archive : AsciiText (archiveName info)

/-- Every text of a valid record but its two versions is in ASCII. -/
theorem BuildInfo.Valid.texts_ascii [UnicodeDigits]
    {info : BuildInfo} (hvalid : info.Valid)
    (hversion : AsciiText info.version)
    (hsdkApiVersion : AsciiText info.sdkApiVersion) :
    ∀ text ∈ info.texts, AsciiText text := by
  have hproduct : AsciiText info.product := by
    rw [hvalid.product]
    unfold AsciiText
    decide
  have hplatform : AsciiText info.platform := by
    rw [hvalid.platform]
    unfold AsciiText
    decide
  have harchitecture : AsciiText info.architecture := by
    rw [hvalid.architecture]
    unfold AsciiText
    decide
  have hbackend : AsciiText info.graphicsBackend := by
    rw [hvalid.graphicsBackend]
    unfold AsciiText
    decide
  simp only [BuildInfo.texts, List.forall_mem_cons, List.not_mem_nil,
    false_implies, implies_true, and_true]
  exact ⟨hproduct, hversion, commitPattern_ascii hvalid.titleCommit,
    commitPattern_ascii hvalid.sdkCommit, hsdkApiVersion, hplatform,
    harchitecture, namePattern_ascii hvalid.configuration,
    namePattern_ascii hvalid.compiler, hbackend,
    profilePattern_ascii hvalid.supportedInputProfile⟩

/-- The summary and the archive's name add texts of their own. -/
theorem literals_ascii :
    ∀ source ∈ ["vana360 v", " title=", "-", "dirty", "clean", " sdk=",
      " api=", " platform=", " arch=", " config=", " compiler=", " backend=",
      " input=", "vana360-v", "-windows-x64"],
      AsciiText (codePoints source) := by
  unfold AsciiText
  decide

theorem buildInfoSummary_ascii
    {info : BuildInfo} (htexts : ∀ text ∈ info.texts, AsciiText text) :
    AsciiText (buildInfoSummary info) := by
  have hstate : AsciiText
      (codePoints (if info.dirty then "dirty" else "clean")) := by
    split_ifs
    · exact literals_ascii _ (by simp)
    · exact literals_ascii _ (by simp)
  simp only [BuildInfo.texts, List.forall_mem_cons, List.not_mem_nil,
    false_implies, implies_true, and_true] at htexts
  obtain ⟨-, hversion, htitleCommit, hsdkCommit, hsdkApiVersion, hplatform,
    harchitecture, hconfiguration, hcompiler, hbackend, hprofile⟩ := htexts
  unfold buildInfoSummary
  repeat' apply AsciiText.append
  all_goals first | assumption | exact literals_ascii _ (by simp)

theorem BuildInfo.Valid.asciiRecord_iff [UnicodeDigits]
    {info : BuildInfo} (hvalid : info.Valid) :
    AsciiRecord info ↔
      AsciiText info.version ∧ AsciiText info.sdkApiVersion := by
  constructor
  · intro hrecord
    exact ⟨hrecord.texts _ (by simp [BuildInfo.texts]),
      hrecord.texts _ (by simp [BuildInfo.texts])⟩
  · rintro ⟨hversion, hsdkApiVersion⟩
    have htexts := hvalid.texts_ascii hversion hsdkApiVersion
    constructor
    · exact htexts
    · exact versionText_of_ascii hvalid.version hversion
    · exact versionText_of_ascii hvalid.sdkApiVersion hsdkApiVersion
    · rw [encodeAscii_ok_iff]
      exact buildInfoSummary_ascii htexts
    · unfold archiveName
      exact ((literals_ascii _ (by simp)).append hversion).append
        (literals_ascii _ (by simp))

/-! ## Reading -/

/-- `read_build_info` exits with its own error or returns a record that stays
in ASCII. -/
def ReadsAscii [UnicodeDigits] (file : BuildInfoFile) : Prop :=
  (∃ failure, readBuildInfo file = .error failure ∧ failure.IsExit) ∨
  ∃ info, readBuildInfo file = .ok info ∧ AsciiRecord info

/-- The file holds an object that passes every check although one of its
versions has a character outside of ASCII. -/
def HasForeignDigit [UnicodeDigits] (file : BuildInfoFile) : Prop :=
  ∃ raw members, file = .regular raw ∧
    loadAscii raw = some (.object members) ∧ Acceptable members ∧
    ∃ name ∈ ["version", "sdk_api_version"], ∃ text,
      textOf members name = some text ∧ ¬AsciiText text

theorem textOf_getD_ascii
    {members : Members} {name : String} {pattern : Pattern ℕ}
    (hmatches : buildInfoMatches members name pattern = true) :
    AsciiText ((textOf members name).getD []) ↔
      ∀ text, textOf members name = some text → AsciiText text := by
  unfold buildInfoMatches at hmatches
  cases htext : textOf members name with
  | none => simp [htext] at hmatches
  | some found => simp

/-- The record read from an acceptable object is ASCII unless a version holds
a foreign digit. -/
theorem Acceptable.asciiRecord_iff [UnicodeDigits]
    {members : Members} (haccepts : Acceptable members) :
    AsciiRecord (toBuildInfo members) ↔
      ∀ name ∈ ["version", "sdk_api_version"], ∀ text,
        textOf members name = some text → AsciiText text := by
  rw [haccepts.valid.asciiRecord_iff, List.forall_mem_cons,
    List.forall_mem_singleton]
  exact and_congr (textOf_getD_ascii haccepts.version)
    (textOf_getD_ascii haccepts.sdkApiVersion)

/-- Reading a build-info file is total and yields ASCII only, unless a version
of an otherwise acceptable record holds a decimal digit of another script. -/
theorem readBuildInfo_ascii_iff [UnicodeDigits] (file : BuildInfoFile) :
    ReadsAscii file ↔ ¬HasForeignDigit file := by
  constructor
  · rintro hreads ⟨raw, members, hfile, hload, haccepts, name, hname, text,
      htext, hforeign⟩
    have hread := readBuildInfo_ok_iff.mpr
      ⟨raw, members, hfile, hload, haccepts, rfl⟩
    rcases hreads with ⟨failure, herror, -⟩ | ⟨info, hinfo, hrecord⟩
    · rw [hread] at herror
      cases herror
    · obtain rfl := Except.ok.inj (hread.symm.trans hinfo)
      exact hforeign
        (haccepts.asciiRecord_iff.mp hrecord name hname text htext)
  · intro hascii
    cases hread : readBuildInfo file with
    | error failure =>
        exact Or.inl ⟨failure, hread, readBuildInfo_failsWith file _ hread⟩
    | ok info =>
        obtain ⟨raw, members, hfile, hload, haccepts, rfl⟩ :=
          readBuildInfo_ok_iff.mp hread
        refine Or.inr ⟨_, hread, haccepts.asciiRecord_iff.mpr ?_⟩
        intro name hname text htext
        by_contra hforeign
        exact hascii ⟨raw, members, hfile, hload, haccepts, name, hname, text,
          htext, hforeign⟩

/-! ## A digit of another script -/

/-- The zeros of the decimal digits of Unicode 14 beyond ASCII. -/
def foreignZeros : List ℕ := [
  0x660, 0x6F0, 0x7C0, 0x966, 0x9E6, 0xA66, 0xAE6, 0xB66, 0xBE6, 0xC66,
  0xCE6, 0xD66, 0xDE6, 0xE50, 0xED0, 0xF20, 0x1040, 0x1090, 0x17E0, 0x1810,
  0x1946, 0x19D0, 0x1A80, 0x1A90, 0x1B50, 0x1BB0, 0x1C40, 0x1C50, 0xA620,
  0xA8D0, 0xA900, 0xA9D0, 0xA9F0, 0xAA50, 0xABF0, 0xFF10, 0x104A0, 0x10D30,
  0x11066, 0x110F0, 0x11136, 0x111D0, 0x112F0, 0x11450, 0x114D0, 0x11650,
  0x116C0, 0x11730, 0x118E0, 0x11950, 0x11C50, 0x11D50, 0x11DA0, 0x16A60,
  0x16AC0, 0x16B50, 0x1D7CE, 0x1D7D8, 0x1D7E2, 0x1D7EC, 0x1D7F6, 0x1E140,
  0x1E2F0, 0x1E950, 0x1FBF0]

/-- What Python 3.11 knows. -/
@[reducible] def unicode14 : UnicodeDigits where
  isForeign := fun point =>
    foreignZeros.any fun first => first ≤ point && point < first + 10

section Unicode14

attribute [local instance] unicode14

/-- An Arabic-Indic one in the version, written as an escape. -/
def foreignFile : BuildInfoFile :=
  .regular (buildInfoText (fieldName "\\u0661.0.0") (fieldName "a-b"))

/-- The record is accepted and its summary cannot be encoded. -/
theorem foreignFile_escapes :
    ¬ReadsAscii foreignFile ∧
      ∃ info, readBuildInfo foreignFile = .ok info ∧
        encodeAscii (buildInfoSummary info) = .error .exception := by
  have hread : readBuildInfo foreignFile =
      .ok (buildInfoOf (0x661 :: codePoints ".0.0") (codePoints "a-b")) := by
    decide +kernel
  have hencode : encodeAscii (buildInfoSummary
      (buildInfoOf (0x661 :: codePoints ".0.0") (codePoints "a-b"))) =
        .error .exception := by
    decide +kernel
  refine ⟨?_, _, hread, hencode⟩
  rintro (⟨failure, herror, -⟩ | ⟨info, hinfo, hrecord⟩)
  · rw [hread] at herror
    cases herror
  · obtain rfl := Except.ok.inj (hread.symm.trans hinfo)
    obtain ⟨bytes, hbytes⟩ := hrecord.summary
    rw [hencode] at hbytes
    cases hbytes

end Unicode14

end Revana.Scripts
