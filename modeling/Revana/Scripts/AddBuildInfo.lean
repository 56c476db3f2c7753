import Revana.Foundation.PatternSearch
import Revana.Scripts.GeneratedRecord

/-!
# Configuring the record

`build_info.cmake` finds out what the record says about the SDK and the
target, and hands it to the generator.  It checks the SDK against its lock;
which target is built and how are choices of the build, and the record can be
packaged exactly if they are those of a release.
-/

namespace Revana.Scripts

open Foundation

/-! ## The script -/

/-- `rexglue-sdk.lock.json`. -/
structure SdkLock where
  repository : List UInt8
  branch : List UInt8
  commit : List UInt8

/-- How the SDK was loaded: from the sources in a directory, with the text of
the accepted `CMakeLists.txt`, or as a package of some version. -/
inductive LoadedSdk where
  | source (directory sdkCMake : List UInt8)
  | package (version : List UInt8)
  | missing

/-- What the script finds. -/
structure BuildTree where
  lock : SdkLock
  sdkCheckout : ProcessResult
  sdkStatus : ProcessResult
  acceptedSdkDir : List UInt8
  loadedSdk : LoadedSdk
  supportedDisc : List UInt8
  windows : Bool
  apple : Bool
  systemName : List UInt8
  systemProcessor : List UInt8
  buildType : List UInt8
  compilerId : List UInt8
  compilerVersion : List UInt8
  gitDir : ProcessResult
  headRef : ProcessResult
  headRefPath : ProcessResult
  buildInfoInputs : ProcessResult
  projectVersion : List UInt8
  sourceDir : List UInt8
  binaryDir : List UInt8
  gitExecutable : List UInt8

def isHexByte (byte : UInt8) : Bool := isLowerHex byte.toNat

/-- `[0-9]+\.[0-9]+\.[0-9]+`. -/
def apiVersionPattern : Pattern UInt8 :=
  let number : Pattern UInt8 := .plus (.one Json.isDigit)
  let dot : Pattern UInt8 := .one fun byte => byte = 0x2E
  .seq number (.seq dot (.seq number (.seq dot number)))

/-- `project\(ReXGlue[ \t\r\n]+VERSION[ \t\r\n]+`. -/
def sdkProjectPattern : Pattern UInt8 :=
  let gap : Pattern UInt8 := .plus (.one fun byte =>
    byte = 0x20 || byte = 0x09 || byte = 0x0D || byte = 0x0A)
  .seq (.exactly (fieldName "project(ReXGlue"))
    (.seq gap (.seq (.exactly (fieldName "VERSION")) gap))

/-- `[a-z0-9-]+`. -/
def profileIdPattern : Pattern UInt8 :=
  .plus (.one fun byte => isProfileChar byte.toNat || byte = 0x2D)

/-- `(^|[^0-9a-f])g` and the commit, then `([^0-9a-f]|$)`. -/
def mentionsCommit (shortCommit : List UInt8) :
    Option UInt8 → List UInt8 → Bool
  | _, [] => false
  | previous, byte :: rest =>
      (previous.all (fun other => !isHexByte other) &&
          (0x67 :: shortCommit).isPrefixOf (byte :: rest) &&
          (rest.drop shortCommit.length).head?.all
            (fun other => !isHexByte other)) ||
        mentionsCommit shortCommit (some byte) rest

def sdkApiVersion (tree : BuildTree) : Except String (List UInt8) :=
  match tree.loadedSdk with
  | .source directory sdkCMake => do
      require (directory = tree.acceptedSdkDir)
        "Loaded ReXGlue SDK source does not match the accepted lock"
      match Pattern.findGroup sdkProjectPattern apiVersionPattern .nothing
          sdkCMake with
      | none => .error "ReXGlue SDK API version is unavailable"
      | some version => .ok version
  | .package sdkVersion =>
      match Pattern.groupHere .nothing apiVersionPattern .nothing
          sdkVersion with
      | none => .error "ReXGlue SDK API version is unavailable"
      | some version => do
          require (mentionsCommit (tree.lock.commit.take 7) none
              sdkVersion = true)
            "Loaded ReXGlue SDK package does not match the accepted lock"
          return version
  | .missing => .error "ReXGlue SDK version is unavailable"

def inputProfile (supportedDisc : List UInt8) : Except String (List UInt8) :=
  match Pattern.findGroup (.exactly (fieldName "| Profile ID | `"))
      profileIdPattern (.exactly (fieldName "` |")) supportedDisc with
  | none => .error "Supported input profile ID is unavailable"
  | some profile => .ok profile

def platform (tree : BuildTree) : Except String (List UInt8) :=
  if tree.windows = true then .ok (fieldName "windows")
  else if tree.apple = true then .ok (fieldName "macos")
  else if tree.systemName = fieldName "Linux" then .ok (fieldName "linux")
  else .error "Unsupported Vana360 build platform"

def toLower (text : List UInt8) : List UInt8 :=
  text.map fun byte => if 0x41 ≤ byte ∧ byte ≤ 0x5A then byte + 0x20 else byte

def architecture (systemProcessor : List UInt8) :
    Except String (List UInt8) :=
  let processor := toLower systemProcessor
  if processor = fieldName "amd64" ∨ processor = fieldName "x86_64" then
    .ok (fieldName "x64")
  else if processor = fieldName "arm64" ∨ processor = fieldName "aarch64" then
    .ok (fieldName "arm64")
  else .error "Unsupported Vana360 build architecture"

/-- The values that `if` takes for false. -/
def isFalseConstant (text : List UInt8) : Bool :=
  ["", "0", "off", "no", "false", "n", "ignore"].any
      (fun constant => toLower text = fieldName constant) ||
    text = fieldName "NOTFOUND" || (fieldName "-NOTFOUND").isSuffixOf text

def compiler (tree : BuildTree) : List UInt8 :=
  tree.compilerId ++ fieldName "-" ++ tree.compilerVersion

/-- What the script hands to the generator besides the paths. -/
structure ConfiguredInfo where
  sdkCommit : List UInt8
  sdkApiVersion : List UInt8
  inputProfile : List UInt8
  platform : List UInt8
  architecture : List UInt8
  deriving DecidableEq

/-- `revana_add_build_info`. -/
def addBuildInfo (tree : BuildTree) : Except String ConfiguredInfo := do
  require (tree.lock.repository =
        fieldName "https://github.com/REVana360/vana360-sdk" ∧
      tree.lock.branch = fieldName "main" ∧
      hexPattern.fullMatch (points tree.lock.commit) = true ∧
      tree.lock.commit.length = 40)
    "Invalid ReXGlue SDK lock"
  require (tree.sdkCheckout.succeeded = true ∧
      tree.sdkStatus.succeeded = true ∧
      tree.sdkCheckout.stripped = tree.lock.commit ∧
      tree.sdkStatus.stripped = [])
    "ReXGlue SDK checkout does not match the accepted clean lock"
  let sdkApiVersion ← sdkApiVersion tree
  let inputProfile ← inputProfile tree.supportedDisc
  let platform ← platform tree
  let architecture ← architecture tree.systemProcessor
  require (isFalseConstant tree.buildType = false)
    "Vana360 title builds require CMAKE_BUILD_TYPE"
  require (tree.gitDir.succeeded = true) "Vana360 Git directory is unavailable"
  require (tree.headRef.succeeded = true → tree.headRefPath.succeeded = true)
    "Vana360 Git reference is unavailable"
  require (tree.buildInfoInputs.succeeded = true)
    "Vana360 build info inputs are unavailable"
  return ⟨tree.lock.commit, sdkApiVersion, inputProfile, platform,
    architecture⟩

/-- The command line of the generator. -/
def generatorVariables (tree : BuildTree) (info : ConfiguredInfo) : Variables :=
  fun name =>
    match name with
    | "REVANA_SOURCE_DIR" => tree.sourceDir
    | "REVANA_GIT_EXECUTABLE" => tree.gitExecutable
    | "REVANA_HEADER_TEMPLATE" =>
        tree.sourceDir ++ fieldName "/cmake/build_info.h.in"
    | "REVANA_JSON_TEMPLATE" =>
        tree.sourceDir ++ fieldName "/cmake/build_info.json.in"
    | "REVANA_BUILD_INFO_HEADER" =>
        tree.binaryDir ++ fieldName "/generated/build_info/build_info.h"
    | "REVANA_BUILD_INFO_JSON" =>
        tree.binaryDir ++ fieldName "/revana-build-info.json"
    | "REVANA_BUILD_INFO_STAMP" =>
        tree.binaryDir ++ fieldName "/generated/build_info/build_info.stamp"
    | "REVANA_VERSION" => tree.projectVersion
    | "REVANA_SDK_COMMIT" => info.sdkCommit
    | "REVANA_SDK_API_VERSION" => info.sdkApiVersion
    | "REVANA_PLATFORM" => info.platform
    | "REVANA_ARCHITECTURE" => info.architecture
    | "REVANA_CONFIGURATION" => tree.buildType
    | "REVANA_COMPILER" => compiler tree
    | "REVANA_GRAPHICS_BACKEND" => fieldName "xenos"
    | "REVANA_INPUT_PROFILE" => info.inputProfile
    | _ => []

/-! ## What is checked -/

theorem apiVersion_packageable [UnicodeDigits]
    {bytes : List UInt8} (hmatches : apiVersionPattern.Matches bytes) :
    versionPattern.Matches (points bytes) ∧ AsciiText (points bytes) := by
  have hdigit (byte : UInt8) (hbyte : Json.isDigit byte = true) :
      isDecimal byte.toNat = true ∧ byte.toNat < 0x80 := by
    simp only [Json.isDigit, Bool.and_eq_true, decide_eq_true_eq,
      UInt8.le_iff_toNat_le] at hbyte
    obtain ⟨hlow, hhigh⟩ := hbyte
    have hbetween : isBetween '0' '9' byte.toNat = true :=
      isBetween_iff.mpr ⟨hlow, hhigh⟩
    exact ⟨Bool.or_eq_true_iff.mpr (Or.inl hbetween),
      isBetween_lt (by decide) hbetween⟩
  have hnumber {word : List UInt8}
      (hword : Pattern.Matches (.plus (.one Json.isDigit)) word) :
      Pattern.Matches (.plus (.one isDecimal)) (points word) := by
    apply Pattern.matches_plus_one
    · intro point hpoint
      obtain ⟨byte, hbyte, rfl⟩ := List.mem_map.mp hpoint
      exact (hdigit byte (hword.uses byte hbyte)).1
    · exact fun hnone => hword.plus_ne_nil (List.map_eq_nil_iff.mp hnone)
  have hdot {word : List UInt8}
      (hword : Pattern.Matches (.one fun byte : UInt8 => byte = 0x2E) word) :
      Pattern.Matches (literal '.') (points word) := by
    cases hword with
    | one hbyte =>
        rw [of_decide_eq_true hbyte]
        exact .one (by decide)
  constructor
  · cases hmatches with
    | seq hmajor hbehind =>
        cases hbehind with
        | seq hfirst hbehind =>
            cases hbehind with
            | seq hminor hbehind =>
                cases hbehind with
                | seq hsecond hpatch =>
                    simp only [points, List.map_append]
                    exact .seq (hnumber hmajor) (.seq (hdot hfirst)
                      (.seq (hnumber hminor) (.seq (hdot hsecond)
                        (hnumber hpatch))))
  · intro point hpoint
    obtain ⟨byte, hbyte, rfl⟩ := List.mem_map.mp hpoint
    have huses := hmatches.uses byte hbyte
    simp only [apiVersionPattern, Pattern.uses, Bool.or_eq_true,
      decide_eq_true_eq] at huses
    rcases huses with hbyte | rfl | hbyte | rfl | hbyte
    · exact (hdigit byte hbyte).2
    · decide
    · exact (hdigit byte hbyte).2
    · decide
    · exact (hdigit byte hbyte).2

section Configured

variable {tree : BuildTree} {info : ConfiguredInfo}

theorem sdkApiVersion_matches
    {version : List UInt8} (hversion : sdkApiVersion tree = .ok version) :
    apiVersionPattern.Matches version := by
  unfold sdkApiVersion at hversion
  split at hversion
  · obtain ⟨-, -, hfound⟩ := bind_eq_ok.mp hversion
    split at hfound
    · cases hfound
    · rename_i hgroup
      rw [← Except.ok.inj hfound]
      exact Pattern.findGroup_matches hgroup
  · split at hversion
    · cases hversion
    · rename_i hgroup
      obtain ⟨-, -, hfound⟩ := bind_eq_ok.mp hversion
      rw [← Except.ok.inj hfound]
      exact Pattern.groupHere_matches hgroup
  · cases hversion

theorem platform_windows_iff
    {target : List UInt8} (htarget : platform tree = .ok target) :
    points target = codePoints "windows" ↔ tree.windows = true := by
  unfold platform at htarget
  split at htarget
  · rename_i hwindows
    rw [← Except.ok.inj htarget]
    exact iff_of_true (by decide) hwindows
  · rename_i hother
    refine iff_of_false ?_ hother
    split at htarget
    · rw [← Except.ok.inj htarget]
      decide
    · split at htarget
      · rw [← Except.ok.inj htarget]
        decide
      · cases htarget

/-- The processors of the packaged target. -/
def IsX64 (processor : List UInt8) : Prop :=
  toLower processor = fieldName "amd64" ∨
    toLower processor = fieldName "x86_64"

theorem architecture_x64_iff
    {processor target : List UInt8}
    (htarget : architecture processor = .ok target) :
    points target = codePoints "x64" ↔ IsX64 processor := by
  unfold architecture at htarget
  dsimp only at htarget
  split at htarget
  · rename_i hprocessor
    rw [← Except.ok.inj htarget]
    exact iff_of_true (by decide) hprocessor
  · rename_i hother
    refine iff_of_false ?_ hother
    split at htarget
    · rw [← Except.ok.inj htarget]
      decide
    · cases htarget

/-- What the script checks of what it hands on. -/
structure Checked (tree : BuildTree) (info : ConfiguredInfo) : Prop where
  sdkCommit : commitPattern.Matches (points info.sdkCommit)
  checkedOut : tree.sdkCheckout.stripped = info.sdkCommit
  clean : tree.sdkStatus.stripped = []
  sdkApiVersion : apiVersionPattern.Matches info.sdkApiVersion
  windows : points info.platform = codePoints "windows" ↔ tree.windows = true
  x64 : points info.architecture = codePoints "x64" ↔
    IsX64 tree.systemProcessor

theorem addBuildInfo_checked (hconfigure : addBuildInfo tree = .ok info) :
    Checked tree info := by
  unfold addBuildInfo at hconfigure
  simp only [bind_eq_ok, require_eq_ok] at hconfigure
  obtain ⟨-, ⟨-, -, hhex, hlength⟩, -, ⟨-, -, hcheckout, hclean⟩, version,
    hversion, profile, -, target, htarget, processor, hprocessor, -, -, -, -,
    -, -, -, -, hinfo⟩ := hconfigure
  obtain rfl := Except.ok.inj hinfo
  have hpoints : (points tree.lock.commit).length = 40 :=
    (List.length_map _).trans hlength
  exact {
    sdkCommit := titleCommit_iff.mp ⟨hhex, hpoints⟩
    checkedOut := hcheckout
    clean := hclean
    sdkApiVersion := sdkApiVersion_matches hversion
    windows := platform_windows_iff htarget
    x64 := architecture_x64_iff hprocessor }

end Configured

/-! ## Releases -/

/-- The choices of a build that make it a release. -/
structure ReleaseChoices [UnicodeDigits] (tree : BuildTree)
    (info : ConfiguredInfo) : Prop where
  version : versionPattern.Matches (points tree.projectVersion)
  version_ascii : AsciiText (points tree.projectVersion)
  windows : tree.windows = true
  x64 : IsX64 tree.systemProcessor
  configuration : namePattern.Matches (points tree.buildType)
  compiler : namePattern.Matches (points (compiler tree))
  inputProfile : profilePattern.Matches (points info.inputProfile)

theorem packageable_iff [UnicodeDigits]
    {tree : BuildTree} {info : ConfiguredInfo} (hchecked : Checked tree info) :
    Packageable (generatorVariables tree info) ↔ ReleaseChoices tree info := by
  constructor
  · intro hpackage
    exact {
      version := hpackage.version
      version_ascii := hpackage.version_ascii
      windows := hchecked.windows.mp hpackage.platform
      x64 := hchecked.x64.mp hpackage.architecture
      configuration := hpackage.configuration
      compiler := hpackage.compiler
      inputProfile := hpackage.inputProfile }
  · intro hchoices
    obtain ⟨hversion, hascii⟩ := apiVersion_packageable hchecked.sdkApiVersion
    exact {
      version := hchoices.version
      version_ascii := hchoices.version_ascii
      sdkCommit := hchecked.sdkCommit
      sdkApiVersion := hversion
      sdkApiVersion_ascii := hascii
      platform := hchecked.windows.mpr hchoices.windows
      architecture := hchecked.x64.mpr hchoices.x64
      configuration := hchoices.configuration
      compiler := hchoices.compiler
      graphicsBackend := by
        show points (fieldName "xenos") = codePoints "xenos"
        decide
      inputProfile := hchoices.inputProfile }

/-- From the configuration to the packager: the record of a configured build
is accepted as it was meant exactly for a release, and its SDK commit is the
one that was checked out without changes. -/
theorem configured_record_packages [UnicodeDigits]
    {tree : BuildTree} {info : ConfiguredInfo}
    (hconfigure : addBuildInfo tree = .ok info)
    {head status : ProcessResult} {generated : Generated}
    (hwrite : writeBuildInfo (generatorVariables tree info) head status =
      .ok generated) :
    let record := generatedInfo (generatorVariables tree info) head status
    (readBuildInfo (.regular generated.json) = .ok record ↔
        ReleaseChoices tree info) ∧
      record.sdkCommit = points tree.sdkCheckout.stripped ∧
      tree.sdkStatus.stripped = [] := by
  intro record
  have hchecked := addBuildInfo_checked hconfigure
  obtain ⟨-, -, hcommit, -, rfl⟩ := writeBuildInfo_ok_iff.mp hwrite
  refine ⟨?_, ?_, hchecked.clean⟩
  · exact (readBuildInfo_generated_iff hcommit).trans (packageable_iff hchecked)
  · rw [hchecked.checkedOut]
    rfl

/-! ## A release build -/

def releaseTree : BuildTree where
  lock := ⟨fieldName "https://github.com/REVana360/vana360-sdk",
    fieldName "main", List.replicate 40 0x32⟩
  sdkCheckout := ⟨true, List.replicate 40 0x32 ++ [0x0A]⟩
  sdkStatus := ⟨true, []⟩
  acceptedSdkDir := fieldName "sdk"
  loadedSdk := .source (fieldName "sdk")
    (fieldName "x\nproject(ReXGlue\n    VERSION 0.10.0\n")
  supportedDisc := fieldName "| Profile ID | `a-b` |"
  windows := true
  apple := false
  systemName := fieldName "Windows"
  systemProcessor := fieldName "AMD64"
  buildType := fieldName "Release"
  compilerId := fieldName "Clang"
  compilerVersion := fieldName "22.1.0"
  gitDir := ⟨true, []⟩
  headRef := ⟨false, []⟩
  headRefPath := ⟨false, []⟩
  buildInfoInputs := ⟨true, []⟩
  projectVersion := fieldName "0.1.0"
  sourceDir := fieldName "source"
  binaryDir := fieldName "build"
  gitExecutable := fieldName "git"

def releaseInfo : ConfiguredInfo where
  sdkCommit := List.replicate 40 0x32
  sdkApiVersion := fieldName "0.10.0"
  inputProfile := fieldName "a-b"
  platform := fieldName "windows"
  architecture := fieldName "x64"

def configuredGenerated : Generated :=
  let values := templateVariables (generatorVariables releaseTree releaseInfo)
    releaseHead ⟨true, []⟩
  ⟨configureFile values headerTemplate, configureFile values jsonTemplate⟩

section Unicode14

attribute [local instance] unicode14

theorem configured_record_packages_release :
    addBuildInfo releaseTree = .ok releaseInfo ∧
      ReleaseChoices releaseTree releaseInfo := by
  have hconfigure : addBuildInfo releaseTree = .ok releaseInfo := by
    decide +kernel
  have hwrite : writeBuildInfo (generatorVariables releaseTree releaseInfo)
      releaseHead ⟨true, []⟩ = .ok configuredGenerated := by
    decide +kernel
  have hread : readBuildInfo (.regular configuredGenerated.json) =
      .ok (generatedInfo (generatorVariables releaseTree releaseInfo)
        releaseHead ⟨true, []⟩) := by
    decide +kernel
  exact ⟨hconfigure,
    (configured_record_packages hconfigure hwrite).1.mp hread⟩

end Unicode14

end Revana.Scripts
