import Revana.Foundation.JsonLayout
import Revana.Scripts.BuildInfoMatch

/-!
# Generating the build-info record

`write_build_info.cmake` writes the header that puts the summary into the
executable and the record that `package.py` reads.  The templates do not
escape what they are given, so the record is the one meant exactly when the
values have the forms that the packager asks for.
-/

namespace Revana.Scripts

open Foundation

/-! ## The generator -/

/-- The variables of the script.  One that is not defined is empty, and the
script treats both alike. -/
abbrev Variables := String → List UInt8

def requiredVariables : List String :=
  ["REVANA_SOURCE_DIR", "REVANA_GIT_EXECUTABLE", "REVANA_HEADER_TEMPLATE",
    "REVANA_JSON_TEMPLATE", "REVANA_BUILD_INFO_HEADER",
    "REVANA_BUILD_INFO_JSON", "REVANA_BUILD_INFO_STAMP", "REVANA_VERSION",
    "REVANA_SDK_COMMIT", "REVANA_SDK_API_VERSION", "REVANA_PLATFORM",
    "REVANA_ARCHITECTURE", "REVANA_CONFIGURATION", "REVANA_COMPILER",
    "REVANA_GRAPHICS_BACKEND", "REVANA_INPUT_PROFILE"]

/-- What `execute_process` gets from a program. -/
structure ProcessResult where
  succeeded : Bool
  output : List UInt8

/-- Lines end without a carriage return, and there are no null characters. -/
def fixLines : List UInt8 → List UInt8
  | [] => []
  | byte :: rest =>
      if byte = 0x00 ∨ (byte = 0x0D ∧ rest.head? = some 0x0A) then
        fixLines rest
      else byte :: fixLines rest

def isSpace (byte : UInt8) : Bool :=
  byte = 0x20 || (0x09 ≤ byte && byte ≤ 0x0D)

/-- `OUTPUT_STRIP_TRAILING_WHITESPACE`. -/
def ProcessResult.stripped (result : ProcessResult) : List UInt8 :=
  ((fixLines result.output).reverse.dropWhile isSpace).reverse

inductive TemplatePiece where
  | text (text : String)
  | reference (name : String)

/-- `configure_file` with `@ONLY`, and the text of a quoted argument. -/
def configureFile (values : Variables) (template : List TemplatePiece) :
    List UInt8 :=
  template.flatMap fun piece =>
    match piece with
    | .text text => fieldName text
    | .reference name => values name

def textsOf (template : List TemplatePiece) : List String :=
  template.filterMap fun piece =>
    match piece with
    | .text text => some text
    | .reference _ => none

def referencesOf (template : List TemplatePiece) : List String :=
  template.filterMap fun piece =>
    match piece with
    | .text _ => none
    | .reference name => some name

/-- `build_info.h.in`. -/
def headerTemplate : List TemplatePiece :=
  [.text "#pragma once\n\n#include <string_view>\n\n",
    .text "namespace revana::build_info\n\x7b\n\n",
    .text "inline constexpr std::string_view kSummary =\n    \"",
    .reference "REVANA_BUILD_INFO_SUMMARY",
    .text "\";\n\n\x7d // namespace revana::build_info\n"]

def quotedVariable (name : String) : List TemplatePiece :=
  [.text "\"", .reference name, .text "\""]

def jsonMembers : List (String × List TemplatePiece) :=
  [("schema", [.text "1"]),
    ("product", [.text "\"vana360\""]),
    ("version", quotedVariable "REVANA_VERSION"),
    ("title_commit", quotedVariable "REVANA_TITLE_COMMIT"),
    ("dirty", [.reference "REVANA_DIRTY_JSON"]),
    ("sdk_commit", quotedVariable "REVANA_SDK_COMMIT"),
    ("sdk_api_version", quotedVariable "REVANA_SDK_API_VERSION"),
    ("platform", quotedVariable "REVANA_PLATFORM"),
    ("architecture", quotedVariable "REVANA_ARCHITECTURE"),
    ("configuration", quotedVariable "REVANA_CONFIGURATION"),
    ("compiler", quotedVariable "REVANA_COMPILER"),
    ("graphics_backend", quotedVariable "REVANA_GRAPHICS_BACKEND"),
    ("supported_input_profile", quotedVariable "REVANA_INPUT_PROFILE")]

def memberLine (member : String × List TemplatePiece) : List TemplatePiece :=
  [.text "\n  ", .text "\"", .text member.1, .text "\"", .text ":",
    .text " "] ++ member.2

/-- `build_info.json.in`. -/
def jsonTemplate : List TemplatePiece :=
  [.text "\x7b"] ++ [.text ","].intercalate (jsonMembers.map memberLine) ++
    [.text "\n\x7d\n"]

/-- `REVANA_BUILD_INFO_SUMMARY`. -/
def summaryTemplate : List TemplatePiece :=
  [.text "vana360 v", .reference "REVANA_VERSION",
    .text " title=", .reference "REVANA_TITLE_COMMIT",
    .text "-", .reference "REVANA_SOURCE_STATE",
    .text " sdk=", .reference "REVANA_SDK_COMMIT",
    .text " api=", .reference "REVANA_SDK_API_VERSION",
    .text " platform=", .reference "REVANA_PLATFORM",
    .text " arch=", .reference "REVANA_ARCHITECTURE",
    .text " config=", .reference "REVANA_CONFIGURATION",
    .text " compiler=", .reference "REVANA_COMPILER",
    .text " backend=", .reference "REVANA_GRAPHICS_BACKEND",
    .text " input=", .reference "REVANA_INPUT_PROFILE"]

/-- `[0-9a-f]+`. -/
def hexPattern : Pattern ℕ := .plus (.one isLowerHex)

structure Generated where
  header : List UInt8
  json : List UInt8
  deriving DecidableEq

/-- The variables the script sets from what git says. -/
def sourceVariables (values : Variables) (head status : ProcessResult) :
    Variables :=
  let clean := status.stripped = []
  Function.update (Function.update (Function.update values
    "REVANA_TITLE_COMMIT" head.stripped)
    "REVANA_DIRTY_JSON" (fieldName (if clean then "false" else "true")))
    "REVANA_SOURCE_STATE" (fieldName (if clean then "clean" else "dirty"))

/-- The variables the templates are filled with. -/
def templateVariables (values : Variables) (head status : ProcessResult) :
    Variables :=
  Function.update (sourceVariables values head status)
    "REVANA_BUILD_INFO_SUMMARY"
    (configureFile (sourceVariables values head status) summaryTemplate)

/-- `write_build_info.cmake`, given what `git rev-parse --verify HEAD` and
`git status` answer. -/
def writeBuildInfo (values : Variables) (head status : ProcessResult) :
    Except String Generated := do
  checkAll (fun name => require (values name ≠ [])
    ("Missing build info input: " ++ name)) requiredVariables
  require (head.succeeded = true ∧
      hexPattern.fullMatch (head.stripped.map UInt8.toNat) = true ∧
      head.stripped.length = 40)
    "Vana360 title commit is unavailable"
  require (status.succeeded = true) "Vana360 worktree state is unavailable"
  let values := templateVariables values head status
  return ⟨configureFile values headerTemplate,
    configureFile values jsonTemplate⟩

/-- The value of the literal in the header, which holds no escapes when its
characters are plain: what stands between the first two quotation marks. -/
def kSummary (header : List UInt8) : List UInt8 :=
  ((header.dropWhile (· ≠ Json.quotationMark)).drop 1).takeWhile
    (· ≠ Json.quotationMark)

/-! ## Templates -/

section Templates

variable {values : Variables}

theorem configureFile_append (first second : List TemplatePiece) :
    configureFile values (first ++ second) =
      configureFile values first ++ configureFile values second := by
  simp [configureFile]

/-- The layout of `build_info.json.in`. -/
def lineLayout : Json.Layout where
  beforeName := fieldName "\n  "
  beforeValue := fieldName " "
  beforeEnd := fieldName "\n"
  afterEnd := fieldName "\n"
  beforeName_space := List.all_eq_true.mp (by decide)
  beforeValue_space := List.all_eq_true.mp (by decide)
  beforeEnd_space := List.all_eq_true.mp (by decide)
  afterEnd_space := List.all_eq_true.mp (by decide)

/-- The texts of a member of the template. -/
def entryOf (values : Variables) (member : String × List TemplatePiece) :
    List UInt8 × List UInt8 :=
  (fieldName member.1, configureFile values member.2)

/-- A name that a string holds as it is. -/
def PlainName (name : String) : Prop :=
  Json.writeString (fieldName name) =
    Json.quotationMark :: (fieldName name ++ [Json.quotationMark])

theorem configureFile_memberLine
    (values : Variables) {member : String × List TemplatePiece}
    (hname : PlainName member.1) :
    configureFile values (memberLine member) =
      lineLayout.member (entryOf values member) := by
  have hquote : fieldName "\"" = [Json.quotationMark] := by decide
  have hcolon : fieldName ":" = [Json.nameSeparator] := by decide
  unfold memberLine
  rw [configureFile_append]
  unfold PlainName at hname
  simp [Json.Layout.member, entryOf, lineLayout, hname, configureFile, hquote,
    hcolon]

theorem configureFile_members
    (values : Variables) {members : List (String × List TemplatePiece)}
    (hnames : ∀ member ∈ members, PlainName member.1) :
    members.flatMap (fun member => configureFile values
        (.text "," :: memberLine member)) =
      lineLayout.members (members.map (entryOf values)) := by
  have hcomma : fieldName "," = [Json.valueSeparator] := by decide
  induction members with
  | nil => rfl
  | cons member members ih =>
      rw [List.flatMap_cons, ih fun other hother =>
        hnames other (List.mem_cons_of_mem _ hother), List.map_cons,
        Json.Layout.members, ← configureFile_memberLine values
          (hnames member List.mem_cons_self)]
      simp [configureFile, hcomma]

theorem intercalate_cons
    {α : Type} (separator first : List α) (rest : List (List α)) :
    separator.intercalate (first :: rest) =
      first ++ rest.flatMap fun part => separator ++ part := by
  induction rest generalizing first with
  | nil => simp [List.intercalate]
  | cons second rest ih =>
      have hsecond := ih second
      unfold List.intercalate at hsecond ⊢
      simp [hsecond]

/-- The template is an object laid out over lines. -/
theorem configureFile_jsonTemplate
    (values : Variables) :
    configureFile values jsonTemplate =
      lineLayout.object (entryOf values ("schema", [.text "1"]))
        (jsonMembers.tail.map (entryOf values)) := by
  have hnames : ∀ member ∈ jsonMembers, PlainName member.1 := by
    unfold PlainName
    decide
  have hopen : fieldName "\x7b" = [Json.beginObject] := by decide
  have hend : fieldName "\n\x7d\n" =
      lineLayout.beforeEnd ++ Json.endObject :: lineLayout.afterEnd := by
    decide
  have hmembers := configureFile_members values fun member hmem =>
    hnames member (List.mem_of_mem_tail hmem)
  have hfirst := configureFile_memberLine values
    (hnames ("schema", [.text "1"]) List.mem_cons_self)
  have hsplit : [TemplatePiece.text ","].intercalate
      (jsonMembers.map memberLine) =
        memberLine ("schema", [.text "1"]) ++ jsonMembers.tail.flatMap
          fun member => .text "," :: memberLine member := by
    show List.intercalate _ (memberLine ("schema", [.text "1"]) ::
      jsonMembers.tail.map memberLine) = _
    rw [intercalate_cons, List.flatMap_map]
    rfl
  have hflat : configureFile values (jsonMembers.tail.flatMap
      fun member => .text "," :: memberLine member) =
        jsonMembers.tail.flatMap fun member =>
          configureFile values (.text "," :: memberLine member) := by
    unfold configureFile
    rw [List.flatMap_assoc]
  unfold jsonTemplate Json.Layout.object
  rw [configureFile_append, configureFile_append, hsplit,
    configureFile_append, hflat, hmembers, hfirst]
  simp [configureFile, hopen, hend]

theorem mem_configureFile
    {template : List TemplatePiece} {byte : UInt8} :
    byte ∈ configureFile values template ↔
      (∃ text ∈ textsOf template, byte ∈ fieldName text) ∨
        ∃ name ∈ referencesOf template, byte ∈ values name := by
  induction template with
  | nil => simp [configureFile, textsOf, referencesOf]
  | cons piece template ih =>
      unfold configureFile textsOf referencesOf at ih ⊢
      rw [List.flatMap_cons, List.mem_append, ih]
      cases piece with
      | text text => simp [or_assoc]
      | reference name => simp [or_left_comm]

end Templates

/-! ## The record -/

def points (bytes : List UInt8) : CodePoints := bytes.map UInt8.toNat

/-- The record of a build. -/
def generatedInfo (values : Variables) (head status : ProcessResult) :
    BuildInfo where
  schema := 1
  product := codePoints "vana360"
  version := points (values "REVANA_VERSION")
  titleCommit := points head.stripped
  dirty := status.stripped ≠ []
  sdkCommit := points (values "REVANA_SDK_COMMIT")
  sdkApiVersion := points (values "REVANA_SDK_API_VERSION")
  platform := points (values "REVANA_PLATFORM")
  architecture := points (values "REVANA_ARCHITECTURE")
  configuration := points (values "REVANA_CONFIGURATION")
  compiler := points (values "REVANA_COMPILER")
  graphicsBackend := points (values "REVANA_GRAPHICS_BACKEND")
  supportedInputProfile := points (values "REVANA_INPUT_PROFILE")

/-- The forms that the packager asks for and the generator does not check. -/
structure Packageable [UnicodeDigits] (values : Variables) : Prop where
  version : versionPattern.Matches (points (values "REVANA_VERSION"))
  version_ascii : AsciiText (points (values "REVANA_VERSION"))
  sdkCommit : commitPattern.Matches (points (values "REVANA_SDK_COMMIT"))
  sdkApiVersion :
    versionPattern.Matches (points (values "REVANA_SDK_API_VERSION"))
  sdkApiVersion_ascii : AsciiText (points (values "REVANA_SDK_API_VERSION"))
  platform : points (values "REVANA_PLATFORM") = codePoints "windows"
  architecture : points (values "REVANA_ARCHITECTURE") = codePoints "x64"
  configuration :
    namePattern.Matches (points (values "REVANA_CONFIGURATION"))
  compiler : namePattern.Matches (points (values "REVANA_COMPILER"))
  graphicsBackend :
    points (values "REVANA_GRAPHICS_BACKEND") = codePoints "xenos"
  inputProfile :
    profilePattern.Matches (points (values "REVANA_INPUT_PROFILE"))

/-- Every value in a form the packager asks for is a name. -/
def NameText (bytes : List UInt8) : Prop :=
  ∀ byte ∈ bytes, isNameChar byte.toNat = true

theorem asciiName_cases :
    ∀ point < 0x80,
      (isLowerHex point = true ∨ isProfileChar point = true ∨
        point = 0x2E ∨ point = 0x2D → isNameChar point = true) ∧
      (isNameChar point = true → Json.isPlain point.toUInt8 = true) := by
  decide +kernel

theorem NameText.plain
    {bytes : List UInt8} (hname : NameText bytes) :
    ∀ byte ∈ bytes, Json.isPlain byte = true := by
  intro byte hbyte
  have hchar := hname byte hbyte
  have hself : byte.toNat.toUInt8 = byte := UInt8.ofNat_toNat
  have hplain := (asciiName_cases byte.toNat (isNameChar_lt hchar)).2 hchar
  rwa [hself] at hplain

theorem nameText_of_points
    {bytes : List UInt8}
    (hpoints : ∀ point ∈ points bytes, point < 0x80 ∧
      (isLowerHex point = true ∨ isProfileChar point = true ∨
        point = 0x2E ∨ point = 0x2D)) :
    NameText bytes := by
  intro byte hbyte
  obtain ⟨hascii, hclass⟩ :=
    hpoints byte.toNat (List.mem_map_of_mem hbyte)
  exact (asciiName_cases byte.toNat hascii).1 hclass

section Forms

variable {bytes : List UInt8}

theorem nameText_of_version [UnicodeDigits]
    (hversion : versionPattern.Matches (points bytes))
    (hascii : AsciiText (points bytes)) :
    NameText bytes := by
  apply nameText_of_points
  intro point hpoint
  refine ⟨hascii point hpoint, ?_⟩
  rcases versionText_of_ascii hversion hascii point hpoint with hdigit | hdot
  · have hbetween : isBetween '0' '9' point = true := isBetween_iff.mpr hdigit
    exact Or.inr (Or.inl (Bool.or_eq_true_iff.mpr (Or.inr hbetween)))
  · exact Or.inr (Or.inr (Or.inl hdot))

theorem nameText_of_commit
    (hcommit : commitPattern.Matches (points bytes)) :
    NameText bytes := by
  apply nameText_of_points
  intro point hpoint
  exact ⟨commitPattern_ascii hcommit point hpoint,
    Or.inl (hcommit.uses point hpoint)⟩

theorem nameText_of_name
    (hname : namePattern.Matches (points bytes)) :
    NameText bytes :=
  fun _ hbyte => hname.uses _ (List.mem_map_of_mem hbyte)

theorem nameText_of_profile
    (hprofile : profilePattern.Matches (points bytes)) :
    NameText bytes := by
  apply nameText_of_points
  intro point hpoint
  refine ⟨profilePattern_ascii hprofile point hpoint, ?_⟩
  have huses := hprofile.uses point hpoint
  simp only [profilePattern, literal, Pattern.uses, Bool.or_eq_true,
    decide_eq_true_eq] at huses
  rcases huses with hword | hdash | hword
  · exact Or.inr (Or.inl hword)
  · exact Or.inr (Or.inr (Or.inr hdash))
  · exact Or.inr (Or.inl hword)

theorem nameText_of_literal
    {text : String} (hequal : points bytes = codePoints text)
    (htext : ∀ point ∈ codePoints text, isNameChar point = true) :
    NameText bytes := by
  intro byte hbyte
  apply htext
  rw [← hequal]
  exact List.mem_map_of_mem hbyte

end Forms

/-! ## Reading it back -/

/-- The members of the record. -/
def jsonDocuments (values : Variables) (dirty : Bool) : Members :=
  [(fieldName "schema", .number (fieldName "1")),
    (fieldName "product", .string (fieldName "vana360")),
    (fieldName "version", .string (values "REVANA_VERSION")),
    (fieldName "title_commit", .string (values "REVANA_TITLE_COMMIT")),
    (fieldName "dirty", .boolean dirty),
    (fieldName "sdk_commit", .string (values "REVANA_SDK_COMMIT")),
    (fieldName "sdk_api_version",
      .string (values "REVANA_SDK_API_VERSION")),
    (fieldName "platform", .string (values "REVANA_PLATFORM")),
    (fieldName "architecture", .string (values "REVANA_ARCHITECTURE")),
    (fieldName "configuration", .string (values "REVANA_CONFIGURATION")),
    (fieldName "compiler", .string (values "REVANA_COMPILER")),
    (fieldName "graphics_backend",
      .string (values "REVANA_GRAPHICS_BACKEND")),
    (fieldName "supported_input_profile",
      .string (values "REVANA_INPUT_PROFILE"))]

/-- The variables of the strings in the record. -/
def quotedNames : List String :=
  ["REVANA_VERSION", "REVANA_TITLE_COMMIT", "REVANA_SDK_COMMIT",
    "REVANA_SDK_API_VERSION", "REVANA_PLATFORM", "REVANA_ARCHITECTURE",
    "REVANA_CONFIGURATION", "REVANA_COMPILER", "REVANA_GRAPHICS_BACKEND",
    "REVANA_INPUT_PROFILE"]

section Record

variable {values : Variables} {dirty : Bool}

theorem readsMember_quoted
    {field name : String} (hfield : Json.isUtf8 (fieldName field) = true)
    (hplain : NameText (values name)) :
    Json.ReadsMember (entryOf values (field, quotedVariable name))
      (fieldName field, .string (values name)) := by
  have hquote : fieldName "\"" = [Json.quotationMark] := by decide
  have htext : configureFile values (quotedVariable name) =
      Json.quotationMark :: (values name ++ [Json.quotationMark]) := by
    simp [configureFile, quotedVariable, hquote]
  refine ⟨rfl, hfield, ?_⟩
  show Json.Reads (configureFile values (quotedVariable name)) _
  rw [htext]
  exact Json.reads_plain hplain.plain

theorem readsMember_dirty
    (hdirty : values "REVANA_DIRTY_JSON" =
      fieldName (if dirty then "true" else "false")) :
    Json.ReadsMember
      (entryOf values ("dirty", [.reference "REVANA_DIRTY_JSON"]))
      (fieldName "dirty", .boolean dirty) := by
  have htext : configureFile values [.reference "REVANA_DIRTY_JSON"] =
      Json.write (.boolean dirty) := by
    unfold configureFile
    rw [List.flatMap_singleton]
    show values "REVANA_DIRTY_JSON" = _
    rw [hdirty]
    cases dirty with
    | true => decide
    | false => decide
  have hfield : Json.isUtf8 (fieldName "dirty") = true := by decide
  refine ⟨rfl, hfield, ?_⟩
  show Json.Reads (configureFile values [.reference "REVANA_DIRTY_JSON"]) _
  rw [htext]
  exact Json.reads_boolean dirty

/-- The template denotes the record. -/
theorem parse_jsonTemplate
    (hnames : ∀ name ∈ quotedNames, NameText (values name))
    (hdirty : values "REVANA_DIRTY_JSON" =
      fieldName (if dirty then "true" else "false")) :
    Json.parse (configureFile values jsonTemplate) =
      some (.object (jsonDocuments values dirty)) := by
  have htext (text : String) :
      configureFile values [.text text] = fieldName text := by
    simp [configureFile]
  have hproduct : fieldName "\"vana360\"" =
      Json.quotationMark :: (fieldName "vana360" ++ [Json.quotationMark]) := by
    decide
  have hschema : Json.ReadsMember (entryOf values ("schema", [.text "1"]))
      (fieldName "schema", .number (fieldName "1")) := by
    refine ⟨rfl, by decide, ?_⟩
    show Json.Reads (configureFile values [.text "1"]) _
    rw [htext]
    exact Json.reads_number (by decide)
  have hvana : Json.ReadsMember
      (entryOf values ("product", [.text "\"vana360\""]))
      (fieldName "product", .string (fieldName "vana360")) := by
    refine ⟨rfl, by decide, ?_⟩
    show Json.Reads (configureFile values [.text "\"vana360\""]) _
    rw [htext, hproduct]
    exact Json.reads_plain (List.all_eq_true.mp (by decide))
  rw [configureFile_jsonTemplate]
  apply lineLayout.parse_object hschema
  refine .cons hvana (.cons ?_ (.cons ?_ (.cons (readsMember_dirty hdirty)
    (.cons ?_ (.cons ?_ (.cons ?_ (.cons ?_ (.cons ?_ (.cons ?_ (.cons ?_
      (.cons ?_ .nil)))))))))))
  all_goals exact readsMember_quoted (by decide) (hnames _ (by decide))

theorem decodePoints_ascii
    {bytes : List UInt8} (hascii : AsciiText (points bytes)) :
    decodePoints bytes = points bytes := by
  induction bytes with
  | nil => rfl
  | cons byte rest ih =>
      have hlead : byte < 0xC0 := by
        have hbyte := hascii byte.toNat List.mem_cons_self
        rw [UInt8.lt_iff_toNat_lt]
        exact Nat.lt_trans hbyte (by decide)
      rw [decodePoints.eq_def]
      dsimp only
      rw [if_pos hlead, ih fun point hpoint =>
        hascii point (List.mem_cons_of_mem _ hpoint)]
      rfl

theorem loads_jsonDocuments (values : Variables) (dirty : Bool) :
    loads (.object (jsonDocuments values dirty)) = true := by
  have hkeys : (jsonDocuments values dirty).map Prod.fst =
      buildInfoFields.map fieldName := rfl
  have hnodup : (buildInfoFields.map fieldName).Nodup := by decide
  have hdigits : ((fieldName "1").filter Json.isDigit).length ≤
      maximumIntegerDigits := by decide
  rw [loads, hkeys]
  simp [hnodup, jsonDocuments, loadsMembers, loads, hdigits]

end Record

end Revana.Scripts
