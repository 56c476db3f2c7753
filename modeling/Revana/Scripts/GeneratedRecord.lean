import Revana.Scripts.WriteBuildInfo

/-!
# The generated record and the packager

What `write_build_info.cmake` writes is read by `package.py` as the values it
was given exactly when they have the forms the packager asks for.  Then the
summary of the record is the literal of the header, so an executable built
with the header passes the comparison.
-/

namespace Revana.Scripts

open Foundation

/-! ## A run of the generator -/

section Run

variable {values : Variables} {head status : ProcessResult}

/-- The generator and the packager agree on what a title commit is. -/
theorem titleCommit_iff {text : CodePoints} :
    hexPattern.fullMatch text = true ∧ text.length = 40 ↔
      commitPattern.Matches text := by
  rw [Pattern.fullMatch_iff]
  constructor
  · rintro ⟨hhex, hlength⟩
    unfold commitPattern
    rw [← hlength]
    exact Pattern.matches_times_one hhex.uses
  · intro hcommit
    have hlength : text.length = 40 := hcommit.length
    have hne : text ≠ [] := by
      rintro rfl
      cases hlength
    exact ⟨Pattern.matches_plus_one hcommit.uses hne, hlength⟩

theorem writeBuildInfo_ok_iff {generated : Generated} :
    writeBuildInfo values head status = .ok generated ↔
      (∀ name ∈ requiredVariables, values name ≠ []) ∧
        head.succeeded = true ∧
        commitPattern.Matches (points head.stripped) ∧
        status.succeeded = true ∧
        generated =
          ⟨configureFile (templateVariables values head status)
              headerTemplate,
            configureFile (templateVariables values head status)
              jsonTemplate⟩ := by
  have hlength : (points head.stripped).length = head.stripped.length :=
    List.length_map _
  unfold writeBuildInfo
  simp only [bind_eq_ok, require_eq_ok, checkAll_eq_ok]
  rw [← titleCommit_iff, hlength]
  constructor
  · rintro ⟨_, hrequired, _, ⟨hhead, hhex, hforty⟩, _, hstatus, hok⟩
    exact ⟨hrequired, hhead, ⟨hhex, hforty⟩, hstatus,
      (Except.ok.inj hok).symm⟩
  · rintro ⟨hrequired, hhead, ⟨hhex, hforty⟩, hstatus, rfl⟩
    exact ⟨(), hrequired, (), ⟨hhead, hhex, hforty⟩, (), hstatus, rfl⟩

def scriptNames : List String :=
  ["REVANA_TITLE_COMMIT", "REVANA_DIRTY_JSON", "REVANA_SOURCE_STATE",
    "REVANA_BUILD_INFO_SUMMARY"]

/-- The script leaves what it was given alone. -/
theorem templateVariables_given
    {name : String} (hname : name ∉ scriptNames) :
    templateVariables values head status name = values name := by
  simp only [scriptNames, List.mem_cons, List.not_mem_nil, or_false,
    not_or] at hname
  obtain ⟨hcommit, hdirty, hstate, hsummary⟩ := hname
  simp [templateVariables, sourceVariables, hcommit, hdirty, hstate,
    hsummary]

theorem templateVariables_titleCommit :
    templateVariables values head status "REVANA_TITLE_COMMIT" =
      head.stripped := by
  simp [templateVariables, sourceVariables]

theorem templateVariables_dirty :
    templateVariables values head status "REVANA_DIRTY_JSON" =
      fieldName (if (generatedInfo values head status).dirty then "true"
        else "false") := by
  by_cases hclean : status.stripped = []
  · simp [templateVariables, sourceVariables, generatedInfo, hclean]
  · simp [templateVariables, sourceVariables, generatedInfo, hclean]

end Run

/-! ## Values in the packager's forms -/

section Forms

variable {values : Variables} {head status : ProcessResult}

theorem Packageable.nameTexts [UnicodeDigits]
    (hpackage : Packageable values)
    (hcommit : commitPattern.Matches (points head.stripped)) :
    ∀ name ∈ quotedNames,
      NameText (templateVariables values head status name) := by
  have hgiven {name : String} (hname : name ∉ scriptNames)
      (htext : NameText (values name)) :
      NameText (templateVariables values head status name) := by
    rwa [templateVariables_given hname]
  simp only [quotedNames, List.forall_mem_cons, List.not_mem_nil,
    false_implies, implies_true, and_true]
  refine ⟨?_, ?_, ?_, ?_, ?_, ?_, ?_, ?_, ?_, ?_⟩
  · exact hgiven (by decide)
      (nameText_of_version hpackage.version hpackage.version_ascii)
  · rw [templateVariables_titleCommit]
    exact nameText_of_commit hcommit
  · exact hgiven (by decide) (nameText_of_commit hpackage.sdkCommit)
  · exact hgiven (by decide)
      (nameText_of_version hpackage.sdkApiVersion
        hpackage.sdkApiVersion_ascii)
  · exact hgiven (by decide)
      (nameText_of_literal hpackage.platform (by decide))
  · exact hgiven (by decide)
      (nameText_of_literal hpackage.architecture (by decide))
  · exact hgiven (by decide) (nameText_of_name hpackage.configuration)
  · exact hgiven (by decide) (nameText_of_name hpackage.compiler)
  · exact hgiven (by decide)
      (nameText_of_literal hpackage.graphicsBackend (by decide))
  · exact hgiven (by decide) (nameText_of_profile hpackage.inputProfile)

theorem NameText.ascii
    {bytes : List UInt8} (hname : NameText bytes) :
    AsciiText (points bytes) := by
  intro point hpoint
  obtain ⟨byte, hbyte, rfl⟩ := List.mem_map.mp hpoint
  exact isNameChar_lt (hname byte hbyte)

theorem buildInfoMatches_of_textOf
    {members : Members} {name : String} {pattern : Pattern ℕ}
    {text : CodePoints} (htext : textOf members name = some text)
    (hmatches : pattern.Matches text) :
    buildInfoMatches members name pattern = true := by
  unfold buildInfoMatches
  rw [htext]
  exact Pattern.fullMatch_iff.mpr hmatches

theorem holdsText_of_textOf
    {members : Members} {name value : String} {text : CodePoints}
    (htext : textOf members name = some text)
    (hvalue : text = codePoints value) :
    holdsText members name value = true := by
  rw [hvalue] at htext
  exact decide_eq_true htext

theorem lookup_of_idxOf
    {α β : Type} [BEq α] [LawfulBEq α] {entries : List (α × β)} {key : α}
    {index : ℕ} {value : β}
    (hindex : (entries.map Prod.fst).idxOf key = index)
    (hvalue : (entries.map Prod.snd)[index]? = some value) :
    entries.lookup key = some value := by
  induction entries generalizing index with
  | nil => cases hvalue
  | cons entry entries ih =>
      rw [List.map_cons, List.idxOf_cons] at hindex
      rw [List.lookup_cons]
      by_cases hkey : key = entry.1
      · subst hkey
        simp only [beq_self_eq_true, cond_true] at hindex
        subst hindex
        simpa using hvalue
      · have hother : (entry.1 == key) = false :=
          beq_false_of_ne (Ne.symm hkey)
        rw [hother, cond_false] at hindex
        subst hindex
        rw [beq_false_of_ne hkey]
        exact ih rfl hvalue

theorem buildInfoFields_idxOf :
    ∀ place ∈ buildInfoFields.zipIdx,
      (buildInfoFields.map fieldName).idxOf (fieldName place.1) =
        place.2 := by
  decide

/-- A field of the record by its place among the fields. -/
theorem fieldOf_jsonDocuments
    {template : Variables} {dirty : Bool} {field : String} {index : ℕ}
    {value : Json} (hplace : (field, index) ∈ buildInfoFields.zipIdx)
    (hvalue : ((jsonDocuments template dirty).map Prod.snd)[index]? =
      some value) :
    fieldOf (jsonDocuments template dirty) field = value := by
  have hkeys : (jsonDocuments template dirty).map Prod.fst =
      buildInfoFields.map fieldName := rfl
  have hindex := buildInfoFields_idxOf _ hplace
  rw [← hkeys] at hindex
  unfold fieldOf
  rw [lookup_of_idxOf hindex hvalue]
  rfl

/-- A field of the record that holds a variable. -/
theorem textOf_jsonDocuments
    {template : Variables} {dirty : Bool} {field name : String} {index : ℕ}
    (htext : NameText (template name))
    (hplace : (field, index) ∈ buildInfoFields.zipIdx)
    (hvalue : ((jsonDocuments template dirty).map Prod.snd)[index]? =
      some (.string (template name))) :
    textOf (jsonDocuments template dirty) field =
      some (points (template name)) := by
  unfold textOf
  rw [fieldOf_jsonDocuments hplace hvalue]
  show some (decodePoints (template name)) = _
  rw [decodePoints_ascii htext.ascii]

theorem literalPoints :
    ∀ text ∈ ["vana360", "vana360 v", " title=", "-", "dirty", "clean",
      " sdk=", " api=", " platform=", " arch=", " config=", " compiler=",
      " backend=", " input="],
      points (fieldName text) = codePoints text ∧
        AsciiText (codePoints text) := by
  unfold AsciiText
  decide

/-- The packager sees the record of the build. -/
theorem Packageable.fields [UnicodeDigits]
    (hpackage : Packageable values)
    (hcommit : commitPattern.Matches (points head.stripped)) :
    Acceptable (jsonDocuments (templateVariables values head status)
        (generatedInfo values head status).dirty) ∧
      toBuildInfo (jsonDocuments (templateVariables values head status)
        (generatedInfo values head status).dirty) =
          generatedInfo values head status := by
  let documents := jsonDocuments (templateVariables values head status)
    (generatedInfo values head status).dirty
  have hnames := @Packageable.nameTexts values head status _ hpackage hcommit
  have hplaces (field : String) (index : ℕ)
      (hfield : buildInfoFields[index]? = some field) :
      (field, index) ∈ buildInfoFields.zipIdx :=
    List.mk_mem_zipIdx_iff_getElem?.mpr hfield
  have hgiven (field name : String) (index : ℕ) (hname : name ∈ quotedNames)
      (hscript : name ∉ scriptNames)
      (hfield : buildInfoFields[index]? = some field)
      (hvalue : (documents.map Prod.snd)[index]? =
        some (.string (templateVariables values head status name))) :
      textOf documents field = some (points (values name)) := by
    rw [← @templateVariables_given values head status name hscript]
    exact textOf_jsonDocuments (hnames name hname) (hplaces field index hfield)
      hvalue
  have hproduct : textOf documents "product" =
      some (codePoints "vana360") := by
    have hfield : fieldOf documents "product" =
        .string (fieldName "vana360") :=
      fieldOf_jsonDocuments (hplaces "product" 1 rfl) rfl
    obtain ⟨hpoints, hascii⟩ := literalPoints "vana360" (by simp)
    rw [← hpoints] at hascii
    unfold textOf
    rw [hfield]
    show some (decodePoints (fieldName "vana360")) = _
    rw [decodePoints_ascii hascii, hpoints]
  have htitleCommit : textOf documents "title_commit" =
      some (points head.stripped) := by
    rw [← @templateVariables_titleCommit values head status]
    exact textOf_jsonDocuments
      (hnames "REVANA_TITLE_COMMIT" (by simp [quotedNames]))
      (hplaces "title_commit" 3 rfl) rfl
  have hversion := hgiven "version" "REVANA_VERSION" 2
    (by simp [quotedNames]) (by simp [scriptNames]) rfl rfl
  have hsdkCommit := hgiven "sdk_commit" "REVANA_SDK_COMMIT" 5
    (by simp [quotedNames]) (by simp [scriptNames]) rfl rfl
  have hsdkApiVersion := hgiven "sdk_api_version" "REVANA_SDK_API_VERSION" 6
    (by simp [quotedNames]) (by simp [scriptNames]) rfl rfl
  have hplatform := hgiven "platform" "REVANA_PLATFORM" 7
    (by simp [quotedNames]) (by simp [scriptNames]) rfl rfl
  have harchitecture := hgiven "architecture" "REVANA_ARCHITECTURE" 8
    (by simp [quotedNames]) (by simp [scriptNames]) rfl rfl
  have hconfiguration := hgiven "configuration" "REVANA_CONFIGURATION" 9
    (by simp [quotedNames]) (by simp [scriptNames]) rfl rfl
  have hcompiler := hgiven "compiler" "REVANA_COMPILER" 10
    (by simp [quotedNames]) (by simp [scriptNames]) rfl rfl
  have hbackend := hgiven "graphics_backend" "REVANA_GRAPHICS_BACKEND" 11
    (by simp [quotedNames]) (by simp [scriptNames]) rfl rfl
  have hprofile := hgiven "supported_input_profile" "REVANA_INPUT_PROFILE" 12
    (by simp [quotedNames]) (by simp [scriptNames]) rfl rfl
  have hdirty : flagOf documents "dirty" =
      some (generatedInfo values head status).dirty := by
    unfold flagOf
    rw [fieldOf_jsonDocuments (hplaces "dirty" 4 rfl) rfl]
  have hschema : equalsOne (fieldOf documents "schema") = true := by
    rw [fieldOf_jsonDocuments (hplaces "schema" 0 rfl) rfl]
    decide
  constructor
  · constructor
    · rfl
    · exact hschema
    · exact holdsText_of_textOf hproduct rfl
    · exact buildInfoMatches_of_textOf hversion hpackage.version
    · exact buildInfoMatches_of_textOf htitleCommit hcommit
    · show (flagOf documents "dirty").isSome = true
      rw [hdirty]
      rfl
    · exact buildInfoMatches_of_textOf hsdkCommit hpackage.sdkCommit
    · exact buildInfoMatches_of_textOf hsdkApiVersion hpackage.sdkApiVersion
    · exact holdsText_of_textOf hplatform hpackage.platform
    · exact holdsText_of_textOf harchitecture hpackage.architecture
    · exact buildInfoMatches_of_textOf hconfiguration hpackage.configuration
    · exact buildInfoMatches_of_textOf hcompiler hpackage.compiler
    · exact holdsText_of_textOf hbackend hpackage.graphicsBackend
    · exact buildInfoMatches_of_textOf hprofile hpackage.inputProfile
  · show toBuildInfo documents = generatedInfo values head status
    unfold toBuildInfo
    rw [if_pos hschema, hproduct, hversion, htitleCommit, hdirty, hsdkCommit,
      hsdkApiVersion, hplatform, harchitecture, hconfiguration, hcompiler,
      hbackend, hprofile]
    rfl

end Forms

/-! ## The round trip -/

section RoundTrip

variable {values : Variables} {head status : ProcessResult}

theorem jsonTemplate_references :
    ∀ name ∈ referencesOf jsonTemplate,
      name ∈ quotedNames ∨ name = "REVANA_DIRTY_JSON" := by
  decide

theorem jsonTemplate_texts :
    ∀ text ∈ textsOf jsonTemplate, ∀ byte ∈ fieldName text,
      byte < 0x80 := by
  decide +kernel

theorem Packageable.json_ascii [UnicodeDigits]
    (hpackage : Packageable values)
    (hcommit : commitPattern.Matches (points head.stripped)) :
    (configureFile (templateVariables values head status) jsonTemplate).all
      (· < 0x80) = true := by
  have hnames := @Packageable.nameTexts values head status _ hpackage hcommit
  rw [List.all_eq_true]
  intro byte hbyte
  apply decide_eq_true
  rcases mem_configureFile.mp hbyte with
    ⟨text, htext, hmem⟩ | ⟨name, hname, hmem⟩
  · exact jsonTemplate_texts text htext byte hmem
  · rcases jsonTemplate_references name hname with hquoted | rfl
    · have hascii := (hnames name hquoted).ascii byte.toNat
        (List.mem_map_of_mem hmem)
      exact UInt8.lt_iff_toNat_lt.mpr hascii
    · have hflags : ∀ flag : Bool,
          (fieldName (if flag then "true" else "false")).all
            (· < 0x80) = true := by
        decide
      rw [templateVariables_dirty] at hmem
      exact of_decide_eq_true (List.all_eq_true.mp (hflags _) byte hmem)

/-- The record is read back exactly when its values are in the packager's
forms. -/
theorem readBuildInfo_generated_iff [UnicodeDigits]
    (hcommit : commitPattern.Matches (points head.stripped)) :
    readBuildInfo (.regular (configureFile
        (templateVariables values head status) jsonTemplate)) =
          .ok (generatedInfo values head status) ↔
      Packageable values := by
  constructor
  · intro hread
    have hvalid := valid_of_readBuildInfo hread
    obtain ⟨raw, members, hfile, hload, -, -⟩ :=
      readBuildInfo_ok_iff.mp hread
    obtain rfl := BuildInfoFile.regular.inj hfile
    have hraw : ∀ byte ∈ configureFile
        (templateVariables values head status) jsonTemplate,
          byte < 0x80 := by
      unfold loadAscii at hload
      split at hload
      · rename_i hall
        simpa using hall
      · cases hload
    have hascii (name : String) (hname : name ∈ referencesOf jsonTemplate)
        (hscript : name ∉ scriptNames) :
        AsciiText (points (values name)) := by
      intro point hpoint
      obtain ⟨byte, hbyte, rfl⟩ := List.mem_map.mp hpoint
      have hmem : byte ∈ templateVariables values head status name := by
        rwa [templateVariables_given hscript]
      exact UInt8.lt_iff_toNat_lt.mp
        (hraw byte (mem_configureFile.mpr (Or.inr ⟨name, hname, hmem⟩)))
    exact ⟨hvalid.version,
      hascii "REVANA_VERSION" (by decide) (by simp [scriptNames]),
      hvalid.sdkCommit, hvalid.sdkApiVersion,
      hascii "REVANA_SDK_API_VERSION" (by decide)
        (by simp [scriptNames]),
      hvalid.platform, hvalid.architecture, hvalid.configuration,
      hvalid.compiler, hvalid.graphicsBackend, hvalid.supportedInputProfile⟩
  · intro hpackage
    obtain ⟨haccepts, hinfo⟩ :=
      @Packageable.fields values head status _ hpackage hcommit
    have hparse := parse_jsonTemplate
      (@Packageable.nameTexts values head status _ hpackage hcommit)
      templateVariables_dirty
    refine readBuildInfo_ok_iff.mpr ⟨_, _, rfl, ?_, haccepts, hinfo.symm⟩
    unfold loadAscii
    rw [if_pos (hpackage.json_ascii hcommit), hparse]
    simp [loads_jsonDocuments]

/-- The generator and the packager make the same summary of a build. -/
theorem points_summaryTemplate :
    points (configureFile (sourceVariables values head status)
      summaryTemplate) = buildInfoSummary (generatedInfo values head status) := by
  have hliteral (text : String)
      (hmem : text ∈ ["vana360", "vana360 v", " title=", "-", "dirty",
        "clean", " sdk=", " api=", " platform=", " arch=", " config=",
        " compiler=", " backend=", " input="]) :
      (fieldName text).map UInt8.toNat = codePoints text :=
    (literalPoints text hmem).1
  have hstate : (sourceVariables values head status
      "REVANA_SOURCE_STATE").map UInt8.toNat =
        codePoints (if (generatedInfo values head status).dirty then "dirty"
          else "clean") := by
    by_cases hclean : status.stripped = []
    · simpa [sourceVariables, generatedInfo, hclean] using
        hliteral "clean" (by simp)
    · simpa [sourceVariables, generatedInfo, hclean] using
        hliteral "dirty" (by simp)
  have hgiven (name : String) (hname : name ∉ scriptNames) :
      sourceVariables values head status name = values name := by
    simp only [scriptNames, List.mem_cons, List.not_mem_nil, or_false,
      not_or] at hname
    obtain ⟨hcommit, hdirty, hsource, -⟩ := hname
    simp [sourceVariables, hcommit, hdirty, hsource]
  have hcommit : sourceVariables values head status "REVANA_TITLE_COMMIT" =
      head.stripped := by
    simp [sourceVariables]
  unfold points configureFile summaryTemplate buildInfoSummary
  simp only [List.flatMap_cons, List.flatMap_nil, List.append_nil,
    List.map_append, List.append_assoc]
  rw [hstate, hcommit, hgiven "REVANA_VERSION" (by simp [scriptNames]),
    hgiven "REVANA_SDK_COMMIT" (by simp [scriptNames]),
    hgiven "REVANA_SDK_API_VERSION" (by simp [scriptNames]),
    hgiven "REVANA_PLATFORM" (by simp [scriptNames]),
    hgiven "REVANA_ARCHITECTURE" (by simp [scriptNames]),
    hgiven "REVANA_CONFIGURATION" (by simp [scriptNames]),
    hgiven "REVANA_COMPILER" (by simp [scriptNames]),
    hgiven "REVANA_GRAPHICS_BACKEND" (by simp [scriptNames]),
    hgiven "REVANA_INPUT_PROFILE" (by simp [scriptNames]),
    hliteral "vana360 v" (by simp), hliteral " title=" (by simp),
    hliteral "-" (by simp), hliteral " sdk=" (by simp),
    hliteral " api=" (by simp), hliteral " platform=" (by simp),
    hliteral " arch=" (by simp), hliteral " config=" (by simp),
    hliteral " compiler=" (by simp), hliteral " backend=" (by simp),
    hliteral " input=" (by simp)]
  rfl

theorem Packageable.summary [UnicodeDigits]
    (hpackage : Packageable values)
    (hcommit : commitPattern.Matches (points head.stripped)) :
    encodeAscii (buildInfoSummary (generatedInfo values head status)) =
      .ok (configureFile (sourceVariables values head status)
        summaryTemplate) := by
  obtain ⟨haccepts, hinfo⟩ :=
    @Packageable.fields values head status _ hpackage hcommit
  have hvalid := haccepts.valid
  rw [hinfo] at hvalid
  have hascii := buildInfoSummary_ascii
    (hvalid.texts_ascii hpackage.version_ascii hpackage.sdkApiVersion_ascii)
  exact encodeAscii_eq_ok_iff.mpr ⟨points_summaryTemplate, hascii⟩

/-- The literal of a header whose quotation marks are those around it. -/
theorem kSummary_of_quoted
    {before summary after : List UInt8}
    (hbefore : Json.quotationMark ∉ before)
    (hsummary : Json.quotationMark ∉ summary) :
    kSummary (before ++ Json.quotationMark ::
      (summary ++ Json.quotationMark :: after)) = summary := by
  have hnot {text : List UInt8} (htext : Json.quotationMark ∉ text) :
      ∀ byte ∈ text, decide (byte ≠ Json.quotationMark) = true := by
    intro byte hbyte
    apply decide_eq_true
    rintro rfl
    exact htext hbyte
  unfold kSummary
  rw [List.dropWhile_append_of_pos (hnot hbefore)]
  simp only [List.dropWhile_cons, ne_eq, not_true_eq_false, decide_false,
    Bool.false_eq_true, if_false, List.drop_succ_cons, List.drop_zero]
  rw [List.takeWhile_append_of_pos (hnot hsummary)]
  simp

theorem Packageable.summary_unquoted [UnicodeDigits]
    (hpackage : Packageable values)
    (hcommit : commitPattern.Matches (points head.stripped)) :
    Json.quotationMark ∉ configureFile (sourceVariables values head status)
      summaryTemplate := by
  have hreferences : ∀ name ∈ referencesOf summaryTemplate,
      (name ∈ quotedNames ∧ name ≠ "REVANA_BUILD_INFO_SUMMARY") ∨
        name = "REVANA_SOURCE_STATE" := by
    decide
  have htexts : ∀ text ∈ textsOf summaryTemplate,
      Json.quotationMark ∉ fieldName text := by
    decide
  have hnames := @Packageable.nameTexts values head status _ hpackage hcommit
  intro hquote
  rcases mem_configureFile.mp hquote with
    ⟨text, htext, hmem⟩ | ⟨name, hname, hmem⟩
  · exact htexts text htext hmem
  · rcases hreferences name hname with ⟨hquoted, hne⟩ | rfl
    · have hname := hnames name hquoted
      unfold templateVariables at hname
      rw [Function.update_of_ne hne] at hname
      exact absurd (hname _ hmem) (by decide)
    · have hstates : ∀ state ∈ ["clean", "dirty"],
          Json.quotationMark ∉ fieldName state := by
        decide
      unfold sourceVariables at hmem
      rw [Function.update_self] at hmem
      refine hstates _ ?_ hmem
      split_ifs
      · exact List.mem_cons_self
      · exact List.mem_cons_of_mem _ List.mem_cons_self

/-- The header holds the summary. -/
theorem Packageable.header [UnicodeDigits]
    (hpackage : Packageable values)
    (hcommit : commitPattern.Matches (points head.stripped)) :
    kSummary (configureFile (templateVariables values head status)
      headerTemplate) =
        configureFile (sourceVariables values head status)
          summaryTemplate := by
  let before := fieldName "#pragma once\n\n#include <string_view>\n\n" ++
    (fieldName "namespace revana::build_info\n\x7b\n\n" ++
      fieldName "inline constexpr std::string_view kSummary =\n    ")
  let after := fieldName ";\n\n\x7d // namespace revana::build_info\n"
  have hopen :
      fieldName "inline constexpr std::string_view kSummary =\n    \"" =
        fieldName "inline constexpr std::string_view kSummary =\n    " ++
          [Json.quotationMark] := by
    decide
  have hclose :
      fieldName "\";\n\n\x7d // namespace revana::build_info\n" =
        Json.quotationMark :: after := by
    decide
  have hbefore : Json.quotationMark ∉ before := by
    decide
  have hsummary : templateVariables values head status
      "REVANA_BUILD_INFO_SUMMARY" = configureFile
        (sourceVariables values head status) summaryTemplate :=
    Function.update_self ..
  have hheader : configureFile (templateVariables values head status)
      headerTemplate = before ++ Json.quotationMark ::
        (configureFile (sourceVariables values head status)
          summaryTemplate ++ Json.quotationMark :: after) := by
    rw [← hsummary, ← hclose]
    simp [configureFile, headerTemplate, hopen, before]
  rw [hheader]
  exact kSummary_of_quoted hbefore (hpackage.summary_unquoted hcommit)

/-- A run of the generator writes a record that the packager reads back as
the build, provided and only provided the values it does not check have the
packager's forms.  The header of the same run then holds the record's summary,
and an executable with that literal passes the comparison. -/
theorem generated_record_packages [UnicodeDigits]
    {generated : Generated}
    (hwrite : writeBuildInfo values head status = .ok generated) :
    (readBuildInfo (.regular generated.json) =
        .ok (generatedInfo values head status) ↔ Packageable values) ∧
      (Packageable values →
        encodeAscii (buildInfoSummary (generatedInfo values head status)) =
            .ok (kSummary generated.header) ∧
          ∀ run, Proceeds run (generatedInfo values head status) →
            kSummary generated.header <:+: run.executable →
            packageMain run (.regular generated.json) = .ok ()) := by
  obtain ⟨-, -, hcommit, -, rfl⟩ := writeBuildInfo_ok_iff.mp hwrite
  have hround :=
    @readBuildInfo_generated_iff values head status _ hcommit
  refine ⟨hround, ?_⟩
  intro hpackage
  have hsummary := @Packageable.summary values head status _ hpackage hcommit
  rw [← @Packageable.header values head status _ hpackage hcommit] at hsummary
  refine ⟨hsummary, ?_⟩
  intro run hproceeds hholds
  exact (packageMain_ok_iff (hround.mpr hpackage)).mpr
    ⟨hproceeds, _, hsummary, hholds⟩

end RoundTrip

/-- The variables of a release build. -/
def releaseVariables : Variables := fun name =>
  match name with
  | "REVANA_VERSION" => fieldName "0.1.0"
  | "REVANA_SDK_COMMIT" => List.replicate 40 0x32
  | "REVANA_SDK_API_VERSION" => fieldName "0.10.0"
  | "REVANA_PLATFORM" => fieldName "windows"
  | "REVANA_ARCHITECTURE" => fieldName "x64"
  | "REVANA_CONFIGURATION" => fieldName "Release"
  | "REVANA_COMPILER" => fieldName "Clang-22.1.0"
  | "REVANA_GRAPHICS_BACKEND" => fieldName "xenos"
  | "REVANA_INPUT_PROFILE" => fieldName "a-b"
  | _ => fieldName "path"

def releaseHead : ProcessResult := ⟨true, List.replicate 40 0x31 ++ [0x0A]⟩

def releaseGenerated : Generated :=
  ⟨configureFile (templateVariables releaseVariables releaseHead ⟨true, []⟩)
      headerTemplate,
    configureFile (templateVariables releaseVariables releaseHead ⟨true, []⟩)
      jsonTemplate⟩

section Unicode14

attribute [local instance] unicode14

theorem generated_record_packages_release :
    writeBuildInfo releaseVariables releaseHead ⟨true, []⟩ =
        .ok releaseGenerated ∧
      readBuildInfo (.regular releaseGenerated.json) =
        .ok (buildInfoOf (codePoints "0.1.0") (codePoints "a-b")) ∧
      packageMain ⟨.ok (), fun _ => .ok (), kSummary releaseGenerated.header,
        fun _ => .ok ()⟩ (.regular releaseGenerated.json) = .ok () := by
  have hwrite : writeBuildInfo releaseVariables releaseHead ⟨true, []⟩ =
      .ok releaseGenerated := by
    decide +kernel
  have hread : readBuildInfo (.regular releaseGenerated.json) =
      .ok (generatedInfo releaseVariables releaseHead ⟨true, []⟩) := by
    decide +kernel
  obtain ⟨hround, hpackages⟩ := generated_record_packages hwrite
  refine ⟨hwrite, ?_, ?_⟩
  · rw [hread]
    decide +kernel
  · exact (hpackages (hround.mp hread)).2 _ ⟨rfl, rfl, rfl⟩ ⟨[], [], by simp⟩

end Unicode14

end Revana.Scripts
