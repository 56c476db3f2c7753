import Revana.Scripts.BuildInfoAscii

/-!
# Do the executable and the record describe one build?

`main` of `package.py` looks for the summary of the record anywhere in the
executable.  All fields but the last end at a space, so they agree with the
build; the input profile ends the summary and may be cut short.
-/

namespace Revana.Scripts

open Foundation

/-! ## The comparison -/

/-- What `main` meets besides the record: the check of the build directory,
the staging of the release files, the executable, and the steps behind the
comparison. -/
structure PackageRun where
  buildDir : Except Failure Unit
  staged : BuildInfo → Except Failure Unit
  executable : List UInt8
  finished : BuildInfo → Except Failure Unit

/-- `main` of `package.py`. -/
def packageMain [UnicodeDigits] (run : PackageRun) (file : BuildInfoFile) :
    Except Failure Unit := do
  run.buildDir
  let info ← readBuildInfo file
  run.staged info
  let summary ← encodeAscii (buildInfoSummary info)
  require (summary <:+: run.executable)
    (.systemExit "error: executable and build info differ")
  run.finished info

/-- Nothing but the comparison stops the run. -/
structure Proceeds (run : PackageRun) (info : BuildInfo) : Prop where
  buildDir : run.buildDir = .ok ()
  staged : run.staged info = .ok ()
  finished : run.finished info = .ok ()

/-- The executable holds the summary of a build at one place, and no summary
anywhere else. -/
structure HoldsSummary [UnicodeDigits] (executable : List UInt8)
    (info : BuildInfo) (before after : List UInt8) : Prop where
  summary : ∃ bytes, encodeAscii (buildInfoSummary info) = .ok bytes ∧
    executable = before ++ (bytes ++ after)
  only : ∀ file other bytes start rest,
    readBuildInfo file = .ok other →
    encodeAscii (buildInfoSummary other) = .ok bytes →
    executable = start ++ (bytes ++ rest) → start = before

theorem packageMain_ok_iff [UnicodeDigits]
    {run : PackageRun} {file : BuildInfoFile} {info : BuildInfo}
    (hread : readBuildInfo file = .ok info) :
    packageMain run file = .ok () ↔
      Proceeds run info ∧ ∃ bytes,
        encodeAscii (buildInfoSummary info) = .ok bytes ∧
        bytes <:+: run.executable := by
  unfold packageMain
  simp only [bind_eq_ok, require_eq_ok, hread]
  constructor
  · rintro ⟨_, hbuildDir, _, hinfo, _, hstaged, bytes, hbytes, _, hoccurs,
      hfinished⟩
    obtain rfl := Except.ok.inj hinfo
    exact ⟨⟨hbuildDir, hstaged, hfinished⟩, bytes, hbytes, hoccurs⟩
  · rintro ⟨⟨hbuildDir, hstaged, hfinished⟩, bytes, hbytes, hoccurs⟩
    exact ⟨(), hbuildDir, info, rfl, (), hstaged, bytes, hbytes, (), hoccurs,
      hfinished⟩

/-! ## Summaries -/

theorem encodeAscii_eq_ok_iff {text : CodePoints} {bytes : List UInt8} :
    encodeAscii text = .ok bytes ↔
      bytes.map UInt8.toNat = text ∧ ∀ point ∈ text, point < 0x80 := by
  have hback : ∀ text : CodePoints, (∀ point ∈ text, point < 0x80) →
      (text.map Nat.toUInt8).map UInt8.toNat = text := by
    intro text hascii
    rw [List.map_map]
    conv_rhs => rw [← List.map_id text]
    apply List.map_congr_left
    intro point hpoint
    exact toUInt8_toNat (by have hless := hascii point hpoint; omega)
  unfold encodeAscii
  constructor
  · intro hok
    split_ifs at hok with hascii
    obtain rfl := Except.ok.inj hok
    exact ⟨hback text hascii, hascii⟩
  · rintro ⟨rfl, hascii⟩
    rw [if_pos hascii]
    congr 1
    have hinjective : Function.Injective UInt8.toNat :=
      fun _ _ => UInt8.toNat_inj.mp
    exact List.map_injective_iff.mpr hinjective (hback _ hascii)

/-- Two fields without a space in front of the same separator are equal. -/
theorem field_unique
    {first second separator restFirst restSecond : CodePoints}
    (hseparator : separator.head? = some 0x20) (hfirst : 0x20 ∉ first)
    (hsecond : 0x20 ∉ second)
    (hequal : first ++ (separator ++ restFirst) =
      second ++ (separator ++ restSecond)) :
    first = second ∧ restFirst = restSecond := by
  obtain ⟨tail, rfl⟩ : ∃ tail, separator = 0x20 :: tail := by
    cases separator with
    | nil => cases hseparator
    | cons head tail =>
        obtain rfl := Option.some.inj hseparator
        exact ⟨tail, rfl⟩
  induction first generalizing second with
  | nil =>
      cases second with
      | nil =>
          rw [List.nil_append, List.nil_append] at hequal
          exact ⟨rfl, List.append_cancel_left hequal⟩
      | cons head second =>
          obtain ⟨rfl, -⟩ := List.cons.inj hequal
          exact absurd List.mem_cons_self hsecond
  | cons head first ih =>
      cases second with
      | nil =>
          obtain ⟨rfl, -⟩ := List.cons.inj hequal
          exact absurd List.mem_cons_self hfirst
      | cons other second =>
          obtain ⟨rfl, hrest⟩ := List.cons.inj hequal
          obtain ⟨rfl, htail⟩ := ih
            (fun hmem => hfirst (List.mem_cons_of_mem _ hmem))
            (fun hmem => hsecond (List.mem_cons_of_mem _ hmem)) hrest
          exact ⟨rfl, htail⟩

theorem space_notMem
    {pattern : Pattern ℕ} {text : CodePoints}
    (hmatches : pattern.Matches text) (hspace : pattern.uses 0x20 = false) :
    0x20 ∉ text := by
  intro hmem
  rw [hmatches.uses _ hmem] at hspace
  cases hspace

theorem versionPattern_space [UnicodeDigits] :
    versionPattern.uses 0x20 = false := rfl

theorem sourceState_unique
    {first second : Bool}
    (hequal : codePoints (if first then "dirty" else "clean") =
      codePoints (if second then "dirty" else "clean")) :
    first = second := by
  cases first with
  | true =>
      cases second with
      | true => rfl
      | false => exact absurd hequal (by decide)
  | false =>
      cases second with
      | true => exact absurd hequal (by decide)
      | false => rfl

/-- Where the summaries of two records overlap from their start on, the
records agree up to their profiles. -/
theorem BuildInfo.Valid.summary_overlap [UnicodeDigits]
    {info other : BuildInfo} {rest restOther : CodePoints}
    (hvalid : info.Valid) (hother : other.Valid)
    (hequal : buildInfoSummary other ++ restOther =
      buildInfoSummary info ++ rest) :
    other = { info with
        supportedInputProfile := other.supportedInputProfile } ∧
      other.supportedInputProfile ++ restOther =
        info.supportedInputProfile ++ rest := by
  have hstate (dirty : Bool) :
      0x20 ∉ codePoints (if dirty then "dirty" else "clean") := by
    cases dirty with
    | true => decide
    | false => decide
  unfold buildInfoSummary at hequal
  simp only [List.append_assoc] at hequal
  replace hequal := List.append_cancel_left hequal
  obtain ⟨hversion, hequal⟩ := field_unique rfl
    (space_notMem hother.version versionPattern_space)
    (space_notMem hvalid.version versionPattern_space) hequal
  obtain ⟨htitleCommit, hequal⟩ := List.append_inj hequal
    (hother.titleCommit.length.trans hvalid.titleCommit.length.symm)
  replace hequal := List.append_cancel_left hequal
  obtain ⟨hdirty, hequal⟩ :=
    field_unique rfl (hstate _) (hstate _) hequal
  obtain ⟨hsdkCommit, hequal⟩ := field_unique rfl
    (space_notMem hother.sdkCommit (by decide))
    (space_notMem hvalid.sdkCommit (by decide)) hequal
  obtain ⟨hsdkApiVersion, hequal⟩ := field_unique rfl
    (space_notMem hother.sdkApiVersion versionPattern_space)
    (space_notMem hvalid.sdkApiVersion versionPattern_space) hequal
  rw [hother.platform, hother.architecture, hvalid.platform,
    hvalid.architecture] at hequal
  replace hequal := List.append_cancel_left (List.append_cancel_left
    (List.append_cancel_left (List.append_cancel_left hequal)))
  obtain ⟨hconfiguration, hequal⟩ := field_unique rfl
    (space_notMem hother.configuration (by decide))
    (space_notMem hvalid.configuration (by decide)) hequal
  obtain ⟨hcompiler, hequal⟩ := field_unique rfl
    (space_notMem hother.compiler (by decide))
    (space_notMem hvalid.compiler (by decide)) hequal
  rw [hother.graphicsBackend, hvalid.graphicsBackend] at hequal
  replace hequal := List.append_cancel_left
    (List.append_cancel_left hequal)
  refine ⟨?_, hequal⟩
  exact BuildInfo.ext (hother.schema.trans hvalid.schema.symm)
    (hother.product.trans hvalid.product.symm) hversion htitleCommit
    (sourceState_unique hdirty) hsdkCommit hsdkApiVersion
    (hother.platform.trans hvalid.platform.symm)
    (hother.architecture.trans hvalid.architecture.symm) hconfiguration
    hcompiler (hother.graphicsBackend.trans hvalid.graphicsBackend.symm) rfl

/-! ## Which records are accepted -/

/-- The record differs from the build in its profile only, which is a
beginning of what the executable holds behind `input=`. -/
def TruncatesProfile (info other : BuildInfo) (after : List UInt8) : Prop :=
  other = { info with
      supportedInputProfile := other.supportedInputProfile } ∧
    other.supportedInputProfile ≠ info.supportedInputProfile ∧
    other.supportedInputProfile <+:
      info.supportedInputProfile ++ after.map UInt8.toNat

section Match

variable {executable before after : List UInt8} {info other : BuildInfo}

/-- A record whose summary is found agrees with the build up to a beginning
of the profile. -/
theorem HoldsSummary.found [UnicodeDigits]
    {file : BuildInfoFile} {bytes : List UInt8}
    (hholds : HoldsSummary executable info before after)
    (hvalid : info.Valid) (hread : readBuildInfo file = .ok other)
    (hbytes : encodeAscii (buildInfoSummary other) = .ok bytes)
    (hoccurs : bytes <:+: executable) :
    other = info ∨ TruncatesProfile info other after := by
  obtain ⟨summary, hsummary, hexecutable⟩ := hholds.summary
  obtain ⟨start, rest, hfound⟩ := hoccurs
  rw [List.append_assoc] at hfound
  obtain rfl := hholds.only file other bytes start rest hread hbytes
    hfound.symm
  have hsame : bytes ++ rest = summary ++ after :=
    List.append_cancel_left (hfound.trans hexecutable)
  have hpoints := congrArg (List.map UInt8.toNat) hsame
  rw [List.map_append, List.map_append,
    (encodeAscii_eq_ok_iff.mp hbytes).1,
    (encodeAscii_eq_ok_iff.mp hsummary).1] at hpoints
  obtain ⟨hfields, hprofile⟩ := hvalid.summary_overlap
    (valid_of_readBuildInfo hread) hpoints
  by_cases hequal :
      other.supportedInputProfile = info.supportedInputProfile
  · left
    rw [hfields, hequal]
  · exact Or.inr ⟨hfields, hequal, _, hprofile⟩

/-- The summary in front of the profile, which ends it. -/
theorem buildInfoSummary_profile (info : BuildInfo) (profile : CodePoints) :
    buildInfoSummary { info with supportedInputProfile := profile } =
      buildInfoSummary { info with supportedInputProfile := [] } ++
        profile := by
  unfold buildInfoSummary
  rw [List.append_nil]

/-- The summary of a record with a truncated profile is found. -/
theorem TruncatesProfile.found [UnicodeDigits]
    (htruncates : TruncatesProfile info other after) (hvalid : other.Valid)
    (hholds : HoldsSummary executable info before after) :
    ∃ bytes, encodeAscii (buildInfoSummary other) = .ok bytes ∧
      bytes <:+: executable := by
  obtain ⟨hfields, -, rest, hextends⟩ := htruncates
  obtain ⟨summary, hsummary, hexecutable⟩ := hholds.summary
  obtain ⟨hpoints, hascii⟩ := encodeAscii_eq_ok_iff.mp hsummary
  let head := buildInfoSummary { info with supportedInputProfile := [] }
  have hinfo : buildInfoSummary info = head ++ info.supportedInputProfile :=
    buildInfoSummary_profile info info.supportedInputProfile
  have hother : buildInfoSummary other =
      head ++ other.supportedInputProfile := by
    rw [hfields]
    exact buildInfoSummary_profile info other.supportedInputProfile
  have hsplit : (summary ++ after).map UInt8.toNat =
      buildInfoSummary other ++ rest := by
    rw [List.map_append, hpoints, hinfo, hother, List.append_assoc,
      List.append_assoc, hextends]
  obtain ⟨bytes, left, hbytes, hmap, -⟩ := List.map_eq_append_iff.mp hsplit
  refine ⟨bytes, encodeAscii_eq_ok_iff.mpr ⟨hmap, ?_⟩, before, left, ?_⟩
  · rw [hother]
    intro point hpoint
    rcases List.mem_append.mp hpoint with hcommon | hprofile
    · apply hascii
      rw [hinfo]
      exact List.mem_append_left _ hcommon
    · exact profilePattern_ascii hvalid.supportedInputProfile point hprofile
  · rw [hexecutable, hbytes, List.append_assoc]

/-- The comparison ties the record to the build, except that a beginning of
what follows `input=` passes for the input profile. -/
theorem packageMain_sameBuild_iff [UnicodeDigits]
    {run : PackageRun} {file otherFile : BuildInfoFile}
    (hread : readBuildInfo file = .ok info)
    (hother : readBuildInfo otherFile = .ok other)
    (hholds : HoldsSummary run.executable info before after) :
    (packageMain run otherFile = .ok () → other = info) ↔
      ¬(Proceeds run other ∧ TruncatesProfile info other after) := by
  rw [packageMain_ok_iff hother]
  constructor
  · rintro hsame ⟨hproceeds, htruncates⟩
    have hequal := hsame ⟨hproceeds,
      htruncates.found (valid_of_readBuildInfo hother) hholds⟩
    exact htruncates.2.1 (congrArg BuildInfo.supportedInputProfile hequal)
  · rintro hwhole ⟨hproceeds, bytes, hbytes, hoccurs⟩
    rcases hholds.found (valid_of_readBuildInfo hread) hother hbytes hoccurs
      with hequal | htruncates
    · exact hequal
    · exact absurd ⟨hproceeds, htruncates⟩ hwhole

end Match

/-! ## A truncated profile -/

def summaryMarker : List UInt8 := fieldName "vana360 v"

/-- With the marker at one place only there is no other summary. -/
theorem only_of_marker
    {executable before : List UInt8}
    (hbefore : executable.take before.length = before)
    (hmarker : ∀ place ∈ List.range (executable.length + 1),
      summaryMarker <+: executable.drop place → place = before.length)
    {other : BuildInfo} {bytes start rest : List UInt8}
    (hbytes : encodeAscii (buildInfoSummary other) = .ok bytes)
    (hexecutable : executable = start ++ (bytes ++ rest)) :
    start = before := by
  obtain ⟨hpoints, -⟩ := encodeAscii_eq_ok_iff.mp hbytes
  have hbegin : bytes.map UInt8.toNat =
      summaryMarker.map UInt8.toNat ++
        (buildInfoSummary other).drop summaryMarker.length := by
    rw [hpoints]
    have hliteral : codePoints "vana360 v" =
        summaryMarker.map UInt8.toNat := by decide
    unfold buildInfoSummary
    simp only [List.append_assoc]
    rw [hliteral, List.drop_left' (List.length_map _)]
  obtain ⟨marker, tail, rfl, hmarkerMap, -⟩ :=
    List.map_eq_append_iff.mp hbegin
  have hinjective : Function.Injective UInt8.toNat :=
    fun _ _ => UInt8.toNat_inj.mp
  obtain rfl := List.map_injective_iff.mpr hinjective hmarkerMap
  have hdrop : executable.drop start.length =
      summaryMarker ++ (tail ++ rest) := by
    rw [hexecutable, List.drop_left, List.append_assoc]
  have hlength : start.length ≤ executable.length := by
    rw [hexecutable, List.length_append]
    exact Nat.le_add_right _ _
  have hplace := hmarker start.length
    (List.mem_range.mpr (Nat.lt_succ_of_le hlength))
    ⟨tail ++ rest, hdrop.symm⟩
  rw [← hbefore, ← hplace, hexecutable, List.take_left]

def exampleExecutable (profile : String) : List UInt8 :=
  (buildInfoSummary (buildInfoOf (codePoints "0.1.0")
    (codePoints profile))).map Nat.toUInt8

def exampleRun (profile : String) : PackageRun :=
  ⟨.ok (), fun _ => .ok (), exampleExecutable profile, fun _ => .ok ()⟩

def exampleFile (version profile : String) : BuildInfoFile :=
  .regular (buildInfoText (fieldName version) (fieldName profile))

def exampleInfo (version profile : String) : BuildInfo :=
  buildInfoOf (codePoints version) (codePoints profile)

section Unicode14

attribute [local instance] unicode14

theorem exampleFile_read
    {version profile : String}
    (hexample : (version, profile) ∈
      [("0.1.0", "a-b-c"), ("0.1.0", "a-b"), ("0.1.1", "a-b-c")]) :
    readBuildInfo (exampleFile version profile) =
      .ok (exampleInfo version profile) := by
  simp only [List.mem_cons, Prod.mk.injEq, List.not_mem_nil, or_false]
    at hexample
  rcases hexample with ⟨rfl, rfl⟩ | ⟨rfl, rfl⟩ | ⟨rfl, rfl⟩
  · decide +kernel
  · decide +kernel
  · decide +kernel

theorem exampleExecutable_holds :
    HoldsSummary (exampleExecutable "a-b-c") (exampleInfo "0.1.0" "a-b-c") []
      [] where
  summary := ⟨exampleExecutable "a-b-c", by decide +kernel,
    (List.append_nil _).symm⟩
  only := fun _ _ _ _ _ _ hbytes hexecutable =>
    only_of_marker rfl (by decide +kernel) hbytes hexecutable

theorem exampleInfo_profile (version profile : String) :
    (exampleInfo version profile).supportedInputProfile =
      codePoints profile := rfl

theorem otherVersion_rejected :
    packageMain (exampleRun "a-b-c") (exampleFile "0.1.1" "a-b-c") ≠
      .ok () := by
  have hread : readBuildInfo (exampleFile "0.1.0" "a-b-c") =
      .ok (exampleInfo "0.1.0" "a-b-c") := exampleFile_read (by simp)
  have hother : readBuildInfo (exampleFile "0.1.1" "a-b-c") =
      .ok (exampleInfo "0.1.1" "a-b-c") := exampleFile_read (by simp)
  have hholds : HoldsSummary (exampleRun "a-b-c").executable
      (exampleInfo "0.1.0" "a-b-c") [] [] := exampleExecutable_holds
  intro haccepted
  have hsame := (packageMain_sameBuild_iff hread hother hholds).mpr ?_
    haccepted
  · have hversion : codePoints "0.1.1" = codePoints "0.1.0" :=
      congrArg BuildInfo.version hsame
    exact absurd hversion (by decide)
  · rintro ⟨-, -, hdiffers, -⟩
    rw [exampleInfo_profile, exampleInfo_profile] at hdiffers
    exact hdiffers rfl

/-- The record of a build with another profile is accepted. -/
theorem truncatedProfile_accepted :
    HoldsSummary (exampleExecutable "a-b-c") (exampleInfo "0.1.0" "a-b-c") []
        [] ∧
      readBuildInfo (exampleFile "0.1.0" "a-b-c") =
        .ok (exampleInfo "0.1.0" "a-b-c") ∧
      readBuildInfo (exampleFile "0.1.0" "a-b") =
        .ok (exampleInfo "0.1.0" "a-b") ∧
      packageMain (exampleRun "a-b-c") (exampleFile "0.1.0" "a-b") =
        .ok () ∧
      exampleInfo "0.1.0" "a-b" ≠ exampleInfo "0.1.0" "a-b-c" := by
  have hread : readBuildInfo (exampleFile "0.1.0" "a-b") =
      .ok (exampleInfo "0.1.0" "a-b") := exampleFile_read (by simp)
  refine ⟨exampleExecutable_holds, exampleFile_read (by simp), hread, ?_,
    by decide⟩
  refine (packageMain_ok_iff hread).mpr ⟨⟨rfl, rfl, rfl⟩,
    exampleExecutable "a-b", by decide +kernel, ?_⟩
  exact ⟨[], (codePoints "-c").map Nat.toUInt8, by decide +kernel⟩

end Unicode14

end Revana.Scripts
