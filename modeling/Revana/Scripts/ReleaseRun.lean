import Revana.Scripts.ReleaseArchive

/-!
# A run of the packager

Every run of `package.py` ends.  If it succeeds, each entry of the archive has
the content its source had when the run began, the record is one that
`read_build_info` accepts, and the executable holds its summary.
-/

namespace Revana.Scripts

open Foundation
open Foundation.Effect
open FileTree (Beneath Changed)

/-! ## What a run does -/

/-- The build directory has a record that is accepted. -/
def HasRecord [UnicodeDigits] (limit : ℕ) (buildDir : Path) (before : Disk)
    (info : BuildInfo) : Prop :=
  ∃ buildRoot raw, before.resolve limit buildDir = some buildRoot ∧
    fileContent limit (buildRoot ++ ["revana-build-info.json"]) before =
      some raw ∧
    readBuildInfo (.regular raw) = .ok info

/-- Where a run may make directories, and where it may make, change and remove
files. -/
def ReleaseRegion [UnicodeDigits] (limit : ℕ) (buildDir outDir : Path)
    (before : Disk) : FileTree.Region String where
  made := fun other => ∃ info, HasRecord limit buildDir before info ∧
    (Touched limit outDir (showText (archiveName info)) before).made other
  touched := fun other => ∃ info, HasRecord limit buildDir before info ∧
    (Touched limit outDir (showText (archiveName info)) before).touched other

/-- What a run leaves that succeeds. -/
structure Released [UnicodeDigits] (limit : ℕ)
    (zip : List ZipEntry → List UInt8) (repo buildDir outDir : Path)
    (before after : Disk) (entries : List ZipEntry) (info : BuildInfo)
    (buildRoot outRoot : Path) : Prop where
  buildLeads : before.resolve limit buildDir = some buildRoot
  outLeads : before.resolve limit outDir = some outRoot
  sources : ∀ relative ∈ archivedPaths,
    fileContent limit (sourceOf repo buildRoot relative) before =
      some (archivedContent limit repo buildRoot before relative)
  record : readBuildInfo (.regular
    (archivedContent limit repo buildRoot before ["build-info.json"])) =
      .ok info
  summary : ∃ summary, encodeAscii (buildInfoSummary info) = .ok summary ∧
    summary <:+: archivedContent limit repo buildRoot before ["revana.exe"]
  archived : entries = releaseEntries (showText (archiveName info))
    (archivedContent limit repo buildRoot before)
  stage : ∀ rest, rest ≠ [] →
    after.entry (stagePlace outRoot (showText (archiveName info)) ++ rest) =
      (stagedContents limit repo buildRoot before).lookup rest
  file : after.entry
    (outRoot ++ [showText (archiveName info) ++ ".zip"]) =
      some (.file (zip entries))
  kept : Changed (Touched limit outDir (showText (archiveName info)) before)
    before after

section Run

variable {limit : ℕ} {zip : List ZipEntry → List UInt8} {lower : StrLower}
  {repo buildDir buildRoot outDir outRoot : Path} {name : String}
  {before base disk : Disk}

theorem contentAt_eq
    {path : Path} {content : List UInt8}
    (hcontent : fileContent limit path disk = some content) :
    contentAt limit path disk = content := by
  unfold contentAt
  rw [hcontent]
  rfl

theorem ends_readRecord [UnicodeDigits] :
    Ends (readRecord limit buildRoot) disk
      (fun result after => after = disk ∧
        fileContent limit (buildRoot ++ ["revana-build-info.json"]) disk =
          some result.2 ∧
        readBuildInfo (.regular result.2) = .ok result.1)
      (fun _ after => after = disk) := by
  refine ends_inspect_bind (ends_ofExcept_bind ?_ fun _ _ => rfl)
  intro raw hraw
  have hfile := readRegular_ok_iff.mp hraw
  refine ends_ofExcept_bind ?_ fun _ _ => rfl
  intro info hinfo
  rw [hfile] at hinfo
  refine ends_pure ⟨rfl, ?_, hinfo⟩
  unfold buildInfoFile at hfile
  split at hfile
  · cases hfile
  · split at hfile
    · rename_i found hfound
      obtain rfl := BuildInfoFile.regular.inj hfile
      exact hfound
    · cases hfile

theorem archivedPaths_eq :
    archivedPaths = [["LICENSE.txt"], ["README.txt"], ["build-info.json"],
      ["licenses", "REXGLUE-LICENSE.txt"], ["revana.exe"],
      ["revana_FFXi.dll"], ["revana_FFXiMain.dll"],
      ["revana_PolCoreContent.dll"], ["revana_hooks.dll"],
      ["revana_patch.dll"], ["rexgpu-xenos.dll"], ["rexruntime.dll"]] := by
  decide +kernel

/-- The stage holds what is to be archived. -/
theorem lookup_stagedContents :
    ∀ relative ∈ archivedPaths, relative ≠ [] ∧
      (stagedContents limit repo buildRoot before).lookup relative =
        some (.file (archivedContent limit repo buildRoot before
          relative)) := by
  rw [archivedPaths_eq]
  simp [stagedContents, documentContents, copies, releaseFiles,
    archivedContent, sourceOf, List.lookup_cons]

/-- From the staged release to the end. -/
theorem Staged.finish
    (hstaged : Staged limit outDir name before base outRoot
      (stagedContents limit repo buildRoot before) disk) :
    Ends (archiveStage limit lower zip outDir (outDir ++ ["pkg", name]) name)
      disk
      (fun entries after =>
        entries = releaseEntries name
            (archivedContent limit repo buildRoot before) ∧
          Archived disk (outRoot ++ [name ++ ".zip"]) (zip entries) after)
      (fun _ after => Changed (Touched limit outDir name before) before
        after) := by
  have hresolve : disk.resolve limit outDir = some outRoot := by
    rw [FileTree.resolve_congr hstaged.changed.target_eq,
      hstaged.site.resolve]
  have hlaid := hstaged.overlaid.changed hstaged.site.fresh hstaged.regular
  have hrooted : disk.locate limit outDir = some outRoot := by
    rw [FileTree.locate_congr hlaid.target_eq, hstaged.site.rooted]
  have hdirectory : disk.entry outRoot = some .directory := by
    refine FileTree.entry_above (List.prefix_append outRoot ["pkg", name])
      (fun hsame => ?_) (by
        show disk.entry (stagePlace outRoot name) ≠ none
        rw [hstaged.directory]
        exact Option.some_ne_none _)
    cases List.append_right_eq_self.mp hsame
  refine ends_inspect_bind (hstaged.checkStaged.bind ?_)
  rintro _ state rfl
  refine (ends_mkdirParents_here hrooted hdirectory).bind ?_
  rintro _ state rfl
  refine ends_inspect_bind
    (ends_failIf_bind (fun _ => hstaged.touched) fun hreparse => ?_)
  have hlocate : state.locate limit (outDir ++ [name ++ ".zip"]) =
      some (outRoot ++ [name ++ ".zip"]) := locate_child hresolve
  have harchive := FileTree.resolve_of_locate
    (target_of_not_reparsePoint hlocate hreparse) hlocate
  exact hstaged.writeZip harchive lookup_stagedContents

/-- The summary of the record is in the executable. -/
def HasSummary (info : BuildInfo) (executable : List UInt8) : Prop :=
  ∃ summary, encodeAscii (buildInfoSummary info) = .ok summary ∧
    summary <:+: executable

/-- From the empty stage to the staged release. -/
theorem Site.release
    {info : BuildInfo} {raw : List UInt8}
    (hsite : Site limit outDir name before base outRoot)
    (hraw : fileContent limit (buildRoot ++ ["revana-build-info.json"])
      before = some raw) :
    Ends (fillStage limit repo buildRoot (outDir ++ ["pkg", name]) info raw)
      base
      (fun _ staged =>
        Staged limit outDir name before base outRoot
          (stagedContents limit repo buildRoot before) staged ∧
        (∀ relative ∈ archivedPaths,
          fileContent limit (sourceOf repo buildRoot relative) before =
            some (archivedContent limit repo buildRoot before relative)) ∧
        HasSummary info
          (archivedContent limit repo buildRoot before ["revana.exe"]))
      (fun _ after => Changed (Touched limit outDir name before) before
        after) := by
  refine (hsite.staged.stageRelease (by decide) nofun).bind ?_
  rintro missing mid ⟨copied, -, hall, hsources, hmid⟩
  refine ends_failIf_bind (fun _ => hmid.touched) fun hnone => ?_
  have hmissing : missing = [] := by
    simpa using hnone
  obtain rfl := hall hmissing
  rw [List.append_nil] at hmid
  refine ends_ofExcept_bind ?_ fun _ _ => hmid.touched
  intro summary hsummary
  refine ends_need_bind ?_ fun _ => hmid.touched
  intro executable hexecutable
  rw [fileContent_staged hmid (hsources "revana.exe" (by decide))]
    at hexecutable
  obtain rfl := Option.some.inj hexecutable
  refine ends_failIf_bind (fun _ => hmid.touched) fun hoccurs => ?_
  have hcontained : summary <:+: archivedContent limit repo buildRoot before
      ["revana.exe"] := by
    simpa [archivedContent, sourceOf] using hoccurs
  have hrecord : archivedContent limit repo buildRoot before
      ["build-info.json"] = raw := by
    simpa [archivedContent, sourceOf] using contentAt_eq hraw
  refine (@Staged.stageDocuments limit outDir outRoot repo buildRoot name
    before base mid hmid).bind ?_
  rintro _ documented ⟨hdocuments, hdocumented⟩
  refine (hdocumented.writeBytes (List.cons_ne_nil _ _) raw).bind ?_
  intro _ recorded hrecorded
  have hgame : Ends (mkdir limit false (outDir ++ ["pkg", name] ++ ["game"]))
      recorded
      (fun _ after => Staged limit outDir name before base outRoot
        ((["game"], .directory) :: (["build-info.json"], .file raw) ::
          (documentContents limit repo buildRoot before ++
            copies limit buildRoot before releaseFiles)) after)
      (fun _ after => Changed (Touched limit outDir name before) before
        after) :=
    ends_mkdir_new (fun _ hmade => hrecorded.tryMkdir_inside hmade)
      hrecorded.touched
  refine hgame.mono ?_ fun _ _ => id
  intro _ staged hstaged
  rw [← hrecord] at hstaged
  refine ⟨hstaged, ?_, summary, hsummary, hcontained⟩
  simp only [List.forall_mem_cons, List.not_mem_nil, false_implies,
    implies_true, and_true, releaseFiles] at hsources hdocuments
  obtain ⟨hreadme, hlicense, hrexglue⟩ := hdocuments
  obtain ⟨hexe, hffxi, hmain, hcontent, hpatch, hhooks, hruntime, hgpu⟩ :=
    hsources
  have hat {source : Path} {content : List UInt8}
      (hsourced : Sourced limit before base (stagePlace outRoot name) source
        content) :
      fileContent limit source before = some content :=
    fileContent_sourced hsite hsourced
  rw [archivedPaths_eq]
  simp only [List.forall_mem_cons, List.not_mem_nil, false_implies,
    implies_true, and_true]
  refine ⟨hat hlicense, hat hreadme, ?_, hat hrexglue, hat hexe, hat hffxi,
    hat hmain, hat hcontent, hat hhooks, hat hpatch, hat hgpu, hat hruntime⟩
  rw [hrecord]
  exact hraw

end Run

theorem packageRelease_ends [UnicodeDigits]
    (limit : ℕ) (lower : StrLower) (zip : List ZipEntry → List UInt8)
    (repo buildDir outDir : Path) (before : Disk) :
    Ends (packageRelease limit lower zip repo buildDir outDir) before
      (fun entries after => (∃ info buildRoot outRoot, Released limit zip
        repo buildDir outDir before after entries info buildRoot outRoot) ∧
          Changed (ReleaseRegion limit buildDir outDir before) before after)
      (fun _ after =>
        Changed (ReleaseRegion limit buildDir outDir before) before
          after) := by
  let region := ReleaseRegion limit buildDir outDir before
  have hstart : Changed region before before := .refl _ before
  refine ends_inspect_bind (ends_inspect_bind
    (ends_failIf_bind (fun _ => hstart) fun _ => ?_))
  refine ends_need_bind (fun buildRoot hbuild => ?_) fun _ => hstart
  refine (ends_readRecord.mono (fun _ _ => id) ?_).bind ?_
  · rintro _ after rfl
    exact hstart
  rintro ⟨info, raw⟩ state ⟨rfl, hraw, hinfo⟩
  have hregion {after : Disk}
      (hchanged : Changed (Touched limit outDir
        (showText (archiveName info)) state) state after) :
      Changed region state after := by
    have hrecord : HasRecord limit buildDir state info :=
      ⟨buildRoot, raw, hbuild, hraw, hinfo⟩
    exact hchanged.mono (fun _ hother => ⟨info, hrecord, hother⟩)
      fun _ hother => ⟨info, hrecord, hother⟩
  refine (safeStage_site.mono (fun _ _ => id)
    fun _ _ => hregion).bind ?_
  rintro stage base ⟨rfl, outRoot, hsite⟩
  refine ((hsite.release hraw).mono (fun _ _ => id)
    fun _ _ => hregion).bind ?_
  rintro _ staged ⟨hstaged, hsources, hsummary⟩
  refine hstaged.finish.mono ?_ fun _ _ => hregion
  rintro entries after ⟨hentries, harchived⟩
  have hkept := harchived.touched hstaged
  refine ⟨⟨info, buildRoot, outRoot, hbuild, hsite.resolve, hsources, ?_,
    hsummary, hentries, ?_, ?_, hkept⟩, hregion hkept⟩
  · have hrecord : archivedContent limit repo buildRoot state
        ["build-info.json"] = raw := by
      simpa [archivedContent, sourceOf] using contentAt_eq hraw
    rw [hrecord]
    exact hinfo
  · intro rest hrest
    rw [harchived.entry_inside, hstaged.overlaid.inside rest hrest]
  · rw [harchived.entries, if_pos rfl]

/-- Every run ends.  One that succeeds archives exactly the listed files, each
as its source was before, with a record that is accepted and whose summary the
executable holds; and no run changes anything but the stage and the archive
or makes anything but directories on the way to them. -/
theorem packageRelease_releases [UnicodeDigits]
    (limit : ℕ) (lower : StrLower) (zip : List ZipEntry → List UInt8)
    (repo buildDir outDir : Path) (before : Disk) :
    ∃ outcome after,
      packageRelease limit lower zip repo buildDir outDir before =
          some (outcome, after) ∧
        (∀ entries, outcome = .ok entries →
          ∃ info buildRoot outRoot, Released limit zip repo buildDir outDir
            before after entries info buildRoot outRoot) ∧
        Changed (ReleaseRegion limit buildDir outDir before) before after := by
  obtain ⟨outcome, after, hrun, hpost⟩ :=
    packageRelease_ends limit lower zip repo buildDir outDir before
  refine ⟨outcome, after, hrun, ?_⟩
  cases outcome with
  | ok entries =>
      refine ⟨?_, hpost.2⟩
      rintro _ ⟨⟩
      exact hpost.1
  | error failure => exact ⟨nofun, hpost⟩

end Revana.Scripts
