import Revana.Scripts.StagedRelease

/-!
# The release archive

A run of `package.py` that succeeds has written an archive with a fixed list of
entries, each with the content its source had when the run began.  Whether a
run succeeds or fails, it changes nothing but the stage and the archive.
-/

namespace Revana.Scripts

open Foundation
open Foundation.Effect
open FileTree (Beneath Changed Overlaid)

/-! ## What is staged -/

/-- Where a file of the archive comes from. -/
def sourceOf (repo buildDir : Path) : Path → Path
  | ["README.txt"] => repo ++ ["scripts", "packaging", "README.txt"]
  | ["LICENSE.txt"] => repo ++ ["LICENSE"]
  | ["licenses", "REXGLUE-LICENSE.txt"] => repo ++ ["REXGLUE-LICENSE.txt"]
  | ["build-info.json"] => buildDir ++ ["revana-build-info.json"]
  | relative => buildDir ++ relative

/-- The content of a file of the archive, which its source had before. -/
def archivedContent (limit : ℕ) (repo buildDir : Path) (before : Disk)
    (relative : Path) : List UInt8 :=
  contentAt limit (sourceOf repo buildDir relative) before

def documentContents (limit : ℕ) (repo buildDir : Path) (before : Disk) :
    Contents :=
  let content := archivedContent limit repo buildDir before
  [(["licenses", "REXGLUE-LICENSE.txt"],
      .file (content ["licenses", "REXGLUE-LICENSE.txt"])),
    (["licenses"], .directory),
    (["LICENSE.txt"], .file (content ["LICENSE.txt"])),
    (["README.txt"], .file (content ["README.txt"]))]

/-- All that lies in the stage, what was made last first. -/
def stagedContents (limit : ℕ) (repo buildDir : Path) (before : Disk) :
    Contents :=
  [(["game"], .directory),
    (["build-info.json"],
      .file (archivedContent limit repo buildDir before ["build-info.json"]))] ++
    (documentContents limit repo buildDir before ++
      copies limit buildDir before releaseFiles)

def stagedPaths : List Path :=
  [["game"], ["build-info.json"], ["licenses", "REXGLUE-LICENSE.txt"],
    ["licenses"], ["LICENSE.txt"], ["README.txt"]] ++
    (releaseFiles.map fun relative => [relative]).reverse

section Staging

variable {limit : ℕ} {outDir outRoot repo buildDir : Path} {name : String}
  {before base disk : Disk}

theorem copies_names
    {relatives : List String} {rest : Path} {old : List UInt8}
    (hlisted : (rest, Entry.file old) ∈
      copies limit buildDir before relatives) :
    ∃ relative ∈ relatives, rest = [relative] := by
  obtain ⟨relative, hrelative, hsame⟩ :=
    List.mem_map.mp (List.mem_reverse.mp hlisted)
  exact ⟨relative, hrelative, (Prod.mk.inj hsame).1.symm⟩

theorem copies_paths (relatives : List String) :
    (copies limit buildDir before relatives).map Prod.fst =
      (relatives.map fun relative => [relative]).reverse := by
  simp [copies]

theorem lookup_eq_none
    {contents : Contents} {rest : Path}
    (hrest : rest ∉ contents.map Prod.fst) :
    contents.lookup rest = none := by
  rw [List.lookup_eq_none_iff]
  intro listed hlisted
  rw [bne_iff_ne]
  rintro rfl
  exact hrest (List.mem_map_of_mem hlisted)

/-- The documents are laid over the release files. -/
theorem Staged.stageDocuments
    (hstaged : Staged limit outDir name before base outRoot
      (copies limit buildDir before releaseFiles) disk) :
    Ends (Scripts.stageDocuments limit repo (outDir ++ ["pkg", name])) disk
      (fun _ after =>
        (∀ relative ∈ [["README.txt"], ["LICENSE.txt"],
            ["licenses", "REXGLUE-LICENSE.txt"]],
          Sourced limit before base (stagePlace outRoot name)
            (sourceOf repo buildDir relative)
            (archivedContent limit repo buildDir before relative)) ∧
          Staged limit outDir name before base outRoot
            (documentContents limit repo buildDir before ++
              copies limit buildDir before releaseFiles) after)
      (fun _ after => Changed (Touched limit outDir name before) before
        after) := by
  have hreleased (last : String) (hlast : last ∉ releaseFiles) :
      ∀ rest old, (rest, Entry.file old) ∈
        copies limit buildDir before releaseFiles →
          rest.getLast? ≠ some last := by
    intro rest old hlisted
    obtain ⟨relative, hrelative, rfl⟩ := copies_names hlisted
    rintro ⟨⟩
    exact hlast hrelative
  have hreadme : repo ++ ["scripts", "packaging", "README.txt"] =
      repo ++ ["scripts", "packaging"] ++ ["README.txt"] := by
    simp
  unfold Scripts.stageDocuments
  rw [hreadme]
  refine (hstaged.copyRegularFile_top
    (hreleased "README.txt" (by decide))).bind ?_
  rw [← hreadme]
  rintro _ first ⟨hreadmeSource, hfirst⟩
  refine (hfirst.copyRegularFile_top ?_).bind ?_
  · intro rest old hlisted
    rcases List.mem_cons.mp hlisted with hsame | hlisted
    · obtain ⟨rfl, -⟩ := Prod.mk.inj hsame
      decide
    · exact hreleased "LICENSE" (by decide) rest old hlisted
  rintro _ second ⟨hlicenseSource, hsecond⟩
  refine (hsecond.copyRegularFile_below ?_ ?_).mono ?_ fun _ _ => id
  · refine lookup_eq_none ?_
    rw [List.map_cons, List.map_cons, copies_paths]
    show ["licenses"] ∉ ["LICENSE.txt"] :: ["README.txt"] ::
      (releaseFiles.map fun relative => [relative]).reverse
    decide
  · intro rest old hlisted
    simp only [List.mem_cons, Prod.mk.injEq] at hlisted
    rcases hlisted with ⟨rfl, -⟩ | ⟨rfl, -⟩ | hlisted
    · decide
    · decide
    · exact hreleased "REXGLUE-LICENSE.txt" (by decide) rest old hlisted
  · rintro _ after ⟨hrexSource, hafter⟩
    simp only [List.forall_mem_cons, List.not_mem_nil, false_implies,
      implies_true, and_true]
    exact ⟨⟨hreadmeSource, hlicenseSource, hrexSource⟩, hafter⟩

/-! ## The last check -/

theorem stagedContents_paths :
    (stagedContents limit repo buildDir before).map Prod.fst =
      stagedPaths := by
  simp [stagedContents, documentContents, copies_paths, stagedPaths]

theorem stagedPaths_suffixes :
    ∀ rest ∈ stagedPaths, rest ≠ [] ∧
      ((suffixOf (rest.getLastD "").toList).all fun char =>
        char.toNat < 128) = true ∧
      (suffixOf (rest.getLastD "").toList).map Char.toLower ∉
        forbiddenInputSuffixes := by
  decide +kernel

/-- What lies at a path into the stage. -/
theorem Staged.lstat_inside
    {contents : Contents} {rest : Path}
    (hstaged : Staged limit outDir name before base outRoot contents disk)
    (hrest : rest ≠ []) :
    lstat limit (outDir ++ ["pkg", name] ++ rest) disk =
      contents.lookup rest := by
  obtain ⟨init, last, rfl⟩ := (List.eq_nil_or_concat' rest).resolve_left hrest
  rw [lstat_eq (hstaged.locate_inside init last),
    hstaged.overlaid.inside _ hrest]

theorem Staged.descendants
    {contents : Contents} {path : Path}
    (hstaged : Staged limit outDir name before base outRoot contents disk)
    (hpath : path ∈ Scripts.descendants limit (outDir ++ ["pkg", name])
      disk) :
    ∃ rest entry, path = outDir ++ ["pkg", name] ++ rest ∧
      contents.lookup rest = some entry ∧ rest ≠ [] := by
  have hstage := hstaged.resolve_inside []
  rw [List.append_nil, List.append_nil] at hstage
  unfold Scripts.descendants at hpath
  rw [hstage] at hpath
  obtain ⟨key, hkey, rfl⟩ := List.mem_map.mp hpath
  obtain ⟨hkey, hbeneath⟩ := List.mem_filter.mp hkey
  rw [Bool.and_eq_true, List.isPrefixOf_iff_prefix,
    decide_eq_true_eq] at hbeneath
  obtain ⟨⟨rest, rfl⟩, hne⟩ := hbeneath
  have hrest : rest ≠ [] := by
    rintro rfl
    exact hne (List.append_nil _)
  have hentry := hstaged.overlaid.inside rest hrest
  cases hlookup : contents.lookup rest with
  | none =>
      rw [hlookup] at hentry
      exact absurd hkey (AList.lookup_eq_none.mp hentry)
  | some entry =>
      exact ⟨rest, entry, by rw [List.drop_left], hlookup, hrest⟩

/-- No file that is staged has a forbidden suffix, so the last check passes. -/
theorem Staged.checkStaged
    (hstaged : Staged limit outDir name before base outRoot
      (stagedContents limit repo buildDir before) disk)
    {lower : StrLower} {failed : Failure → Disk → Prop} :
    Ends ((Scripts.descendants limit (outDir ++ ["pkg", name]) disk).forM
        (Scripts.checkStaged limit lower)) disk
      (fun _ after => after = disk) failed := by
  have hbody : ∀ path ∈ Scripts.descendants limit
      (outDir ++ ["pkg", name]) disk,
      Ends (Scripts.checkStaged limit lower path) disk
        (fun _ after => after = disk) failed := by
    intro path hpath
    obtain ⟨rest, entry, rfl, hlookup, hrest⟩ := hstaged.descendants hpath
    have hlisted := FileTree.mem_of_lookup hlookup
    have hmem : rest ∈ stagedPaths := by
      rw [← @stagedContents_paths limit repo buildDir before]
      exact List.mem_map_of_mem hlisted
    obtain ⟨-, hletters, hallowed⟩ := stagedPaths_suffixes rest hmem
    have hascii : ∀ char ∈ suffixOf (rest.getLastD "").toList,
        char.toNat < 128 := fun char hchar =>
      of_decide_eq_true (List.all_eq_true.mp hletters char hchar)
    have hname : (outDir ++ ["pkg", name] ++ rest).getLastD "" =
        rest.getLastD "" := by
      rw [List.getLastD_eq_getLast?, List.getLastD_eq_getLast?,
        List.getLast?_append_of_ne_nil _ hrest]
    have hregular := hstaged.regular _ hlisted
    refine ends_inspect_bind ?_
    rw [hstaged.lstat_inside hrest, hlookup]
    refine ends_failIf_bind ?_ fun _ => ?_
    · cases entry with
      | reparsePoint target => exact hregular.elim
      | file content => nofun
      | directory => nofun
      | other => nofun
    · refine ends_inspect_bind (ends_failIf ?_ fun _ => rfl)
      rw [hname, lower.ascii _ hascii, Bool.and_eq_true, decide_eq_true_eq]
      exact fun hforbidden => absurd hforbidden.2 hallowed
  refine (@ends_forM _ _ _ _ failed _ _ (fun rest state => state = disk ∧
    ∀ path ∈ rest, path ∈ Scripts.descendants limit
      (outDir ++ ["pkg", name]) disk) ?_ ⟨rfl, fun _ => id⟩).mono
        (fun _ _ hafter => hafter.1) fun _ _ => id
  rintro path rest state ⟨rfl, hpaths⟩
  obtain ⟨hpath, hrest⟩ := List.forall_mem_cons.mp hpaths
  exact (hbody path hpath).mono (fun _ _ hafter => ⟨hafter, hrest⟩)
    fun _ _ => id

end Staging

/-! ## Writing the archive -/

/-- The disk holds the archive and is otherwise as the staged one. -/
structure Archived (staged : Disk) (place : Path) (content : List UInt8)
    (disk : Disk) : Prop where
  plain : staged.Plain place
  entries : ∀ other, disk.entry other =
    if other = place then some (.file content) else staged.entry other

section Archive

variable {limit : ℕ} {outDir outRoot archive place : Path} {name : String}
  {before base staged disk : Disk} {contents : Contents}
  {content : List UInt8} {zip : List ZipEntry → List UInt8}

theorem Archived.changed (harchived : Archived staged place content disk) :
    Changed ⟨fun _ => False, (· = place)⟩ staged disk := by
  intro other
  have hentry := harchived.entries other
  by_cases hother : other = place
  · rw [if_pos hother] at hentry
    subst hother
    exact Or.inr (Or.inr ⟨rfl, harchived.plain,
      FileTree.plain_of_file hentry⟩)
  · rw [if_neg hother] at hentry
    exact Or.inl hentry

theorem ends_writeArchive
    (hresolve : staged.resolve limit archive = some place) :
    Ends (writeBytes limit archive content) staged
      (fun _ after => Archived staged place content after)
      (fun _ after => after = staged) := by
  refine ends_change ?_ fun _ => rfl
  intro after hwrite
  rw [hresolve, Option.bind_some] at hwrite
  obtain ⟨hplain, hentries⟩ := FileTree.write_eq_some hwrite
  exact ⟨hplain, hentries⟩

theorem Archived.writeBytes
    (harchived : Archived staged place content disk)
    (hresolve : staged.resolve limit archive = some place)
    (next : List UInt8) :
    Ends (Scripts.writeBytes limit archive next) disk
      (fun _ after => Archived staged place next after)
      (fun _ after => after = disk) := by
  have hsame : disk.resolve limit archive = some place := by
    rw [FileTree.resolve_congr harchived.changed.target_eq, hresolve]
  refine (ends_writeArchive hsame).mono ?_ fun _ _ => id
  intro _ after hafter
  refine ⟨harchived.plain, ?_⟩
  intro other
  rw [hafter.entries, harchived.entries]
  split_ifs
  · rfl
  · rfl

/-- The files of the stage stay while the archive is written. -/
theorem Archived.entry_inside
    (harchived : Archived staged (outRoot ++ [name ++ ".zip"]) content disk)
    (rest : Path) :
    disk.entry (stagePlace outRoot name ++ rest) =
      staged.entry (stagePlace outRoot name ++ rest) := by
  rw [harchived.entries, if_neg]
  unfold stagePlace
  rw [List.append_assoc]
  intro hsame
  have hlength := congrArg List.length (List.append_cancel_left hsame)
  simp at hlength

theorem Archived.touched
    (harchived : Archived staged (outRoot ++ [name ++ ".zip"]) content disk)
    (hstaged : Staged limit outDir name before base outRoot contents
      staged) :
    Changed (Touched limit outDir name before) before disk := by
  refine hstaged.touched.trans
    (harchived.changed.mono (fun _ => False.elim) ?_)
  rintro _ rfl
  exact ⟨outRoot, hstaged.site.resolve, Or.inr rfl⟩

theorem Archived.fileContent
    (harchived : Archived staged (outRoot ++ [name ++ ".zip"]) content disk)
    (hstaged : Staged limit outDir name before base outRoot contents staged)
    {rest : Path} {payload : List UInt8} (hrest : rest ≠ [])
    (hlookup : contents.lookup rest = some (.file payload)) :
    Scripts.fileContent limit (outDir ++ ["pkg", name] ++ rest) disk =
      some payload := by
  refine fileContent_eq_some.mpr ⟨stagePlace outRoot name ++ rest, ?_, ?_⟩
  · rw [FileTree.resolve_congr harchived.changed.target_eq,
      hstaged.resolve_inside]
  · rw [harchived.entry_inside, hstaged.overlaid.inside rest hrest, hlookup]

/-- The loop archives each of the files as it is staged. -/
theorem Archived.writeEntries
    {relatives : List Path} {written : List ZipEntry}
    {payload : Path → List UInt8}
    (harchived : Archived staged (outRoot ++ [name ++ ".zip"]) (zip written)
      disk)
    (hstaged : Staged limit outDir name before base outRoot contents staged)
    (hresolve : staged.resolve limit archive =
      some (outRoot ++ [name ++ ".zip"]))
    (hlisted : ∀ relative ∈ relatives, relative ≠ [] ∧
      contents.lookup relative = some (.file (payload relative))) :
    Ends (Scripts.writeEntries limit zip archive (outDir ++ ["pkg", name])
        name relatives written) disk
      (fun result after => result = written ++ relatives.map
          (fun relative => zipFile (name ++ "/" ++ posix relative)
            (payload relative)) ∧
        Archived staged (outRoot ++ [name ++ ".zip"]) (zip result) after)
      (fun _ after => Changed (Touched limit outDir name before) before
        after) := by
  induction relatives generalizing written disk with
  | nil => exact ends_pure ⟨(List.append_nil _).symm, harchived⟩
  | cons relative relatives ih =>
      obtain ⟨⟨hrelative, hlookup⟩, hrest⟩ := List.forall_mem_cons.mp hlisted
      have htouched := harchived.touched hstaged
      refine (ends_regularFile fun _ => htouched).bind ?_
      rintro _ state ⟨rfl, -⟩
      refine ends_need_bind ?_ fun _ => htouched
      intro content hcontent
      rw [harchived.fileContent hstaged hrelative hlookup] at hcontent
      obtain rfl := Option.some.inj hcontent
      refine ((harchived.writeBytes hresolve _).mono (fun _ _ => id)
        ?_).bind ?_
      · rintro _ after rfl
        exact htouched
      · intro _ after hafter
        refine (ih hafter hrest).mono ?_ fun _ _ => id
        rintro result final ⟨rfl, hfinal⟩
        refine ⟨?_, hfinal⟩
        rw [List.map_cons, List.append_assoc, List.singleton_append]

/-- The entries of an archive, from the contents of the files. -/
def releaseEntries (name : String) (content : Path → List UInt8) :
    List ZipEntry :=
  zipDirectory (name ++ "/") ::
    (archivedPaths.map (fun relative =>
      zipFile (name ++ "/" ++ posix relative) (content relative)) ++
        [zipDirectory (name ++ "/game/")])

theorem Staged.writeZip
    {payload : Path → List UInt8}
    (hstaged : Staged limit outDir name before base outRoot contents staged)
    (hresolve : staged.resolve limit archive =
      some (outRoot ++ [name ++ ".zip"]))
    (hlisted : ∀ relative ∈ archivedPaths, relative ≠ [] ∧
      contents.lookup relative = some (.file (payload relative))) :
    Ends (Scripts.writeZip limit zip archive (outDir ++ ["pkg", name]) name)
      staged
      (fun result after => result = releaseEntries name payload ∧
        Archived staged (outRoot ++ [name ++ ".zip"]) (zip result) after)
      (fun _ after => Changed (Touched limit outDir name before) before
        after) := by
  have hwritten {content next : List UInt8} {disk : Disk}
      (harchived : Archived staged (outRoot ++ [name ++ ".zip"]) content
        disk) :
      Ends (Scripts.writeBytes limit archive next) disk
        (fun _ after => Archived staged (outRoot ++ [name ++ ".zip"]) next
          after)
        (fun _ after => Changed (Touched limit outDir name before) before
          after) := by
    refine (harchived.writeBytes hresolve next).mono (fun _ _ => id) ?_
    rintro _ after rfl
    exact harchived.touched hstaged
  refine ((ends_writeArchive hresolve).mono (fun _ _ => id) ?_).bind ?_
  · rintro _ after rfl
    exact hstaged.touched
  intro _ opened hopened
  refine (hwritten hopened).bind ?_
  intro _ started hstarted
  refine (hstarted.writeEntries hstaged hresolve hlisted).bind ?_
  rintro written filled ⟨rfl, hfilled⟩
  refine (hwritten hfilled).bind ?_
  intro _ after hafter
  refine ends_pure ⟨?_, hafter⟩
  unfold releaseEntries
  simp

end Archive

end Revana.Scripts
