import Revana.Scripts.PackageRelease

/-!
# The stage of a release

After `_safe_stage` the stage is an empty directory at its place and all that
was there outside of it is still there.  Copying into it lays files over that
disk, each with the content its source had when the program began.
-/

namespace Revana.Scripts

open Foundation
open Foundation.Effect
open FileTree (Beneath Changed Overlaid)

/-! ## The site -/

def stagePlace (outRoot : Path) (name : String) : Path :=
  outRoot ++ ["pkg", name]

/-- A place that a part of the path names, from its first name on. -/
def OnTheWay (limit : ℕ) (path : Path) (before : Disk) (other : Path) : Prop :=
  ∃ above, above <+: path ∧ before.locate limit above = some other

/-- Directories are made on the way to the stage, and beneath it all may
change. -/
def StageRegion (limit : ℕ) (outDir : Path) (name : String) (before : Disk)
    (outRoot : Path) : FileTree.Region String where
  made := OnTheWay limit (outDir ++ ["pkg", name]) before
  touched := Beneath (stagePlace outRoot name)

/-- Where a run makes directories, and where it makes, changes and removes
files. -/
def Touched (limit : ℕ) (outDir : Path) (name : String) (before : Disk) :
    FileTree.Region String where
  made := OnTheWay limit (outDir ++ ["pkg", name]) before
  touched := fun other => ∃ outRoot,
    before.resolve limit outDir = some outRoot ∧
      (Beneath (stagePlace outRoot name) other ∨
        other = outRoot ++ [name ++ ".zip"])

/-- The stage is an empty directory at its place. -/
structure Site (limit : ℕ) (outDir : Path) (name : String)
    (before base : Disk) (outRoot : Path) : Prop where
  resolve : before.resolve limit outDir = some outRoot
  changed : Changed (StageRegion limit outDir name before outRoot) before base
  directory : base.entry (stagePlace outRoot name) = some .directory
  fresh : ∀ other, Beneath (stagePlace outRoot name) other →
    base.entry other = none
  rooted : base.locate limit outDir = some outRoot
  located : base.locate limit (outDir ++ ["pkg", name]) =
    some (stagePlace outRoot name)

section Stage

variable {limit : ℕ} {path place outDir outRoot : Path} {name : String}
  {before mid : Disk}

theorem ends_mkdir_new
    {done : Unit → Disk → Prop} {failed : Failure → Disk → Prop}
    (hmade : ∀ after, tryMkdir limit path before = .made after →
      done () after)
    (hfailed : failed .exception before) :
    Ends (mkdir limit false path) before done failed := by
  refine ends_inspect_bind ?_
  cases htry : tryMkdir limit path before with
  | made after => exact ends_set (hmade after htry)
  | noParent => exact ends_throw hfailed
  | refused =>
      refine ends_inspect_bind ?_
      simp only [Bool.false_and, Bool.not_false]
      exact ends_failIf (fun _ => hfailed) nofun

theorem tryMkdir_made
    {after : Disk} (hlocate : before.locate limit path = some place)
    (hmade : tryMkdir limit path before = .made after) :
    before.entry place = none ∧ ∀ other, after.entry other =
      if other = place then some .directory else before.entry other := by
  unfold tryMkdir at hmade
  rw [hlocate] at hmade
  exact FileTree.mkdir_eq_made hmade

theorem touched_beneath
    (hresolve : before.resolve limit outDir = some outRoot) {other : Path}
    (hother : Beneath (stagePlace outRoot name) other) :
    (Touched limit outDir name before).touched other :=
  ⟨outRoot, hresolve, Or.inl hother⟩

theorem madeAt_of_tryMkdir
    {after : Disk} (hmade : tryMkdir limit path before = .made after) :
    FileTree.MadeAt (fun other => before.locate limit path = some other)
      before after := by
  cases hlocate : before.locate limit path with
  | none =>
      unfold tryMkdir at hmade
      rw [hlocate] at hmade
      cases hmade
  | some place =>
      obtain ⟨hfree, hafter⟩ := tryMkdir_made hlocate hmade
      intro other
      rw [hafter]
      by_cases hother : other = place
      · rw [if_pos hother, hother]
        exact Or.inr ⟨hfree, rfl, rfl⟩
      · rw [if_neg hother]
        exact Or.inl rfl

theorem mkdir_madeAt {existOk : Bool} :
    Ends (mkdir limit existOk path) before
      (fun _ => FileTree.MadeAt
        (fun other => before.locate limit path = some other) before)
      (fun _ => FileTree.MadeAt
        (fun other => before.locate limit path = some other) before) := by
  refine ends_mkdir ?_ ?_
  · intro after hmade
    exact madeAt_of_tryMkdir hmade
  · intro _
    exact ⟨.refl _ before, .refl _ before⟩

/-- A directory with its parents: each lies where a part of the path leads. -/
theorem mkdirParents_madeAt {above : List String} :
    Ends (mkdirParents limit above) before
      (fun _ => FileTree.MadeAt (OnTheWay limit above.reverse before) before)
      (fun _ => FileTree.MadeAt (OnTheWay limit above.reverse before)
        before) := by
  have hhere {last : List String} {mid after : Disk}
      (htarget : mid.target = before.target)
      (hmade : FileTree.MadeAt
        (fun other => mid.locate limit last.reverse = some other) mid after) :
      FileTree.MadeAt (OnTheWay limit last.reverse before) mid after := by
    refine hmade.mono fun other hother => ?_
    rw [FileTree.locate_congr htarget] at hother
    exact ⟨last.reverse, List.prefix_refl _, hother⟩
  induction above generalizing before with
  | nil =>
      exact mkdir_madeAt.mono (fun _ _ => @hhere [] _ _ rfl)
        fun _ _ => @hhere [] _ _ rfl
  | cons last above ih =>
      refine ends_inspect_bind ?_
      cases htry : tryMkdir limit (last :: above).reverse before with
      | made after => exact ends_set (hhere rfl (madeAt_of_tryMkdir htry))
      | noParent =>
          have hshorter {mid : Disk} (hmid : FileTree.MadeAt
              (OnTheWay limit above.reverse before) before mid) :
              FileTree.MadeAt (OnTheWay limit (last :: above).reverse before)
                before mid := by
            refine hmid.mono ?_
            rintro other ⟨part, hpart, hother⟩
            refine ⟨part, hpart.trans ?_, hother⟩
            rw [List.reverse_cons]
            exact List.prefix_append _ _
          refine ((ih hhere).mono (fun _ _ => id)
            fun _ _ => hshorter).bind ?_
          intro _ mid hmid
          have htarget := hmid.grown.target_eq
          exact mkdir_madeAt.mono
            (fun _ _ hafter => (hshorter hmid).trans (hhere htarget hafter))
            fun _ _ hafter => (hshorter hmid).trans (hhere htarget hafter)
      | refused =>
          exact ends_inspect_bind
            (ends_failIf (fun _ => .refl _ before) fun _ => .refl _ before)

/-- A path whose last name is no link leads to its place. -/
theorem locate_of_resolve
    (hresolve : before.resolve limit path = some place)
    (hplain : ∀ found, before.locate limit path = some found →
      before.target found = none) :
    before.locate limit path = some place := by
  cases hlocate : before.locate limit path with
  | none =>
      rw [FileTree.resolve_of_locate_none hlocate] at hresolve
      cases hresolve
  | some found =>
      rw [← hresolve,
        FileTree.resolve_of_locate (hplain found hlocate) hlocate]

/-- A new directory has nothing beneath it. -/
theorem site_of_made
    {after : Disk}
    (hresolve : before.resolve limit outDir = some outRoot)
    (hrooted : before.locate limit outDir = some outRoot)
    (hlocate : mid.locate limit (outDir ++ ["pkg", name]) =
      some (stagePlace outRoot name))
    (hmade : tryMkdir limit (outDir ++ ["pkg", name]) mid = .made after)
    (hchanged : Changed (StageRegion limit outDir name before outRoot) before
      after) :
    Site limit outDir name before after outRoot := by
  obtain ⟨hfree, hafter⟩ := tryMkdir_made hlocate hmade
  have hgrown := grown_of_tryMkdir hmade
  have hdirectory : after.entry (stagePlace outRoot name) =
      some .directory := by
    rw [hafter, if_pos rfl]
  refine ⟨hresolve, hchanged, hdirectory, ?_, ?_, ?_⟩
  · rintro other ⟨hextends, hne⟩
    rw [hafter, if_neg hne]
    by_contra hentry
    have habove := FileTree.entry_above hextends hne hentry
    rw [hfree] at habove
    cases habove
  · rw [FileTree.locate_congr hchanged.target_eq, hrooted]
  · rw [FileTree.locate_congr hgrown.target_eq, hlocate]

theorem remakeStage_site
    (hresolve : before.resolve limit outDir = some outRoot)
    (hrooted : before.locate limit outDir = some outRoot)
    (hparents : FileTree.MadeAt
      (OnTheWay limit (outDir ++ ["pkg", name]) before) before mid)
    (hlocate : mid.locate limit (outDir ++ ["pkg", name]) =
      some (stagePlace outRoot name))
    (htarget : mid.target (stagePlace outRoot name) = none) :
    Ends (clearStage limit outRoot (outDir ++ ["pkg", name]) >>=
        fun _ => mkdir limit false (outDir ++ ["pkg", name])) mid
      (fun _ after => Site limit outDir name before after outRoot)
      (fun _ after => Changed (Touched limit outDir name before) before
        after) := by
  have hstart : Changed (StageRegion limit outDir name before outRoot) before
      mid :=
    FileTree.MadeAt.changed hparents
  have htouched {after : Disk}
      (hchanged : Changed (StageRegion limit outDir name before outRoot) before
        after) :
      Changed (Touched limit outDir name before) before after :=
    hchanged.mono (fun _ => id) fun _ => touched_beneath hresolve
  refine ((clearStage_spec (by simp [stagePlace]) hlocate htarget).mono
    (fun _ _ => id) ?_).bind ?_
  · intro failure after hpruned
    exact htouched (hstart.trans (FileTree.Pruned.changed hpruned))
  · rintro _ state (rfl | ⟨hentry, hremoved⟩)
    · refine ends_mkdir_new ?_ (htouched hstart)
      intro after hmade
      have hstage : FileTree.MadeAt
          (OnTheWay limit (outDir ++ ["pkg", name]) before) state after := by
        refine (madeAt_of_tryMkdir hmade).mono fun other hother => ?_
        rw [FileTree.locate_congr hstart.target_eq] at hother
        exact ⟨_, List.prefix_refl _, hother⟩
      exact site_of_made hresolve hrooted hlocate hmade
        (hstart.trans (FileTree.MadeAt.changed hstage))
    · have hplace : stagePlace outRoot name = outRoot ++ ["pkg"] ++ [name] := by
        simp [stagePlace]
      rw [hplace] at hlocate hentry hremoved
      obtain ⟨after, hmade, hpruned⟩ :=
        mkdir_after_clearing hlocate hentry hremoved
      refine ends_mkdir ?_ fun hnever => absurd hmade (hnever after)
      intro found hfound
      rw [hmade] at hfound
      obtain rfl := FileTree.Making.made.inj hfound
      rw [← hplace] at hlocate hpruned hremoved
      refine site_of_made hresolve hrooted ?_ hmade
        (hstart.trans (FileTree.Pruned.changed hpruned))
      rw [FileTree.locate_congr hremoved.1.target_eq, hlocate]

theorem safeStage_site :
    Ends (safeStage limit outDir name) before
      (fun stage after => stage = outDir ++ ["pkg", name] ∧
        ∃ outRoot, Site limit outDir name before after outRoot)
      (fun _ after => Changed (Touched limit outDir name before) before
        after) := by
  have hstart : Changed (Touched limit outDir name before) before before :=
    .refl _ before
  refine ends_need_bind ?_ fun _ => hstart
  intro outRoot hout
  refine ends_notRegularDirectory.bind ?_
  rintro _ state ⟨hstate, hplain⟩
  subst state
  refine ends_failIf_bind (fun _ => hstart) fun hkept => ?_
  have hrooted := locate_of_resolve hout (hplain hkept)
  refine ends_notRegularDirectory.bind ?_
  rintro _ state ⟨hstate, hregular⟩
  subst state
  refine ends_failIf_bind (fun _ => hstart) fun hvalue => ?_
  refine (ends_packageDirEscapes hstart).bind ?_
  intro _ state hstate
  subst state
  refine ends_failIf_bind (fun _ => hstart) fun _ => ?_
  have hstage {after : Disk} (hmade : FileTree.MadeAt
      (OnTheWay limit (outDir ++ ["pkg"]).reverse.reverse before) before
        after) :
      FileTree.MadeAt (OnTheWay limit (outDir ++ ["pkg", name]) before) before
        after := by
    refine hmade.mono ?_
    rintro other ⟨part, hpart, hother⟩
    refine ⟨part, hpart.trans ?_, hother⟩
    rw [List.reverse_reverse]
    exact ⟨[name], by simp⟩
  refine (mkdirParents_madeAt.mono (fun _ _ => hstage)
    fun _ _ hmade => FileTree.MadeAt.changed (hstage hmade)).bind ?_
  intro _ mid hparents
  have hgrown := hparents.grown
  have hpackage := hregular hvalue _ (locate_child hout)
  have hpath : outDir ++ ["pkg"] ++ [name] = outDir ++ ["pkg", name] := by
    simp
  have hplace : outRoot ++ ["pkg"] ++ [name] = stagePlace outRoot name := by
    simp [stagePlace]
  have hlocate : mid.locate limit (outDir ++ ["pkg", name]) =
      some (stagePlace outRoot name) := by
    rw [FileTree.locate_congr hgrown.target_eq, ← hpath, ← hplace]
    exact locate_child (followLinks_snoc hpackage hout)
  have hmid : Changed (Touched limit outDir name before) before mid :=
    FileTree.MadeAt.changed hparents
  rw [hpath]
  refine ends_inspect_bind
    (ends_failIf_bind (fun _ => hmid) fun hreparse => ?_)
  refine ends_need_bind (fun resolved _ => ?_) fun _ => hmid
  refine ends_failIf_bind (fun _ => hmid) fun _ => ?_
  have hremake := remakeStage_site hout hrooted hparents hlocate
    (target_of_not_reparsePoint hlocate hreparse)
  rw [← bind_assoc]
  refine hremake.bind ?_
  intro _ after hsite
  exact ends_pure ⟨rfl, outRoot, hsite⟩

end Stage

/-! ## Laying files over the stage -/

abbrev Contents := List (Path × Entry String (List UInt8))

/-- The stage holds the given entries. -/
structure Staged (limit : ℕ) (outDir : Path) (name : String)
    (before base : Disk) (outRoot : Path) (contents : Contents)
    (disk : Disk) : Prop where
  site : Site limit outDir name before base outRoot
  overlaid : Overlaid (stagePlace outRoot name) contents base disk
  regular : ∀ listed ∈ contents, listed.2.Regular

section Staged

variable {limit : ℕ} {outDir outRoot source place rest : Path}
  {name : String} {before base disk after : Disk} {contents : Contents}

theorem Site.staged (hsite : Site limit outDir name before base outRoot) :
    Staged limit outDir name before base outRoot [] base where
  site := hsite
  overlaid := FileTree.overlaid_nil hsite.fresh
  regular := nofun

theorem Staged.changed
    (hstaged : Staged limit outDir name before base outRoot contents disk) :
    Changed (StageRegion limit outDir name before outRoot) before disk :=
  hstaged.site.changed.trans
    ((hstaged.overlaid.changed hstaged.site.fresh hstaged.regular).mono
      (fun _ => False.elim) fun _ => id)

theorem Staged.touched
    (hstaged : Staged limit outDir name before base outRoot contents disk) :
    Changed (Touched limit outDir name before) before disk :=
  hstaged.changed.mono (fun _ => id)
    fun _ => touched_beneath hstaged.site.resolve

theorem Staged.cons
    (hstaged : Staged limit outDir name before base outRoot contents disk)
    {entry : Entry String (List UInt8)} (hregular : entry.Regular)
    (hrest : rest ≠ [])
    (hafter : ∀ other, after.entry other =
      if other = stagePlace outRoot name ++ rest then some entry
      else disk.entry other) :
    Staged limit outDir name before base outRoot ((rest, entry) :: contents)
      after where
  site := hstaged.site
  overlaid := hstaged.overlaid.cons hrest hafter
  regular := List.forall_mem_cons.mpr ⟨hregular, hstaged.regular⟩

theorem Staged.directory
    (hstaged : Staged limit outDir name before base outRoot contents disk) :
    disk.entry (stagePlace outRoot name) = some .directory := by
  rw [hstaged.overlaid.outside _ fun hbeneath => hbeneath.2 rfl]
  exact hstaged.site.directory

theorem Staged.located
    (hstaged : Staged limit outDir name before base outRoot contents disk) :
    disk.locate limit (outDir ++ ["pkg", name]) =
      some (stagePlace outRoot name) := by
  have hlaid :=
    hstaged.overlaid.changed hstaged.site.fresh hstaged.regular
  rw [FileTree.locate_congr hlaid.target_eq]
  exact hstaged.site.located

/-- Paths into the stage lead into it. -/
theorem Staged.resolve_inside
    (hstaged : Staged limit outDir name before base outRoot contents disk)
    (rest : Path) :
    disk.resolve limit (outDir ++ ["pkg", name] ++ rest) =
      some (stagePlace outRoot name ++ rest) := by
  induction rest using List.reverseRecOn with
  | nil =>
      rw [List.append_nil, List.append_nil]
      exact FileTree.resolve_of_locate
        (FileTree.target_of_directory hstaged.directory) hstaged.located
  | append_singleton rest last ih =>
      have htarget : disk.target
          (stagePlace outRoot name ++ rest ++ [last]) = none := by
        refine target_none ?_
        intro target hentry
        rw [List.append_assoc,
          hstaged.overlaid.inside _ (by simp)] at hentry
        exact hstaged.regular _ (FileTree.mem_of_lookup hentry)
      rw [← List.append_assoc, ← List.append_assoc]
      exact followLinks_snoc htarget ih

theorem Staged.locate_inside
    (hstaged : Staged limit outDir name before base outRoot contents disk)
    (rest : Path) (last : String) :
    disk.locate limit (outDir ++ ["pkg", name] ++ (rest ++ [last])) =
      some (stagePlace outRoot name ++ (rest ++ [last])) := by
  rw [← List.append_assoc, FileTree.locate_snoc, hstaged.resolve_inside]
  simp

theorem fileContent_eq_some {content : List UInt8} :
    fileContent limit source disk = some content ↔
      ∃ place, disk.resolve limit source = some place ∧
        disk.entry place = some (.file content) := by
  unfold fileContent stat
  cases hresolve : disk.resolve limit source with
  | none => simp
  | some place =>
      cases hentry : disk.entry place with
      | none => simp [hentry]
      | some entry => cases entry <;> simp [hentry]

/-- The source of a staged file lies outside of the stage. -/
def Sourced (limit : ℕ) (before base : Disk) (stage source : Path)
    (content : List UInt8) : Prop :=
  ∃ place, before.resolve limit source = some place ∧
    ¬Beneath stage place ∧ base.entry place = some (.file content)

theorem fileContent_sourced
    (hsite : Site limit outDir name before base outRoot)
    {content : List UInt8}
    (hsourced : Sourced limit before base (stagePlace outRoot name) source
      content) :
    fileContent limit source before = some content := by
  obtain ⟨place, hresolve, houtside, hentry⟩ := hsourced
  exact fileContent_eq_some.mpr
    ⟨place, hresolve, hsite.changed.file_before houtside hentry⟩

theorem fileContent_staged
    (hstaged : Staged limit outDir name before base outRoot contents disk)
    {content : List UInt8}
    (hsourced : Sourced limit before base (stagePlace outRoot name) source
      content) :
    fileContent limit source disk = some content := by
  obtain ⟨place, hresolve, houtside, hentry⟩ := hsourced
  refine fileContent_eq_some.mpr ⟨place, ?_, ?_⟩
  · rw [FileTree.resolve_congr hstaged.changed.target_eq, hresolve]
  · rw [hstaged.overlaid.outside place houtside, hentry]

/-- A source that no staged file is named like lies outside of the stage. -/
theorem Staged.sourced
    (hstaged : Staged limit outDir name before base outRoot contents disk)
    {last : String} {content : List UInt8}
    (hlocate : before.locate limit (source ++ [last]) = some place)
    (htarget : before.target place = none)
    (hnames : ∀ rest old, (rest, Entry.file old) ∈ contents →
      rest.getLast? ≠ some last)
    (hcontent : fileContent limit (source ++ [last]) disk = some content) :
    Sourced limit before base (stagePlace outRoot name) (source ++ [last])
      content := by
  have hresolve := FileTree.resolve_of_locate htarget hlocate
  obtain ⟨found, hfound, hentry⟩ := fileContent_eq_some.mp hcontent
  rw [FileTree.resolve_congr hstaged.changed.target_eq, hresolve] at hfound
  obtain rfl := Option.some.inj hfound
  refine ⟨place, hresolve, ?_⟩
  rw [FileTree.locate_snoc, Option.map_eq_some_iff] at hlocate
  obtain ⟨parent, -, hplace⟩ := hlocate
  rcases hstaged.overlaid.file_cases hentry with
    ⟨rest, hrest, hinside, hlisted⟩ | houtside
  · refine absurd ?_ (hnames rest content hlisted)
    have hlast : place.getLast? = some last := by
      rw [← hplace]
      simp
    rw [hinside, List.getLast?_append_of_ne_nil _ hrest] at hlast
    exact hlast
  · exact houtside

/-! ## Copying -/

/-- A path that passes `_regular_file` has a place that is no reparse
point. -/
theorem ends_regularFile
    {label : String} {failed : Failure → Disk → Prop}
    (hfailed : ∀ failure, failed failure disk) :
    Ends (regularFile limit source label) disk
      (fun _ after => after = disk ∧ ∃ place,
        disk.locate limit source = some place ∧ disk.target place = none)
      failed := by
  refine ends_inspect_bind
    (ends_failIf_bind (fun _ => hfailed _) fun hreparse => ?_)
  refine ends_inspect_bind (ends_failIf (fun _ => hfailed _) fun hfile => ?_)
  refine ⟨rfl, ?_⟩
  cases hlocate : disk.locate limit source with
  | none =>
      have hresolve := FileTree.resolve_of_locate_none hlocate
      simp [stat, hresolve] at hfile
  | some place =>
      exact ⟨place, rfl, target_of_not_reparsePoint hlocate hreparse⟩

/-- Making a directory that is there changes nothing. -/
theorem ends_mkdirParents_here
    {path : Path} {failed : Failure → Disk → Prop}
    (hlocate : disk.locate limit path = some place)
    (hentry : disk.entry place = some .directory) :
    Ends (mkdirParents limit path.reverse) disk
      (fun _ after => after = disk) failed := by
  have hrefused : tryMkdir limit path disk = .refused := by
    unfold tryMkdir
    rw [hlocate]
    show disk.mkdir place = .refused
    unfold FileTree.mkdir
    rw [dif_neg (by rw [hentry]; exact Option.some_ne_none _)]
  have hstat : stat limit path disk = some .directory := by
    rw [stat_eq (FileTree.resolve_of_locate
      (FileTree.target_of_directory hentry) hlocate), hentry]
  cases hpath : path.reverse with
  | nil =>
      obtain rfl := List.reverse_eq_nil_iff.mp hpath
      refine ends_inspect_bind ?_
      rw [hrefused]
      refine ends_inspect_bind ?_
      rw [hstat]
      exact ends_failIf nofun fun _ => rfl
  | cons last above =>
      rw [mkdirParents, ← hpath, List.reverse_reverse]
      refine ends_inspect_bind ?_
      rw [hrefused]
      refine ends_inspect_bind ?_
      rw [hstat]
      exact ends_failIf nofun fun _ => rfl

theorem Staged.tryMkdir_inside
    (hstaged : Staged limit outDir name before base outRoot contents disk)
    {last : String}
    (hmade : tryMkdir limit (outDir ++ ["pkg", name] ++ [last]) disk =
      .made after) :
    Staged limit outDir name before base outRoot
      (([last], .directory) :: contents) after := by
  have hlocate := hstaged.locate_inside [] last
  rw [List.nil_append] at hlocate
  exact hstaged.cons trivial (List.cons_ne_nil _ _)
    (tryMkdir_made hlocate hmade).2

/-- Making a directory in the stage. -/
theorem Staged.mkdirParents_inside
    (hstaged : Staged limit outDir name before base outRoot contents disk)
    {last : String} (hfree : contents.lookup [last] = none)
    {failed : Failure → Disk → Prop} :
    Ends (mkdirParents limit (outDir ++ ["pkg", name] ++ [last]).reverse)
      disk
      (fun _ after => Staged limit outDir name before base outRoot
        (([last], .directory) :: contents) after) failed := by
  have hpath : (outDir ++ ["pkg", name] ++ [last]).reverse =
      last :: (outDir ++ ["pkg", name]).reverse := by
    simp
  have hentry : disk.entry (stagePlace outRoot name ++ [last]) = none := by
    rw [hstaged.overlaid.inside _ (List.cons_ne_nil _ _), hfree]
  have hparent : disk.entry (stagePlace outRoot name ++ [last]).dropLast =
      some .directory := by
    rw [List.dropLast_concat]
    exact hstaged.directory
  obtain ⟨after, hmkdir⟩ := FileTree.mkdir_of_free hentry hparent
  have hlocate := hstaged.locate_inside [] last
  rw [List.nil_append] at hlocate
  have hmade : tryMkdir limit (outDir ++ ["pkg", name] ++ [last]) disk =
      .made after := by
    unfold tryMkdir
    rw [hlocate]
    exact hmkdir
  rw [hpath, mkdirParents, ← hpath, List.reverse_reverse]
  refine ends_inspect_bind ?_
  rw [hmade]
  exact ends_set (hstaged.tryMkdir_inside hmade)

theorem Staged.writeBytes
    (hstaged : Staged limit outDir name before base outRoot contents disk)
    (hrest : rest ≠ []) (content : List UInt8) :
    Ends (Scripts.writeBytes limit (outDir ++ ["pkg", name] ++ rest) content)
      disk
      (fun _ after => Staged limit outDir name before base outRoot
        ((rest, .file content) :: contents) after)
      (fun _ after => Changed (Touched limit outDir name before) before
        after) := by
  refine ends_change ?_ fun _ => hstaged.touched
  intro after hwrite
  rw [hstaged.resolve_inside, Option.bind_some] at hwrite
  exact hstaged.cons trivial hrest (FileTree.write_eq_some hwrite).2

def contentAt (limit : ℕ) (path : Path) (disk : Disk) : List UInt8 :=
  (fileContent limit path disk).getD []

/-- A copy into the stage, with what making its directory adds. -/
theorem Staged.copyRegularFile
    (hstaged : Staged limit outDir name before base outRoot contents disk)
    {last label : String} {grown : Contents} (hrest : rest ≠ [])
    (hparents : ∀ {failed : Failure → Disk → Prop}, Ends
      (mkdirParents limit (outDir ++ ["pkg", name] ++ rest).dropLast.reverse)
      disk
      (fun _ after => Staged limit outDir name before base outRoot grown
        after) failed)
    (hnames : ∀ rest old, (rest, Entry.file old) ∈ grown →
      rest.getLast? ≠ some last) :
    Ends (Scripts.copyRegularFile limit (source ++ [last])
        (outDir ++ ["pkg", name] ++ rest) label) disk
      (fun _ after =>
        Sourced limit before base (stagePlace outRoot name)
            (source ++ [last])
            (contentAt limit (source ++ [last]) before) ∧
          Staged limit outDir name before base outRoot
            ((rest, .file (contentAt limit (source ++ [last]) before)) ::
              grown) after)
      (fun _ after => Changed (Touched limit outDir name before) before
        after) := by
  refine (ends_regularFile fun _ => hstaged.touched).bind ?_
  rintro _ state ⟨rfl, place, hlocate, htarget⟩
  rw [FileTree.locate_congr hstaged.changed.target_eq] at hlocate
  rw [hstaged.changed.target_eq] at htarget
  refine hparents.bind ?_
  intro _ mid hmid
  refine ends_inspect_bind (ends_failIf_bind (fun _ => hmid.touched) ?_)
  intro _
  refine ends_need_bind ?_ fun _ => hmid.touched
  intro content hcontent
  have hsourced := hmid.sourced hlocate htarget hnames hcontent
  have hat : contentAt limit (source ++ [last]) before = content := by
    unfold contentAt
    rw [fileContent_sourced hmid.site hsourced]
    rfl
  rw [hat]
  refine (hmid.writeBytes hrest content).mono ?_ fun _ _ => id
  intro _ after hafter
  exact ⟨hsourced, hafter⟩

/-- A copy to the top of the stage. -/
theorem Staged.copyRegularFile_top
    (hstaged : Staged limit outDir name before base outRoot contents disk)
    {relative last label : String}
    (hnames : ∀ rest old, (rest, Entry.file old) ∈ contents →
      rest.getLast? ≠ some last) :
    Ends (Scripts.copyRegularFile limit (source ++ [last])
        (outDir ++ ["pkg", name] ++ [relative]) label) disk
      (fun _ after =>
        Sourced limit before base (stagePlace outRoot name)
            (source ++ [last])
            (contentAt limit (source ++ [last]) before) ∧
          Staged limit outDir name before base outRoot
            (([relative], .file
              (contentAt limit (source ++ [last]) before)) :: contents) after)
      (fun _ after => Changed (Touched limit outDir name before) before
        after) := by
  refine hstaged.copyRegularFile (List.cons_ne_nil _ _) ?_ hnames
  intro failed
  rw [List.dropLast_concat]
  refine (ends_mkdirParents_here hstaged.located hstaged.directory).mono ?_
    fun _ _ => id
  rintro _ after rfl
  exact hstaged

/-- A copy into a directory of the stage that is not there yet. -/
theorem Staged.copyRegularFile_below
    (hstaged : Staged limit outDir name before base outRoot contents disk)
    {directory relative last label : String}
    (hfree : contents.lookup [directory] = none)
    (hnames : ∀ rest old, (rest, Entry.file old) ∈ contents →
      rest.getLast? ≠ some last) :
    Ends (Scripts.copyRegularFile limit (source ++ [last])
        (outDir ++ ["pkg", name] ++ [directory, relative]) label) disk
      (fun _ after =>
        Sourced limit before base (stagePlace outRoot name)
            (source ++ [last])
            (contentAt limit (source ++ [last]) before) ∧
          Staged limit outDir name before base outRoot
            (([directory, relative], .file
              (contentAt limit (source ++ [last]) before)) ::
              ([directory], .directory) :: contents) after)
      (fun _ after => Changed (Touched limit outDir name before) before
        after) := by
  have hparent : (outDir ++ ["pkg", name] ++ [directory, relative]).dropLast =
      outDir ++ ["pkg", name] ++ [directory] := by
    rw [List.dropLast_append_of_ne_nil (List.cons_ne_nil _ _)]
    rfl
  refine hstaged.copyRegularFile (List.cons_ne_nil _ _) ?_ ?_
  · intro failed
    rw [hparent]
    exact hstaged.mkdirParents_inside hfree
  · intro rest old hlisted
    rcases List.mem_cons.mp hlisted with hsame | hlisted
    · cases (Prod.mk.inj hsame).2
    · exact hnames rest old hlisted

/-! ## The release files -/

/-- The staged copies of files in the build directory, the last one first. -/
def copies (limit : ℕ) (buildDir : Path) (before : Disk)
    (relatives : List String) : Contents :=
  (relatives.map fun relative =>
    ([relative], .file (contentAt limit (buildDir ++ [relative]) before))).reverse

theorem Staged.stageRelease
    {buildDir : Path} {relatives : List String} (hnodup : relatives.Nodup)
    (hstaged : Staged limit outDir name before base outRoot contents disk)
    (hnames : ∀ relative ∈ relatives, ∀ rest old,
      (rest, Entry.file old) ∈ contents →
        rest.getLast? ≠ some relative) :
    Ends (Scripts.stageRelease limit buildDir (outDir ++ ["pkg", name])
        relatives) disk
      (fun missing after => ∃ copied, copied.Sublist relatives ∧
        (missing = [] → copied = relatives) ∧
        (∀ relative ∈ copied, Sourced limit before base
          (stagePlace outRoot name) (buildDir ++ [relative])
          (contentAt limit (buildDir ++ [relative]) before)) ∧
        Staged limit outDir name before base outRoot
          (copies limit buildDir before copied ++ contents) after)
      (fun _ after => Changed (Touched limit outDir name before) before
        after) := by
  induction relatives generalizing contents disk with
  | nil => exact ends_pure ⟨[], .slnil, fun _ => rfl, nofun, hstaged⟩
  | cons relative relatives ih =>
      obtain ⟨hfirst, hrest⟩ := List.nodup_cons.mp hnodup
      have hlater : ∀ other ∈ relatives, ∀ rest old,
          (rest, Entry.file old) ∈ contents → rest.getLast? ≠ some other :=
        fun other hother => hnames other (List.mem_cons_of_mem _ hother)
      rw [Scripts.stageRelease]
      refine ends_inspect_bind (ends_inspect_bind ?_)
      split_ifs with hskipped
      · refine (ih hrest hstaged hlater).bind ?_
        rintro missing after ⟨copied, hsublist, -, hcontent, hafter⟩
        exact ends_pure ⟨copied, hsublist.cons relative, nofun, hcontent,
          hafter⟩
      · refine (hstaged.copyRegularFile_top
          (hnames relative List.mem_cons_self)).bind ?_
        rintro _ mid ⟨hcontent, hmid⟩
        have hnext : ∀ other ∈ relatives, ∀ rest old,
            (rest, Entry.file old) ∈ ([relative], Entry.file (contentAt
              limit (buildDir ++ [relative]) before)) :: contents →
            rest.getLast? ≠ some other := by
          intro other hother rest old hlisted
          rcases List.mem_cons.mp hlisted with hsame | hlisted
          · obtain ⟨rfl, -⟩ := Prod.mk.inj hsame
            rintro ⟨⟩
            exact hfirst hother
          · exact hlater other hother rest old hlisted
        refine (ih hrest hmid hnext).mono ?_ fun _ _ => id
        rintro missing after ⟨copied, hsublist, hall, hcopied, hafter⟩
        refine ⟨relative :: copied, hsublist.cons_cons relative,
          fun hmissing => by rw [hall hmissing],
          List.forall_mem_cons.mpr ⟨hcontent, hcopied⟩, ?_⟩
        simpa [copies] using hafter

end Staged

end Revana.Scripts
