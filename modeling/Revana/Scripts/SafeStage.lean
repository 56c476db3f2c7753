import Revana.Scripts.StagingTree

/-!
# Staging a release

`_safe_stage` makes the output directory, clears the stage of an earlier run
and makes it anew.  Whatever its checks find, nothing is removed but what lies
below the stage.
-/

namespace Revana.Scripts

open Foundation
open Foundation.Effect

/-! ## Making directories -/

section Staging

variable {limit : ℕ} {path place : Path} {before : Disk}

theorem ends_mkdir
    {existOk : Bool} {done : Unit → Disk → Prop}
    {failed : Failure → Disk → Prop}
    (hmade : ∀ after, tryMkdir limit path before = .made after →
      done () after)
    (hkept : (∀ after, tryMkdir limit path before ≠ .made after) →
      done () before ∧ failed .exception before) :
    Ends (mkdir limit existOk path) before done failed := by
  refine ends_inspect_bind ?_
  cases htry : tryMkdir limit path before with
  | made after => exact ends_set (hmade after htry)
  | noParent => exact ends_throw (hkept (by simp [htry])).2
  | refused =>
      obtain ⟨hdone, hfailed⟩ := hkept (by simp [htry])
      exact ends_inspect_bind (ends_failIf (fun _ => hfailed) fun _ => hdone)

theorem grown_of_tryMkdir
    {after : Disk} (hmade : tryMkdir limit path before = .made after) :
    FileTree.Grown before after := by
  unfold tryMkdir at hmade
  split at hmade
  · exact FileTree.grown_of_mkdir hmade
  · cases hmade

theorem mkdir_grows {existOk : Bool} :
    Ends (mkdir limit existOk path) before
      (fun _ => FileTree.Grown before) (fun _ => FileTree.Grown before) := by
  refine ends_mkdir ?_ ?_
  · intro after hmade
    exact grown_of_tryMkdir hmade
  · intro _
    exact ⟨.refl before, .refl before⟩

theorem mkdirParents_grows {above : List String} :
    Ends (mkdirParents limit above) before
      (fun _ => FileTree.Grown before) (fun _ => FileTree.Grown before) := by
  induction above generalizing before with
  | nil => exact mkdir_grows
  | cons last above ih =>
      refine ends_inspect_bind ?_
      cases htry : tryMkdir limit (last :: above).reverse before with
      | made after => exact ends_set (grown_of_tryMkdir htry)
      | noParent =>
          refine ih.bind ?_
          intro _ mid hmid
          exact mkdir_grows.mono (fun _ _ => hmid.trans) fun _ _ => hmid.trans
      | refused =>
          exact ends_inspect_bind
            (ends_failIf (fun _ => .refl before) fun _ => .refl before)

/-! ## What staging removes -/

/-- Nothing that was there is changed but files and directories below the
stage. -/
def StageOnly (limit : ℕ) (outDir : Path) (name : String)
    (before after : Disk) : Prop :=
  ∀ other entry, before.entry other = some entry →
    after.entry other = some entry ∨
      after.entry other = none ∧ entry.Regular ∧
        ∃ outRoot, before.resolve limit outDir = some outRoot ∧
          Below (outRoot ++ ["pkg", name]) other

theorem stageOnly_of_grown
    {outDir : Path} {name : String} {after : Disk}
    (hgrown : FileTree.Grown before after) :
    StageOnly limit outDir name before after := by
  intro other entry hentry
  exact Or.inl (hgrown.entry_of_some hentry)

theorem target_of_not_reparsePoint
    (hlocate : before.locate limit path = some place)
    (hreparse : (match lstat limit path before with
      | some (.reparsePoint _) => true
      | _ => false) = false) :
    before.target place = none := by
  rw [lstat_eq hlocate] at hreparse
  refine target_none ?_
  intro target htarget
  simp [htarget] at hreparse

theorem ends_notRegularDirectory {failed : Failure → Disk → Prop} :
    Ends (notRegularDirectory limit path) before
      (fun value after => after = before ∧ (value = false →
        ∀ place, before.locate limit path = some place →
          before.target place = none)) failed := by
  refine ends_inspect_bind (ends_inspect_bind (ends_inspect_bind
    (ends_pure ⟨rfl, ?_⟩)))
  intro hvalue place hlocate
  exact target_of_not_reparsePoint hlocate (Bool.or_eq_false_iff.mp hvalue).1

theorem ends_packageDirEscapes
    {outRoot : Path} {failed : Failure → Disk → Prop}
    (hfailed : failed .exception before) :
    Ends (packageDirEscapes limit outRoot path) before
      (fun _ after => after = before) failed := by
  refine ends_inspect_bind ?_
  split_ifs
  · exact ends_need_bind (fun _ _ => ends_pure rfl) fun _ => hfailed
  · exact ends_pure rfl

theorem clearStage_spec
    {outRoot : Path} (hroot : place ≠ [])
    (hlocate : before.locate limit path = some place)
    (htarget : before.target place = none) :
    Ends (clearStage limit outRoot path) before
      (fun _ after => after = before ∨
        before.entry place = some .directory ∧ Removed place before after)
      (fun _ after => FileTree.Pruned (Below place) before after) := by
  have hresolve := FileTree.resolve_of_locate htarget hlocate
  refine ends_inspect_bind ?_
  split_ifs
  · refine ends_inspect_bind (ends_failIf_bind (fun _ => .refl _ before) ?_)
    intro hdirectory
    rw [stat_eq hresolve] at hdirectory
    have hentry : before.entry place = some .directory := by
      by_contra hother
      simp at hdirectory
    refine ends_need_bind ?_ (fun _ => .refl _ before)
    intro resolved _
    refine ends_failIf_bind (fun _ => .refl _ before) fun _ => ?_
    refine ends_inspect_bind
      ((removeTree_spec hroot hlocate hentry noDeeper_depth).mono ?_ ?_)
    · intro _ after hremoved
      exact Or.inr ⟨hentry, hremoved⟩
    · intro failure after hstopped
      exact hstopped.1
  · exact ends_pure (Or.inl rfl)

/-- Making the stage anew after it was cleared puts it back in its place. -/
theorem mkdir_after_clearing
    {parent : Path} {name : String} {mid : Disk}
    (hlocate : before.locate limit path = some (parent ++ [name]))
    (hentry : before.entry (parent ++ [name]) = some .directory)
    (hremoved : Removed (parent ++ [name]) before mid) :
    ∃ after, tryMkdir limit path mid = .made after ∧
      FileTree.Pruned (Below (parent ++ [name])) before after := by
  obtain ⟨hpruned, hgone, -⟩ := hremoved
  have hchild : before.entry (parent ++ [name]) ≠ none := by
    simp [hentry]
  have hparent : mid.entry parent = some .directory := by
    rw [hpruned.entry_of_not_region]
    · exact FileTree.entry_parent hchild
    · intro hextends
      have hlength := hextends.length_le
      simp at hlength
  obtain ⟨after, hmade⟩ := FileTree.mkdir_of_free
    (hgone _ List.prefix_rfl) (by rwa [List.dropLast_concat])
  refine ⟨after, ?_, ?_⟩
  · unfold tryMkdir
    rw [FileTree.locate_congr hpruned.target_eq, hlocate]
    exact hmade
  · intro other
    rw [(FileTree.mkdir_eq_made hmade).2]
    split_ifs with hother
    · rw [hother]
      exact Or.inl hentry.symm
    · rcases hpruned other with hsame | ⟨hextends, hnone⟩
      · exact Or.inl hsame
      · exact Or.inr ⟨⟨hextends, hother⟩, hnone⟩

theorem stageOnly_of_pruned
    {outDir outRoot : Path} {name : String} {mid after : Disk}
    (hresolve : before.resolve limit outDir = some outRoot)
    (hgrown : FileTree.Grown before mid)
    (hpruned : FileTree.Pruned (Below (outRoot ++ ["pkg", name])) mid after) :
    StageOnly limit outDir name before after := by
  intro other entry hentry
  have hmid := hgrown.entry_of_some hentry
  rcases hpruned other with hsame | ⟨hbelow, hgone, found, hfound, hregular⟩
  · rw [hsame]
    exact Or.inl hmid
  · rw [hmid] at hfound
    obtain rfl := Option.some.inj hfound
    exact Or.inr ⟨hgone, hregular, outRoot, hresolve, hbelow⟩

/-- The part of `safeStage` that clears the stage and makes it anew. -/
theorem remakeStage_spec
    {outDir outRoot stage : Path} {name : String} {mid : Disk}
    (hresolve : before.resolve limit outDir = some outRoot)
    (hgrown : FileTree.Grown before mid)
    (hlocate : mid.locate limit stage = some (outRoot ++ ["pkg"] ++ [name]))
    (htarget : mid.target (outRoot ++ ["pkg"] ++ [name]) = none) :
    Ends (clearStage limit outRoot stage >>= fun _ => mkdir limit false stage)
      mid (fun _ => StageOnly limit outDir name before)
      (fun _ => StageOnly limit outDir name before) := by
  have hstage : outRoot ++ ["pkg"] ++ [name] = outRoot ++ ["pkg", name] := by
    simp
  refine ((clearStage_spec (by simp) hlocate htarget).mono
    (fun _ _ => id) ?_).bind ?_
  · intro failure after hpruned
    rw [hstage] at hpruned
    exact stageOnly_of_pruned hresolve hgrown hpruned
  · rintro _ state (hsame | ⟨hentry, hremoved⟩)
    · subst hsame
      exact mkdir_grows.mono
        (fun _ _ hafter => stageOnly_of_grown (hgrown.trans hafter))
        fun _ _ hafter => stageOnly_of_grown (hgrown.trans hafter)
    · obtain ⟨after, hmade, hpruned⟩ :=
        mkdir_after_clearing hlocate hentry hremoved
      refine ends_mkdir ?_ fun hnever => absurd hmade (hnever after)
      intro found hfound
      rw [hmade] at hfound
      obtain rfl := FileTree.Making.made.inj hfound
      rw [hstage] at hpruned
      exact stageOnly_of_pruned hresolve hgrown hpruned

theorem safeStage_spec {outDir : Path} {name : String} :
    Ends (safeStage limit outDir name) before
      (fun _ => StageOnly limit outDir name before)
      (fun _ => StageOnly limit outDir name before) := by
  have hstart : StageOnly limit outDir name before before :=
    stageOnly_of_grown (.refl before)
  refine ends_need_bind ?_ fun _ => hstart
  intro outRoot hout
  refine ends_notRegularDirectory.bind ?_
  rintro _ state ⟨hstate, -⟩
  subst state
  refine ends_failIf_bind (fun _ => hstart) fun _ => ?_
  refine ends_notRegularDirectory.bind ?_
  rintro _ state ⟨hstate, hregular⟩
  subst state
  refine ends_failIf_bind (fun _ => hstart) fun hvalue => ?_
  refine (ends_packageDirEscapes hstart).bind ?_
  intro _ state hstate
  subst state
  refine ends_failIf_bind (fun _ => hstart) fun _ => ?_
  refine (mkdirParents_grows.mono (fun _ _ => id)
    fun _ _ => stageOnly_of_grown).bind ?_
  intro _ mid hgrown
  have hpackage := hregular hvalue _ (locate_child hout)
  have hlocate : mid.locate limit (outDir ++ ["pkg"] ++ [name]) =
      some (outRoot ++ ["pkg"] ++ [name]) := by
    rw [FileTree.locate_congr hgrown.target_eq]
    exact locate_child (followLinks_snoc hpackage hout)
  have hmid : StageOnly limit outDir name before mid :=
    stageOnly_of_grown hgrown
  refine ends_inspect_bind
    (ends_failIf_bind (fun _ => hmid) fun hreparse => ?_)
  refine ends_need_bind (fun resolved _ => ?_) fun _ => hmid
  refine ends_failIf_bind (fun _ => hmid) fun _ => ?_
  have hremake := remakeStage_spec hout hgrown hlocate
    (target_of_not_reparsePoint hlocate hreparse)
  rw [← bind_assoc]
  refine hremake.bind ?_
  intro _ after hafter
  exact ends_pure hafter

end Staging

/-! ## Containment -/

def plainFileDisk : Disk :=
  FileTree.bare.insert ["notes"] (.file []) rfl rfl

/-- A path that names a plain file fails, although nothing irregular lies
there. -/
theorem plainFile_fails :
    removeRegularTree 0 ["notes"] plainFileDisk =
        some (.error .exception, plainFileDisk) ∧
      ¬ plainFileDisk.HoldsIrregular ["notes"] := by
  refine ⟨rfl, ?_⟩
  rw [FileTree.holdsIrregular_iff]
  rintro ⟨other, entry, hextends, hentry, hirregular⟩
  by_cases hother : other = ["notes"]
  · rw [hother] at hentry
    obtain rfl := Option.some.inj hentry
    exact hirregular trivial
  · have hdirectory := FileTree.entry_above hextends hother
      (by rw [hentry]; exact Option.some_ne_none entry)
    cases hdirectory

/-- Clearing removes the whole tree at the path or fails, as the entries there
decide, and touches nothing that is not reached from there through directories
alone; staging removes nothing but what lies below the stage. -/
theorem stagingCleanup_contained
    (limit : ℕ) (path outDir : Path) (name : String) (before : Disk) :
    (∃ result after,
      removeRegularTree limit path before = some (result, after) ∧
        (∀ place, before.locate limit path = some place →
          Removal before place result after) ∧
        (before.locate limit path = none →
          result = .error .exception ∧ after = before)) ∧
      ∃ result after,
        safeStage limit outDir name before = some (result, after) ∧
          StageOnly limit outDir name before after := by
  refine ⟨?_, ?_⟩
  · cases hlocate : before.locate limit path with
    | none =>
        have hends : Ends (removeRegularTree limit path) before
            (fun _ _ => False)
            (fun failure after => failure = .exception ∧ after = before) :=
          ends_inspect_bind (removeTree_unresolved hlocate)
        obtain ⟨result, after, hrun, hpost⟩ := hends
        cases result with
        | ok value => exact hpost.elim
        | error failure =>
            obtain ⟨rfl, rfl⟩ := hpost
            exact ⟨_, after, hrun, by simp, fun _ => ⟨rfl, rfl⟩⟩
    | some place =>
        obtain ⟨result, after, hrun, hpost⟩ := removeRegularTree_spec hlocate
        refine ⟨result, after, hrun, ?_, by simp⟩
        intro found hfound
        obtain rfl := Option.some.inj hfound
        cases result with
        | ok value => exact hpost
        | error failure => exact hpost
  · obtain ⟨result, after, hrun, hpost⟩ :=
      @safeStage_spec limit before outDir name
    refine ⟨result, after, hrun, ?_⟩
    cases result with
    | ok value => exact hpost
    | error failure => exact hpost

def junctionDisk : Disk :=
  (((FileTree.bare.insert ["kept"] .directory rfl rfl).insert
    ["kept", "data"] (.file []) rfl rfl).insert
    ["stage"] .directory rfl rfl).insert
    ["stage", "escape"] (.reparsePoint ["kept"]) rfl rfl

/-- A link out of the staging tree stops its removal and keeps its target. -/
theorem stagingCleanup_contained_junction :
    ∃ result after,
      removeRegularTree 8 ["stage"] junctionDisk = some (result, after) ∧
        result ≠ .ok () ∧
        after.entry ["stage", "escape"] = some (.reparsePoint ["kept"]) ∧
        after.entry ["kept", "data"] = some (.file []) := by
  obtain ⟨⟨result, after, hrun, hremoval, -⟩, -⟩ :=
    stagingCleanup_contained 8 ["stage"] ["stage"] "release" junctionDisk
  have hplace := hremoval ["stage"] rfl
  have hlink : junctionDisk.entry ["stage", "escape"] =
      some (.reparsePoint ["kept"]) := rfl
  refine ⟨result, after, hrun, ?_, ?_, ?_⟩
  · intro hok
    obtain ⟨-, -, hregular⟩ := hplace.succeeds.mp hok
    refine hregular (FileTree.holdsIrregular_iff.mpr ?_)
    exact ⟨["stage", "escape"], _, ⟨["escape"], rfl⟩, hlink, id⟩
  · exact hplace.irregular _ _ hlink id
  · refine (hplace.outside _ ?_).trans rfl
    intro hreached
    have hextends := hreached.isPrefix
    simp at hextends

end Revana.Scripts
