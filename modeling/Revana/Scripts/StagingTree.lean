import Revana.Foundation.Effects
import Revana.Foundation.LinkedPath
import Revana.Scripts.Python

/-!
# The staging tree

`package.py` clears the staging tree of an earlier run before it stages a
release.  It removes files and directories as it comes to them and stops at the
first entry of any other kind, so that part of the tree may be gone when it
fails.  Paths are absolute and hold no `..`, which Windows takes out of a path
before it follows it.
-/

namespace Revana.Scripts

open Foundation
open Foundation.Effect

abbrev Path := List String

abbrev Disk := FileTree String (List UInt8)

abbrev DiskEffect := Effect Disk Failure

def showPath (path : Path) : String :=
  "/" ++ "/".intercalate path

section Paths

variable (limit : ℕ)

/-! ## Paths on the disk -/

/-- What lies at a path, the last name of which is not followed. -/
def lstat (path : Path) (disk : Disk) : Option (Entry String (List UInt8)) :=
  (disk.locate limit path).bind disk.entry

def stat (path : Path) (disk : Disk) : Option (Entry String (List UInt8)) :=
  (disk.resolve limit path).bind disk.entry

def isReparsePoint (path : Path) : DiskEffect Bool :=
  inspect fun disk =>
    match lstat limit path disk with
    | some (.reparsePoint _) => true
    | _ => false

def pathExists (path : Path) : DiskEffect Bool :=
  inspect fun disk => (stat limit path disk).isSome

def isDir (path : Path) : DiskEffect Bool :=
  inspect fun disk =>
    match stat limit path disk with
    | some .directory => true
    | _ => false

def isFile (path : Path) : DiskEffect Bool :=
  inspect fun disk =>
    match stat limit path disk with
    | some (.file _) => true
    | _ => false

def resolvePath (path : Path) : DiskEffect Path :=
  need (fun disk => disk.resolve limit path) .exception

/-- The children `iterdir` yields, which only a directory has. -/
def children (path : Path) (disk : Disk) : Option (List Path) :=
  match disk.resolve limit path with
  | none => none
  | some place =>
      match disk.entry place with
      | some .directory => some ((disk.names place).map fun name => path ++ [name])
      | _ => none

def iterdir (path : Path) : DiskEffect (List Path) :=
  need (children limit path) .exception

def unlink (path : Path) : DiskEffect Unit :=
  change (fun disk => (disk.locate limit path).bind disk.unlink) .exception

def rmdir (path : Path) : DiskEffect Unit :=
  change (fun disk => (disk.locate limit path).bind disk.rmdir) .exception

def tryMkdir (path : Path) (disk : Disk) :
    FileTree.Making String (List UInt8) :=
  match disk.locate limit path with
  | some place => disk.mkdir place
  | none => .refused

/-- `path.mkdir(exist_ok=existOk)`. -/
def mkdir (existOk : Bool) (path : Path) : DiskEffect Unit := do
  match ← inspect (tryMkdir limit path) with
  | .made disk => set disk
  | .noParent => throw .exception
  | .refused => failIf (!(existOk && (← isDir limit path))) .exception

/-- `path.mkdir(parents=True, exist_ok=True)`, where the path is given from its
last name. -/
def mkdirParents : List String → DiskEffect Unit
  | [] => mkdir limit true []
  | last :: above => do
      match ← inspect (tryMkdir limit (last :: above).reverse) with
      | .made disk => set disk
      | .noParent => do
          mkdirParents above
          mkdir limit true (last :: above).reverse
      | .refused =>
          failIf (!(← isDir limit (last :: above).reverse)) .exception

/-! ## Clearing -/

/-- The body of the loop over the children. -/
def removeChild (removeTree : Path → DiskEffect Unit) (child : Path) :
    DiskEffect Unit := do
  failIf (← isReparsePoint limit child)
    (.systemExit ("error: reparse point in staging tree: " ++ showPath child))
  if ← isDir limit child then
    removeTree child
  else if ← isFile limit child then
    unlink limit child
  else
    throw (.systemExit ("error: unsupported staging entry: " ++ showPath child))

def removeTree : ℕ → Path → DiskEffect Unit
  | 0, _ => outOfFuel
  | fuel + 1, path => do
      failIf (← isReparsePoint limit path)
        (.systemExit ("error: reparse point in staging tree: " ++ showPath path))
      (← iterdir limit path).forM
        (removeChild limit fun child => removeTree fuel child)
      rmdir limit path

/-- The recursion goes no deeper than the tree. -/
def removeRegularTree (path : Path) : DiskEffect Unit := do
  let depth ← inspect FileTree.depth
  removeTree limit (depth + 1) path

/-! ## The stage -/

def notRegularDirectory (path : Path) : DiskEffect Bool := do
  return (← isReparsePoint limit path) ||
    ((← pathExists limit path) && !(← isDir limit path))

/-- `root in path.parents`. -/
def hasParent (path root : Path) : Bool :=
  root.isPrefixOf path && root.length < path.length

def packageDirEscapes (outRoot packageDir : Path) : DiskEffect Bool := do
  if ← pathExists limit packageDir then
    return (← resolvePath limit packageDir).dropLast ≠ outRoot
  else
    return false

def clearStage (outRoot stage : Path) : DiskEffect Unit := do
  if ← pathExists limit stage then
    failIf (!(← isDir limit stage))
      (.systemExit ("error: staging path is not a directory: " ++ showPath stage))
    failIf (!(hasParent (← resolvePath limit stage) outRoot))
      (.systemExit ("error: staging path escapes output directory: " ++
        showPath stage))
    removeRegularTree limit stage
  else
    return ()

def safeStage (outDir : Path) (name : String) : DiskEffect Path := do
  let outRoot ← resolvePath limit outDir
  failIf (← notRegularDirectory limit outDir)
    (.systemExit ("error: output directory is not a regular directory: " ++
      showPath outDir))
  let packageDir := outDir ++ ["pkg"]
  failIf (← notRegularDirectory limit packageDir)
    (.systemExit ("error: package staging directory is not a regular directory: " ++
      showPath packageDir))
  failIf (← packageDirEscapes limit outRoot packageDir)
    (.systemExit ("error: package staging directory escapes output directory: " ++
      showPath packageDir))
  mkdirParents limit packageDir.reverse
  let stage := packageDir ++ [name]
  failIf (← isReparsePoint limit stage)
    (.systemExit ("error: reparse point in staging tree: " ++ showPath stage))
  failIf (!(hasParent (← resolvePath limit stage) outRoot))
    (.systemExit ("error: staging path escapes output directory: " ++
      showPath stage))
  clearStage limit outRoot stage
  mkdir limit false stage
  return stage

end Paths

/-! ## What clearing does -/

/-- Everything at and below the place is gone, and all of it was regular. -/
def Removed (place : Path) (before after : Disk) : Prop :=
  FileTree.Pruned (place <+: ·) before after ∧
    (∀ other, place <+: other → after.entry other = none) ∧
      ¬ before.HoldsIrregular place

/-- The place itself is left, and perhaps not all that was below it. -/
def Below (place other : Path) : Prop :=
  place <+: other ∧ other ≠ place

def Stopped (place : Path) (before : Disk) (failure : Failure) (after : Disk) :
    Prop :=
  FileTree.Pruned (Below place) before after ∧
    before.HoldsIrregular place ∧ failure.IsExit

section Clearing

variable {limit : ℕ} {path place : Path} {name : String} {disk before : Disk}

theorem lstat_eq (hlocate : disk.locate limit path = some place) :
    lstat limit path disk = disk.entry place := by
  unfold lstat
  rw [hlocate, Option.bind_some]

theorem stat_eq (hresolve : disk.resolve limit path = some place) :
    stat limit path disk = disk.entry place := by
  unfold stat
  rw [hresolve, Option.bind_some]

theorem locate_child (hresolve : disk.resolve limit path = some place) :
    disk.locate limit (path ++ [name]) = some (place ++ [name]) := by
  rw [FileTree.locate_snoc, hresolve, Option.map_some]

theorem target_none
    (hentry : ∀ target, disk.entry place ≠ some (.reparsePoint target)) :
    disk.target place = none := by
  refine Option.eq_none_iff_forall_ne_some.mpr ?_
  intro target htarget
  exact hentry target (FileTree.target_eq_some.mp htarget)

theorem stopped_of_irregular
    {entry : Entry String (List UInt8)} {message : String}
    (hentry : disk.entry place = some entry) (hirregular : ¬ entry.Regular) :
    Stopped place disk (.systemExit message) disk :=
  ⟨.refl _ disk, ⟨place, entry, .here, hentry, hirregular⟩, message, rfl⟩

theorem unlink_removes
    {content : List UInt8} {failed : Failure → Disk → Prop}
    (hlocate : before.locate limit path = some place)
    (hentry : before.entry place = some (.file content)) :
    Ends (unlink limit path) before (fun _ => Removed place before) failed := by
  obtain ⟨after, hunlink, hpruned, hgone⟩ := FileTree.unlink_file hentry
  have hbelow : ∀ other, place <+: other → other ≠ place →
      before.entry other = none := by
    intro other hextends hne
    by_contra hother
    have hdirectory := FileTree.entry_above hextends hne hother
    rw [hentry] at hdirectory
    cases hdirectory
  refine ends_change ?_ ?_
  · intro found hfound
    rw [hlocate, Option.bind_some, hunlink] at hfound
    obtain rfl := Option.some.inj hfound
    refine ⟨hpruned.mono ?_, ?_, ?_⟩
    · rintro other rfl
      exact List.prefix_rfl
    · intro other hextends
      by_cases hother : other = place
      · rw [hother, hgone]
      · rw [hpruned.entry_of_not_region hother, hbelow other hextends hother]
    · rw [FileTree.holdsIrregular_iff]
      rintro ⟨other, entry, hextends, hfile, hirregular⟩
      by_cases hother : other = place
      · rw [hother, hentry] at hfile
        obtain rfl := Option.some.inj hfile
        exact hirregular trivial
      · rw [hbelow other hextends hother] at hfile
        cases hfile
  · intro hnone
    rw [hlocate, Option.bind_some, hunlink] at hnone
    cases hnone

/-- The loop's body removes a child whole, or stops at it. -/
theorem removeChild_spec
    {remove : Path → DiskEffect Unit}
    (hremove : before.entry (place ++ [name]) = some .directory →
      Ends (remove (path ++ [name])) before
        (fun _ => Removed (place ++ [name]) before)
        (Stopped (place ++ [name]) before))
    (hresolve : before.resolve limit path = some place)
    (hname : before.entry (place ++ [name]) ≠ none) :
    Ends (removeChild limit remove (path ++ [name])) before
      (fun _ => Removed (place ++ [name]) before)
      (Stopped (place ++ [name]) before) := by
  have hlocate := @locate_child limit path place name before hresolve
  have hstat : (∀ target,
      before.entry (place ++ [name]) ≠ some (.reparsePoint target)) →
      stat limit (path ++ [name]) before = before.entry (place ++ [name]) := by
    intro hentry
    exact stat_eq (followLinks_snoc (target_none hentry) hresolve)
  obtain ⟨entry, hentry⟩ := Option.ne_none_iff_exists'.mp hname
  rw [hentry] at hstat hremove
  unfold removeChild
  refine ends_inspect_bind ?_
  rw [lstat_eq hlocate, hentry]
  cases entry with
  | reparsePoint target =>
      refine ends_failIf_bind ?_ ?_
      · intro _
        exact stopped_of_irregular hentry id
      · intro hfalse
        cases hfalse
  | directory =>
      refine ends_failIf_false_bind (ends_inspect_bind ?_)
      rw [hstat (by simp)]
      exact hremove rfl
  | file content =>
      refine ends_failIf_false_bind (ends_inspect_bind ?_)
      rw [hstat (by simp)]
      refine ends_inspect_bind ?_
      rw [hstat (by simp)]
      exact unlink_removes hlocate hentry
  | other =>
      refine ends_failIf_false_bind (ends_inspect_bind ?_)
      rw [hstat (by simp)]
      refine ends_inspect_bind ?_
      rw [hstat (by simp)]
      exact ends_throw (stopped_of_irregular hentry id)

/-- The children of `rest` are still to come; of the others nothing is left. -/
structure Clearing (place : Path) (before : Disk) (rest : List String)
    (state : Disk) : Prop where
  pruned : FileTree.Pruned (Below place) before state
  nodup : rest.Nodup
  listed : ∀ name ∈ rest, before.entry (place ++ [name]) ≠ none
  kept : ∀ name ∈ rest, ∀ other, place ++ [name] <+: other →
    state.entry other = before.entry other
  cleared : ∀ name, name ∉ rest →
    (∀ other, place ++ [name] <+: other → state.entry other = none) ∧
      ¬ before.HoldsIrregular (place ++ [name])

theorem below_child {other : Path} (hchild : place ++ [name] <+: other) :
    Below place other := by
  refine ⟨(List.prefix_append _ _).trans hchild, ?_⟩
  rintro rfl
  have hlength := hchild.length_le
  simp at hlength

theorem exists_child {other : Path} (hbelow : Below place other) :
    ∃ name, place ++ [name] <+: other := by
  obtain ⟨⟨below, rfl⟩, hne⟩ := hbelow
  cases below with
  | nil => exact absurd (List.append_nil place) hne
  | cons name below => exact ⟨name, below, by simp⟩

theorem child_unique
    {first second : String} {other : Path}
    (hfirst : place ++ [first] <+: other)
    (hsecond : place ++ [second] <+: other) :
    first = second := by
  have hextends := List.prefix_of_prefix_length_le hfirst hsecond (by simp)
  have hsame := hextends.eq_of_length (by simp)
  exact List.singleton_inj.mp (List.append_cancel_left hsame)

theorem clearing_start :
    Clearing place before (before.names place) before where
  pruned := .refl _ before
  nodup := FileTree.nodup_names
  listed _ hname := FileTree.mem_names.mp hname
  kept _ _ _ _ := rfl
  cleared := by
    intro name hname
    have hnone : ∀ other, place ++ [name] <+: other →
        before.entry other = none := by
      intro other hextends
      by_contra hother
      refine hname (FileTree.mem_names.mpr ?_)
      by_cases hsame : other = place ++ [name]
      · rwa [← hsame]
      · rw [FileTree.entry_above hextends hsame hother]
        exact Option.some_ne_none _
    refine ⟨hnone, ?_⟩
    rw [FileTree.holdsIrregular_iff]
    rintro ⟨other, entry, hextends, hentry, -⟩
    rw [hnone other hextends] at hentry
    cases hentry

theorem Clearing.next
    {rest : List String} {state after : Disk}
    (hclearing : Clearing place before (name :: rest) state)
    (hremoved : Removed (place ++ [name]) state after) :
    Clearing place before rest after := by
  obtain ⟨hpruned, hgone, hregular⟩ := hremoved
  obtain ⟨hfresh, hnodup⟩ := List.nodup_cons.mp hclearing.nodup
  refine ⟨hclearing.pruned.trans (hpruned.mono fun _ => below_child), hnodup,
    ?_, ?_, ?_⟩
  · intro later hlater
    exact hclearing.listed later (List.mem_cons_of_mem name hlater)
  · intro later hlater other hextends
    have hother : ¬ place ++ [name] <+: other := by
      intro hname
      rw [child_unique hname hextends] at hfresh
      exact hfresh hlater
    rw [hpruned.entry_of_not_region hother]
    exact hclearing.kept later (List.mem_cons_of_mem name hlater) other hextends
  · intro gone hnot
    by_cases hsame : gone = name
    · rw [hsame]
      refine ⟨hgone, ?_⟩
      rwa [← FileTree.holdsIrregular_congr
        (hclearing.kept name List.mem_cons_self)]
    · obtain ⟨hnone, hold⟩ := hclearing.cleared gone (by simp [hsame, hnot])
      refine ⟨?_, hold⟩
      intro other hextends
      exact hpruned.entry_none (hnone other hextends)

theorem Clearing.stopped
    {rest : List String} {state after : Disk} {failure : Failure}
    (hclearing : Clearing place before (name :: rest) state)
    (hstopped : Stopped (place ++ [name]) state failure after) :
    Stopped place before failure after := by
  obtain ⟨hpruned, hirregular, hexit⟩ := hstopped
  refine ⟨hclearing.pruned.trans (hpruned.mono ?_), ?_, hexit⟩
  · intro other hbelow
    exact below_child hbelow.1
  · exact hclearing.pruned.holdsIrregular (List.prefix_append _ _) hirregular

/-- From the place on, the tree is fewer levels deep than the fuel lasts. -/
def NoDeeper (place : Path) (fuel : ℕ) (disk : Disk) : Prop :=
  ∀ other, place <+: other → disk.entry other ≠ none →
    other.length < place.length + fuel

theorem NoDeeper.child
    {fuel : ℕ} {state : Disk} {region : Path → Prop}
    (hdeep : NoDeeper place (fuel + 1) before)
    (hpruned : FileTree.Pruned region before state) :
    NoDeeper (place ++ [name]) fuel state := by
  intro other hextends hother
  have hbefore : before.entry other ≠ none := by
    intro hnone
    exact hother (hpruned.entry_none hnone)
  have hlength :=
    hdeep other ((List.prefix_append _ _).trans hextends) hbefore
  simp only [List.length_append, List.length_singleton]
  omega

theorem clearChildren_spec
    {remove : Path → DiskEffect Unit}
    (hresolve : before.resolve limit path = some place)
    (hremove : ∀ name state, FileTree.Pruned (Below place) before state →
      state.locate limit (path ++ [name]) = some (place ++ [name]) →
      state.entry (place ++ [name]) = some .directory →
      Ends (remove (path ++ [name])) state
        (fun _ => Removed (place ++ [name]) state)
        (Stopped (place ++ [name]) state)) :
    Ends (((before.names place).map fun name => path ++ [name]).forM
        (removeChild limit remove)) before
      (fun _ => Clearing place before []) (Stopped place before) := by
  rw [List.forM_eq_forM, List.forM_map, ← List.forM_eq_forM]
  refine ends_forM ?_ clearing_start
  intro name rest state hclearing
  have hstate : state.resolve limit path = some place := by
    rw [FileTree.resolve_congr hclearing.pruned.target_eq, hresolve]
  have hname : state.entry (place ++ [name]) ≠ none := by
    rw [hclearing.kept name List.mem_cons_self _ List.prefix_rfl]
    exact hclearing.listed name List.mem_cons_self
  refine (removeChild_spec ?_ hstate hname).mono ?_ ?_
  · exact hremove name state hclearing.pruned (locate_child hstate)
  · intro _ after hremoved
    exact hclearing.next hremoved
  · intro failure after hstopped
    exact hclearing.stopped hstopped

theorem Clearing.entry_below
    {state : Disk} {other : Path}
    (hclearing : Clearing place before [] state) (hbelow : Below place other) :
    state.entry other = none := by
  obtain ⟨name, hchild⟩ := exists_child hbelow
  exact (hclearing.cleared name (by simp)).1 other hchild

/-- A cleared directory can be removed, which removes the last of the tree. -/
theorem Clearing.rmdir_spec
    {state : Disk}
    (hclearing : Clearing place before [] state)
    (hroot : place ≠ [])
    (hlocate : before.locate limit path = some place)
    (hentry : before.entry place = some .directory) :
    Ends (rmdir limit path) state (fun _ => Removed place before)
      (Stopped place before) := by
  have hplace : state.entry place = some .directory := by
    rw [hclearing.pruned.entry_of_not_region fun hbelow => hbelow.2 rfl, hentry]
  have hempty : state.names place = [] := by
    refine List.eq_nil_iff_forall_not_mem.mpr ?_
    intro name hname
    exact FileTree.mem_names.mp hname
      (hclearing.entry_below (below_child List.prefix_rfl))
  obtain ⟨after, hrmdir, hpruned, hgone⟩ :=
    FileTree.rmdir_empty hplace hroot hempty
  have hupdate : (state.locate limit path).bind state.rmdir = some after := by
    rw [FileTree.locate_congr hclearing.pruned.target_eq, hlocate,
      Option.bind_some, hrmdir]
  refine ends_change ?_ ?_
  · intro found hfound
    rw [hupdate] at hfound
    obtain rfl := Option.some.inj hfound
    refine ⟨(hclearing.pruned.mono fun _ => And.left).trans (hpruned.mono ?_),
      ?_, ?_⟩
    · rintro other rfl
      exact List.prefix_rfl
    · intro other hextends
      by_cases hother : other = place
      · rw [hother, hgone]
      · exact hpruned.entry_none (hclearing.entry_below ⟨hextends, hother⟩)
    · rw [FileTree.holdsIrregular_iff]
      rintro ⟨other, entry, hextends, hfound, hirregular⟩
      by_cases hother : other = place
      · rw [hother, hentry] at hfound
        obtain rfl := Option.some.inj hfound
        exact hirregular trivial
      · obtain ⟨name, hchild⟩ := exists_child ⟨hextends, hother⟩
        refine (hclearing.cleared name (by simp)).2 ?_
        rw [FileTree.holdsIrregular_iff]
        exact ⟨other, entry, hchild, hfound, hirregular⟩
  · intro hnone
    rw [hupdate] at hnone
    cases hnone

theorem children_eq
    (hresolve : before.resolve limit path = some place)
    (hentry : before.entry place = some .directory) :
    children limit path before =
      some ((before.names place).map fun name => path ++ [name]) := by
  simp [children, hresolve, hentry]

theorem children_eq_none
    (hresolve : before.resolve limit path = some place)
    (hentry : before.entry place ≠ some .directory) :
    children limit path before = none := by
  simp [children, hresolve]

/-- What `removeTree` does at a directory up to the removal of the directory
itself. -/
theorem removeTree_children
    {fuel : ℕ} {done : Unit → Disk → Prop} {failed : Failure → Disk → Prop}
    (hlocate : before.locate limit path = some place)
    (hentry : before.entry place = some .directory)
    (hremove : ∀ name state, FileTree.Pruned (Below place) before state →
      state.locate limit (path ++ [name]) = some (place ++ [name]) →
      state.entry (place ++ [name]) = some .directory →
      Ends (removeTree limit fuel (path ++ [name])) state
        (fun _ => Removed (place ++ [name]) state)
        (Stopped (place ++ [name]) state))
    (hstopped : ∀ failure after, Stopped place before failure after →
      failed failure after)
    (hrmdir : ∀ state, Clearing place before [] state →
      Ends (rmdir limit path) state done failed) :
    Ends (removeTree limit (fuel + 1) path) before done failed := by
  have hresolve := FileTree.resolve_of_locate
    (FileTree.target_of_directory hentry) hlocate
  refine ends_inspect_bind ?_
  rw [lstat_eq hlocate, hentry]
  refine ends_failIf_false_bind (ends_need_bind ?_ ?_)
  · intro found hfound
    rw [children_eq hresolve hentry] at hfound
    obtain rfl := Option.some.inj hfound
    have hclear :=
      (clearChildren_spec hresolve hremove).mono (fun _ _ => id) hstopped
    refine hclear.bind ?_
    intro _ state hclearing
    exact hrmdir state hclearing
  · intro hnone
    rw [children_eq hresolve hentry] at hnone
    cases hnone

theorem removeTree_spec
    {fuel : ℕ} (hroot : place ≠ [])
    (hlocate : before.locate limit path = some place)
    (hentry : before.entry place = some .directory)
    (hdeep : NoDeeper place fuel before) :
    Ends (removeTree limit fuel path) before
      (fun _ => Removed place before) (Stopped place before) := by
  induction fuel generalizing path place before with
  | zero =>
      have hlength := hdeep place List.prefix_rfl (by simp [hentry])
      omega
  | succ fuel ih =>
      refine removeTree_children hlocate hentry ?_ (fun _ _ => id) ?_
      · intro name state hpruned hchild hdirectory
        exact ih (by simp) hchild hdirectory (hdeep.child hpruned)
      · intro state hclearing
        exact hclearing.rmdir_spec hroot hlocate hentry

theorem removeTree_root
    {fuel : ℕ} (hlocate : before.locate limit path = some [])
    (hdeep : NoDeeper [] fuel before) :
    Ends (removeTree limit fuel path) before (fun _ _ => False)
      (fun _ after => FileTree.Pruned (Below []) before after) := by
  cases fuel with
  | zero =>
      have hlength := hdeep [] List.prefix_rfl (by simp)
      omega
  | succ fuel =>
      refine removeTree_children hlocate FileTree.entry_root ?_ ?_ ?_
      · intro name state hpruned hchild hdirectory
        exact removeTree_spec (by simp) hchild hdirectory (hdeep.child hpruned)
      · intro failure after hstopped
        exact hstopped.1
      · intro state hclearing
        have hupdate : (state.locate limit path).bind state.rmdir = none := by
          rw [FileTree.locate_congr hclearing.pruned.target_eq, hlocate,
            Option.bind_some, FileTree.rmdir_root]
        refine ends_change ?_ ?_
        · intro after hafter
          rw [hupdate] at hafter
          cases hafter
        · intro _
          exact hclearing.pruned

/-- What is no directory cannot be listed, and a reparse point is not. -/
theorem removeTree_not_directory
    {fuel : ℕ} (hlocate : before.locate limit path = some place)
    (hentry : before.entry place ≠ some .directory) :
    Ends (removeTree limit (fuel + 1) path) before (fun _ _ => False)
      (fun _ after => after = before) := by
  refine ends_inspect_bind (ends_failIf_bind (fun _ => rfl) ?_)
  intro hreparse
  rw [lstat_eq hlocate] at hreparse
  have hresolve : before.resolve limit path = some place := by
    refine FileTree.resolve_of_locate (target_none ?_) hlocate
    intro target htarget
    simp [htarget] at hreparse
  refine ends_need_bind ?_ (fun _ => rfl)
  intro found hfound
  rw [children_eq_none hresolve hentry] at hfound
  cases hfound

theorem removeTree_unresolved
    {fuel : ℕ} (hlocate : before.locate limit path = none) :
    Ends (removeTree limit (fuel + 1) path) before (fun _ _ => False)
      (fun failure after => failure = .exception ∧ after = before) := by
  refine ends_inspect_bind ?_
  unfold lstat
  rw [hlocate]
  refine ends_failIf_false_bind (ends_need_bind ?_ fun _ => ⟨rfl, rfl⟩)
  intro found hfound
  unfold children at hfound
  rw [FileTree.resolve_of_locate_none hlocate] at hfound
  cases hfound

end Clearing

/-- What `_remove_regular_tree` returns and leaves, for the place its path
names. -/
structure Removal (before : Disk) (place : Path)
    (result : Except Failure Unit) (after : Disk) : Prop where
  succeeds : result = .ok () ↔
    place ≠ [] ∧ before.entry place = some .directory ∧
      ¬ before.HoldsIrregular place
  removed : result = .ok () → ∀ other, place <+: other →
    after.entry other = none
  exits : place ≠ [] → before.entry place = some .directory →
    ∀ failure, result = .error failure → failure.IsExit
  outside : ∀ other, ¬ before.Reached place other →
    after.entry other = before.entry other
  irregular : ∀ other entry, before.entry other = some entry →
    ¬ entry.Regular → after.entry other = some entry
  partly : ∀ other, after.entry other = before.entry other ∨
    after.entry other = none

section Removal

variable {limit : ℕ} {path place : Path} {before after : Disk}

theorem Removed.removal (hremoved : Removed place before after)
    (hroot : place ≠ []) (hentry : before.entry place = some .directory) :
    Removal before place (.ok ()) after := by
  obtain ⟨hpruned, hgone, hregular⟩ := hremoved
  exact {
    succeeds := iff_of_true rfl ⟨hroot, hentry, hregular⟩
    removed := fun _ => hgone
    exits := by
      rintro _ _ failure ⟨⟩
    outside := fun _ => hpruned.entry_of_not_reached
    irregular := fun _ _ => hpruned.entry_irregular
    partly := fun _ => hpruned.same_or_gone }

theorem removal_of_failure
    {failure : Failure}
    (hpruned : FileTree.Pruned (place <+: ·) before after)
    (hcause : place ≠ [] → before.entry place = some .directory →
      before.HoldsIrregular place ∧ failure.IsExit) :
    Removal before place (.error failure) after where
  succeeds := by
    refine iff_of_false (by simp) ?_
    rintro ⟨hroot, hentry, hregular⟩
    exact hregular (hcause hroot hentry).1
  removed := by
    rintro ⟨⟩
  exits := by
    rintro hroot hentry other hother
    obtain rfl := Except.error.inj hother
    exact (hcause hroot hentry).2
  outside _ := hpruned.entry_of_not_reached
  irregular _ _ := hpruned.entry_irregular
  partly _ := hpruned.same_or_gone

theorem noDeeper_depth : NoDeeper place (before.depth + 1) before := by
  intro other _ hother
  have hlength := FileTree.length_le_depth hother
  omega

theorem removeRegularTree_spec
    (hlocate : before.locate limit path = some place) :
    Ends (removeRegularTree limit path) before
      (fun _ => Removal before place (.ok ()))
      (fun failure => Removal before place (.error failure)) := by
  refine ends_inspect_bind ?_
  by_cases hentry : before.entry place = some .directory
  · by_cases hroot : place = []
    · subst hroot
      refine (removeTree_root hlocate noDeeper_depth).mono ?_ ?_
      · intro _ after hfalse
        exact hfalse.elim
      · intro failure after hpruned
        exact removal_of_failure (hpruned.mono fun _ => And.left)
          fun hroot => absurd rfl hroot
    · refine (removeTree_spec hroot hlocate hentry noDeeper_depth).mono ?_ ?_
      · intro _ after hremoved
        exact hremoved.removal hroot hentry
      · rintro failure after ⟨hpruned, hcause⟩
        exact removal_of_failure (hpruned.mono fun _ => And.left)
          fun _ _ => hcause
  · refine (removeTree_not_directory hlocate hentry).mono ?_ ?_
    · intro _ after hfalse
      exact hfalse.elim
    · rintro failure after rfl
      exact removal_of_failure (.refl _ after)
        fun _ hdirectory => absurd hdirectory hentry

end Removal

end Revana.Scripts
