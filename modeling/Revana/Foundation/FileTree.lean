import Mathlib.Data.List.AList
import Mathlib.Tactic

/-!
# File trees

A file tree keeps one entry for each place it knows; a place is the names that
lead to it from the root.  What lies in a directory lies in a directory of the
tree, so that no entry hangs in the air.  A reparse point leads elsewhere and
has nothing below it.
-/

namespace Foundation

/-- What a place of a file tree holds.  A reparse point names the path it leads
to, from the root. -/
inductive Entry (α β : Type) where
  | file (content : β)
  | directory
  | reparsePoint (target : List α)
  | other
  deriving DecidableEq, Repr

namespace Entry

variable {α β : Type}

def Regular : Entry α β → Prop
  | file _ => True
  | directory => True
  | reparsePoint _ => False
  | other => False

end Entry

structure FileTree (α β : Type) [DecidableEq α] where
  entries : AList fun _ : List α => Entry α β
  root : entries.lookup [] = some .directory
  closed : ∀ place name, place ++ [name] ∈ entries →
    entries.lookup place = some .directory

namespace FileTree

variable {α β : Type} [DecidableEq α]

def entry (tree : FileTree α β) (place : List α) : Option (Entry α β) :=
  tree.entries.lookup place

/-- The names in a directory, in the order in which the tree lists them. -/
def names (tree : FileTree α β) (place : List α) : List α :=
  tree.entries.keys.filterMap fun key =>
    if key.dropLast = place then key.getLast? else none

/-- No place of the tree is deeper than this. -/
def depth (tree : FileTree α β) : ℕ :=
  (tree.entries.keys.map List.length).foldr max 0

variable {tree : FileTree α β} {place other : List α} {name : α}

@[simp] theorem entry_root : tree.entry [] = some .directory := tree.root

theorem entry_parent (hentry : tree.entry (place ++ [name]) ≠ none) :
    tree.entry place = some .directory := by
  refine tree.closed place name ?_
  by_contra hmem
  exact hentry (AList.lookup_eq_none.mpr hmem)

/-- Above an entry there are directories only. -/
theorem entry_above
    (hextends : place <+: other) (hne : other ≠ place)
    (hentry : tree.entry other ≠ none) :
    tree.entry place = some .directory := by
  obtain ⟨below, rfl⟩ := hextends
  induction below using List.reverseRecOn with
  | nil => exact absurd (List.append_nil place) hne
  | append_singleton below name ih =>
      rw [← List.append_assoc] at hentry
      have hparent := entry_parent hentry
      by_cases hbelow : below = []
      · rw [hbelow, List.append_nil] at hparent
        exact hparent
      · refine ih ?_ ?_
        · intro hsame
          exact hbelow (List.append_right_eq_self.mp hsame)
        · rw [hparent]
          exact Option.some_ne_none _

/-- The places reached from one through directories alone. -/
inductive Reached (tree : FileTree α β) (place : List α) : List α → Prop where
  | here : Reached tree place place
  | step {parent : List α} {name : α} :
      Reached tree place parent → tree.entry parent = some .directory →
        Reached tree place (parent ++ [name])

theorem Reached.isPrefix (hreached : tree.Reached place other) :
    place <+: other := by
  induction hreached with
  | here => exact List.prefix_rfl
  | step _ _ ih => exact ih.trans (List.prefix_append _ _)

theorem reached_of_entry
    (hextends : place <+: other) (hentry : tree.entry other ≠ none) :
    tree.Reached place other := by
  obtain ⟨below, rfl⟩ := hextends
  induction below using List.reverseRecOn with
  | nil =>
      rw [List.append_nil]
      exact .here
  | append_singleton below name ih =>
      rw [← List.append_assoc] at hentry ⊢
      have hparent := entry_parent hentry
      refine .step (ih ?_) hparent
      rw [hparent]
      exact Option.some_ne_none _

/-- A place is, or holds at any depth, neither a file nor a directory. -/
def HoldsIrregular (tree : FileTree α β) (place : List α) : Prop :=
  ∃ other entry, tree.Reached place other ∧ tree.entry other = some entry ∧
    ¬ entry.Regular

theorem holdsIrregular_iff :
    tree.HoldsIrregular place ↔
      ∃ other entry, place <+: other ∧ tree.entry other = some entry ∧
        ¬ entry.Regular := by
  constructor
  · rintro ⟨other, entry, hreached, hentry, hirregular⟩
    exact ⟨other, entry, hreached.isPrefix, hentry, hirregular⟩
  · rintro ⟨other, entry, hextends, hentry, hirregular⟩
    refine ⟨other, entry, reached_of_entry hextends ?_, hentry, hirregular⟩
    rw [hentry]
    exact Option.some_ne_none _

theorem holdsIrregular_congr
    {before after : FileTree α β}
    (hsame : ∀ other, place <+: other → after.entry other = before.entry other) :
    after.HoldsIrregular place ↔ before.HoldsIrregular place := by
  rw [holdsIrregular_iff, holdsIrregular_iff]
  constructor
  · rintro ⟨other, entry, hextends, hentry, hirregular⟩
    rw [hsame other hextends] at hentry
    exact ⟨other, entry, hextends, hentry, hirregular⟩
  · rintro ⟨other, entry, hextends, hentry, hirregular⟩
    rw [← hsame other hextends] at hentry
    exact ⟨other, entry, hextends, hentry, hirregular⟩

theorem mem_names :
    name ∈ tree.names place ↔ tree.entry (place ++ [name]) ≠ none := by
  unfold names entry
  rw [List.mem_filterMap, Ne, AList.lookup_eq_none, not_not, AList.mem_keys]
  constructor
  · rintro ⟨key, hkey, hname⟩
    split_ifs at hname with hplace
    rwa [← hplace, List.dropLast_append_getLast? name hname]
  · intro hkey
    refine ⟨place ++ [name], hkey, ?_⟩
    rw [if_pos List.dropLast_concat, List.getLast?_concat]

theorem nodup_names : (tree.names place).Nodup := by
  refine tree.entries.keys_nodup.filterMap ?_
  intro first second name hfirst hsecond
  split_ifs at hfirst with hplace
  · split_ifs at hsecond with hother
    · rw [← List.dropLast_append_getLast? name hfirst,
        ← List.dropLast_append_getLast? name hsecond, hplace, hother]
    · cases hsecond
  · cases hfirst

theorem length_le_depth (hentry : tree.entry place ≠ none) :
    place.length ≤ tree.depth := by
  have hkey : place ∈ tree.entries.keys := by
    by_contra hmem
    exact hentry (AList.lookup_eq_none.mpr hmem)
  exact List.le_max_of_le (List.mem_map_of_mem hkey) le_rfl

theorem names_of_not_directory (hentry : tree.entry place ≠ some .directory) :
    tree.names place = [] := by
  refine List.eq_nil_iff_forall_not_mem.mpr ?_
  intro name hname
  exact hentry (entry_parent (mem_names.mp hname))

/-! ## Changes -/

def bare : FileTree α β where
  entries := AList.singleton [] .directory
  root := by
    rw [← AList.insert_empty]
    exact AList.lookup_insert _
  closed := by
    intro place name hmem
    rw [AList.mem_keys, AList.keys_singleton] at hmem
    simp at hmem

/-- Take away the entry at a place that has nothing below it. -/
def erase (tree : FileTree α β) (place : List α)
    (hroot : place ≠ []) (hleaf : tree.names place = []) : FileTree α β where
  entries := tree.entries.erase place
  root := by
    rw [AList.lookup_erase_ne hroot.symm]
    exact tree.root
  closed := by
    intro parent name hmem
    obtain ⟨-, hold⟩ := AList.mem_erase.mp hmem
    have hparent : parent ≠ place := by
      rintro rfl
      have hname : name ∈ tree.names parent :=
        mem_names.mpr fun hnone => AList.lookup_eq_none.mp hnone hold
      rw [hleaf] at hname
      cases hname
    rw [AList.lookup_erase_ne hparent]
    exact tree.closed parent name hold

def eraseLeaf (tree : FileTree α β) (place : List α) : Option (FileTree α β) :=
  if hplace : place ≠ [] ∧ tree.names place = [] then
    some (tree.erase place hplace.1 hplace.2)
  else
    none

/-- Take away anything but a directory. -/
def unlink (tree : FileTree α β) (place : List α) : Option (FileTree α β) :=
  match tree.entry place with
  | none => none
  | some .directory => none
  | some _ => tree.eraseLeaf place

/-- Take away an empty directory, which the root never is. -/
def rmdir (tree : FileTree α β) (place : List α) : Option (FileTree α β) :=
  match tree.entry place with
  | some .directory => tree.eraseLeaf place
  | _ => none

/-- Put an entry at a free place in a directory. -/
def insert (tree : FileTree α β) (place : List α) (entry : Entry α β)
    (hfree : tree.entry place = none)
    (hparent : tree.entry place.dropLast = some .directory) :
    FileTree α β where
  entries := tree.entries.insert place entry
  root := by
    have hplace : [] ≠ place := by
      rintro rfl
      rw [entry_root] at hfree
      cases hfree
    rw [AList.lookup_insert_ne hplace]
    exact tree.root
  closed := by
    intro parent name hmem
    rcases (AList.mem_insert _).mp hmem with hplace | hmem
    · subst hplace
      rw [List.dropLast_concat] at hparent
      rw [AList.lookup_insert_ne (by simp)]
      exact hparent
    · have hold := tree.closed parent name hmem
      rw [AList.lookup_insert_ne]
      · exact hold
      · rintro rfl
        rw [FileTree.entry, hold] at hfree
        cases hfree

inductive Making (α β : Type) [DecidableEq α] where
  | made (tree : FileTree α β)
  | noParent
  | refused

def mkdir (tree : FileTree α β) (place : List α) : Making α β :=
  if hfree : tree.entry place = none then
    match hparent : tree.entry place.dropLast with
    | some .directory => .made (tree.insert place .directory hfree hparent)
    | some _ => .refused
    | none => .noParent
  else
    .refused

theorem eraseLeaf_eq_some
    (hroot : place ≠ []) (hleaf : tree.names place = []) :
    ∃ after, tree.eraseLeaf place = some after ∧
      ∀ other, after.entry other =
        if other = place then none else tree.entry other := by
  refine ⟨tree.erase place hroot hleaf, dif_pos ⟨hroot, hleaf⟩, ?_⟩
  intro other
  split_ifs with hother
  · rw [hother]
    exact AList.lookup_erase place tree.entries
  · exact AList.lookup_erase_ne hother

/-! ## Pruning -/

/-- Some files and directories at places of the region are gone, and nothing
else has changed. -/
def Pruned (region : List α → Prop) (before after : FileTree α β) : Prop :=
  ∀ other, after.entry other = before.entry other ∨
    region other ∧ after.entry other = none ∧
      ∃ entry, before.entry other = some entry ∧ entry.Regular

section Pruned

variable {region wider : List α → Prop} {before mid after : FileTree α β}

theorem Pruned.refl (region : List α → Prop) (tree : FileTree α β) :
    Pruned region tree tree := by
  intro other
  exact Or.inl rfl

theorem Pruned.trans
    (hfirst : Pruned region before mid) (hsecond : Pruned region mid after) :
    Pruned region before after := by
  intro other
  rcases hfirst other with hmid | ⟨hregion, hmid, hbefore⟩
  · rw [← hmid]
    exact hsecond other
  · refine Or.inr ⟨hregion, ?_, hbefore⟩
    rcases hsecond other with hafter | ⟨-, hafter, -⟩
    · rw [hafter, hmid]
    · exact hafter

theorem Pruned.mono
    (hpruned : Pruned region before after)
    (hwider : ∀ other, region other → wider other) :
    Pruned wider before after := by
  intro other
  rcases hpruned other with hsame | ⟨hregion, hgone⟩
  · exact Or.inl hsame
  · exact Or.inr ⟨hwider other hregion, hgone⟩

theorem Pruned.entry_of_not_region
    (hpruned : Pruned region before after) (hregion : ¬ region place) :
    after.entry place = before.entry place := by
  rcases hpruned place with hsame | ⟨hin, -⟩
  · exact hsame
  · exact absurd hin hregion

theorem Pruned.entry_before
    (hpruned : Pruned region before after) {entry : Entry α β}
    (hentry : after.entry place = some entry) :
    before.entry place = some entry := by
  rcases hpruned place with hsame | ⟨-, hgone, -⟩
  · rwa [hsame] at hentry
  · rw [hgone] at hentry
    cases hentry

/-- Nothing is touched that is not reached through directories alone. -/
theorem Pruned.entry_of_not_reached
    (hpruned : Pruned (place <+: ·) before after)
    (hreached : ¬ before.Reached place other) :
    after.entry other = before.entry other := by
  rcases hpruned other with hsame | ⟨hextends, -, entry, hentry, -⟩
  · exact hsame
  · refine absurd (reached_of_entry hextends ?_) hreached
    rw [hentry]
    exact Option.some_ne_none _

theorem Pruned.same_or_gone (hpruned : Pruned region before after) :
    after.entry other = before.entry other ∨ after.entry other = none := by
  rcases hpruned other with hsame | ⟨-, hgone, -⟩
  · exact Or.inl hsame
  · exact Or.inr hgone

theorem Pruned.entry_none
    (hpruned : Pruned region before after) (hentry : before.entry place = none) :
    after.entry place = none := by
  rcases hpruned place with hsame | ⟨-, hgone, -⟩
  · rw [hsame, hentry]
  · exact hgone

/-- What is irregular after was irregular before, seen from above too. -/
theorem Pruned.holdsIrregular
    (hpruned : Pruned region before after) (hextends : place <+: other)
    (hholds : after.HoldsIrregular other) :
    before.HoldsIrregular place := by
  rw [holdsIrregular_iff] at hholds ⊢
  obtain ⟨found, entry, hfound, hentry, hirregular⟩ := hholds
  exact ⟨found, entry, hextends.trans hfound, hpruned.entry_before hentry,
    hirregular⟩

theorem Pruned.entry_irregular
    (hpruned : Pruned region before after) {entry : Entry α β}
    (hentry : before.entry place = some entry) (hirregular : ¬ entry.Regular) :
    after.entry place = some entry := by
  rcases hpruned place with hsame | ⟨-, -, regular, hbefore, hregular⟩
  · rw [hsame, hentry]
  · rw [hentry] at hbefore
    obtain rfl := Option.some.inj hbefore
    exact absurd hregular hirregular

theorem pruned_eraseLeaf
    (hroot : place ≠ []) (hleaf : before.names place = [])
    {entry : Entry α β} (hentry : before.entry place = some entry)
    (hregular : entry.Regular) :
    ∃ after, before.eraseLeaf place = some after ∧
      Pruned (· = place) before after ∧ after.entry place = none := by
  obtain ⟨after, herase, hafter⟩ := eraseLeaf_eq_some hroot hleaf
  refine ⟨after, herase, ?_, ?_⟩
  · intro other
    rw [hafter]
    split_ifs with hother
    · rw [hother]
      exact Or.inr ⟨rfl, rfl, entry, hentry, hregular⟩
    · exact Or.inl rfl
  · rw [hafter, if_pos rfl]

theorem unlink_file
    {content : β} (hentry : before.entry place = some (.file content)) :
    ∃ after, before.unlink place = some after ∧
      Pruned (· = place) before after ∧ after.entry place = none := by
  have hroot : place ≠ [] := by
    rintro rfl
    rw [entry_root] at hentry
    cases hentry
  have hleaf : before.names place = [] := by
    refine names_of_not_directory ?_
    rw [hentry]
    rintro ⟨⟩
  unfold unlink
  rw [hentry]
  exact pruned_eraseLeaf hroot hleaf hentry trivial

theorem rmdir_empty
    (hentry : before.entry place = some .directory)
    (hroot : place ≠ []) (hempty : before.names place = []) :
    ∃ after, before.rmdir place = some after ∧
      Pruned (· = place) before after ∧ after.entry place = none := by
  unfold rmdir
  rw [hentry]
  exact pruned_eraseLeaf hroot hempty hentry trivial

end Pruned

theorem rmdir_root : tree.rmdir [] = none := by
  unfold rmdir eraseLeaf
  rw [entry_root]
  exact dif_neg fun hroot => hroot.1 rfl

/-! ## Growing -/

/-- Some directories are new, and nothing else has changed. -/
def Grown (before after : FileTree α β) : Prop :=
  ∀ other, after.entry other = before.entry other ∨
    before.entry other = none ∧ after.entry other = some .directory

section Grown

variable {before mid after : FileTree α β}

theorem Grown.refl (tree : FileTree α β) : Grown tree tree := by
  intro other
  exact Or.inl rfl

theorem Grown.trans (hfirst : Grown before mid) (hsecond : Grown mid after) :
    Grown before after := by
  intro other
  rcases hsecond other with hsame | ⟨hnone, hdirectory⟩
  · rw [hsame]
    exact hfirst other
  · rcases hfirst other with hmid | ⟨-, hmid⟩
    · rw [← hmid]
      exact Or.inr ⟨hnone, hdirectory⟩
    · rw [hnone] at hmid
      cases hmid

theorem Grown.entry_of_some
    (hgrown : Grown before after) {entry : Entry α β}
    (hentry : before.entry place = some entry) :
    after.entry place = some entry := by
  rcases hgrown place with hsame | ⟨hnone, -⟩
  · rw [hsame, hentry]
  · rw [hentry] at hnone
    cases hnone

theorem mkdir_eq_made (hmade : before.mkdir place = .made after) :
    before.entry place = none ∧ ∀ other, after.entry other =
      if other = place then some .directory else before.entry other := by
  unfold mkdir at hmade
  split_ifs at hmade with hfree
  split at hmade
  · obtain rfl := Making.made.inj hmade
    refine ⟨hfree, ?_⟩
    intro other
    split_ifs with hother
    · rw [hother]
      exact AList.lookup_insert _
    · exact AList.lookup_insert_ne hother
  · cases hmade
  · cases hmade

theorem grown_of_mkdir (hmade : before.mkdir place = .made after) :
    Grown before after := by
  obtain ⟨hfree, hafter⟩ := mkdir_eq_made hmade
  intro other
  rw [hafter]
  split_ifs with hother
  · rw [hother]
    exact Or.inr ⟨hfree, rfl⟩
  · exact Or.inl rfl

theorem mkdir_of_free
    (hfree : before.entry place = none)
    (hparent : before.entry place.dropLast = some .directory) :
    ∃ after, before.mkdir place = .made after := by
  unfold mkdir
  rw [dif_pos hfree]
  split
  · exact ⟨_, rfl⟩
  · rename_i found hother hfound
    rw [hparent] at hfound
    exact absurd (Option.some.inj hfound).symm hother
  · rename_i hnone
    rw [hparent] at hnone
    cases hnone

end Grown

end FileTree

end Foundation
