import Revana.Foundation.LinkedPath

/-!
# Writing files

What a program that makes directories and writes files does to a tree: the
entries outside of the region it writes to stay, and no reparse point is made
or lost, so that paths lead where they led.  Below a directory of its own such
a program lays its entries over an otherwise unchanged tree.
-/

namespace Foundation

namespace FileTree

variable {α β : Type} [DecidableEq α]

/-- Put other content into a file. -/
def overwrite (tree : FileTree α β) (place : List α) (content : β)
    (hfile : ∃ old, tree.entry place = some (.file old)) : FileTree α β where
  entries := tree.entries.insert place (.file content)
  root := by
    have hplace : [] ≠ place := by
      rintro rfl
      obtain ⟨old, hold⟩ := hfile
      rw [entry_root] at hold
      cases hold
    rw [AList.lookup_insert_ne hplace]
    exact tree.root
  closed := by
    obtain ⟨old, hold⟩ := hfile
    intro parent name hmem
    have hchild : tree.entry (parent ++ [name]) ≠ none := by
      rcases (AList.mem_insert _).mp hmem with hplace | hmem
      · rw [hplace, hold]
        exact Option.some_ne_none _
      · exact fun hnone => AList.lookup_eq_none.mp hnone hmem
    have hparent := entry_parent hchild
    rw [AList.lookup_insert_ne]
    · exact hparent
    · rintro rfl
      rw [hold] at hparent
      cases hparent

/-- Open for writing, write and close: a file is made or overwritten. -/
def write (tree : FileTree α β) (place : List α) (content : β) :
    Option (FileTree α β) :=
  match hentry : tree.entry place with
  | none =>
      match hparent : tree.entry place.dropLast with
      | some .directory =>
          some (tree.insert place (.file content) hentry hparent)
      | _ => none
  | some (.file old) => some (tree.overwrite place content ⟨old, hentry⟩)
  | some _ => none

/-- Nothing irregular lies here. -/
def Plain (tree : FileTree α β) (place : List α) : Prop :=
  ∀ entry, tree.entry place = some entry → entry.Regular

/-- Where directories may be made, and where all else may change. -/
structure Region (α : Type) where
  made : List α → Prop
  touched : List α → Prop

variable {tree before mid after : FileTree α β} {place other : List α}
  {content : β} {made wider : List α → Prop} {region : Region α}

theorem write_eq_some (hwrite : before.write place content = some after) :
    before.Plain place ∧ ∀ other, after.entry other =
      if other = place then some (.file content) else before.entry other := by
  unfold write at hwrite
  split at hwrite
  · rename_i hentry
    split at hwrite
    · obtain rfl := Option.some.inj hwrite
      refine ⟨?_, ?_⟩
      · intro entry hsome
        rw [hentry] at hsome
        cases hsome
      · intro other
        split_ifs with hother
        · rw [hother]
          exact AList.lookup_insert _
        · exact AList.lookup_insert_ne hother
    · cases hwrite
  · rename_i old hentry
    obtain rfl := Option.some.inj hwrite
    refine ⟨?_, ?_⟩
    · intro entry hsome
      rw [hentry] at hsome
      obtain rfl := Option.some.inj hsome
      trivial
    · intro other
      split_ifs with hother
      · rw [hother]
        exact AList.lookup_insert _
      · exact AList.lookup_insert_ne hother
  · cases hwrite

/-! ## What stays -/

/-- Outside of the region nothing is new or lost, and what was irregular
stays. -/
def Changed (region : Region α) (before after : FileTree α β) : Prop :=
  ∀ other, after.entry other = before.entry other ∨
    (before.entry other = none ∧ after.entry other = some .directory ∧
      region.made other) ∨
    (region.touched other ∧ before.Plain other ∧ after.Plain other)

/-- Nothing but directories at such places is new. -/
def MadeAt (made : List α → Prop) (before after : FileTree α β) : Prop :=
  ∀ other, after.entry other = before.entry other ∨
    (before.entry other = none ∧ after.entry other = some .directory ∧
      made other)

theorem plain_congr (hentry : after.entry place = before.entry place) :
    after.Plain place ↔ before.Plain place := by
  unfold Plain
  rw [hentry]

theorem plain_of_none (hentry : tree.entry place = none) :
    tree.Plain place := by
  intro entry hsome
  rw [hentry] at hsome
  cases hsome

theorem plain_of_directory (hentry : tree.entry place = some .directory) :
    tree.Plain place := by
  intro entry hsome
  rw [hentry] at hsome
  obtain rfl := Option.some.inj hsome
  trivial

theorem plain_of_file (hentry : tree.entry place = some (.file content)) :
    tree.Plain place := by
  intro entry hsome
  rw [hentry] at hsome
  obtain rfl := Option.some.inj hsome
  trivial

theorem MadeAt.refl (made : List α → Prop) (tree : FileTree α β) :
    MadeAt made tree tree :=
  fun _ => Or.inl rfl

theorem MadeAt.trans
    (hfirst : MadeAt made before mid) (hsecond : MadeAt made mid after) :
    MadeAt made before after := by
  intro other
  rcases hsecond other with hafter | ⟨hfree, hafter, hmade⟩
  · rw [hafter]
    exact hfirst other
  · rcases hfirst other with hmid | ⟨-, hmid, -⟩
    · exact Or.inr ⟨hmid ▸ hfree, hafter, hmade⟩
    · rw [hmid] at hfree
      cases hfree

theorem MadeAt.mono
    (hmade : MadeAt made before after)
    (hwider : ∀ other, made other → wider other) :
    MadeAt wider before after := by
  intro other
  exact (hmade other).imp_right
    (And.imp_right (And.imp_right (hwider other)))

theorem MadeAt.grown (hmade : MadeAt made before after) :
    Grown before after := by
  intro other
  exact (hmade other).imp_right fun hnew => ⟨hnew.1, hnew.2.1⟩

theorem MadeAt.changed (hmade : MadeAt region.made before after) :
    Changed region before after := by
  intro other
  exact (hmade other).imp_right Or.inl

theorem Changed.refl (region : Region α) (tree : FileTree α β) :
    Changed region tree tree :=
  fun _ => Or.inl rfl

theorem Changed.trans
    (hfirst : Changed region before mid) (hsecond : Changed region mid after) :
    Changed region before after := by
  intro other
  rcases hfirst other with hmid | ⟨hnone, hmid, hmade⟩ |
    ⟨hregion, hbefore, hmid⟩
  · rw [← hmid, ← plain_congr hmid]
    exact hsecond other
  · rcases hsecond other with hafter | ⟨hfree, -⟩ | ⟨hregion, -, hafter⟩
    · rw [hafter]
      exact Or.inr (Or.inl ⟨hnone, hmid, hmade⟩)
    · rw [hmid] at hfree
      cases hfree
    · exact Or.inr (Or.inr ⟨hregion, plain_of_none hnone, hafter⟩)
  · refine Or.inr (Or.inr ⟨hregion, hbefore, ?_⟩)
    rcases hsecond other with hafter | ⟨-, hafter, -⟩ | ⟨-, -, hafter⟩
    · exact (plain_congr hafter).mpr hmid
    · exact plain_of_directory hafter
    · exact hafter

theorem Changed.mono
    (hchanged : Changed region before after) {larger : Region α}
    (hmade : ∀ other, region.made other → larger.made other)
    (htouched : ∀ other, region.touched other → larger.touched other) :
    Changed larger before after := by
  intro other
  refine (hchanged other).imp_right (Or.imp ?_ ?_)
  · exact And.imp_right (And.imp_right (hmade other))
  · exact And.imp_left (htouched other)

theorem Pruned.changed (hpruned : Pruned region.touched before after) :
    Changed region before after := by
  intro other
  refine (hpruned other).imp_right ?_
  rintro ⟨hregion, hgone, entry, hentry, hregular⟩
  refine Or.inr ⟨hregion, ?_, plain_of_none hgone⟩
  intro found hfound
  rw [hentry] at hfound
  obtain rfl := Option.some.inj hfound
  exact hregular

/-- Paths lead where they led. -/
theorem Changed.target_eq (hchanged : Changed region before after) :
    after.target = before.target := by
  have hplain {tree : FileTree α β} {place target : List α}
      (hregular : tree.Plain place) :
      tree.entry place ≠ some (.reparsePoint target) :=
    fun hentry => hregular _ hentry
  funext place
  refine Option.ext ?_
  intro target
  rw [target_eq_some, target_eq_some]
  rcases hchanged place with hsame | ⟨hnone, hmade, -⟩ | ⟨-, hbefore, hafter⟩
  · rw [hsame]
  · rw [hnone, hmade]
    exact iff_of_false nofun nofun
  · exact iff_of_false (hplain hafter) (hplain hbefore)

/-- A file outside of the region was there before. -/
theorem Changed.file_before
    (hchanged : Changed region before after) (hregion : ¬region.touched place)
    (hentry : after.entry place = some (.file content)) :
    before.entry place = some (.file content) := by
  rcases hchanged place with hsame | ⟨-, hmade, -⟩ | ⟨hin, -⟩
  · rwa [hsame] at hentry
  · rw [hmade] at hentry
    cases hentry
  · exact absurd hin hregion

/-! ## Laying entries over a tree -/

def Beneath (place other : List α) : Prop :=
  place <+: other ∧ other ≠ place

omit [DecidableEq α] in
theorem beneath_append {rest : List α} (hrest : rest ≠ []) :
    Beneath place (place ++ rest) := by
  refine ⟨List.prefix_append _ _, ?_⟩
  intro hsame
  exact hrest (List.append_right_eq_self.mp hsame)

theorem mem_of_lookup
    {contents : List (List α × Entry α β)} {rest : List α}
    {entry : Entry α β} (hlookup : contents.lookup rest = some entry) :
    (rest, entry) ∈ contents := by
  obtain ⟨before, after, rfl, -⟩ := List.lookup_eq_some_iff.mp hlookup
  simp

/-- Beneath the place the tree holds the listed entries and no others; all
else is as in the base. -/
structure Overlaid (place : List α)
    (contents : List (List α × Entry α β)) (base tree : FileTree α β) :
    Prop where
  inside : ∀ rest, rest ≠ [] →
    tree.entry (place ++ rest) = contents.lookup rest
  outside : ∀ other, ¬Beneath place other →
    tree.entry other = base.entry other

section Overlaid

variable {base : FileTree α β} {contents : List (List α × Entry α β)}
  {rest : List α} {entry : Entry α β}

theorem overlaid_nil
    (hfresh : ∀ other, Beneath place other → base.entry other = none) :
    Overlaid place [] base base where
  inside := fun _ hrest => hfresh _ (beneath_append hrest)
  outside := fun _ _ => rfl

theorem Overlaid.cons
    (hoverlaid : Overlaid place contents base before) (hrest : rest ≠ [])
    (hafter : ∀ other, after.entry other =
      if other = place ++ rest then some entry else before.entry other) :
    Overlaid place ((rest, entry) :: contents) base after := by
  constructor
  · intro found hfound
    rw [hafter, List.lookup_cons]
    by_cases hsame : found = rest
    · rw [hsame, if_pos rfl, beq_self_eq_true]
    · rw [if_neg fun heq => hsame (List.append_cancel_left heq),
        hoverlaid.inside found hfound, beq_false_of_ne hsame]
  · intro other hother
    rw [hafter, if_neg, hoverlaid.outside other hother]
    rintro rfl
    exact hother (beneath_append hrest)

/-- Laying regular entries changes nothing else. -/
theorem Overlaid.changed
    (hoverlaid : Overlaid place contents base tree)
    (hfresh : ∀ other, Beneath place other → base.entry other = none)
    (hregular : ∀ listed ∈ contents, listed.2.Regular) :
    Changed ⟨fun _ => False, Beneath place⟩ base tree := by
  intro other
  by_cases hother : Beneath place other
  · refine Or.inr (Or.inr ⟨hother, plain_of_none (hfresh other hother), ?_⟩)
    obtain ⟨⟨rest, rfl⟩, hne⟩ := hother
    have hrest : rest ≠ [] := by
      rintro rfl
      exact hne (List.append_nil _)
    intro found hfound
    rw [hoverlaid.inside rest hrest] at hfound
    exact hregular _ (mem_of_lookup hfound)
  · exact Or.inl (hoverlaid.outside other hother)

/-- A file of the tree is listed or belongs to the base. -/
theorem Overlaid.file_cases
    (hoverlaid : Overlaid place contents base tree)
    (hentry : tree.entry other = some (.file content)) :
    (∃ rest, rest ≠ [] ∧ other = place ++ rest ∧
      (rest, .file content) ∈ contents) ∨
      (¬Beneath place other ∧ base.entry other = some (.file content)) := by
  by_cases hother : Beneath place other
  · obtain ⟨⟨rest, rfl⟩, hne⟩ := hother
    have hrest : rest ≠ [] := by
      rintro rfl
      exact hne (List.append_nil _)
    rw [hoverlaid.inside rest hrest] at hentry
    exact Or.inl ⟨rest, hrest, rfl, mem_of_lookup hentry⟩
  · rw [hoverlaid.outside other hother] at hentry
    exact Or.inr ⟨hother, hentry⟩

end Overlaid

end FileTree

end Foundation
