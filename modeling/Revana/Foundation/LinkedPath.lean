import Revana.Foundation.FileTree

/-!
# Paths through reparse points

A path is followed name by name from the root.  At a reparse point it goes on
from the place that one leads to, at most so many times.  Only the reparse
points decide where a path leads; what else is made or taken away does not.
-/

namespace Foundation

/-- How far a path gets without following a link. -/
inductive Walk (α : Type) where
  | arrived (place : List α)
  | redirected (path : List α)
  deriving Repr

section Following

variable {α : Type} (links : List α → Option (List α))

def walk (place : List α) : List α → Walk α
  | [] => .arrived place
  | name :: path =>
      match links (place ++ [name]) with
      | some target => .redirected (target ++ path)
      | none => walk (place ++ [name]) path

/-- The place a path leads to, if it follows no more links than the limit. -/
def followLinks : ℕ → List α → Option (List α)
  | 0, path =>
      match walk links [] path with
      | .arrived place => some place
      | .redirected _ => none
  | limit + 1, path =>
      match walk links [] path with
      | .arrived place => some place
      | .redirected next => followLinks limit next

variable {links} {place path : List α} {name : α} {limit : ℕ}

theorem walk_snoc
    (start : List α) (hname : links (place ++ [name]) = none)
    (hwalk : walk links start path = .arrived place) :
    walk links start (path ++ [name]) = .arrived (place ++ [name]) := by
  induction path generalizing start with
  | nil =>
      obtain rfl := Walk.arrived.inj hwalk
      simp [walk, hname]
  | cons first path ih =>
      rw [List.cons_append, walk]
      rw [walk] at hwalk
      cases hlink : links (start ++ [first]) with
      | some target =>
          rw [hlink] at hwalk
          cases hwalk
      | none =>
          rw [hlink] at hwalk
          exact ih (start ++ [first]) hwalk

theorem walk_snoc_of_redirected
    (start : List α) {next : List α}
    (hwalk : walk links start path = .redirected next) :
    walk links start (path ++ [name]) = .redirected (next ++ [name]) := by
  induction path generalizing start with
  | nil => cases hwalk
  | cons first path ih =>
      rw [List.cons_append, walk]
      rw [walk] at hwalk
      cases hlink : links (start ++ [first]) with
      | some target =>
          rw [hlink] at hwalk
          obtain rfl := Walk.redirected.inj hwalk
          simp
      | none =>
          rw [hlink] at hwalk
          exact ih (start ++ [first]) hwalk

/-- A path that goes one name further leads to the place of that name, unless
a link lies there. -/
theorem followLinks_snoc
    (hname : links (place ++ [name]) = none)
    (hpath : followLinks links limit path = some place) :
    followLinks links limit (path ++ [name]) = some (place ++ [name]) := by
  induction limit generalizing path with
  | zero =>
      rw [followLinks] at hpath ⊢
      cases hwalk : walk links [] path with
      | arrived reached =>
          rw [hwalk] at hpath
          obtain rfl := Option.some.inj hpath
          rw [walk_snoc [] hname hwalk]
      | redirected next =>
          rw [hwalk] at hpath
          cases hpath
  | succ limit ih =>
      rw [followLinks] at hpath ⊢
      cases hwalk : walk links [] path with
      | arrived reached =>
          rw [hwalk] at hpath
          obtain rfl := Option.some.inj hpath
          rw [walk_snoc [] hname hwalk]
      | redirected next =>
          rw [hwalk] at hpath
          rw [walk_snoc_of_redirected [] hwalk]
          exact ih hpath

theorem followLinks_snoc_of_none
    (hpath : followLinks links limit path = none) :
    followLinks links limit (path ++ [name]) = none := by
  induction limit generalizing path with
  | zero =>
      rw [followLinks] at hpath ⊢
      cases hwalk : walk links [] path with
      | arrived reached =>
          rw [hwalk] at hpath
          cases hpath
      | redirected next => rw [walk_snoc_of_redirected [] hwalk]
  | succ limit ih =>
      rw [followLinks] at hpath ⊢
      cases hwalk : walk links [] path with
      | arrived reached =>
          rw [hwalk] at hpath
          cases hpath
      | redirected next =>
          rw [hwalk] at hpath
          rw [walk_snoc_of_redirected [] hwalk]
          exact ih hpath

end Following

namespace FileTree

variable {α β : Type} [DecidableEq α]

def target (tree : FileTree α β) (place : List α) : Option (List α) :=
  match tree.entry place with
  | some (.reparsePoint target) => some target
  | _ => none

def resolve (tree : FileTree α β) (limit : ℕ) (path : List α) :
    Option (List α) :=
  followLinks tree.target limit path

/-- The place a path names, which may itself be a reparse point. -/
def locate (tree : FileTree α β) (limit : ℕ) (path : List α) :
    Option (List α) :=
  match path.getLast? with
  | none => some []
  | some name => (tree.resolve limit path.dropLast).map (· ++ [name])

variable {tree before after : FileTree α β} {limit : ℕ}
  {path place : List α} {name : α} {region : List α → Prop}

theorem target_eq_some {target : List α} :
    tree.target place = some target ↔
      tree.entry place = some (.reparsePoint target) := by
  unfold FileTree.target
  split
  · rename_i found hentry
    rw [hentry]
    simp
  · rename_i hother
    exact iff_of_false (by simp) (hother target)

theorem target_of_directory (hentry : tree.entry place = some .directory) :
    tree.target place = none := by
  unfold FileTree.target
  rw [hentry]

theorem Pruned.target_eq (hpruned : Pruned region before after) :
    after.target = before.target := by
  funext place
  refine Option.ext ?_
  intro target
  rw [target_eq_some, target_eq_some]
  constructor
  · exact hpruned.entry_before
  · intro hentry
    exact hpruned.entry_irregular hentry id

theorem Grown.target_eq (hgrown : Grown before after) :
    after.target = before.target := by
  funext place
  rcases hgrown place with hsame | ⟨hnone, hdirectory⟩
  · unfold FileTree.target
    rw [hsame]
  · unfold FileTree.target
    rw [hnone, hdirectory]

/-- The reparse points alone decide where a path leads. -/
theorem resolve_congr (htarget : after.target = before.target) :
    after.resolve limit path = before.resolve limit path := by
  unfold resolve
  rw [htarget]

theorem locate_congr (htarget : after.target = before.target) :
    after.locate limit path = before.locate limit path := by
  unfold locate
  cases path.getLast? with
  | none => rfl
  | some name => rw [resolve_congr htarget]

@[simp] theorem locate_snoc :
    tree.locate limit (path ++ [name]) =
      (tree.resolve limit path).map (· ++ [name]) := by
  simp [locate]

theorem resolve_of_locate
    (htarget : tree.target place = none)
    (hlocate : tree.locate limit path = some place) :
    tree.resolve limit path = some place := by
  induction path using List.reverseRecOn with
  | nil =>
      obtain rfl := Option.some.inj hlocate
      unfold resolve
      cases limit <;> rfl
  | append_singleton path name ih =>
      rw [locate_snoc, Option.map_eq_some_iff] at hlocate
      obtain ⟨parent, hparent, rfl⟩ := hlocate
      exact followLinks_snoc htarget hparent

theorem resolve_of_locate_none (hlocate : tree.locate limit path = none) :
    tree.resolve limit path = none := by
  induction path using List.reverseRecOn with
  | nil => cases hlocate
  | append_singleton path name ih =>
      rw [locate_snoc, Option.map_eq_none_iff] at hlocate
      exact followLinks_snoc_of_none hlocate

end FileTree

end Foundation
