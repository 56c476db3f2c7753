import Mathlib.Data.List.Destutter
import Mathlib.Tactic

/-!
# Observers that report changes only

An observer remembers the observation before and reports what differs from it.
Its reports are the observations without their stutters.
-/

namespace Foundation

variable {α : Type*} [DecidableEq α]

/-- What is reported of a list of observations, the last one before it given. -/
def changes : Option α → List α → List α
  | _, [] => []
  | last, observed :: rest =>
      if last = some observed then changes last rest
      else observed :: changes (some observed) rest

/-- The last observation, with one before the list. -/
def latest (last : Option α) (observations : List α) : Option α :=
  observations.getLast?.or last

@[simp] theorem changes_nil (last : Option α) : changes last [] = [] := rfl

omit [DecidableEq α] in
@[simp] theorem latest_nil (last : Option α) : latest last [] = last := rfl

omit [DecidableEq α] in
@[simp] theorem latest_cons
    (last : Option α) (observed : α) (rest : List α) :
    latest last (observed :: rest) = latest (some observed) rest := by
  rw [latest, latest, List.getLast?_cons]
  cases rest.getLast? with
  | none => rfl
  | some final => rfl

omit [DecidableEq α] in
@[simp] theorem latest_concat
    (last : Option α) (observations : List α) (observed : α) :
    latest last (observations ++ [observed]) = some observed := by
  simp [latest]

theorem changes_append
    (last : Option α) (before after : List α) :
    changes last (before ++ after) =
      changes last before ++ changes (latest last before) after := by
  induction before generalizing last with
  | nil => rfl
  | cons observed rest ih =>
      rw [List.cons_append, changes, changes, latest_cons]
      split
      · rename_i hsame
        rw [ih, hsame]
      · rw [ih, List.cons_append]

theorem changes_concat
    (last : Option α) (observations : List α) (observed : α) :
    changes last (observations ++ [observed]) =
      changes last observations ++
        if latest last observations = some observed then [] else [observed] := by
  rw [changes_append]
  rfl

theorem cons_changes (last : α) (observations : List α) :
    last :: changes (some last) observations =
      observations.destutter' (· ≠ ·) last := by
  induction observations generalizing last with
  | nil => rfl
  | cons observed rest ih =>
      rw [changes, List.destutter'_cons]
      by_cases hsame : last = observed
      · rw [if_pos (congrArg some hsame), if_neg (not_not.mpr hsame), ih]
      · rw [if_neg (fun hsome => hsame (Option.some.inj hsome)), if_pos hsame,
          ih]

/-- Without an observation before, the reports are the list without its
stutters. -/
theorem changes_none (observations : List α) :
    changes none observations = observations.destutter (· ≠ ·) := by
  cases observations with
  | nil => rfl
  | cons observed rest =>
      rw [changes, if_neg (by simp), List.destutter_cons', ← cons_changes]

end Foundation
