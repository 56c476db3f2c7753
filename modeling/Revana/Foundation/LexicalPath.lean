import Mathlib.Tactic

/-!
# Lexical resolution of paths

A relative path is a list of steps down and steps up.  Following it without
looking at any directory leads so many steps out of the start and then down
again.  Counting the steps tells when a path ends beneath a given name.
-/

namespace Foundation

inductive PathStep (α : Type) where
  | up
  | down (name : α)
  deriving DecidableEq, Repr

/-- How many steps a place lies out of the start, and the names that lead down
from there, the innermost first. -/
structure Place (α : Type) where
  out : ℕ
  names : List α
  deriving DecidableEq, Repr

variable {α : Type}

def Place.follow (place : Place α) : PathStep α → Place α
  | .down name => { place with names := name :: place.names }
  | .up =>
      match place.names with
      | [] => { place with out := place.out + 1 }
      | _ :: names => { place with names }

/-- Where a path leads, judged by its steps alone. -/
def resolve (path : List (PathStep α)) : Place α :=
  path.foldl Place.follow ⟨0, []⟩

def upCount : List (PathStep α) → ℕ
  | [] => 0
  | .up :: path => upCount path + 1
  | .down _ :: path => upCount path

def downCount : List (PathStep α) → ℕ
  | [] => 0
  | .up :: path => downCount path
  | .down _ :: path => downCount path + 1

/-- Up to no point does the path take more steps up than down. -/
def Stays (path : List (PathStep α)) : Prop :=
  ∀ count, upCount (path.take count) ≤ downCount (path.take count)

/-- The path comes back to where it started, and never leaves above it. -/
def LeadsBack (path : List (PathStep α)) : Prop :=
  Stays path ∧ upCount path = downCount path

/-- The path ends one step above where it started, and never leaves further. -/
def LeavesOnce (path : List (PathStep α)) : Prop :=
  (∀ count, upCount (path.take count) ≤ downCount (path.take count) + 1) ∧
    upCount path = downCount path + 1

variable {path before after : List (PathStep α)}

@[simp] theorem upCount_append :
    upCount (before ++ after) = upCount before + upCount after := by
  induction before with
  | nil => simp [upCount]
  | cons step before ih =>
      cases step with
      | up =>
          simp only [List.cons_append, upCount, ih]
          omega
      | down name => simp [upCount, ih]

@[simp] theorem downCount_append :
    downCount (before ++ after) = downCount before + downCount after := by
  induction before with
  | nil => simp [downCount]
  | cons step before ih =>
      cases step with
      | up => simp [downCount, ih]
      | down name =>
          simp only [List.cons_append, downCount, ih]
          omega

@[simp] theorem upCount_map_down (names : List α) :
    upCount (names.map PathStep.down) = 0 := by
  induction names with
  | nil => rfl
  | cons name names ih => exact ih

@[simp] theorem downCount_map_down (names : List α) :
    downCount (names.map PathStep.down) = names.length := by
  induction names with
  | nil => rfl
  | cons name names ih => exact congrArg Nat.succ ih

theorem stays_map_down (names : List α) :
    Stays (names.map PathStep.down) := by
  intro count
  rw [← List.map_take, upCount_map_down]
  exact Nat.zero_le _

theorem stays_nil : Stays ([] : List (PathStep α)) := by
  intro count
  simp [upCount, downCount]

theorem Stays.total (hstays : Stays path) : upCount path ≤ downCount path := by
  have hall := hstays path.length
  rwa [List.take_length] at hall

theorem stays_snoc_iff {step : PathStep α} :
    Stays (path ++ [step]) ↔
      Stays path ∧ upCount (path ++ [step]) ≤ downCount (path ++ [step]) := by
  constructor
  · intro hstays
    refine ⟨?_, hstays.total⟩
    intro count
    have hextends := hstays (min count path.length)
    rwa [List.take_append_of_le_length (min_le_right _ _),
      ← List.take_take, List.take_length] at hextends
  · rintro ⟨hstays, htotal⟩ count
    by_cases hcount : count ≤ path.length
    · rw [List.take_append_of_le_length hcount]
      exact hstays count
    · rw [List.take_of_length_le]
      · exact htotal
      · rw [List.length_append, List.length_singleton]
        omega

/-- Going down a name and coming back is leaving that name once. -/
theorem leadsBack_down_iff {name : α} :
    LeadsBack (.down name :: path) ↔ LeavesOnce path := by
  constructor
  · rintro ⟨hstays, hback⟩
    refine ⟨?_, hback⟩
    intro count
    exact hstays (count + 1)
  · rintro ⟨hleaves, hout⟩
    refine ⟨?_, hout⟩
    intro count
    cases count with
    | zero => exact le_rfl
    | succ count => exact hleaves count

/-- A path that stays below its start leaves the names above it alone. -/
theorem Stays.follow
    (hstays : Stays path) (place : Place α) :
    ∃ top, path.foldl Place.follow place =
        { place with names := top ++ place.names } ∧
      top.length + upCount path = downCount path := by
  induction path using List.reverseRecOn with
  | nil => exact ⟨[], rfl, rfl⟩
  | append_singleton path step ih =>
      obtain ⟨hpath, htotal⟩ := stays_snoc_iff.mp hstays
      obtain ⟨top, htop, hlength⟩ := ih hpath
      rw [List.foldl_append, htop]
      rw [upCount_append, downCount_append] at *
      cases step with
      | down name =>
          refine ⟨name :: top, rfl, ?_⟩
          simp only [List.length_cons, upCount, downCount] at *
          omega
      | up =>
          simp only [upCount, downCount] at *
          cases top with
          | nil =>
              simp only [List.length_nil] at hlength
              omega
          | cons first top =>
              refine ⟨top, rfl, ?_⟩
              simp only [List.length_cons] at hlength
              omega

/-- A place that is not out of the start was reached without leaving it. -/
theorem stays_of_resolve
    {names : List α} (hresolve : resolve path = ⟨0, names⟩) :
    Stays path ∧ names.length + upCount path = downCount path := by
  induction path using List.reverseRecOn generalizing names with
  | nil =>
      obtain rfl : [] = names := congrArg Place.names hresolve
      exact ⟨stays_nil, rfl⟩
  | append_singleton path step ih =>
      unfold resolve at hresolve ih
      rw [List.foldl_append] at hresolve
      rw [stays_snoc_iff, upCount_append, downCount_append]
      rcases hplace : path.foldl Place.follow ⟨0, []⟩ with ⟨out, before⟩
      rw [hplace] at hresolve ih
      cases step with
      | down name =>
          obtain ⟨rfl, rfl⟩ := Place.mk.inj hresolve
          obtain ⟨hstays, hlength⟩ := ih rfl
          simp only [List.length_cons, upCount, downCount]
          exact ⟨⟨hstays, by omega⟩, by omega⟩
      | up =>
          cases before with
          | nil =>
              have hout : out + 1 = 0 := congrArg Place.out hresolve
              omega
          | cons first before =>
              obtain ⟨rfl, rfl⟩ := Place.mk.inj hresolve
              obtain ⟨hstays, hlength⟩ := ih rfl
              simp only [List.length_cons] at hlength
              simp only [upCount, downCount]
              exact ⟨⟨hstays, by omega⟩, by omega⟩

/-- The last step down a name, with what led to it and what came after. -/
theorem exists_of_resolve_beneath
    {names : List α} {name : α}
    (hresolve : resolve path = ⟨0, names ++ [name]⟩) :
    ∃ before after, path = before ++ .down name :: after ∧
      LeadsBack before ∧ Stays after ∧
      names.length + upCount after = downCount after := by
  induction path using List.reverseRecOn generalizing names with
  | nil =>
      have hnames : [] = names ++ [name] := congrArg Place.names hresolve
      simp at hnames
  | append_singleton path step ih =>
      unfold resolve at hresolve ih
      rw [List.foldl_append] at hresolve
      rcases hplace : path.foldl Place.follow ⟨0, []⟩ with ⟨out, stack⟩
      rw [hplace] at hresolve ih
      cases step with
      | down last =>
          obtain ⟨rfl, hstack⟩ := Place.mk.inj hresolve
          cases names with
          | nil =>
              -- The name itself is the last step.
              obtain ⟨rfl, rfl⟩ := List.cons.inj hstack
              obtain ⟨hstays, hlength⟩ := stays_of_resolve hplace
              rw [List.length_nil, Nat.zero_add] at hlength
              exact ⟨path, [], rfl, ⟨hstays, hlength⟩, stays_nil,
                by simp [upCount, downCount]⟩
          | cons first names =>
              obtain ⟨rfl, rfl⟩ := List.cons.inj hstack
              obtain ⟨before, after, rfl, hbefore, hafter, hcount⟩ := ih rfl
              refine ⟨before, after ++ [.down last], by simp, hbefore,
                stays_snoc_iff.mpr ⟨hafter, ?_⟩, ?_⟩
              all_goals
                simp only [upCount_append, downCount_append, upCount,
                  downCount, List.length_cons]
                omega
      | up =>
          cases stack with
          | nil =>
              have hout : out + 1 = 0 := congrArg Place.out hresolve
              omega
          | cons top stack =>
              obtain ⟨rfl, rfl⟩ := Place.mk.inj hresolve
              obtain ⟨before, after, rfl, hbefore, hafter, hcount⟩ :=
                @ih (top :: names) rfl
              rw [List.length_cons] at hcount
              refine ⟨before, after ++ [.up], by simp, hbefore,
                stays_snoc_iff.mpr ⟨hafter, ?_⟩, ?_⟩
              all_goals
                simp only [upCount_append, downCount_append, upCount,
                  downCount]
                omega

/-- A path ends beneath a name exactly when it comes back to its start, goes
down that name and stays below it; how deep it ends is counted behind it. -/
theorem resolve_beneath_iff {name : α} {depth : ℕ} :
    (∃ names, names.length = depth ∧ resolve path = ⟨0, names ++ [name]⟩) ↔
      ∃ before after, path = before ++ .down name :: after ∧
        LeadsBack before ∧ Stays after ∧
        depth + upCount after = downCount after := by
  constructor
  · rintro ⟨names, rfl, hresolve⟩
    exact exists_of_resolve_beneath hresolve
  · rintro ⟨before, after, rfl, ⟨hbefore, hback⟩, hafter, hcount⟩
    obtain ⟨none, hstart, hnone⟩ := hbefore.follow ⟨0, []⟩
    obtain rfl : none = [] := List.length_eq_zero_iff.mp (by omega)
    obtain ⟨names, hend, hlength⟩ := hafter.follow ⟨0, [name]⟩
    refine ⟨names, by omega, ?_⟩
    unfold resolve
    rw [List.foldl_append, hstart, List.foldl_cons]
    exact hend

end Foundation
