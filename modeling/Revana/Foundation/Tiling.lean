import Mathlib.Tactic

/-!
# Tilings of a range

Slices that follow one another without a gap.
-/

namespace Foundation

structure Slice where
  start : ℕ
  size : ℕ
  deriving DecidableEq, Repr

def Slice.stop (slice : Slice) : ℕ := slice.start + slice.size

/-- Slices that are not empty, the first of which starts at `first` and each
of which starts where the one before it stops. -/
def Tiles : ℕ → List Slice → ℕ → Prop
  | first, [], last => first = last
  | first, slice :: slices, last =>
      slice.start = first ∧ 0 < slice.size ∧ Tiles slice.stop slices last

namespace Tiles

variable {first last : ℕ} {slices : List Slice}

theorem nil (first : ℕ) : Tiles first [] first := rfl

theorem snoc
    (htiles : Tiles first slices last) {size : ℕ} (hsize : 0 < size) :
    Tiles first (slices ++ [⟨last, size⟩]) (last + size) := by
  induction slices generalizing first with
  | nil =>
      obtain rfl : first = last := htiles
      exact ⟨rfl, hsize, rfl⟩
  | cons slice slices ih =>
      obtain ⟨hstart, hpositive, hrest⟩ := htiles
      exact ⟨hstart, hpositive, ih hrest⟩

/-- Each slice lies between the ends. -/
theorem within
    (htiles : Tiles first slices last) :
    first ≤ last ∧
      ∀ slice ∈ slices, first ≤ slice.start ∧ slice.stop ≤ last := by
  induction slices generalizing first with
  | nil =>
      obtain rfl : first = last := htiles
      exact ⟨le_rfl, by simp⟩
  | cons slice slices ih =>
      obtain ⟨rfl, hpositive, hrest⟩ := htiles
      obtain ⟨hstop, hslices⟩ := ih hrest
      have hless : slice.start ≤ slice.stop := Nat.le_add_right _ _
      refine ⟨hless.trans hstop, ?_⟩
      intro other hother
      rcases List.mem_cons.mp hother with rfl | hlater
      · exact ⟨le_rfl, hstop⟩
      · obtain ⟨hstart, hwithin⟩ := hslices other hlater
        exact ⟨hless.trans hstart, hwithin⟩

theorem ordered
    (htiles : Tiles first slices last) :
    slices.Pairwise fun left right => left.stop ≤ right.start := by
  induction slices generalizing first with
  | nil => exact List.Pairwise.nil
  | cons slice slices ih =>
      obtain ⟨-, -, hrest⟩ := htiles
      refine List.Pairwise.cons ?_ (ih hrest)
      intro other hother
      exact (hrest.within.2 other hother).1

/-- Every index between the ends lies in a slice. -/
theorem covers
    (htiles : Tiles first slices last) {index : ℕ} (hfirst : first ≤ index)
    (hlast : index < last) :
    ∃ slice ∈ slices, slice.start ≤ index ∧ index < slice.stop := by
  induction slices generalizing first with
  | nil =>
      obtain rfl : first = last := htiles
      omega
  | cons slice slices ih =>
      obtain ⟨rfl, -, hrest⟩ := htiles
      by_cases hindex : index < slice.stop
      · exact ⟨slice, List.mem_cons_self, hfirst, hindex⟩
      · obtain ⟨other, hother, hcovers⟩ := ih hrest (not_lt.mp hindex)
        exact ⟨other, List.mem_cons_of_mem _ hother, hcovers⟩

end Tiles

end Foundation
