import Revana.Foundation.Pattern

/-!
# Searching a text

The first place where a pattern begins, and the group in the middle of the
pattern there.  A group reaches as far as what follows it allows.
-/

namespace Foundation.Pattern

variable {α : Type}

def nothing : Pattern α := .times 0 (.one fun _ => false)

def exactly [DecidableEq α] : List α → Pattern α
  | [] => nothing
  | char :: word => .seq (.one fun other => other = char) (exactly word)

section Search

variable (before group after : Pattern α)

/-- The group of a match at the beginning of the text. -/
def groupHere (text : List α) : Option (List α) :=
  ((before.rests text).flatMap fun middle =>
    ((group.rests middle).reverse.filter fun rest =>
      !(after.rests rest).isEmpty).map fun rest =>
        middle.take (middle.length - rest.length)).head?

def findGroup : List α → Option (List α)
  | [] => groupHere before group after []
  | char :: text =>
      match groupHere before group after (char :: text) with
      | some word => some word
      | none => findGroup text

variable {before group after}

theorem groupHere_matches
    {text word : List α}
    (hfound : groupHere before group after text = some word) :
    group.Matches word := by
  have hmem := List.mem_of_mem_head? (Option.mem_def.mpr hfound)
  obtain ⟨middle, -, hmiddle⟩ := List.mem_flatMap.mp hmem
  obtain ⟨rest, hrest, rfl⟩ := List.mem_map.mp hmiddle
  have hlisted := List.mem_reverse.mp (List.mem_filter.mp hrest).1
  obtain ⟨word, rfl, hword⟩ := mem_rests_iff.mp hlisted
  rwa [List.length_append, Nat.add_sub_cancel, List.take_left']
  rfl

theorem findGroup_matches
    {text word : List α}
    (hfound : findGroup before group after text = some word) :
    group.Matches word := by
  induction text with
  | nil => exact groupHere_matches hfound
  | cons char text ih =>
      rw [findGroup] at hfound
      split at hfound
      · rename_i hhere
        rw [← Option.some.inj hfound]
        exact groupHere_matches hhere
      · exact ih hfound

end Search

/-! ## Classes -/

variable {accepts wider : α → Bool} {word : List α}

theorem Matches.plus_ne_nil (hmatches : Matches (.plus (.one accepts)) word) :
    word ≠ [] := by
  cases hmatches with
  | once hfirst =>
      cases hfirst with
      | one haccepts => exact List.cons_ne_nil _ _
  | more hfirst hrest =>
      cases hfirst with
      | one haccepts => exact List.cons_ne_nil _ _

end Foundation.Pattern
