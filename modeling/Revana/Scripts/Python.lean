import Mathlib.Tactic

/-!
# What the scripts use of Python

How a script fails, strings in lower case, and the parts of a
`PurePosixPath`.
-/

namespace Revana.Scripts

/-- How a script ends without success: by its own error, or by an exception
that it does not catch. -/
inductive Failure where
  | systemExit (message : String)
  | exception
  deriving DecidableEq, Repr

/-- The script's own error. -/
def Failure.IsExit (failure : Failure) : Prop :=
  ∃ message, failure = .systemExit message

abbrev Text := List Char

/-- `str.lower`, of which only the behaviour on ASCII text is used. -/
structure StrLower where
  lower : Text → Text
  ascii : ∀ text, (∀ char ∈ text, char.toNat < 128) →
    lower text = text.map Char.toLower

/-- The root `posixpath.splitroot` finds; exactly two slashes are a root of
their own. -/
def rootOf : Text → Text
  | ['/', '/'] => ['/', '/']
  | '/' :: '/' :: char :: _ => if char = '/' then ['/'] else ['/', '/']
  | '/' :: _ => ['/']
  | _ => []

/-- The parts of a `PurePosixPath` behind its root. -/
def tailOf (path : Text) : List Text :=
  ((path.drop (rootOf path).length).splitOn '/').filter fun part =>
    part ≠ [] ∧ part ≠ ['.']

def parts (path : Text) : List Text :=
  if rootOf path = [] then tailOf path else rootOf path :: tailOf path

/-- `PurePosixPath(path).name`. -/
def nameOf (path : Text) : Text := (tailOf path).getLastD []

theorem rootOf_cases (path : Text) :
    rootOf path = [] ∨ rootOf path = ['/'] ∨ rootOf path = ['/', '/'] := by
  unfold rootOf
  split
  · exact Or.inr (Or.inr rfl)
  · split_ifs
    · exact Or.inr (Or.inl rfl)
    · exact Or.inr (Or.inr rfl)
  · exact Or.inr (Or.inl rfl)
  · exact Or.inl rfl

end Revana.Scripts
