import Mathlib.Tactic

/-!
# Flags that are tested and set at once

A party that finds the flag down and raises it in one step is its holder until
the flag is lowered.  Being the holder may pass from one party to another.
Whatever the parties are, there is never more than one holder, and the flag is
up exactly while there is one.
-/

namespace Foundation

/-- The flag is up exactly while one party holds it. -/
structure HeldAlone {π : Type*} (flag : Bool) (Holds : π → Prop) : Prop where
  unique : ∀ party other, Holds party → Holds other → other = party
  up_iff : flag = true ↔ ∃ party, Holds party

namespace HeldAlone

variable {π : Type*} {flag : Bool} {Holds After : π → Prop} {party : π}

theorem down (hnobody : ∀ party, ¬Holds party) : HeldAlone false Holds where
  unique := fun party _ hparty => absurd hparty (hnobody party)
  up_iff := by simpa using hnobody

theorem not_holds (hheld : HeldAlone flag Holds) (hflag : flag = false)
    (party : π) : ¬Holds party := by
  intro hparty
  rw [hheld.up_iff.mpr ⟨party, hparty⟩] at hflag
  cases hflag

theorem congr (hheld : HeldAlone flag Holds)
    (hafter : ∀ party, After party ↔ Holds party) : HeldAlone flag After := by
  have hsame : After = Holds := funext fun party => propext (hafter party)
  rw [hsame]
  exact hheld

/-- Whoever raises the flag holds it. -/
theorem raised (hafter : ∀ other, After other ↔ other = party) :
    HeldAlone true After where
  unique := fun first second hfirst hsecond =>
    ((hafter second).mp hsecond).trans ((hafter first).mp hfirst).symm
  up_iff := by simpa using ⟨party, (hafter party).mpr rfl⟩

theorem passed
    (hheld : HeldAlone flag Holds) (hparty : Holds party) (next : π)
    (hafter : ∀ other, After other ↔ other = next) : HeldAlone flag After := by
  have hflag : flag = true := hheld.up_iff.mpr ⟨party, hparty⟩
  rw [hflag]
  exact raised hafter

/-- Nobody but the holder is concerned when it lets go. -/
theorem holds_iff (hheld : HeldAlone flag Holds) (hparty : Holds party)
    (other : π) : Holds other ↔ other = party := by
  constructor
  · intro hother
    exact hheld.unique party other hparty hother
  · rintro rfl
    exact hparty

end HeldAlone

end Foundation
