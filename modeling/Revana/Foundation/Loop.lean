import Mathlib.Tactic

/-!
# Loops without a bound

A loop body either goes round again or ends with a result.  The fuelled
iteration is tied to the paths of the body, so that an invariant of one turn
holds wherever the loop gets, and a measure that every turn lowers tells how
much fuel is enough.
-/

namespace Foundation

inductive Turn (σ ρ : Type*) where
  | again (state : σ)
  | done (result : ρ)

namespace Turn

variable {σ ρ : Type*} (turn : σ → Turn σ ρ)

/-- `none` means the fuel ran out. -/
def iterate : ℕ → σ → Option ρ
  | 0, _ => none
  | fuel + 1, state =>
      match turn state with
      | .again next => iterate fuel next
      | .done result => some result

/-- The loop comes from the first state to the last one. -/
def Reaches : σ → σ → Prop :=
  Relation.ReflTransGen fun state next => turn state = .again next

variable {turn}

theorem Reaches.refl (state : σ) : Reaches turn state state :=
  Relation.ReflTransGen.refl

theorem Reaches.head
    {state next last : σ} (hturn : turn state = .again next)
    (hreaches : Reaches turn next last) :
    Reaches turn state last :=
  Relation.ReflTransGen.head hturn hreaches

/-- What every turn keeps holds wherever the loop gets. -/
theorem Reaches.invariant
    {state last : σ} (hreaches : Reaches turn state last) (Inv : σ → Prop)
    (hturn : ∀ state next, Inv state → turn state = .again next → Inv next)
    (hinit : Inv state) :
    Inv last := by
  induction hreaches with
  | refl => exact hinit
  | tail _ hlast ih => exact hturn _ _ ih hlast

theorem iterate_again
    {state next : σ} (hturn : turn state = .again next) (fuel : ℕ) :
    iterate turn (fuel + 1) state = iterate turn fuel next := by
  rw [iterate, hturn]

theorem iterate_done
    {state : σ} {result : ρ} (hturn : turn state = .done result)
    (fuel : ℕ) :
    iterate turn (fuel + 1) state = some result := by
  rw [iterate, hturn]

/-- A loop that ends took a path to a last turn. -/
theorem reaches_of_iterate
    {fuel : ℕ} {state : σ} {result : ρ}
    (hloop : iterate turn fuel state = some result) :
    ∃ last, Reaches turn state last ∧ turn last = .done result := by
  induction fuel generalizing state with
  | zero => cases hloop
  | succ fuel ih =>
      cases hturn : turn state with
      | again next =>
          rw [iterate_again hturn] at hloop
          obtain ⟨last, hreaches, hlast⟩ := ih hloop
          exact ⟨last, Reaches.head hturn hreaches, hlast⟩
      | done other =>
          rw [iterate_done hturn] at hloop
          cases hloop
          exact ⟨state, Reaches.refl state, hturn⟩

/-- A loop that goes round again from every state it can be in never ends. -/
theorem iterate_none_of_again
    {Inv : σ → Prop}
    (hagain : ∀ state, Inv state → ∃ next, turn state = .again next ∧ Inv next)
    {state : σ} (hinit : Inv state) (fuel : ℕ) :
    iterate turn fuel state = none := by
  induction fuel generalizing state with
  | zero => rfl
  | succ fuel ih =>
      obtain ⟨next, hturn, hnext⟩ := hagain state hinit
      rw [iterate_again hturn, ih hnext]

/-- With more fuel than the measure of its state, a loop whose every turn
lowers the measure ends. -/
theorem iterate_of_measure
    {measure : σ → ℕ}
    (hless : ∀ state next, turn state = .again next →
      measure next < measure state)
    {fuel : ℕ} {state : σ} (hfuel : measure state < fuel) :
    ∃ result, iterate turn fuel state = some result := by
  induction fuel generalizing state with
  | zero => omega
  | succ fuel ih =>
      cases hturn : turn state with
      | again next =>
          have hnext := hless state next hturn
          rw [iterate_again hturn]
          exact ih (by omega)
      | done result => exact ⟨result, iterate_done hturn fuel⟩

end Turn

end Foundation
