import Mathlib.Data.List.Sublists
import Mathlib.Tactic

/-!
# Establishing conditions in order

A stage finds its condition or repairs the state and looks again.  A list of
stages stops at the first one that cannot be repaired.  When the repairs keep
what is established already, a list that succeeded has all its conditions and
finds them the next time, so nothing is repaired twice.
-/

namespace Foundation

/-- `repair` is the repair that is available; `accepts` is what its result has
to meet besides the condition. -/
structure Stage (σ κ : Type*) where
  key : κ
  holds : σ → Bool
  repair : σ → Option σ
  accepts : σ → Bool := fun _ => true

/-- Each repair is listed with whether it worked. -/
structure Established (σ κ : Type*) where
  ready : Bool
  state : σ
  repairs : List (κ × Bool)

variable {σ κ : Type*}

def establish : List (Stage σ κ) → σ → Established σ κ
  | [], state => ⟨true, state, []⟩
  | stage :: rest, state =>
      if stage.holds state then establish rest state
      else
        match stage.repair state with
        | none => ⟨false, state, []⟩
        | some repaired =>
            if stage.accepts repaired && stage.holds repaired then
              let after := establish rest repaired
              { after with repairs := (stage.key, true) :: after.repairs }
            else ⟨false, repaired, [(stage.key, false)]⟩

/-- The repair of the stage keeps a condition. -/
def Stage.Keeps (stage : Stage σ κ) (Condition : σ → Prop) : Prop :=
  ∀ state repaired, stage.repair state = some repaired →
    Condition state → Condition repaired

/-- Every repair keeps the conditions of the other stages. -/
def KeepEachOther (stages : List (Stage σ κ)) : Prop :=
  ∀ stage ∈ stages, ∀ other ∈ stages, other.key ≠ stage.key →
    other.Keeps fun state => stage.holds state = true

section Steps

variable {stage : Stage σ κ} {rest : List (Stage σ κ)} {state : σ}

theorem establish_cons_of_holds (hholds : stage.holds state = true) :
    establish (stage :: rest) state = establish rest state := by
  rw [establish, if_pos hholds]

/-- What a stage whose condition does not hold does. -/
theorem establish_cons_cases (hholds : stage.holds state = false) :
    (stage.repair state = none ∧
        establish (stage :: rest) state = ⟨false, state, []⟩) ∨
      ∃ repaired, stage.repair state = some repaired ∧
        ((stage.holds repaired = true ∧
            establish (stage :: rest) state =
              { establish rest repaired with
                repairs := (stage.key, true) ::
                  (establish rest repaired).repairs }) ∨
          establish (stage :: rest) state =
            ⟨false, repaired, [(stage.key, false)]⟩) := by
  rw [establish, hholds]
  cases hrepair : stage.repair state with
  | none => exact .inl ⟨rfl, rfl⟩
  | some repaired =>
      refine .inr ⟨repaired, rfl, ?_⟩
      cases hboth : stage.accepts repaired && stage.holds repaired with
      | true =>
          refine .inl ⟨(Bool.and_eq_true_iff.mp hboth).2, ?_⟩
          simp only [Bool.false_eq_true, if_false, hboth, if_true]
      | false =>
          refine .inr ?_
          simp only [Bool.false_eq_true, if_false, hboth]

end Steps

variable {stages : List (Stage σ κ)} {state : σ}

theorem establish_of_holds
    (hholds : ∀ stage ∈ stages, stage.holds state = true) :
    establish stages state = ⟨true, state, []⟩ := by
  induction stages with
  | nil => rfl
  | cons stage rest ih =>
      rw [establish_cons_of_holds (hholds stage List.mem_cons_self)]
      exact ih fun other hother => hholds other (List.mem_cons_of_mem _ hother)

theorem establish_keeps
    {Condition : σ → Prop}
    (hkeeps : ∀ stage ∈ stages, stage.Keeps Condition)
    (hcondition : Condition state) :
    Condition (establish stages state).state := by
  induction stages generalizing state with
  | nil => exact hcondition
  | cons stage rest ih =>
      have hrest : ∀ other ∈ rest, other.Keeps Condition :=
        fun other hother => hkeeps other (List.mem_cons_of_mem _ hother)
      cases hholds : stage.holds state with
      | true =>
          rw [establish_cons_of_holds hholds]
          exact ih hrest hcondition
      | false =>
          rcases @establish_cons_cases _ _ stage rest state hholds with
            ⟨-, hresult⟩ | ⟨repaired, hrepair, hresult⟩
          · rw [hresult]
            exact hcondition
          · have hrepaired := hkeeps stage List.mem_cons_self state repaired
              hrepair hcondition
            rcases hresult with ⟨-, hresult⟩ | hresult
            · rw [hresult]
              exact ih hrest hrepaired
            · rw [hresult]
              exact hrepaired

/-- The repairs follow the order of the stages. -/
theorem repairs_sublist :
    ((establish stages state).repairs.map Prod.fst).Sublist
      (stages.map Stage.key) := by
  induction stages generalizing state with
  | nil => exact List.Sublist.refl []
  | cons stage rest ih =>
      cases hholds : stage.holds state with
      | true =>
          rw [establish_cons_of_holds hholds]
          exact ih.cons _
      | false =>
          rcases @establish_cons_cases _ _ stage rest state hholds with
            ⟨-, hresult⟩ | ⟨repaired, -, ⟨-, hresult⟩ | hresult⟩
          · rw [hresult]
            exact List.nil_sublist _
          · rw [hresult]
            exact ih.cons_cons _
          · rw [hresult]
            exact (List.nil_sublist _).cons_cons _

theorem KeepEachOther.tail
    {stage : Stage σ κ} {rest : List (Stage σ κ)}
    (hkeep : KeepEachOther (stage :: rest)) : KeepEachOther rest :=
  fun other hother third hthird =>
    hkeep other (List.mem_cons_of_mem _ hother) third
      (List.mem_cons_of_mem _ hthird)

section Tail

variable {stage : Stage σ κ} {rest : List (Stage σ κ)}
  (hkeep : KeepEachOther (stage :: rest))
  (hfresh : stage.key ∉ rest.map Stage.key)
include hkeep hfresh

/-- What the first stage established, the others keep. -/
theorem establish_tail_holds (hholds : stage.holds state = true) :
    stage.holds (establish rest state).state = true := by
  refine @establish_keeps σ κ rest state (fun state => stage.holds state = true)
    ?_ hholds
  intro other hother
  refine hkeep stage List.mem_cons_self other
    (List.mem_cons_of_mem _ hother) ?_
  intro hsame
  exact hfresh (hsame ▸ List.mem_map_of_mem hother)

omit hkeep in
theorem not_mem_repairs_tail :
    stage.key ∉ (establish rest state).repairs.map Prod.fst :=
  fun hmem => hfresh (repairs_sublist.subset hmem)

end Tail

section KeepEachOther

variable (hkeep : KeepEachOther stages) (hkeys : (stages.map Stage.key).Nodup)
include hkeep hkeys

/-- A condition that holds is kept and its stage repairs nothing. -/
theorem establish_of_mem
    {stage : Stage σ κ} (hstage : stage ∈ stages)
    (hholds : stage.holds state = true) :
    stage.holds (establish stages state).state = true ∧
      stage.key ∉ (establish stages state).repairs.map Prod.fst := by
  induction stages generalizing state with
  | nil => cases hstage
  | cons head rest ih =>
      obtain ⟨hfresh, hrest⟩ := List.nodup_cons.mp hkeys
      rcases List.mem_cons.mp hstage with rfl | hlater
      · rw [establish_cons_of_holds hholds]
        exact ⟨establish_tail_holds hkeep hfresh hholds,
          not_mem_repairs_tail hfresh⟩
      · have hapart : head.key ≠ stage.key := by
          intro hsame
          exact hfresh (hsame ▸ List.mem_map_of_mem hlater)
        cases hhead : head.holds state with
        | true =>
            rw [establish_cons_of_holds hhead]
            exact ih hkeep.tail hrest hlater hholds
        | false =>
            rcases @establish_cons_cases _ _ head rest state hhead with
              ⟨-, hresult⟩ | ⟨repaired, hrepair, hresult⟩
            · rw [hresult]
              exact ⟨hholds, List.not_mem_nil⟩
            · have hkept := hkeep stage hstage head List.mem_cons_self hapart
                state repaired hrepair hholds
              rcases hresult with ⟨-, hresult⟩ | hresult
              · obtain ⟨hlast, hnone⟩ := ih hkeep.tail hrest hlater hkept
                rw [hresult]
                refine ⟨hlast, ?_⟩
                rw [List.map_cons, List.mem_cons]
                exact not_or.mpr ⟨hapart.symm, hnone⟩
              · rw [hresult]
                refine ⟨hkept, ?_⟩
                simpa using hapart.symm

/-- A repair that worked established its condition. -/
theorem establish_of_worked
    {stage : Stage σ κ} (hstage : stage ∈ stages)
    (hworked : (stage.key, true) ∈ (establish stages state).repairs) :
    stage.holds (establish stages state).state = true := by
  induction stages generalizing state with
  | nil => cases hstage
  | cons head rest ih =>
      obtain ⟨hfresh, hrest⟩ := List.nodup_cons.mp hkeys
      have hlater (start : σ) (hstage : stage ∈ head :: rest)
          (hworked : (stage.key, true) ∈ (establish rest start).repairs) :
          stage.holds (establish rest start).state = true := by
        have hkey : stage.key ∈ rest.map Stage.key :=
          repairs_sublist.subset (List.mem_map_of_mem hworked)
        rcases List.mem_cons.mp hstage with rfl | hmem
        · exact absurd hkey hfresh
        · exact ih hkeep.tail hrest hmem hworked
      cases hhead : head.holds state with
      | true =>
          rw [establish_cons_of_holds hhead] at hworked ⊢
          exact hlater state hstage hworked
      | false =>
          rcases @establish_cons_cases _ _ head rest state hhead with
            ⟨-, hresult⟩ | ⟨repaired, hrepair, ⟨hholds, hresult⟩ | hresult⟩
          · rw [hresult] at hworked
            cases hworked
          · rw [hresult] at hworked ⊢
            rcases List.mem_cons.mp hworked with hfirst | hrepairs
            · have hkey : stage.key = head.key := congrArg Prod.fst hfirst
              rcases List.mem_cons.mp hstage with rfl | hmem
              · exact establish_tail_holds hkeep hfresh hholds
              · exact absurd (hkey ▸ List.mem_map_of_mem hmem) hfresh
            · exact hlater repaired hstage hrepairs
          · rw [hresult] at hworked
            simp at hworked

theorem establish_holds (hready : (establish stages state).ready = true) :
    ∀ stage ∈ stages, stage.holds (establish stages state).state = true := by
  induction stages generalizing state with
  | nil => simp
  | cons head rest ih =>
      obtain ⟨hfresh, hrest⟩ := List.nodup_cons.mp hkeys
      have hboth (start : σ) (hholds : head.holds start = true)
          (hready : (establish rest start).ready = true) :
          ∀ stage ∈ head :: rest,
            stage.holds (establish rest start).state = true := by
        intro stage hstage
        rcases List.mem_cons.mp hstage with rfl | hmem
        · exact establish_tail_holds hkeep hfresh hholds
        · exact ih hkeep.tail hrest hready stage hmem
      cases hhead : head.holds state with
      | true =>
          rw [establish_cons_of_holds hhead] at hready ⊢
          exact hboth state hhead hready
      | false =>
          rcases @establish_cons_cases _ _ head rest state hhead with
            ⟨-, hresult⟩ | ⟨repaired, hrepair, ⟨hholds, hresult⟩ | hresult⟩
          · rw [hresult] at hready
            cases hready
          · rw [hresult] at hready ⊢
            exact hboth repaired hholds hready
          · rw [hresult] at hready
            cases hready

end KeepEachOther

end Foundation
