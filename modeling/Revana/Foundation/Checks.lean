import Mathlib.Tactic

/-!
# Programs that check and go on

A program in `Except` goes on as long as its checks pass.  Its success is read
off check by check.
-/

namespace Foundation

variable {ε α β : Type}

theorem bind_eq_ok {program : Except ε α} {next : α → Except ε β} {result : β} :
    program >>= next = .ok result ↔
      ∃ value, program = .ok value ∧ next value = .ok result := by
  cases program with
  | error failure =>
      constructor
      · intro hok
        cases hok
      · rintro ⟨value, hvalue, -⟩
        cases hvalue
  | ok value =>
      constructor
      · intro hok
        exact ⟨value, rfl, hok⟩
      · rintro ⟨other, hother, hok⟩
        obtain rfl := Except.ok.inj hother
        exact hok

/-- Fail unless the condition holds. -/
def require (condition : Prop) [Decidable condition] (failure : ε) :
    Except ε Unit :=
  if condition then .ok () else .error failure

theorem require_eq_ok
    {condition : Prop} [Decidable condition] {failure : ε} {result : Unit} :
    require condition failure = .ok result ↔ condition := by
  unfold require
  by_cases hcondition : condition
  · rw [if_pos hcondition]
    exact iff_of_true rfl hcondition
  · rw [if_neg hcondition]
    exact iff_of_false (by simp) hcondition

theorem mapM_eq_ok
    {check : α → Except ε β} {elements : List α} {results : List β} :
    elements.mapM check = .ok results ↔
      List.Forall₂ (fun element result => check element = .ok result)
        elements results := by
  induction elements generalizing results with
  | nil =>
      rw [List.mapM_nil, List.forall₂_nil_left_iff]
      constructor
      · intro hok
        exact (Except.ok.inj hok).symm
      · rintro rfl
        rfl
  | cons element elements ih =>
      rw [List.mapM_cons, bind_eq_ok, List.forall₂_cons_left_iff]
      constructor
      · rintro ⟨result, hresult, hrest⟩
        obtain ⟨rest, hrest, hcons⟩ := bind_eq_ok.mp hrest
        exact ⟨result, rest, hresult, ih.mp hrest,
          (Except.ok.inj hcons).symm⟩
      · rintro ⟨result, rest, hresult, hrest, rfl⟩
        exact ⟨result, hresult, bind_eq_ok.mpr ⟨rest, ih.mpr hrest, rfl⟩⟩

/-- Run a check on each element, in order. -/
def checkAll (check : α → Except ε Unit) : List α → Except ε Unit
  | [] => .ok ()
  | element :: elements => do
      check element
      checkAll check elements

theorem checkAll_eq_ok
    {check : α → Except ε Unit} {elements : List α} {result : Unit} :
    checkAll check elements = .ok result ↔
      ∀ element ∈ elements, check element = .ok () := by
  induction elements with
  | nil => simp [checkAll]
  | cons element elements ih =>
      rw [checkAll, bind_eq_ok, List.forall_mem_cons]
      constructor
      · rintro ⟨⟨⟩, hfirst, hrest⟩
        exact ⟨hfirst, ih.mp hrest⟩
      · rintro ⟨hfirst, hrest⟩
        exact ⟨(), hfirst, ih.mpr hrest⟩

/-! ## Failures -/

/-- Every failure of the program is allowed. -/
def FailsWith (allowed : ε → Prop) (program : Except ε α) : Prop :=
  ∀ failure, program = .error failure → allowed failure

section Failures

variable {allowed : ε → Prop}

theorem failsWith_ok (value : α) :
    FailsWith allowed (.ok value : Except ε α) := by
  intro failure hfailure
  cases hfailure

theorem failsWith_error {failure : ε} (hallowed : allowed failure) :
    FailsWith allowed (.error failure : Except ε α) := by
  intro other hother
  obtain rfl := Except.error.inj hother
  exact hallowed

theorem failsWith_require
    {condition : Prop} [Decidable condition] {failure : ε}
    (hallowed : allowed failure) :
    FailsWith allowed (require condition failure) := by
  unfold require
  split
  · exact failsWith_ok ()
  · exact failsWith_error hallowed

theorem FailsWith.bind
    {program : Except ε α} {next : α → Except ε β}
    (hprogram : FailsWith allowed program)
    (hnext : ∀ value, FailsWith allowed (next value)) :
    FailsWith allowed (program >>= next) := by
  cases program with
  | error failure =>
      exact failsWith_error (hprogram failure rfl)
  | ok value => exact hnext value

end Failures

end Foundation
