import Mathlib.Tactic

/-!
# Programs with a state that may fail

What a program has done to its state stays done when it fails.  A program that
recurses gives no outcome when it runs out of fuel, so that to end is something
to prove.
-/

namespace Foundation

abbrev Effect (σ ε α : Type) := ExceptT ε (StateT σ Option) α

namespace Effect

variable {σ ε α β : Type}

def outOfFuel : Effect σ ε α := fun _ => none

def inspect (read : σ → α) : Effect σ ε α := do
  return read (← get)

def failIf (condition : Bool) (failure : ε) : Effect σ ε Unit :=
  if condition then throw failure else pure ()

/-- Read something off the state, or fail where it is not there. -/
def need (read : σ → Option α) (failure : ε) : Effect σ ε α := do
  match read (← get) with
  | some value => return value
  | none => throw failure

/-- Change the state, or fail where it cannot be changed so. -/
def change (update : σ → Option σ) (failure : ε) : Effect σ ε Unit := do
  match update (← get) with
  | some after => set after
  | none => throw failure

/-- The program ends, and what it returns or fails with and the state it leaves
are as given. -/
def Ends (program : Effect σ ε α) (before : σ)
    (done : α → σ → Prop) (failed : ε → σ → Prop) : Prop :=
  ∃ outcome after, program before = some (outcome, after) ∧
    match outcome with
    | .ok value => done value after
    | .error failure => failed failure after

variable {program : Effect σ ε α} {next : α → Effect σ ε β} {before : σ}
  {done mid : α → σ → Prop} {finished : β → σ → Prop}
  {failed : ε → σ → Prop}

theorem ends_pure {value : α} (hdone : done value before) :
    Ends (pure value : Effect σ ε α) before done failed :=
  ⟨.ok value, before, rfl, hdone⟩

theorem ends_throw {failure : ε} (hfailed : failed failure before) :
    Ends (throw failure : Effect σ ε α) before done failed :=
  ⟨.error failure, before, rfl, hfailed⟩

theorem ends_set {after : σ} {done : PUnit → σ → Prop} (hdone : done ⟨⟩ after) :
    Ends (set after : Effect σ ε PUnit) before done failed :=
  ⟨.ok ⟨⟩, after, rfl, hdone⟩

theorem Ends.mono
    {wider : α → σ → Prop} {worse : ε → σ → Prop}
    (hends : Ends program before done failed)
    (hdone : ∀ value after, done value after → wider value after)
    (hfailed : ∀ failure after, failed failure after → worse failure after) :
    Ends program before wider worse := by
  obtain ⟨outcome, after, hrun, hpost⟩ := hends
  refine ⟨outcome, after, hrun, ?_⟩
  cases outcome with
  | ok value => exact hdone value after hpost
  | error failure => exact hfailed failure after hpost

theorem Ends.bind
    (hprogram : Ends program before mid failed)
    (hnext : ∀ value state, mid value state →
      Ends (next value) state finished failed) :
    Ends (program >>= next) before finished failed := by
  obtain ⟨outcome, state, hrun, hpost⟩ := hprogram
  have hbind : (program >>= next) before =
      (program before).bind fun result =>
        ExceptT.bindCont next result.1 result.2 := rfl
  cases outcome with
  | ok value =>
      obtain ⟨outcome, after, hafter, hfinished⟩ := hnext value state hpost
      refine ⟨outcome, after, ?_, hfinished⟩
      rw [hbind, hrun]
      exact hafter
  | error failure =>
      refine ⟨.error failure, state, ?_, hpost⟩
      rw [hbind, hrun]
      rfl

theorem ends_inspect_bind
    {read : σ → α} (hnext : Ends (next (read before)) before finished failed) :
    Ends (inspect read >>= next) before finished failed :=
  hnext

theorem ends_need_bind
    {read : σ → Option α} {failure : ε}
    (hsome : ∀ value, read before = some value →
      Ends (next value) before finished failed)
    (hnone : read before = none → failed failure before) :
    Ends (need read failure >>= next) before finished failed := by
  have hneed : Ends (need read failure : Effect σ ε α) before
      (fun value state => state = before ∧ read before = some value)
      failed := by
    refine ends_inspect_bind ?_
    cases hread : read before with
    | none => exact ends_throw (hnone hread)
    | some value => exact ends_pure ⟨rfl, rfl⟩
  refine hneed.bind ?_
  rintro value state ⟨rfl, hvalue⟩
  exact hsome value hvalue

theorem ends_failIf
    {condition : Bool} {failure : ε} {done : Unit → σ → Prop}
    (hfailed : condition = true → failed failure before)
    (hdone : condition = false → done () before) :
    Ends (failIf condition failure) before done failed := by
  cases condition with
  | true => exact ends_throw (hfailed rfl)
  | false => exact ends_pure (hdone rfl)

theorem ends_failIf_bind
    {condition : Bool} {failure : ε} {next : Unit → Effect σ ε β}
    (hfailed : condition = true → failed failure before)
    (hnext : condition = false → Ends (next ()) before finished failed) :
    Ends (failIf condition failure >>= next) before finished failed := by
  cases condition with
  | true => exact ⟨.error failure, before, rfl, hfailed rfl⟩
  | false => exact hnext rfl

theorem ends_change
    {update : σ → Option σ} {failure : ε} {done : PUnit → σ → Prop}
    (hsome : ∀ after, update before = some after → done ⟨⟩ after)
    (hnone : update before = none → failed failure before) :
    Ends (change update failure) before done failed := by
  refine ends_inspect_bind ?_
  cases hupdate : update before with
  | none => exact ends_throw (hnone hupdate)
  | some after => exact ends_set (hsome after hupdate)

/-- A result that was computed without the state. -/
theorem ends_ofExcept_bind
    {result : Except ε α}
    (hok : ∀ value, result = .ok value →
      Ends (next value) before finished failed)
    (herror : ∀ failure, result = .error failure → failed failure before) :
    Ends (ofExcept result >>= next) before finished failed := by
  cases result with
  | ok value => exact hok value rfl
  | error failure =>
      exact ⟨.error failure, before, rfl, herror failure rfl⟩

theorem ends_failIf_false_bind
    {failure : ε} {next : Unit → Effect σ ε β}
    (hnext : Ends (next ()) before finished failed) :
    Ends (failIf false failure >>= next) before finished failed :=
  hnext

/-- What one element takes from the invariant of the elements to come to that
of the rest, the loop takes to the end. -/
theorem ends_forM
    {body : α → Effect σ ε PUnit} {elements : List α}
    {invariant : List α → σ → Prop}
    (hbody : ∀ element rest state, invariant (element :: rest) state →
      Ends (body element) state (fun _ after => invariant rest after) failed)
    (hstart : invariant elements before) :
    Ends (elements.forM body) before (fun _ after => invariant [] after)
      failed := by
  induction elements generalizing before with
  | nil => exact ends_pure hstart
  | cons element rest ih =>
      refine (hbody element rest before hstart).bind ?_
      intro _ state hstate
      exact ih hstate

end Effect

end Foundation
