import Mathlib.Tactic

/-!
# Event-driven machines and their runs

A machine answers every event with a next state and the outputs that event
makes visible.  The rules below turn a statement about one step into one
about every run: an invariant over the state and the outputs so far, a
condition that has to hold at each step, and a relation between two runs.
-/

namespace Foundation

structure Machine (σ ε ω : Type*) where
  step : σ → ε → σ × List ω

namespace Machine

variable {σ ε ω : Type*} (machine : Machine σ ε ω)

/-- The state after a sequence of events, with all outputs in order. -/
def run : σ → List ε → σ × List ω
  | state, [] => (state, [])
  | state, event :: rest =>
      let next := machine.step state event
      let after := run next.1 rest
      (after.1, next.2 ++ after.2)

@[simp] theorem run_nil (state : σ) : machine.run state [] = (state, []) := rfl

@[simp] theorem run_cons (state : σ) (event : ε) (rest : List ε) :
    machine.run state (event :: rest) =
      ((machine.run (machine.step state event).1 rest).1,
        (machine.step state event).2 ++
          (machine.run (machine.step state event).1 rest).2) := rfl

theorem run_append (state : σ) (before after : List ε) :
    machine.run state (before ++ after) =
      ((machine.run (machine.run state before).1 after).1,
        (machine.run state before).2 ++
          (machine.run (machine.run state before).1 after).2) := by
  induction before generalizing state with
  | nil => simp
  | cons event rest ih => simp [ih, List.append_assoc]

variable {machine}

/-- A property of the state and of the outputs so far which every step keeps
holds after every run. -/
theorem run_history
    (Inv : σ → List ω → Prop)
    (hstep : ∀ state history event, Inv state history →
      Inv (machine.step state event).1
        (history ++ (machine.step state event).2))
    {state : σ} {history : List ω} (hinit : Inv state history)
    (events : List ε) :
    Inv (machine.run state events).1
      (history ++ (machine.run state events).2) := by
  induction events generalizing state history with
  | nil => simpa using hinit
  | cons event rest ih =>
      have hnext := ih (hstep state history event hinit)
      simpa [List.append_assoc] using hnext

theorem run_invariant
    (Inv : σ → Prop)
    (hstep : ∀ state event, Inv state → Inv (machine.step state event).1)
    {state : σ} (hinit : Inv state) (events : List ε) :
    Inv (machine.run state events).1 := by
  induction events generalizing state with
  | nil => exact hinit
  | cons event rest ih => exact ih (hstep state event hinit)

/-- Events that leave the view of the state and are silent in it leave it over
a whole run. -/
theorem run_inert
    {τ : Type*} (view : σ → τ) (Inert : τ → ε → Prop)
    (hstep : ∀ state event, Inert (view state) event →
      view (machine.step state event).1 = view state ∧
        (machine.step state event).2 = [])
    {state : σ} {events : List ε}
    (hinert : ∀ event ∈ events, Inert (view state) event) :
    view (machine.run state events).1 = view state ∧
      (machine.run state events).2 = [] := by
  induction events generalizing state with
  | nil => exact ⟨rfl, rfl⟩
  | cons event rest ih =>
      obtain ⟨hview, hsilent⟩ :=
        hstep state event (hinert event List.mem_cons_self)
      have hrest : ∀ later ∈ rest,
          Inert (view (machine.step state event).1) later := by
        intro later hlater
        rw [hview]
        exact hinert later (List.mem_cons_of_mem _ hlater)
      obtain ⟨hstate, hempty⟩ := ih hrest
      rw [run_cons, hsilent, hempty, ← hview]
      exact ⟨hstate, rfl⟩

/-! ## Conditions on every step -/

variable (machine) in
/-- The condition holds at every step of the run, in the state in which the
step is taken. -/
def AlongRun (Condition : σ → ε → Prop) : σ → List ε → Prop
  | _, [] => True
  | state, event :: rest =>
      Condition state event ∧
        AlongRun Condition (machine.step state event).1 rest

instance instDecidableAlongRun (Condition : σ → ε → Prop)
    [∀ state event, Decidable (Condition state event)] (state : σ)
    (events : List ε) : Decidable (machine.AlongRun Condition state events) :=
  match events with
  | [] => isTrue trivial
  | event :: rest =>
      have := instDecidableAlongRun Condition (machine.step state event).1 rest
      inferInstanceAs (Decidable (_ ∧ _))

theorem alongRun_iff_forall
    {Condition : σ → ε → Prop} {state : σ} {events : List ε} :
    machine.AlongRun Condition state events ↔
      ∀ before event after, events = before ++ event :: after →
        Condition (machine.run state before).1 event := by
  induction events generalizing state with
  | nil => simp [AlongRun]
  | cons head rest ih =>
      rw [AlongRun, ih]
      constructor
      · rintro ⟨hhead, hrest⟩ before event after hsplit
        cases before with
        | nil =>
            obtain ⟨rfl, rfl⟩ := List.cons.inj hsplit
            exact hhead
        | cons first before =>
            obtain ⟨rfl, htail⟩ := List.cons.inj hsplit
            exact hrest before event after htail
      · intro hall
        refine ⟨hall [] head rest rfl, fun before event after hsplit => ?_⟩
        exact hall (head :: before) event after (by rw [hsplit]; rfl)

/-- Conditions which agree wherever an invariant and an assumption on the
event hold agree along every run that meets the assumption, provided the steps
that satisfy them keep the invariant. -/
theorem alongRun_iff_of_assumed
    {Inv : σ → Prop} {Assume Safe Guard : σ → ε → Prop}
    (hiff : ∀ state event, Inv state → Assume state event →
      (Safe state event ↔ Guard state event))
    (hstep : ∀ state event, Inv state → Assume state event →
      Guard state event → Inv (machine.step state event).1)
    {state : σ} (hinit : Inv state) {events : List ε}
    (hassume : machine.AlongRun Assume state events) :
    machine.AlongRun Safe state events ↔
      machine.AlongRun Guard state events := by
  induction events generalizing state with
  | nil => exact Iff.rfl
  | cons event rest ih =>
      obtain ⟨hevent, hrest⟩ := hassume
      simp only [AlongRun]
      constructor
      · rintro ⟨hsafe, hsafeRest⟩
        have hguard := (hiff state event hinit hevent).mp hsafe
        have hnext := hstep state event hinit hevent hguard
        exact ⟨hguard, (ih hnext hrest).mp hsafeRest⟩
      · rintro ⟨hguard, hguardRest⟩
        have hnext := hstep state event hinit hevent hguard
        exact ⟨(hiff state event hinit hevent).mpr hguard,
          (ih hnext hrest).mpr hguardRest⟩

/-- What every step that meets the condition keeps holds after every run whose
steps all meet it. -/
theorem run_history_along
    {Condition : σ → ε → Prop} (Inv : σ → List ω → Prop)
    (hstep : ∀ state history event, Condition state event →
      Inv state history → Inv (machine.step state event).1
        (history ++ (machine.step state event).2))
    {state : σ} {history : List ω} (hinit : Inv state history)
    {events : List ε} (halong : machine.AlongRun Condition state events) :
    Inv (machine.run state events).1
      (history ++ (machine.run state events).2) := by
  induction events generalizing state history with
  | nil => simpa using hinit
  | cons event rest ih =>
      obtain ⟨hevent, hrest⟩ := halong
      have hnext := ih (hstep state history event hevent hinit) hrest
      simpa [List.append_assoc] using hnext

theorem alongRun_of_forall
    {Condition : σ → ε → Prop} (hall : ∀ state event, Condition state event)
    (state : σ) (events : List ε) :
    machine.AlongRun Condition state events :=
  alongRun_iff_forall.mpr fun _ event _ _ => hall _ event

theorem alongRun_iff
    {Inv : σ → Prop} {Safe Guard : σ → ε → Prop}
    (hiff : ∀ state event, Inv state → (Safe state event ↔ Guard state event))
    (hstep : ∀ state event, Inv state → Guard state event →
      Inv (machine.step state event).1)
    {state : σ} (hinit : Inv state) (events : List ε) :
    machine.AlongRun Safe state events ↔
      machine.AlongRun Guard state events := by
  have htrivial : machine.AlongRun (fun _ _ => True) state events :=
    alongRun_of_forall (fun _ _ => trivial) state events
  refine alongRun_iff_of_assumed ?_ ?_ hinit htrivial
  · intro state event hinv _
    exact hiff state event hinv
  · intro state event hinv _
    exact hstep state event hinv

/-! ## Records and those before them -/

/-- Every record is as the records before it demand. -/
def Justified (Demand : List ω → ω → Prop) (records : List ω) : Prop :=
  ∀ before record after, records = before ++ record :: after →
    Demand before record

theorem justified_nil (Demand : List ω → ω → Prop) : Justified Demand [] := by
  intro before record after hsplit
  simp at hsplit

theorem Justified.snoc
    {Demand : List ω → ω → Prop} {records : List ω}
    (hjustified : Justified Demand records) {record : ω}
    (hrecord : Demand records record) :
    Justified Demand (records ++ [record]) := by
  intro before other after hsplit
  rcases List.eq_nil_or_concat after with rfl | ⟨init, last, rfl⟩
  · obtain ⟨rfl, hother⟩ := List.append_inj' hsplit rfl
    obtain rfl := (List.cons.inj hother).1
    exact hrecord
  · have hsplit' : records ++ [record] =
        (before ++ other :: init) ++ [last] := by
      simpa using hsplit
    exact hjustified before other init (List.append_inj' hsplit' rfl).1

theorem Justified.append
    {Demand : List ω → ω → Prop} {records more : List ω}
    (hjustified : Justified Demand records)
    (hmore : ∀ before record after, more = before ++ record :: after →
      Demand (records ++ before) record) :
    Justified Demand (records ++ more) := by
  induction more generalizing records with
  | nil => simpa using hjustified
  | cons record rest ih =>
      have hfirst := hmore [] record rest rfl
      rw [List.append_nil] at hfirst
      rw [List.append_cons]
      refine ih (hjustified.snoc hfirst) fun before other after hsplit => ?_
      have hlater := hmore (record :: before) other after (by rw [hsplit]; rfl)
      rw [List.append_cons] at hlater
      exact hlater

/-- Records that demand nothing of those before them. -/
theorem Justified.append_of_forall
    {Demand : List ω → ω → Prop} {records more : List ω}
    (hjustified : Justified Demand records)
    (hmore : ∀ record ∈ more, ∀ before, Demand before record) :
    Justified Demand (records ++ more) := by
  refine hjustified.append fun before record after hsplit => ?_
  exact hmore record (by simp [hsplit]) (records ++ before)

/-! ## Two runs that differ in silent events -/

section Silent

variable {τ : Type*} {erase : σ → τ} {Silent : ε → Bool}

/-- Leaving out the silent events changes neither the outputs nor what is left
of the final state, whatever the erased parts of the two start states are. -/
theorem run_filter_silent
    (hsilent : ∀ state event, Silent event = true →
      erase (machine.step state event).1 = erase state ∧
        (machine.step state event).2 = [])
    (hheard : ∀ left right event, erase left = erase right →
      erase (machine.step left event).1 =
          erase (machine.step right event).1 ∧
        (machine.step left event).2 = (machine.step right event).2)
    {left right : σ} (herase : erase left = erase right) (events : List ε) :
    erase (machine.run left events).1 =
        erase (machine.run right (events.filter fun e => !Silent e)).1 ∧
      (machine.run left events).2 =
        (machine.run right (events.filter fun e => !Silent e)).2 := by
  induction events generalizing left right with
  | nil => exact ⟨herase, rfl⟩
  | cons event rest ih =>
      cases hevent : Silent event with
      | true =>
          obtain ⟨hstate, houtput⟩ := hsilent left event hevent
          have hrest := ih (hstate.trans herase)
          rw [List.filter_cons_of_neg (by simp [hevent]), run_cons, houtput]
          exact hrest
      | false =>
          obtain ⟨hstate, houtput⟩ := hheard left right event herase
          have hrest := ih hstate
          rw [List.filter_cons_of_pos (by simp [hevent]), run_cons, run_cons,
            houtput]
          exact ⟨hrest.1,
            congrArg ((machine.step right event).2 ++ ·) hrest.2⟩

theorem run_congr_silent
    (hsilent : ∀ state event, Silent event = true →
      erase (machine.step state event).1 = erase state ∧
        (machine.step state event).2 = [])
    (hheard : ∀ left right event, erase left = erase right →
      erase (machine.step left event).1 =
          erase (machine.step right event).1 ∧
        (machine.step left event).2 = (machine.step right event).2)
    {left right : σ} (herase : erase left = erase right)
    {events others : List ε}
    (hevents : events.filter (fun e => !Silent e) =
      others.filter fun e => !Silent e) :
    erase (machine.run left events).1 = erase (machine.run right others).1 ∧
      (machine.run left events).2 = (machine.run right others).2 := by
  have hleft := run_filter_silent hsilent hheard herase events
  have hsame : erase right = erase right := rfl
  have hright := run_filter_silent hsilent hheard hsame others
  rw [hevents] at hleft
  exact ⟨hleft.1.trans hright.1.symm, hleft.2.trans hright.2.symm⟩

end Silent

end Machine

/-! ## Labelled paths -/

/-- A path of a labelled step relation, with the labels it passes. -/
inductive Path {σ ω : Type*} (Step : σ → ω → σ → Prop) :
    σ → List ω → σ → Prop where
  | nil (state : σ) : Path Step state [] state
  | cons {first next last : σ} {label : ω} {labels : List ω}
      (hstep : Step first label next) (hrest : Path Step next labels last) :
      Path Step first (label :: labels) last

namespace Path

variable {σ ω : Type*} {Step : σ → ω → σ → Prop}

theorem append {first middle last : σ} {before after : List ω}
    (hbefore : Path Step first before middle)
    (hafter : Path Step middle after last) :
    Path Step first (before ++ after) last := by
  induction hbefore with
  | nil => exact hafter
  | cons hstep _ ih => exact cons hstep (ih hafter)

theorem split {first last : σ} {before after : List ω}
    (hpath : Path Step first (before ++ after) last) :
    ∃ middle, Path Step first before middle ∧
      Path Step middle after last := by
  induction before generalizing first with
  | nil => exact ⟨first, nil first, hpath⟩
  | cons label rest ih =>
      cases hpath with
      | cons hstep hrest =>
          obtain ⟨middle, hbefore, hafter⟩ := ih hrest
          exact ⟨middle, cons hstep hbefore, hafter⟩

/-- What every step keeps, every path keeps; the property may look at the
labels passed so far through an accumulated account of them. -/
theorem invariant {α : Type*} {account : α → ω → α} {Inv : α → σ → Prop}
    (hstep : ∀ tally first label last, Step first label last →
      Inv tally first → Inv (account tally label) last)
    {first last : σ} {labels : List ω}
    (hpath : Path Step first labels last) {tally : α}
    (hinit : Inv tally first) :
    Inv (labels.foldl account tally) last := by
  induction hpath generalizing tally with
  | nil => exact hinit
  | cons hfirst _ ih => exact ih (hstep _ _ _ _ hfirst hinit)

end Path

/-- Machine runs are paths when every event is one. -/
theorem Machine.run_path
    {σ ε ω τ : Type*} {machine : Machine σ ε ω} (view : σ → τ)
    {Step : τ → ω → τ → Prop}
    (hstep : ∀ state event, Path Step (view state)
      (machine.step state event).2 (view (machine.step state event).1))
    (state : σ) (events : List ε) :
    Path Step (view state) (machine.run state events).2
      (view (machine.run state events).1) := by
  induction events generalizing state with
  | nil => exact Path.nil _
  | cons event rest ih => exact (hstep state event).append (ih _)

end Foundation
