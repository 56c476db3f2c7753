import Revana.Foundation.Loop

/-!
# Computations that read a memory

A computation over a memory is a tree of the indices it asks for.  It cannot
look at the memory in any other way, so the indices it reads are all that its
result depends on.
-/

namespace Foundation

/-- Ask the memory for the value at an index and go on with the answer. -/
inductive Reading (β α : Type) where
  | finished (value : α)
  | read (index : ℕ) (next : β → Reading β α)

namespace Reading

variable {β α γ σ ρ ι : Type}

def bind : Reading β α → (α → Reading β γ) → Reading β γ
  | .finished value, next => next value
  | .read index rest, next => .read index fun found => bind (rest found) next

instance : Monad (Reading β) where
  pure := Reading.finished
  bind := bind

def readAt (index : ℕ) : Reading β β := .read index .finished

/-- One computation for each element of a list, in order. -/
def collect (reading : ι → Reading β α) : List ι → Reading β (List α)
  | [] => pure []
  | first :: rest => do
      let value ← reading first
      let values ← collect reading rest
      return value :: values

def run (memory : ℕ → β) : Reading β α → α
  | .finished value => value
  | .read index next => run memory (next (memory index))

def indices (memory : ℕ → β) : Reading β α → List ℕ
  | .finished _ => []
  | .read index next => index :: indices memory (next (memory index))

variable {memory other : ℕ → β}

@[simp] theorem run_pure (value : α) :
    run memory (pure value : Reading β α) = value := rfl

@[simp] theorem indices_pure (value : α) :
    indices memory (pure value : Reading β α) = [] := rfl

@[simp] theorem indices_readAt (index : ℕ) :
    indices memory (readAt index : Reading β β) = [index] := rfl

@[simp] theorem run_bind (reading : Reading β α) (next : α → Reading β γ) :
    run memory (reading >>= next) =
      run memory (next (run memory reading)) := by
  change run memory (bind reading next) = _
  induction reading with
  | finished value => rfl
  | read index rest ih => exact ih (memory index)

@[simp] theorem indices_bind
    (reading : Reading β α) (next : α → Reading β γ) :
    indices memory (reading >>= next) =
      indices memory reading ++ indices memory (next (run memory reading)) := by
  change indices memory (bind reading next) = _
  induction reading with
  | finished value => rfl
  | read index rest ih =>
      exact congrArg (List.cons index) (ih (memory index))

/-- Memories that agree where one of them is read give the same result and
are read at the same indices. -/
theorem congr
    {reading : Reading β α}
    (hagree : ∀ index ∈ reading.indices memory, memory index = other index) :
    reading.run memory = reading.run other ∧
      reading.indices memory = reading.indices other := by
  induction reading with
  | finished value => exact ⟨rfl, rfl⟩
  | read index next ih =>
      have hhead := hagree index List.mem_cons_self
      unfold run indices
      rw [← hhead]
      obtain ⟨hrun, hindices⟩ := ih (memory index) fun later hlater =>
        hagree later (List.mem_cons_of_mem _ hlater)
      exact ⟨hrun, congrArg (List.cons index) hindices⟩

/-! ## Bounds -/

/-- Every index read lies in a half-open range. -/
def Within (memory : ℕ → β) (low high : ℕ) (reading : Reading β α) : Prop :=
  ∀ index ∈ reading.indices memory, low ≤ index ∧ index < high

variable {low high : ℕ}

theorem within_pure (value : α) :
    Within memory low high (pure value : Reading β α) := by
  intro index hindex
  simp at hindex

theorem within_readAt
    {index : ℕ} (hlow : low ≤ index) (hhigh : index < high) :
    Within memory low high (readAt index : Reading β β) := by
  intro found hfound
  obtain rfl := List.mem_singleton.mp hfound
  exact ⟨hlow, hhigh⟩

theorem Within.bind
    {reading : Reading β α} {next : α → Reading β γ}
    (hreading : Within memory low high reading)
    (hnext : Within memory low high (next (reading.run memory))) :
    Within memory low high (reading >>= next) := by
  intro index hindex
  rw [indices_bind, List.mem_append] at hindex
  exact hindex.elim (hreading index) (hnext index)

theorem Within.collect
    {reading : ι → Reading β α} {elements : List ι}
    (hreading : ∀ element ∈ elements,
      Within memory low high (reading element)) :
    Within memory low high (collect reading elements) := by
  induction elements with
  | nil => exact within_pure []
  | cons first rest ih =>
      have hfirst := hreading first List.mem_cons_self
      have hrest := ih fun element helement =>
        hreading element (List.mem_cons_of_mem _ helement)
      exact hfirst.bind (hrest.bind (within_pure _))

/-! ## Loops -/

/-- A loop body with the indices that were read so far beside its state. -/
def turn (body : σ → Reading β (Turn σ ρ)) (memory : ℕ → β)
    (state : σ × List ℕ) : Turn (σ × List ℕ) (ρ × List ℕ) :=
  let seen := state.2 ++ (body state.1).indices memory
  match (body state.1).run memory with
  | .again next => .again (next, seen)
  | .done result => .done (result, seen)

variable {body : σ → Reading β (Turn σ ρ)}

theorem turn_again
    {state next : σ} (hbody : (body state).run memory = .again next)
    (seen : List ℕ) :
    turn body memory (state, seen) =
      .again (next, seen ++ (body state).indices memory) := by
  unfold turn
  simp only [hbody]

theorem turn_done
    {state : σ} {result : ρ}
    (hbody : (body state).run memory = .done result) (seen : List ℕ) :
    turn body memory (state, seen) =
      .done (result, seen ++ (body state).indices memory) := by
  unfold turn
  simp only [hbody]

/-- A loop forgets nothing it read. -/
theorem seen_subset
    {fuel : ℕ} {state : σ} {seen all : List ℕ} {result : ρ}
    (hloop : Turn.iterate (turn body memory) fuel (state, seen) =
      some (result, all)) :
    seen ++ (body state).indices memory ⊆ all := by
  induction fuel generalizing state seen with
  | zero => cases hloop
  | succ fuel ih =>
      cases hbody : (body state).run memory with
      | again next =>
          rw [Turn.iterate_again (turn_again hbody seen)] at hloop
          exact fun index hindex =>
            ih hloop (List.mem_append_left _ hindex)
      | done last =>
          rw [Turn.iterate_done (turn_done hbody seen)] at hloop
          obtain ⟨-, rfl⟩ := Prod.mk.inj (Option.some.inj hloop)
          exact List.Subset.refl _

/-- A loop ends alike on every memory that agrees where it was read. -/
theorem iterate_congr
    {fuel : ℕ} {state : σ} {seen all : List ℕ} {result : ρ}
    (hloop : Turn.iterate (turn body memory) fuel (state, seen) =
      some (result, all))
    (hagree : ∀ index ∈ all, memory index = other index) :
    Turn.iterate (turn body other) fuel (state, seen) =
      some (result, all) := by
  induction fuel generalizing state seen with
  | zero => cases hloop
  | succ fuel ih =>
      have hsubset := seen_subset hloop
      obtain ⟨hrun, hindices⟩ := congr fun index hindex =>
        hagree index (hsubset (List.mem_append_right _ hindex))
      cases hbody : (body state).run memory with
      | again next =>
          rw [Turn.iterate_again (turn_again hbody seen)] at hloop
          rw [hbody] at hrun
          rw [Turn.iterate_again (turn_again hrun.symm seen), ← hindices]
          exact ih hloop
      | done last =>
          rw [Turn.iterate_done (turn_done hbody seen)] at hloop
          rw [hbody] at hrun
          rw [Turn.iterate_done (turn_done hrun.symm seen), ← hindices]
          exact hloop

end Reading

end Foundation
