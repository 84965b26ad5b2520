import DocumentClient.Failure

/-!
# DocumentClient.Action

**Computations that read and change a state and may fail.** A failure keeps the state in which it
happened: what was done before it is done. That is why the outcome stands beside the state, and not
the state within the outcome.

* How a computation goes on is known once it is known how its first part ends: `bind_apply_of_ok`
  and `bind_apply_of_error` are all that other modules use of the definition.
* `Respects` compares two runs of one computation, from states that agree on what matters to it. A
  computation that respects a relation between states gives one answer in both runs, and leaves
  states that are still related. Computations that do so can be put one after the other.
-/

namespace DocumentClient

/-- An outcome in two parts is a success only if the first part is, and then the second one. -/
theorem exists_of_outcome_bind_eq_ok {ε α β : Type} {outcome : Except ε α} {next : α → Except ε β}
    {value : β} (h : outcome >>= next = .ok value) :
    ∃ first, outcome = .ok first ∧ next first = .ok value := by
  cases outcome with
  | error _ => cases h
  | ok first => exact ⟨first, rfl, h⟩

/-- A computation on a state, which may fail. -/
def Action (τ α : Type) : Type :=
  τ → Except Failure α × τ

namespace Action

variable {τ τ' α β : Type}

/-- Succeeds and changes nothing. -/
def succeed (value : α) : Action τ α :=
  fun state => (.ok value, state)

/-- Fails and changes nothing. -/
def fail (failure : Failure) : Action τ α :=
  fun state => (.error failure, state)

/-- Gives what has been found out already. -/
def ofExcept (outcome : Except Failure α) : Action τ α :=
  fun state => (outcome, state)

/-- Gives what can be read off the state. -/
def read (view : τ → α) : Action τ α :=
  fun state => (.ok (view state), state)

/-- Changes the state. -/
def change (next : τ → τ) : Action τ Unit :=
  fun state => (.ok (), next state)

/-- Goes on with the value of a computation that succeeds. -/
def andThen (action : Action τ α) (next : α → Action τ β) : Action τ β :=
  fun state =>
    match action state with
    | (.ok value, state) => next value state
    | (.error failure, state) => (.error failure, state)

/-- Turns some failures into values. -/
def recover (action : Action τ α) (handler : Failure → Option α) : Action τ α :=
  fun state =>
    match action state with
    | (.ok value, state) => (.ok value, state)
    | (.error failure, state) =>
      match handler failure with
      | some value => (.ok value, state)
      | none => (.error failure, state)

/-- Runs a computation on a part of the state. -/
def within (get : τ → τ') (set : τ → τ' → τ) (action : Action τ' α) : Action τ α :=
  fun state =>
    let (outcome, part) := action (get state)
    (outcome, set state part)

instance : Monad (Action τ) where
  pure := succeed
  bind := andThen

@[simp] theorem pure_apply (value : α) (state : τ) :
    (pure value : Action τ α) state = (.ok value, state) := rfl

@[simp] theorem ofExcept_apply (outcome : Except Failure α) (state : τ) :
    (ofExcept outcome : Action τ α) state = (outcome, state) := rfl

/-- What follows a computation that succeeds starts in the state where that ended. -/
theorem bind_apply_of_ok {action : Action τ α} {next : α → Action τ β} {value : α}
    {state state' : τ} (h : action state = (.ok value, state')) :
    (action >>= next) state = next value state' := by
  change andThen action next state = _
  simp [andThen, h]

/-- What follows a computation that fails is left out. -/
theorem bind_apply_of_error {action : Action τ α} {next : α → Action τ β} {failure : Failure}
    {state state' : τ} (h : action state = (.error failure, state')) :
    (action >>= next) state = (.error failure, state') := by
  change andThen action next state = _
  simp [andThen, h]

/-- A computation in two parts succeeds only if the first one does, and the second one after it. -/
theorem exists_of_bind_eq_ok {action : Action τ α} {next : α → Action τ β} {value : β} {state : τ}
    (h : ((action >>= next) state).1 = .ok value) :
    ∃ first state', action state = (.ok first, state') ∧ (next first state').1 = .ok value := by
  rcases ended : action state with ⟨failure | first, state'⟩
  · rw [bind_apply_of_error ended] at h
    cases h
  · rw [bind_apply_of_ok ended] at h
    exact ⟨first, state', rfl, h⟩

/-- A value that is changed afterwards: the outcome is changed, the state is the same. -/
theorem map_apply (f : α → β) (action : Action τ α) (state : τ) :
    (f <$> action) state = ((action state).1.map f, (action state).2) := by
  change andThen action (fun value => succeed (f value)) state = _
  unfold andThen
  generalize action state = ended
  obtain ⟨outcome, state'⟩ := ended
  cases outcome <;> rfl

/-- A computation that succeeds has nothing to recover from. -/
theorem recover_apply_of_ok {action : Action τ α} {handler : Failure → Option α} {value : α}
    {state state' : τ} (h : action state = (.ok value, state')) :
    action.recover handler state = (.ok value, state') := by
  simp only [recover, h]

/-- A failure is turned into a value, or remains. -/
theorem recover_apply_of_error {action : Action τ α} {handler : Failure → Option α}
    {failure : Failure} {state state' : τ} (h : action state = (.error failure, state')) :
    action.recover handler state =
      ((handler failure).elim (.error failure) .ok, state') := by
  simp only [recover, h]
  cases handler failure <;> rfl

/-! ## Two runs -/

section TwoRuns

variable {related : τ → τ → Prop}

/-- States that are related lead to one answer, and to states that are related. -/
def Respects (related : τ → τ → Prop) (action : Action τ α) : Prop :=
  ∀ state state', related state state' →
    (action state).1 = (action state').1 ∧ related (action state).2 (action state').2

namespace Respects

/-- What is known already depends on no state. -/
theorem ofExcept (outcome : Except Failure α) :
    Respects related (Action.ofExcept outcome : Action τ α) :=
  fun _ _ same => ⟨rfl, same⟩

/-- If two runs agree so far, they agree in what goes on with respect. -/
theorem follows {state state' : τ} {action action' : Action τ α} {next : α → Action τ β}
    (answer : (action state).1 = (action' state').1)
    (same : related (action state).2 (action' state').2)
    (rest : ∀ value, Respects related (next value)) :
    ((action >>= next) state).1 = ((action' >>= next) state').1 ∧
      related ((action >>= next) state).2 ((action' >>= next) state').2 := by
  generalize ended : action state = run at answer same
  generalize ended' : action' state' = run' at answer same
  obtain ⟨outcome, after⟩ := run
  obtain ⟨outcome', after'⟩ := run'
  obtain rfl : outcome = outcome' := answer
  cases outcome with
  | ok value =>
      rw [bind_apply_of_ok ended, bind_apply_of_ok ended']
      exact rest value after after' same
  | error failure =>
      rw [bind_apply_of_error ended, bind_apply_of_error ended']
      exact ⟨rfl, same⟩

/-- One computation after another. -/
theorem bind {action : Action τ α} {next : α → Action τ β} (first : Respects related action)
    (rest : ∀ value, Respects related (next value)) : Respects related (action >>= next) := by
  intro state state' same
  obtain ⟨answer, same⟩ := first state state' same
  exact follows answer same rest

/-- What is read off the outcome of a computation. -/
theorem view {action : Action τ α} {action' : Action τ β} (first : Respects related action)
    (view : Except Failure α → Except Failure β)
    (eq : ∀ state, action' state = (view (action state).1, (action state).2)) :
    Respects related action' := by
  intro state state' same
  obtain ⟨answer, same⟩ := first state state' same
  rw [eq, eq]
  exact ⟨congrArg view answer, same⟩

end Respects

end TwoRuns

end Action

end DocumentClient
