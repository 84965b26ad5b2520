import DocumentClient.Proofs.Retry.Policies
import DocumentClient.Store.Memory

/-!
# DocumentClient.Proofs.Store.Serving

**A call of a container in memory, and the failures that wait in front of it.** Calls differ in what
they do to documents and are alike in everything else: each counts, takes the first failure that
waits, and only without one does what it is there for.

* `Memory.Container.effect` is what a call does to documents once it is served. `Serves` says that
  it does nothing besides; every call of a container is such (`serves_readItem` and the others).
* `Conclusive` says that what a served call fails with does not go away by itself. So a policy of
  the client is never asked about it, and a run is over with the first call that is served.
* `Memory.Serving` relates stores before and after some calls: one container has other documents,
  was called so often, and has so many failures left.

## Proof shape

* `serves_served` shows for all calls at once that they go through the queue; what is left for
  each is `OnlyDocuments`, that its answer depends on the documents alone.
* `Policy.run_inContainer` is the run of a call without any failure in front of it: one attempt.
* `Policy.runFrom_absorbs` is the induction over the failures that wait. Each one that a rule
  accepts costs one repetition, and the documents stay as they are.
* `Policy.run_preserves` asks nothing of failures or cancellation: what a call preserves, every
  run of it does.
-/

namespace DocumentClient

open Store

variable {α : Type}

namespace Memory.Container

/-! ### Calls of a container -/

/-- What a call does to documents: what it answers, and the documents afterwards. -/
def effect (step : Step α) (documents : Documents) : Except Failure α × Documents :=
  let (answer, container) := step { documents }
  (answer, container.documents)

/-- A call that goes through the queue of failures. -/
structure Serves (step : Step α) : Prop where
  /-- Without a failure the call counts and has its effect. -/
  answered : ∀ container : Container, container.failures = [] →
    (step container).1 = (effect step container.documents).1 ∧
      (step container).2.documents = (effect step container.documents).2 ∧
      (step container).2.calls = container.calls + 1 ∧ (step container).2.failures = []
  /-- The call counts and takes the first failure, if there is one. -/
  refused : ∀ (container : Container) (failure : Failure) (failures : List Failure),
    container.failures = failure :: failures →
    (step container).1 = .error failure ∧
      (step container).2.documents = container.documents ∧
      (step container).2.calls = container.calls + 1 ∧ (step container).2.failures = failures

/-- Does the answer to a call depend on the documents alone, and are they all that changes? -/
def OnlyDocuments (answer : Step α) : Prop :=
  ∀ container : Container,
    answer container =
      ((answer { documents := container.documents }).1,
        { container with documents := (answer { documents := container.documents }).2.documents })

/-- If the answer depends on the documents alone, the call goes through the queue. -/
theorem serves_served {answer : Step α} (h : OnlyDocuments answer) : Serves (served answer) where
  answered container quiet := by
    have answered := h { container with calls := container.calls + 1 }
    have alone := h { documents := container.documents, calls := 1 }
    have effect_eq : effect (served answer) container.documents =
        ((answer { documents := container.documents }).1,
          (answer { documents := container.documents }).2.documents) := by
      simp only [effect, served, Nat.zero_add, alone]
    rw [effect_eq]
    simp only [served, quiet] at answered ⊢
    rw [answered]
    exact ⟨rfl, rfl, rfl, rfl⟩
  refused container failure failures waiting := by
    simp only [served, waiting]
    trivial

theorem serves_readItem (name id : String) (key : PartitionKey) :
    Serves (readItem name id key) := by
  refine serves_served fun container => ?_
  dsimp only
  cases container.documents.find? (documentKey key id) <;> rfl

theorem serves_upsertItem (key : PartitionKey) (document : Json) :
    Serves (upsertItem key document) := by
  refine serves_served fun container => ?_
  dsimp only
  split <;> rfl

theorem serves_deleteItem (name id : String) (key : PartitionKey) :
    Serves (deleteItem name id key) := by
  refine serves_served fun container => ?_
  dsimp only
  split <;> rfl

theorem serves_patchItem (name id : String) (key : PartitionKey) (ops : List PatchOp) :
    Serves (patchItem name id key ops) := by
  refine serves_served fun container => ?_
  dsimp only
  cases container.documents.find? (documentKey key id) with
  | none => rfl
  | some document =>
      dsimp only
      cases (Patch.applyAll ops document).2 <;> rfl

theorem serves_queryItems (statement : Query.Statement) (options : QueryOptions) :
    Serves (queryItems statement options) := by
  refine serves_served fun container => ?_
  have same : documentsOf { documents := container.documents } options.key =
      container.documentsOf options.key := rfl
  rw [same]
  cases Query.evaluate? statement (container.documentsOf options.key) <;> rfl

theorem onlyDocuments_batchAnswer (key : PartitionKey) (operations : List Batch.Operation) :
    OnlyDocuments (batchAnswer key operations) := by
  intro container
  simp only [batchAnswer]
  cases applyOperations key operations container.documents with
  | ok applied => rfl
  | error refused =>
      obtain ⟨index, refusal⟩ := refused
      cases refusal <;> rfl

/-- A batch goes through the queue; that batches are counted on their own does not matter. -/
theorem serves_executeBatch (key : PartitionKey) (operations : List Batch.Operation) :
    Serves (executeBatch key operations) := by
  have serves := serves_served (onlyDocuments_batchAnswer key operations)
  have counted : ∀ container : Container,
      effect (executeBatch key operations) container.documents =
        effect (served (batchAnswer key operations)) container.documents := by
    intro container
    have alone := onlyDocuments_batchAnswer key operations
    simp only [effect, executeBatch, served]
    rw [alone { documents := container.documents, calls := 0 + 1, batchCalls := 0 + 1 },
      alone { documents := container.documents, calls := 0 + 1 }]
  refine ⟨fun container quiet => ?_, fun container failure failures waiting => ?_⟩
  · rw [counted]
    exact serves.answered { container with batchCalls := container.batchCalls + 1 } quiet
  · exact serves.refused { container with batchCalls := container.batchCalls + 1 } failure failures
      waiting

/-! ### What a call can fail with -/

/-- Failures of a call that is served do not go away by themselves. -/
def Conclusive (step : Step α) : Prop :=
  ∀ documents failure, (effect step documents).1 = .error failure → failure.isTransient = false

theorem conclusive_readItem (name id : String) (key : PartitionKey) :
    Conclusive (readItem name id key) := by
  intro documents failure failed
  simp only [effect, readItem, served] at failed
  split at failed
  · cases failed
  · cases failed
    rfl

theorem conclusive_upsertItem (key : PartitionKey) (document : Json) :
    Conclusive (upsertItem key document) := by
  intro documents failure failed
  simp only [effect, upsertItem, served] at failed
  split at failed
  · cases failed
  · cases failed
    rfl

theorem conclusive_deleteItem (name id : String) (key : PartitionKey) :
    Conclusive (deleteItem name id key) := by
  intro documents failure failed
  simp only [effect, deleteItem, served] at failed
  split at failed
  · cases failed
  · cases failed
    rfl

theorem conclusive_patchItem (name id : String) (key : PartitionKey) (ops : List PatchOp) :
    Conclusive (patchItem name id key ops) := by
  intro documents failure failed
  simp only [effect, patchItem, served] at failed
  split at failed
  · cases failed
    rfl
  · split at failed
    · cases failed
    · rename_i error _
      cases failed
      cases error <;> rfl

/-- A page that cannot be found will not be found later. -/
theorem startOf_isTransient {continuation : Option String} {failure : Failure}
    (h : startOf continuation = .error failure) : failure.isTransient = false := by
  cases continuation with
  | none => cases h
  | some token =>
      simp only [startOf] at h
      cases read : Text.readNumeral Word.max64 token.toList with
      | ok start =>
          rw [read] at h
          cases h
      | error problem =>
          rw [read] at h
          cases h
          rfl

/-- A query that fails is not understood, or does not say where to go on. -/
theorem conclusive_queryItems (statement : Query.Statement) (options : QueryOptions) :
    Conclusive (queryItems statement options) := by
  intro documents failure failed
  simp only [effect, queryItems, served] at failed
  split at failed
  · cases failed
    rfl
  · cases start : startOf options.continuation with
    | ok start => simp [start, Except.map] at failed
    | error problem =>
        obtain ⟨rfl⟩ : problem = failure := by simpa [start, Except.map] using failed
        exact startOf_isTransient start

/-- A batch that ends without a result adds numbers out of range. -/
theorem conclusive_executeBatch (key : PartitionKey) (operations : List Batch.Operation) :
    Conclusive (executeBatch key operations) := by
  intro documents failure failed
  simp only [effect, executeBatch, served, batchAnswer] at failed
  split at failed
  · cases failed
  · cases failed
    rfl
  · cases failed

end Memory.Container

/-! ### The containers of a store -/

/-- Calls have changed one container of a store: its documents, how often it was called, and the
failures that still wait. -/
structure Memory.Serving (name : String) (before after : Memory) (documents : Documents)
    (calls : Nat) (failures : List Failure) : Prop where
  /-- The documents of the container. -/
  documents : (after.container name).documents = documents
  /-- How many calls were added. -/
  calls : (after.container name).calls = (before.container name).calls + calls
  /-- The failures that are left. -/
  failures : (after.container name).failures = failures
  /-- The other containers are left alone. -/
  others : ∀ other, other ≠ name → after.container other = before.container other

namespace Memory.Serving

variable {name : String} {before between after : Memory} {documents documents' : Documents}
  {calls calls' : Nat} {failures failures' : List Failure}

theorem refl (memory : Memory) (name : String) :
    Serving name memory memory (memory.container name).documents 0
      (memory.container name).failures :=
  ⟨rfl, rfl, rfl, fun _ _ => rfl⟩

theorem trans (first : Serving name before between documents calls failures)
    (second : Serving name between after documents' calls' failures') :
    Serving name before after documents' (calls + calls') failures' := by
  refine ⟨second.documents, ?_, second.failures, fun other different => ?_⟩
  · rw [second.calls, first.calls, Nat.add_assoc]
  · rw [second.others other different, first.others other different]

theorem of_step {container : Memory.Container}
    (kept : container.documents = documents)
    (counted : container.calls = (before.container name).calls + 1)
    (left : container.failures = failures) :
    Serving name before (before.setContainer name container) documents 1 failures := by
  have self := container_setContainer_self before name container
  refine ⟨?_, ?_, ?_, fun other different => container_setContainer_of_ne different _ _⟩
  · rw [self, kept]
  · rw [self, counted]
  · rw [self, left]

end Memory.Serving

namespace Retry.Policy

open Memory.Container

/-! ### Runs -/

section

variable {policy : Policy} {operation : String} {request : Request} {name : String}
  {step : Memory.Container.Step α} {moment : Moment Memory}

theorem inContainer_eq (now : Nat) (memory : Memory) :
    Memory.inContainer name step now memory =
      .atOnce (step (memory.container name)).1
        (memory.setContainer name (step (memory.container name)).2) := rfl

/-- A call without any failure in front of it is made once, and has its effect, if no rule accepts
the failure that it may have. -/
theorem run_inContainer_of_settled (operation : String) (serves : Serves step)
    (settled : ∀ failure, (effect step (moment.store.container name).documents).1 =
      .error failure → policy.ruleFor? failure = none)
    (live : request.cancelledBy? moment.now = none)
    (quiet : (moment.store.container name).failures = []) (left : Nat) :
    ∃ memory, policy.runFrom operation request (Memory.inContainer name step) left moment =
        ((effect step (moment.store.container name).documents).1,
          { moment with store := memory }) ∧
      Memory.Serving name moment.store memory
        (effect step (moment.store.container name).documents).2 1 [] := by
  obtain ⟨answer, documents, calls, failures⟩ := serves.answered _ quiet
  refine ⟨moment.store.setContainer name (step (moment.store.container name)).2, ?_,
    .of_step documents calls failures⟩
  refine runFrom_of_done ?_
  rw [attempt_of_atOnce live (inContainer_eq _ _), answer]
  cases outcome : (effect step (moment.store.container name).documents).1 with
  | ok value => rfl
  | error failure => exact judge_of_refused (settled failure outcome) _ _

/-- **A call without any failure in front of it** is made once, and has its effect. -/
theorem run_inContainer (operation : String) (usual : policy.Usual) (serves : Serves step)
    (conclusive : Conclusive step) (live : request.cancelledBy? moment.now = none)
    (quiet : (moment.store.container name).failures = []) (left : Nat) :
    ∃ memory, policy.runFrom operation request (Memory.inContainer name step) left moment =
        ((effect step (moment.store.container name).documents).1,
          { moment with store := memory }) ∧
      Memory.Serving name moment.store memory
        (effect step (moment.store.container name).documents).2 1 [] :=
  run_inContainer_of_settled operation serves
    (fun failure failed => usual.ruleFor?_eq_none (conclusive _ failure failed)) live quiet left

/-- An attempt at a call of a container in memory is not made, or it is served at once. -/
theorem attempt_inContainer (operation : String) (limit : Duration) (request : Request)
    (name : String) (step : Memory.Container.Step α) (moment : Moment Memory) :
    attempt operation limit request (Memory.inContainer name step) moment = .cancelled moment ∨
      attempt operation limit request (Memory.inContainer name step) moment =
        .finished (step (moment.store.container name)).1 false
          { moment with
            store := moment.store.setContainer name (step (moment.store.container name)).2 } := by
  cases live : request.cancelledBy? moment.now with
  | some instant =>
      refine .inl (if_pos ?_)
      rw [live]
      rfl
  | none => exact .inr (attempt_of_atOnce live rfl)

/-- An attempt takes the first failure that waits, in place of an answer. -/
theorem attempt_of_waiting (operation : String) (limit : Duration) (serves : Serves step)
    (live : request.cancelledBy? moment.now = none) {failure : Failure} {failures : List Failure}
    (waiting : (moment.store.container name).failures = failure :: failures) :
    ∃ memory, attempt operation limit request (Memory.inContainer name step) moment =
        .finished (.error failure) false { moment with store := memory } ∧
      Memory.Serving name moment.store memory (moment.store.container name).documents 1
        failures := by
  obtain ⟨answer, documents, calls, failures⟩ := serves.refused _ _ _ waiting
  refine ⟨moment.store.setContainer name (step (moment.store.container name)).2, ?_,
    .of_step documents calls failures⟩
  rw [attempt_of_atOnce live (inContainer_eq _ _), answer]

/-- One failure that a rule accepts costs one repetition. -/
theorem runFrom_absorbs_one (operation : String) (fit : policy.WaitsFit) (serves : Serves step)
    (uncancelled : request.cancelledFrom = none) {failure : Failure} {failures : List Failure}
    (waiting : (moment.store.container name).failures = failure :: failures)
    (accepted : (policy.ruleFor? failure).isSome) (left : Nat) :
    ∃ moment', policy.runFrom operation request (Memory.inContainer name step) (left + 1) moment =
        policy.runFrom operation request (Memory.inContainer name step) left moment' ∧
      Memory.Serving name moment.store moment'.store (moment.store.container name).documents 1
        failures := by
  obtain ⟨rule, accepted⟩ := Option.isSome_iff_exists.mp accepted
  obtain ⟨memory, attempted, served⟩ := attempt_of_waiting operation
    (request.attemptTimeout policy.attemptTimeout) serves
    (request.cancelledBy?_of_uncancelled uncancelled moment.now) waiting
  have verdict := (congrArg policy.judge attempted).trans (judge_of_accepted accepted false _)
  obtain ⟨moment', waited, store⟩ := wait_of_uncancelled fit uncancelled rule
    (policy.maxRetries - left) failure _
  refine ⟨moment', runFrom_of_waited verdict waited, ?_⟩
  rw [store]
  exact served

/-- A failure that no rule accepts, or that comes when no repetition is left, ends the run. -/
theorem runFrom_surfaces (operation : String) (serves : Serves step)
    (live : request.cancelledBy? moment.now = none) {failure : Failure} {failures : List Failure}
    (waiting : (moment.store.container name).failures = failure :: failures) {left : Nat}
    (final : policy.ruleFor? failure = none ∨ left = 0) :
    ∃ memory, policy.runFrom operation request (Memory.inContainer name step) left moment =
        (.error failure, { moment with store := memory }) ∧
      Memory.Serving name moment.store memory (moment.store.container name).documents 1
        failures := by
  obtain ⟨memory, attempted, served⟩ := attempt_of_waiting operation
    (request.attemptTimeout policy.attemptTimeout) serves live waiting
  refine ⟨memory, ?_, served⟩
  cases accepted : policy.ruleFor? failure with
  | none =>
      exact runFrom_of_done
        ((congrArg policy.judge attempted).trans (judge_of_refused accepted false _))
  | some rule =>
      obtain rfl : left = 0 := final.resolve_left (by simp [accepted])
      exact runFrom_zero_of_again
        ((congrArg policy.judge attempted).trans (judge_of_accepted accepted false _))

/-- **Induction over the failures that wait.** Those at the front that a rule accepts cost one
repetition each; the rest of the run finds the documents as they were. -/
theorem runFrom_absorbs (operation : String) (fit : policy.WaitsFit) (serves : Serves step)
    (uncancelled : request.cancelledFrom = none) (front : List Failure) {back : List Failure}
    (waiting : (moment.store.container name).failures = front ++ back)
    (accepted : ∀ failure ∈ front, (policy.ruleFor? failure).isSome) (left : Nat) :
    ∃ moment',
      policy.runFrom operation request (Memory.inContainer name step) (left + front.length)
          moment =
        policy.runFrom operation request (Memory.inContainer name step) left moment' ∧
      Memory.Serving name moment.store moment'.store (moment.store.container name).documents
        front.length back := by
  induction front generalizing moment with
  | nil =>
      have served := Memory.Serving.refl moment.store name
      rw [waiting] at served
      exact ⟨moment, rfl, served⟩
  | cons failure front ih =>
      obtain ⟨between, goesOn, served⟩ := runFrom_absorbs_one operation fit serves
        uncancelled waiting (accepted failure List.mem_cons_self) (left + front.length)
      obtain ⟨moment', rest, served'⟩ := ih served.failures
        fun other mem => accepted other (List.mem_cons_of_mem failure mem)
      refine ⟨moment', goesOn.trans rest, ?_⟩
      have all := served.trans served'
      rwa [served.documents, Nat.add_comm] at all

/-! ### Whatever becomes of a run -/

/-- **What a call preserves, a run of it preserves**, whatever waits in front of it and whoever
cancels it. -/
theorem run_preserves {P : String → Memory.Container → Prop}
    (keeps : ∀ container, P name container → P name (step container).2)
    (policy : Policy) (operation : String) (request : Request) (moment : Moment Memory)
    (holds : ∀ other, P other (moment.store.container other)) (other : String) :
    P other ((policy.run operation request (Memory.inContainer name step) moment).2.store.container
      other) := by
  -- the invariant of the run is that the property holds of every container of the store
  have served : ∀ (now : Nat) (memory : Memory), (∀ other, P other (memory.container other)) →
      ∀ other, P other ((memory.setContainer name
        (step (memory.container name)).2).container other) := by
    intro now memory holds other
    by_cases here : other = name
    · rw [here, Memory.container_setContainer_self]
      exact keeps _ (holds name)
    · rw [Memory.container_setContainer_of_ne here]
      exact holds other
  exact run_store (fun memory : Memory => ∀ other, P other (memory.container other)) served served
    policy operation request moment holds other

end

end Retry.Policy

end DocumentClient
