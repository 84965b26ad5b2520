import DocumentClient.Proofs.Connection
import DocumentClient.UnitOfWork

/-!
# DocumentClient.Proofs.Batch.Execution

**What executing a batch comes to, step by step**: the operations are checked, the container is
opened, the batch is submitted under the policy for batches, and the response is judged.

The other modules about batches ask different things of different stores: whether a batch is applied
twice, whether it is applied in part, what the caller is told of it. All of them follow the same
steps, and none has to take `executeBatch` apart.

* `Batch.Result` comes first: the operations of a response are numbered, the batch was applied if
  the store says so and all statuses report success, and otherwise one operation is to blame. That
  an operation failed because of another one is said by its status alone, so that the one to blame
  is found without knowing what the batch was (`Result.blamed_of_first`).
* The lemmas `executeBatch_of_…` say how the computation goes on after each step; there is one for
  each way in which a step may end. The store is any one.
* `Sends` puts them together: nothing is sent, or the batch is submitted, and either way nothing
  that came before shows in a reading of the store, say in an account of its calls
  (`executeBatch_sends`).
* `executeBatch_submitted` says more of a store in memory, where to open a container changes none:
  the call finds the containers as they were.
-/

namespace DocumentClient

/-! ### Judging a response -/

namespace Batch.Result

@[simp] theorem length_numbered (results : List OperationResponse) :
    (numbered results).length = results.length := by
  simp [numbered]

theorem getElem_numbered (results : List OperationResponse) (i : Nat)
    (h : i < (numbered results).length) (h' : i < results.length) :
    (numbered results)[i] =
      ⟨i, results[i].status, results[i].charge, results[i].message⟩ := by
  simp [numbered]

theorem map_index_numbered (results : List OperationResponse) :
    (numbered results).map OperationResult.index = List.range results.length := by
  refine List.ext_getElem (by simp) fun i h h' => ?_
  rw [List.getElem_map, List.getElem_range, getElem_numbered results i _ (by simpa using h')]

theorem map_status_numbered (results : List OperationResponse) :
    (numbered results).map OperationResult.status = results.map OperationResponse.status := by
  refine List.ext_getElem (by simp) fun i h h' => ?_
  rw [List.getElem_map, List.getElem_map, getElem_numbered results i _ (by simpa using h')]

/-- Behind operations that failed because of another one, the first that failed by itself is to
blame. -/
theorem blamed_of_first {operations : List OperationResult} {index : Nat}
    (h : index < operations.length) (failed : operations[index].isSuccess = false)
    (itself : operations[index].status ≠ dependencyStatus)
    (before : ∀ i (hi : i < index), operations[i].status = dependencyStatus) :
    blamed operations = some operations[index] := by
  have found : (operations.find? fun r => !r.isSuccess && r.status != dependencyStatus) =
      some operations[index] := by
    refine List.find?_eq_some_iff_getElem.mpr ⟨by simp [failed, itself], index, h, rfl, ?_⟩
    intro i hi
    simp [before i hi]
  rw [blamed, found]
  rfl

end Batch.Result

/-! ### Step by step -/

open Store

variable {σ : Type}

namespace UnitOfWork

variable {unit : UnitOfWork} {store : Store σ} {request : Retry.Request}
  {operations : List Batch.Operation} {key : PartitionKey} {session session' : Session σ}

/-- Operations that make no batch are refused, and nothing happens. -/
theorem executeBatch_of_refused {error : Batch.Error}
    (h : Batch.check operations key = .error error) :
    unit.executeBatch store request operations key session =
      (.error error.toFailure, session) := by
  have checked : (Action.ofExcept ((Batch.check operations key).mapError Batch.Error.toFailure) :
      Action (Session σ) Placement) session = (.error error.toFailure, session) := by
    rw [h]
    rfl
  exact Action.bind_apply_of_error checked

/-- A batch goes on with opening its container. -/
theorem executeBatch_of_checked {placement : Placement}
    (h : Batch.check operations key = .ok placement) :
    unit.executeBatch store request operations key session =
      (do
        let handle ← Connection.container store placement.container
        let response ← Session.atStore (unit.batchPolicy.run "batch" request
          (store.executeBatch handle.container key operations))
        return Batch.Result.ofResponse response : Action (Session σ) Batch.Result) session := by
  have checked : (Action.ofExcept ((Batch.check operations key).mapError Batch.Error.toFailure) :
      Action (Session σ) Placement) session = (.ok placement, session) := by
    rw [h]
    rfl
  exact Action.bind_apply_of_ok checked

theorem executeBatch_of_unopened {placement : Placement} {failure : Failure}
    (h : Batch.check operations key = .ok placement)
    (opened : Connection.container store placement.container session =
      (.error failure, session')) :
    unit.executeBatch store request operations key session = (.error failure, session') :=
  (executeBatch_of_checked h).trans (Action.bind_apply_of_error opened)

/-- With a handle the batch is submitted under the policy, and the response is judged. -/
theorem executeBatch_of_opened {placement : Placement} {handle : Handle}
    (h : Batch.check operations key = .ok placement)
    (opened : Connection.container store placement.container session = (.ok handle, session'))
    {outcome : Except Failure Batch.Response} {moment : Moment σ}
    (run : unit.batchPolicy.run "batch" request
      (store.executeBatch handle.container key operations) session'.moment = (outcome, moment)) :
    unit.executeBatch store request operations key session =
      (outcome.map Batch.Result.ofResponse, { session' with moment }) := by
  have submitted : Session.atStore (unit.batchPolicy.run "batch" request
      (store.executeBatch handle.container key operations)) session' =
        (outcome, { session' with moment }) := by
    simp only [Session.atStore, Action.within, run]
  refine (executeBatch_of_checked h).trans ((Action.bind_apply_of_ok opened).trans ?_)
  cases outcome with
  | error failure => exact Action.bind_apply_of_error submitted
  | ok response => exact Action.bind_apply_of_ok submitted

/-- What becomes of a batch, as far as it can be read off the store. -/
inductive Sends (unit : UnitOfWork) (store : Store σ) {α : Type} (read : σ → α)
    (request : Retry.Request) (operations : List Batch.Operation) (key : PartitionKey)
    (session : Session σ) : Prop
  /-- Nothing is sent: the operations make no batch, or the container cannot be opened. -/
  | nothing {failure : Failure} {session' : Session σ}
      (executed : unit.executeBatch store request operations key session =
        (.error failure, session'))
      (same : read session'.moment.store = read session.moment.store)
  /-- The batch is submitted under the policy. -/
  | batch {container : String} {session' : Session σ} {outcome : Except Failure Batch.Response}
      {moment : Moment σ} (same : read session'.moment.store = read session.moment.store)
      (ran : unit.batchPolicy.run "batch" request (store.executeBatch container key operations)
        session'.moment = (outcome, moment))
      (executed : unit.executeBatch store request operations key session =
        (outcome.map Batch.Result.ofResponse, { session' with moment }))

/-- A batch is sent as a whole or not at all; nothing that comes before can be read off a store,
if it does not show that a container is opened. -/
theorem executeBatch_sends {α : Type} {read : σ → α}
    (unread : ∀ database container now state,
      read (store.openContainer database container now state) = read state)
    (unit : UnitOfWork) (request : Retry.Request) (operations : List Batch.Operation)
    (key : PartitionKey) (session : Session σ) :
    unit.Sends store read request operations key session := by
  cases checked : Batch.check operations key with
  | error error => exact .nothing (executeBatch_of_refused checked) rfl
  | ok placement =>
      have same := Connection.container_reads unread placement.container session
      rcases opened : Connection.container store placement.container session with
        ⟨failure | handle, session'⟩
      · rw [opened] at same
        exact .nothing (executeBatch_of_unopened checked opened) same
      · rw [opened] at same
        exact .batch same rfl (executeBatch_of_opened checked opened rfl)

/-- A batch over memory is a call of its container: to open that changes no container, so the call
finds them as they were. -/
theorem executeBatch_submitted {placement : Placement} {session : Session Memory}
    (unit : UnitOfWork) (request : Retry.Request)
    (checked : Batch.check operations key = .ok placement)
    (coherent : session.connection.Coherent) (live : session.connection.disposed = false) :
    ∃ moment : Moment Memory, moment.store.container = session.moment.store.container ∧
      (unit.executeBatch Memory.store request operations key session).1 =
        (unit.batchPolicy.run "batch" request
          (Memory.store.executeBatch placement.container key operations) moment).1.map
            .ofResponse ∧
      (unit.executeBatch Memory.store request operations key session).2.moment =
        (unit.batchPolicy.run "batch" request
          (Memory.store.executeBatch placement.container key operations) moment).2 := by
  obtain ⟨handle, opened, opens, named, -, unchanged⟩ :=
    coherent.container_memory live placement.container
  generalize ended : unit.batchPolicy.run "batch" request
    (Memory.store.executeBatch handle.container key operations) opened.moment = run
  have executed := executeBatch_of_opened checked opens ended
  rw [named] at ended
  refine ⟨opened.moment, unchanged, ?_, ?_⟩
  · rw [executed, ended]
  · rw [executed, ended]

end UnitOfWork

end DocumentClient
