import DocumentClient.Proofs.Batch.AtMostOnce
import DocumentClient.Proofs.Batch.Execution
import Mathlib.Data.Option.Basic

/-!
# DocumentClient.Proofs.Batch.Judgement

**What becomes of a batch is read off the response, whatever the response is.** A store may say that
it applied a batch and report failures all the same, report too few operations or too many, or none.

* `Faithful` says what a result has to be for a response to a batch of a given size: committed
  only if the store says so and reports no failure; otherwise with the right operation to blame,
  if any failed. It leaves open what becomes of a batch that a store says it applied, without a
  failure and with another number of operations than it had.
* `Blamed` is the right operation: the first that failed, and not because of another one; if all
  failed because of another one, the first of them. Both are positions that are least among those
  for which something holds (`LeastWith`), and the search of the client finds such positions.
* `faithful_ofResponse` judges a response; `executeBatch_faithful` follows it to the caller. It is
  the response of the store to that batch, since a run succeeds with nothing else
  (`Retry.Policy.run_ok`): no attempt, and no wait, makes up an answer.

At the end stands what a response may do that is at odds with itself (`executeRemovals_unmatched`).
-/

namespace DocumentClient

open Store

namespace Batch

/-! ### The operation to blame -/

/-- The status reports success. -/
def Succeeded (status : Nat) : Prop :=
  200 ≤ status ∧ status < 300

theorem OperationResult.isSuccess_iff {result : OperationResult} :
    result.isSuccess = true ↔ Succeeded result.status := by
  simp [isSuccess, Succeeded]

/-- Of the operations for which something holds, one that has the least position. -/
structure LeastWith (p : OperationResult → Prop) (operations : List OperationResult)
    (least : OperationResult) : Prop where
  /-- It is one of the operations. -/
  mem : least ∈ operations
  /-- It holds for it. -/
  holds : p least
  /-- None for which it holds has a smaller position. -/
  le : ∀ other ∈ operations, p other → least.index ≤ other.index

/-- The operation to blame for a batch that was not applied: the first that failed, and not because
of another one; if there is none, the first that failed. -/
inductive Blamed (operations : List OperationResult) (blamed : OperationResult) : Prop
  /-- One failed by itself. -/
  | itself (least : LeastWith (fun r => ¬Succeeded r.status ∧ r.status ≠ 424) operations blamed)
  /-- All that failed did so because of another one. -/
  | another (only : ∀ r ∈ operations, ¬Succeeded r.status → r.status = 424)
    (least : LeastWith (fun r => ¬Succeeded r.status) operations blamed)

namespace Result

/-- The first of numbered operations that passes a test has the least position of those that do. -/
theorem leastWith_of_find? {results : List OperationResponse} {test : OperationResult → Bool}
    {p : OperationResult → Prop} (tests : ∀ r, test r = true ↔ p r) {result : OperationResult}
    (found : (numbered results).find? test = some result) :
    LeastWith p (numbered results) result := by
  obtain ⟨passes, i, bound, rfl, before⟩ := List.find?_eq_some_iff_getElem.mp found
  refine ⟨List.getElem_mem bound, (tests _).mp passes, fun other mem holds => ?_⟩
  obtain ⟨j, bound', rfl⟩ := List.getElem_of_mem mem
  rw [getElem_numbered results i bound (by simpa using bound),
    getElem_numbered results j bound' (by simpa using bound')]
  by_contra earlier
  have fails := before j (by simpa using earlier)
  simp [(tests _).mpr holds] at fails

theorem blamed_numbered {results : List OperationResponse} {blamed : OperationResult}
    (found : Result.blamed (numbered results) = some blamed) :
    Blamed (numbered results) blamed := by
  have failed : ∀ r : OperationResult, (!r.isSuccess) = true ↔ ¬Succeeded r.status := by
    simp [← OperationResult.isSuccess_iff]
  have byItself : ∀ r : OperationResult, (!r.isSuccess && r.status != dependencyStatus) = true ↔
      ¬Succeeded r.status ∧ r.status ≠ 424 := by
    simp [← OperationResult.isSuccess_iff, dependencyStatus]
  -- the second search is made only if the first one finds nothing
  rw [Result.blamed] at found
  cases first : (numbered results).find? fun r => !r.isSuccess && r.status != dependencyStatus with
  | some other =>
      rw [first] at found
      cases found
      exact .itself (leastWith_of_find? byItself first)
  | none =>
      rw [first] at found
      refine .another (fun r mem fails => ?_) (leastWith_of_find? failed found)
      by_contra other
      exact List.find?_eq_none.mp first r mem ((byItself r).mpr ⟨fails, other⟩)

/-- Nobody is blamed exactly if nothing failed. -/
theorem blamed_eq_none_iff {operations : List OperationResult} :
    blamed operations = none ↔ ∀ r ∈ operations, Succeeded r.status := by
  simp only [← OperationResult.isSuccess_iff]
  constructor
  · intro nobody r mem
    simpa using List.find?_eq_none.mp ((Option.orElse_eq_none _ _).mp nobody).2 r mem
  · intro succeed
    refine (Option.orElse_eq_none _ _).mpr ⟨?_, ?_⟩
    · exact List.find?_eq_none.mpr fun r mem => by simp [succeed r mem]
    · exact List.find?_eq_none.mpr fun r mem => by simp [succeed r mem]

end Result

/-! ### Judging a response -/

/-- A result is true to the response of a store to a batch of so many operations. -/
structure Faithful (count : Nat) (response : Response) (result : Result) : Prop where
  /-- Every operation of the response has its position, and keeps what is said of it. -/
  operations : ∀ i, result.operations[i]? =
    response.results[i]?.map fun r => OperationResult.mk i r.status r.charge r.message
  /-- The batch was applied only if the store says so, and all operations succeeded. -/
  committed : result.committed = true →
    response.success = true ∧ ∀ r ∈ result.operations, Succeeded r.status
  /-- If the store says so, and the operations of the batch succeeded, the batch was applied. -/
  complete : response.results.length = count → response.success = true →
    (∀ r ∈ result.operations, Succeeded r.status) → result.committed = true
  /-- The operation that is reported for a batch that was not applied is the one to blame. -/
  blamed : result.committed = false → ∀ failure ∈ result.firstFailure,
    Blamed result.operations failure
  /-- For such a batch an operation is reported unless all succeeded. -/
  unblamed : result.committed = false →
    (result.firstFailure = none ↔ ∀ r ∈ result.operations, Succeeded r.status)

theorem Result.committed_ofResponse_iff {response : Response} :
    (Result.ofResponse response).committed = true ↔ response.success = true ∧
      ∀ r ∈ (Result.ofResponse response).operations, Succeeded r.status := by
  simp [Result.ofResponse, ← OperationResult.isSuccess_iff]

theorem Result.firstFailure_ofResponse {response : Response}
    (aborted : (Result.ofResponse response).committed = false) :
    (Result.ofResponse response).firstFailure = blamed (numbered response.results) :=
  if_neg (Bool.not_eq_true _ ▸ aborted)

theorem faithful_ofResponse (count : Nat) (response : Response) :
    Faithful count response (Result.ofResponse response) where
  operations i := by
    simp [Result.ofResponse, Result.numbered, List.getElem?_zipIdx, Function.comp_def]
  committed := Result.committed_ofResponse_iff.mp
  complete _ success succeed := Result.committed_ofResponse_iff.mpr ⟨success, succeed⟩
  blamed aborted failure reported :=
    Result.blamed_numbered ((Result.firstFailure_ofResponse aborted).symm.trans reported)
  unblamed aborted := by
    rw [Result.firstFailure_ofResponse aborted]
    exact Result.blamed_eq_none_iff

end Batch

/-! ### Executing a batch -/

section Execution

variable {σ : Type} {unit : UnitOfWork} {store : Store σ} {request : Retry.Request}
  {operations : List Batch.Operation} {key : PartitionKey} {session session' : Session σ}
  {response : Batch.Response}

/-- A batch that has a result was answered by the store, and its response was judged. -/
theorem UnitOfWork.executeBatch_ok {result : Batch.Result}
    (executed : (unit.executeBatch store request operations key session).1 = .ok result) :
    ∃ container now state response,
      (store.executeBatch container key operations now state).outcome = .ok response ∧
        Batch.Result.ofResponse response = result := by
  obtain ⟨placement, session₁, -, executed⟩ := Action.exists_of_bind_eq_ok executed
  obtain ⟨handle, session₂, -, executed⟩ := Action.exists_of_bind_eq_ok executed
  obtain ⟨response, session₃, ran, executed⟩ := Action.exists_of_bind_eq_ok executed
  have answered : (unit.batchPolicy.run "batch" request
      (store.executeBatch handle.container key operations) session₂.moment).1 = .ok response :=
    congrArg Prod.fst ran
  obtain ⟨now, state, answer⟩ := Retry.Policy.run_ok answered
  exact ⟨handle.container, now, state, response, answer, Except.ok.inj executed⟩

/-- A batch that the store answers at once has the result of the response. -/
theorem UnitOfWork.executeBatch_of_answer {placement : Placement} {handle : Handle} {state : σ}
    (checked : Batch.check operations key = .ok placement)
    (opened : Connection.container store placement.container session = (.ok handle, session'))
    (live : request.cancelledBy? session'.moment.now = none)
    (answer : store.executeBatch handle.container key operations session'.moment.now
      session'.moment.store = .atOnce (.ok response) state) :
    (unit.executeBatch store request operations key session).1 =
      .ok (Batch.Result.ofResponse response) := by
  rw [executeBatch_of_opened checked opened (Retry.Policy.run_of_atOnce live answer nofun)]
  rfl

/-- **What becomes of a batch is read off the response of the store.** Of any batch that is executed
against any store, the result is true to a response that the store gave to that batch, whatever
the response: committed only if the store says that the batch was applied and reports no failure,
and otherwise with the operation to blame, unless the store reports none that failed. -/
theorem executeBatch_faithful {result : Batch.Result}
    (executed : (unit.executeBatch store request operations key session).1 = .ok result) :
    ∃ container now state response,
      (store.executeBatch container key operations now state).outcome = .ok response ∧
        Batch.Faithful operations.length response result := by
  obtain ⟨container, now, state, response, answer, rfl⟩ := UnitOfWork.executeBatch_ok executed
  exact ⟨container, now, state, response, answer, Batch.faithful_ofResponse _ response⟩

end Execution

/-! ### Responses that a store may give -/

/-- A response that gives every operation a status, and no more. -/
def responseOf (success : Bool) (statuses : List Nat) : Batch.Response :=
  ⟨success, statuses.map fun status => { status, charge := .zero, message := none }⟩

/-- A store that answers every batch with one response, right away. -/
def answering (response : Batch.Response) : Store Ledger :=
  Ledger.store fun _ => ⟨some 0, .ok response, response.success⟩

/-- Removals of goals of one user. -/
def removals (ids : List String) : List Batch.Operation :=
  ids.map fun id => .ofDelete "Goal" id (.ofText "u1")

/-- Executes removals of goals on a new connection to such a store. -/
def executeRemovals (ids : List String) (response : Batch.Response) :
    Except Failure Batch.Result :=
  (UnitOfWork.executeBatch { batchPolicy := .forBatches 3 (.ofSeconds 30) } (answering response)
    {} (removals ids) (.ofText "u1") ⟨{ settings := {} }, ⟨0, {}, []⟩, 0⟩).1

theorem executeRemovals_eq {ids : List String} (response : Batch.Response)
    (checked : Batch.check (removals ids) (.ofText "u1") = .ok ⟨"Goals", Catalog.byUser⟩) :
    executeRemovals ids response = .ok (Batch.Result.ofResponse response) :=
  UnitOfWork.executeBatch_of_answer checked rfl rfl rfl

/-- Of three removals the first failed because of another one, and the second is to blame. -/
theorem executeBatch_faithful_removals :
    ∃ result, executeRemovals ["g1", "g2", "g3"] (responseOf false [424, 409, 500]) = .ok result ∧
      result.firstFailure.map Batch.OperationResult.index = some 1 ∧
      ∃ container now state response,
        ((answering (responseOf false [424, 409, 500])).executeBatch container (.ofText "u1")
          (removals ["g1", "g2", "g3"]) now state).outcome = .ok response ∧
        Batch.Faithful 3 response result := by
  have executed := executeRemovals_eq (responseOf false [424, 409, 500])
    (show Batch.check (removals ["g1", "g2", "g3"]) _ = _ from rfl)
  exact ⟨_, executed, rfl, executeBatch_faithful executed⟩

/-- A result is committed though the response leaves the operation out, and one that is not
committed blames nobody, when the store reports no failure but denies that it applied the batch. -/
theorem executeRemovals_unmatched :
    (∃ result, executeRemovals ["g1"] (responseOf true []) = .ok result ∧
      result.committed = true ∧ result.operations.length ≠ (removals ["g1"]).length) ∧
    ∃ result, executeRemovals ["g1"] (responseOf false [204]) = .ok result ∧
      result.committed = false ∧ result.firstFailure = none :=
  ⟨⟨_, executeRemovals_eq _ rfl, rfl, by decide⟩, ⟨_, executeRemovals_eq _ rfl, rfl, rfl⟩⟩

end DocumentClient
