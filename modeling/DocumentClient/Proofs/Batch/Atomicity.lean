import DocumentClient.Proofs.Batch.Execution
import DocumentClient.Proofs.Keyed
import DocumentClient.Proofs.Retry.Attempts

/-!
# DocumentClient.Proofs.Batch.Atomicity

**A batch is applied as a whole or not at all**, and what it does is what its operations do one
after the other.

The meaning of a batch is given on the contents of a partition, which say what is stored under each
id: `Operation.actOn` is the meaning of one operation, and `inOrder` that of several. It knows
neither containers nor statuses of other operations, and a patch that cannot be applied to its end
leaves nothing in it. `Holds` says that the documents of a container hold some contents in a
partition and are unchanged elsewhere; the results that are reported are described by `Committed`
and `Aborted`.

## Proof shape

* `applyOperation_eq` shows that a container applies one operation as its meaning does; it is the
  only place where the kinds of operations are told apart.
* `applyOperations_of_ok` and `applyOperations_of_error` are the inductions over the operations.
  The documents between two operations are not those of the container but those that were put so
  far, so both inductions are about any documents.
* `committed_ofResponse` and `aborted_ofResponse` judge what the container says of the operations;
  no status of a refusal may be taken for a success, or for one that depends on another operation
  (`refusalStatus_isFailure`).
* `executeBatch_allOrNothing` follows the call through the connection and the policy.

The one exception is an increment that leaves the words of 64 bits: the batch then ends without any
result, and still nothing of it is applied.
-/

namespace DocumentClient

open Store Memory.Container

/-! ### The meaning of operations -/

/-- What is stored under the ids of a partition. -/
abbrev Contents : Type := String → Option Json

namespace Batch

namespace Operation

/-- What an operation leaves under the id of its target, where a document may be stored. A patch
that cannot be applied to the end leaves nothing that it did before. -/
def actOn : Operation → Option Json → Except Refusal (Option Json)
  | .create _ _, some _ => .error .exists
  | .create _ document, none => .ok (some document)
  | .replace _ document, some _ => .ok (some document)
  | .delete _, some _ => .ok none
  | .patch _ ops, some document =>
    match Patch.applyAll ops document with
    | (changed, none) => .ok (some changed)
    | (_, some .overflow) => .error .overflow
    | (_, some _) => .error .unpatchable
  | _, none => .error .missing

/-- The status that reports the success of an operation. -/
def successStatus : Operation → Nat
  | .create _ _ => 201
  | .replace _ _ | .patch _ _ => 200
  | .delete _ => 204

end Operation

/-- What operations leave in a partition, one after the other; or the position of the first
that is refused, and why. -/
def inOrder : List Operation → Contents → Except (Nat × Refusal) Contents
  | [], contents => .ok contents
  | operation :: operations, contents =>
    match operation.actOn (contents operation.target.id) with
    | .error refusal => .error (0, refusal)
    | .ok document =>
      (inOrder operations (Function.update contents operation.target.id document)).mapError
        fun (before, refusal) => (before + 1, refusal)

/-- Operations leave something only if the first one does, and the others after it. -/
theorem inOrder_cons_ok {operation : Operation} {operations : List Operation}
    {contents after : Contents} (h : inOrder (operation :: operations) contents = .ok after) :
    ∃ document, operation.actOn (contents operation.target.id) = .ok document ∧
      inOrder operations (Function.update contents operation.target.id document) = .ok after := by
  rw [inOrder] at h
  split at h
  · cases h
  · rename_i document acted
    cases rest : inOrder operations (Function.update contents operation.target.id document) with
    | error refused =>
        rw [rest] at h
        cases h
    | ok contents' =>
        rw [rest] at h
        exact ⟨document, acted, rest.trans h⟩

end Batch

open Batch

/-- The contents of a partition. -/
def Documents.contents (documents : Documents) (key : PartitionKey) : Contents :=
  fun id => documents.find? (Memory.documentKey key id)

/-- The documents with another one, or with none, under an id of a partition. -/
def Documents.put (documents : Documents) (key : PartitionKey) (id : String)
    (document : Option Json) : Documents :=
  Keyed.Map.put documents (Memory.documentKey key id) document

/-- Documents hold some contents in the partition of a key. Elsewhere they are what they were
before. -/
structure Holds (key : PartitionKey) (contents : Contents) (before after : Documents) : Prop where
  /-- The contents of the partition. -/
  inside : after.contents key = contents
  /-- The other partitions are left alone. -/
  outside : ∀ place : DocumentKey, place.partition ≠ key.text →
    after.find? place = before.find? place

namespace Holds

variable {key : PartitionKey} {contents : Contents} {before between after : Documents}

theorem refl (documents : Documents) : Holds key (documents.contents key) documents documents :=
  ⟨rfl, fun _ _ => rfl⟩

theorem trans {contents' : Contents} (first : Holds key contents before between)
    (second : Holds key contents' between after) : Holds key contents' before after :=
  ⟨second.inside, fun place h => (second.outside place h).trans (first.outside place h)⟩

theorem documentKey_ne {id id' : String} (h : id' ≠ id) :
    Memory.documentKey key id' ≠ Memory.documentKey key id :=
  fun same => h (DocumentKey.mk.inj same).2

theorem ne_documentKey {place : DocumentKey} (h : place.partition ≠ key.text) (id : String) :
    place ≠ Memory.documentKey key id :=
  fun same => h (same ▸ rfl)

theorem put (documents : Documents) (id : String) (document : Option Json) :
    Holds key (Function.update (documents.contents key) id document) documents
      (documents.put key id document) where
  inside := by
    funext id'
    by_cases h : id' = id
    · subst h
      rw [Documents.contents, Documents.put, Keyed.Map.find?_put_self, Function.update_self]
    · rw [Function.update_of_ne h]
      exact Keyed.Map.find?_put_of_ne (documentKey_ne h) documents document
  outside place h := Keyed.Map.find?_put_of_ne (ne_documentKey h id) documents document

end Holds

/-! ### Operations in a container -/

section Operations

variable {key : PartitionKey} {operations : List Operation} {documents : Documents}

/-- A container applies an operation, or refuses it, as its meaning does. -/
theorem applyOperation_eq (key : PartitionKey) (operation : Operation) (documents : Documents) :
    applyOperation key operation documents =
      (operation.actOn (documents.contents key operation.target.id)).map fun document =>
        (operation.successStatus, documents.put key operation.target.id document) := by
  unfold applyOperation Documents.contents
  cases operation with
  | create target document =>
      cases found : documents.find? (Memory.documentKey key target.id) with
      | none => simp only [Operation.target, found]; rfl
      | some stored => simp only [Operation.target, found]; rfl
  | replace target document =>
      cases found : documents.find? (Memory.documentKey key target.id) with
      | none => simp only [Operation.target, found]; rfl
      | some stored => simp only [Operation.target, found]; rfl
  | delete target =>
      cases found : documents.find? (Memory.documentKey key target.id) with
      | none => simp only [Operation.target, found]; rfl
      | some stored => simp only [Operation.target, found]; rfl
  | patch target ops =>
      cases found : documents.find? (Memory.documentKey key target.id) with
      | none => simp only [Operation.target, found]; rfl
      | some stored =>
          simp only [Operation.target, Operation.actOn, found]
          rcases Patch.applyAll ops stored with ⟨changed, _ | error⟩
          · rfl
          · cases error <;> rfl

/-- Operations of which none is refused are applied, and all report success. -/
theorem applyOperations_of_ok {contents : Contents}
    (h : inOrder operations (documents.contents key) = .ok contents) :
    ∃ after, applyOperations key operations documents =
        .ok (operations.map Operation.successStatus, after) ∧
      Holds key contents documents after := by
  induction operations generalizing documents with
  | nil =>
      obtain rfl := Except.ok.inj h
      exact ⟨documents, rfl, Holds.refl documents⟩
  | cons operation operations ih =>
      obtain ⟨document, acted, rest⟩ := inOrder_cons_ok h
      have step : Holds key _ documents (documents.put key operation.target.id document) :=
        Holds.put documents operation.target.id document
      rw [← step.inside] at rest
      obtain ⟨after, applied, holds⟩ := ih rest
      refine ⟨after, ?_, step.trans holds⟩
      simp only [applyOperations, applyOperation_eq, acted, Except.map, applied, List.map_cons]

/-- The first operation that is refused is found at its position. -/
theorem applyOperations_of_error {index : Nat} {refusal : Refusal}
    (h : inOrder operations (documents.contents key) = .error (index, refusal)) :
    applyOperations key operations documents = .error (index, refusal) ∧
      index < operations.length := by
  induction operations generalizing documents index with
  | nil => cases h
  | cons operation operations ih =>
      cases acted : operation.actOn (documents.contents key operation.target.id) with
      | error refusal' =>
          simp only [inOrder, acted, Except.error.injEq, Prod.mk.injEq] at h
          obtain ⟨rfl, rfl⟩ := h
          refine ⟨?_, Nat.zero_lt_succ _⟩
          simp only [applyOperations, applyOperation_eq, acted, Except.map]
      | ok document =>
          have step : Holds key _ documents (documents.put key operation.target.id document) :=
            Holds.put documents operation.target.id document
          simp only [inOrder, acted, ← step.inside] at h
          cases rest : inOrder operations
              ((documents.put key operation.target.id document).contents key) with
          | ok contents' => simp [rest, Except.mapError] at h
          | error refused =>
              obtain ⟨before, refusal'⟩ := refused
              simp only [rest, Except.mapError, Except.error.injEq, Prod.mk.injEq] at h
              obtain ⟨rfl, rfl⟩ := h
              obtain ⟨applied, bound⟩ := ih rest
              refine ⟨?_, Nat.succ_lt_succ bound⟩
              simp only [applyOperations, applyOperation_eq, acted, Except.map, applied]

end Operations

/-! ### What is reported -/

/-- The result of a batch that was applied. -/
structure Committed (operations : List Operation) (result : Batch.Result) : Prop where
  /-- The batch was applied. -/
  committed : result.committed = true
  /-- The state says so. -/
  state : result.state = "committed"
  /-- The operations are reported one after the other. -/
  positions : result.operations.map OperationResult.index = List.range operations.length
  /-- Every operation reports its own success. -/
  statuses : result.operations.map OperationResult.status =
    operations.map Operation.successStatus
  /-- No operation is to blame. -/
  firstFailure : result.firstFailure = none

/-- The result of a batch that was not applied, because of the operation at `index`. -/
structure Aborted (operations : List Operation) (index : Nat) (refusal : Refusal)
    (result : Batch.Result) : Prop where
  /-- The batch was not applied. -/
  committed : result.committed = false
  /-- The state says so. -/
  state : result.state = "aborted"
  /-- The operations are reported one after the other. -/
  positions : result.operations.map OperationResult.index = List.range operations.length
  /-- The operation that was refused reports why; the others depend on it. -/
  statuses : result.operations.map OperationResult.status =
    (List.range operations.length).map fun i =>
      if i = index then refusal.status else dependencyStatus
  /-- The operation that was refused is to blame. -/
  firstFailure : ∃ blamed, result.firstFailure = some blamed ∧
    result.operations[index]? = some blamed ∧ blamed.index = index ∧
    blamed.status = refusal.status

theorem Batch.Operation.successStatus_isSuccess (operation : Operation) :
    200 ≤ operation.successStatus ∧ operation.successStatus < 300 := by
  cases operation <;> simp [Operation.successStatus]

/-- The status of no refusal is a success, and none says that it depends on another one. -/
theorem refusalStatus_isFailure (refusal : Refusal) :
    300 ≤ refusal.status ∧ refusal.status ≠ dependencyStatus := by
  cases refusal <;> decide

/-- What a container says of operations that were applied is judged as such. -/
theorem committed_ofResponse (operations : List Operation) :
    Committed operations
      (.ofResponse ⟨true, (operations.map Operation.successStatus).map applied⟩) := by
  have statuses : (Result.numbered ((operations.map Operation.successStatus).map applied)).map
      OperationResult.status = operations.map Operation.successStatus := by
    rw [Result.map_status_numbered, List.map_map]
    exact List.map_id _
  have successes : (Result.numbered ((operations.map Operation.successStatus).map applied)).all
      OperationResult.isSuccess = true := by
    refine List.all_eq_true.mpr fun result mem => ?_
    have mem := List.mem_map_of_mem (f := OperationResult.status) mem
    rw [statuses] at mem
    obtain ⟨operation, _, status⟩ := List.mem_map.mp mem
    have success := operation.successStatus_isSuccess
    rw [status] at success
    simp [OperationResult.isSuccess, success]
  refine ⟨?_, ?_, ?_, statuses, ?_⟩
  · simp only [Result.ofResponse, successes, Bool.and_true]
  · simp only [Result.state, Result.ofResponse, successes, Bool.and_true, if_true]
  · rw [Result.ofResponse, Result.map_index_numbered, List.length_map, List.length_map]
  · simp only [Result.ofResponse, successes, Bool.and_true, if_true]

/-- What a container says of operations of which one was refused: there is one answer for each
of them. -/
theorem length_refusedResults {count index : Nat} (h : index < count) (refusal : Refusal) :
    (refusedResults count index refusal).length = count := by
  simp only [refusedResults, List.length_append, List.length_cons, List.length_replicate]
  omega

/-- What a container says of one of these operations. -/
theorem getElem_refusedResults {count index : Nat} {refusal : Refusal} (i : Nat)
    (h : i < (refusedResults count index refusal).length) :
    (refusedResults count index refusal)[i] =
      if i = index then refused refusal else dependent := by
  simp only [refusedResults]
  rcases Nat.lt_trichotomy i index with before | rfl | after
  · rw [List.getElem_append_left (by simpa using before), List.getElem_replicate,
      if_neg (Nat.ne_of_lt before)]
  · simp [List.getElem_append_right]
  · obtain ⟨k, rfl⟩ := Nat.exists_eq_add_of_lt after
    simp [List.getElem_append_right, Nat.add_assoc]

/-- What a container says of these operations is judged as such. -/
theorem aborted_ofResponse {operations : List Operation} {index : Nat}
    (h : index < operations.length) (refusal : Refusal) :
    Aborted operations index refusal
      (.ofResponse ⟨false, refusedResults operations.length index refusal⟩) := by
  have length := length_refusedResults h refusal
  have status : ∀ i (hi : i < operations.length)
      (hi' : i < (Result.numbered (refusedResults operations.length index refusal)).length),
      (Result.numbered (refusedResults operations.length index refusal))[i].status =
        if i = index then refusal.status else dependencyStatus := by
    intro i hi hi'
    rw [Result.getElem_numbered _ i hi' (by omega), getElem_refusedResults]
    split <;> rfl
  have inBatch : index <
      (Result.numbered (refusedResults operations.length index refusal)).length := by
    rw [Result.length_numbered, length]
    exact h
  have failure := refusalStatus_isFailure refusal
  refine ⟨rfl, rfl, ?_, ?_, _, ?_, List.getElem?_eq_getElem inBatch, ?_, ?_⟩
  · rw [Result.ofResponse, Result.map_index_numbered, length]
  · refine List.ext_getElem (by simp [Result.ofResponse, length]) fun i hi hi' => ?_
    rw [List.getElem_map, List.getElem_map, List.getElem_range]
    exact status i (by simpa using hi') _
  · refine Result.blamed_of_first inBatch ?_ ?_ fun i hi => ?_
    · simp only [OperationResult.isSuccess, status index h, if_true]
      simp
      omega
    · rw [status index h, if_pos rfl]
      exact failure.2
    · rw [status i (Nat.lt_trans hi h), if_neg (Nat.ne_of_lt hi)]
  · rw [Result.getElem_numbered _ index inBatch (by omega)]
  · rw [status index h, if_pos rfl]

/-! ### All or nothing -/

/-- What a batch comes to: it does what its operations do one after the other; or, if one of
them is refused, nothing, and that operation is reported. An increment that leaves the words of
64 bits leaves nothing to report. -/
def AllOrNothing (key : PartitionKey) (operations : List Operation) (before after : Documents)
    (outcome : Except Failure Batch.Result) : Prop :=
  match inOrder operations (before.contents key) with
  | .ok contents =>
    (∃ result, outcome = .ok result ∧ Committed operations result) ∧
      Holds key contents before after
  | .error (_, .overflow) => outcome = .error .overflow ∧ after = before
  | .error (index, refusal) =>
    (∃ result, outcome = .ok result ∧ Aborted operations index refusal result) ∧ after = before

/-- A container that has no failure waiting applies a batch as a whole or not at all. -/
theorem Memory.Container.executeBatch_atomic (key : PartitionKey)
    (operations : List Operation) {container : Memory.Container}
    (served : container.failures = []) :
    AllOrNothing key operations container.documents
      (executeBatch key operations container).2.documents
      ((executeBatch key operations container).1.map Result.ofResponse) := by
  have answered : ∃ counted : Memory.Container, counted.documents = container.documents ∧
      executeBatch key operations container = batchAnswer key operations counted := by
    refine ⟨{ container with
      batchCalls := container.batchCalls + 1, calls := container.calls + 1 }, rfl, ?_⟩
    simp only [executeBatch, Container.served, served]
  obtain ⟨counted, documents, answer⟩ := answered
  rw [answer, ← documents]
  unfold AllOrNothing
  cases order : inOrder operations (counted.documents.contents key) with
  | ok contents =>
      obtain ⟨after, applied, holds⟩ := applyOperations_of_ok order
      simp only [batchAnswer, applied]
      exact ⟨⟨_, rfl, committed_ofResponse operations⟩, holds⟩
  | error refused =>
      obtain ⟨index, refusal⟩ := refused
      obtain ⟨refused, inBatch⟩ := applyOperations_of_error order
      have aborted := aborted_ofResponse inBatch refusal
      cases refusal with
      | overflow => simp [batchAnswer, refused, Except.map]
      | «exists» => simpa [batchAnswer, refused, Except.map] using aborted
      | missing => simpa [batchAnswer, refused, Except.map] using aborted
      | unpatchable => simpa [batchAnswer, refused, Except.map] using aborted

theorem AllOrNothing.failure_eq {key : PartitionKey} {operations : List Operation}
    {before after : Documents} {outcome : Except Failure Batch.Result}
    (h : AllOrNothing key operations before after outcome) {failure : Failure}
    (failed : outcome = .error failure) : failure = .overflow := by
  unfold AllOrNothing at h
  split at h
  · obtain ⟨⟨result, ok, _⟩, _⟩ := h
    cases failed.symm.trans ok
  · exact Except.error.inj (failed.symm.trans h.1)
  · obtain ⟨⟨result, ok, _⟩, _⟩ := h
    cases failed.symm.trans ok

/-- **A batch is applied as a whole or not at all.** It is enough that the store is in use, that
the request is not cancelled yet, and that no failure waits in the container; the other
containers are left alone. -/
theorem executeBatch_allOrNothing (repositories : List (String × Repository))
    (maxRetries : Nat) (attemptTimeout : Duration) (request : Retry.Request)
    (operations : List Operation) (key : PartitionKey) (placement : Placement)
    (session : Session Memory) (checked : Batch.check operations key = .ok placement)
    (live : session.connection.disposed = false) (coherent : session.connection.Coherent)
    (running : request.cancelledBy? session.moment.now = none)
    (served : (session.moment.store.container placement.container).failures = []) :
    let unit : UnitOfWork := ⟨repositories, .forBatches maxRetries attemptTimeout⟩
    let executed := unit.executeBatch Memory.store request operations key session
    let before := session.moment.store
    let after := executed.2.moment.store
    AllOrNothing key operations (before.container placement.container).documents
        (after.container placement.container).documents executed.1 ∧
      ∀ name, name ≠ placement.container → after.container name = before.container name := by
  intro unit executed before after
  obtain ⟨handle, session', opened, name, now, containers⟩ :=
    coherent.container_memory live placement.container
  have same := congrFun containers
  -- The container answers at once, so the first attempt is the whole run.
  generalize answered : executeBatch key operations (before.container placement.container) = answer
  have atomic := executeBatch_atomic key operations served
  rw [answered] at atomic
  have call : Memory.store.executeBatch handle.container key operations session'.moment.now
      session'.moment.store =
        .atOnce answer.1 (session'.moment.store.setContainer placement.container answer.2) := by
    rw [name, ← answered, ← same]
    rfl
  have run : unit.batchPolicy.run "batch" request
      (Memory.store.executeBatch handle.container key operations) session'.moment = (answer.1, _) :=
    Retry.Policy.run_of_atOnce (now ▸ running) call fun failure failed => by
      rw [atomic.failure_eq (congrArg (Except.map Result.ofResponse) failed)]
      rfl
  have result : executed = _ := UnitOfWork.executeBatch_of_opened checked opened run
  have stored : after =
      session'.moment.store.setContainer placement.container answer.2 := by
    simp only [after, result]
  rw [result, stored]
  refine ⟨?_, fun other different => ?_⟩
  · rw [Memory.container_setContainer_self]
    exact atomic
  · rw [Memory.container_setContainer_of_ne different]
    exact same other

/-- A store with one document. -/
def storedGoal (n : Int) : Memory :=
  ({} : Memory).setContainer "Goals"
    { documents := {(⟨"u1", "g1"⟩,
        .obj [("id", .str "g1"), ("n", .int n), ("userId", .str "u1")])} }

/-- A document that was removed cannot be changed in the same batch, so nothing of the batch is
applied, not even what came before. -/
theorem executeBatch_allOrNothing_removed :
    let removal : List Operation := [
      .create ⟨"Goal", "g2", .ofText "u1"⟩ (.obj [("id", .str "g2"), ("userId", .str "u1")]),
      .delete ⟨"Goal", "g1", .ofText "u1"⟩,
      .patch ⟨"Goal", "g1", .ofText "u1"⟩ [.increment "/n" (.int 1)]]
    let unit : UnitOfWork := ⟨[], .forBatches 3 (.ofSeconds 30)⟩
    let session : Session Memory := ⟨{ settings := {} }, ⟨0, storedGoal 1, []⟩, 0⟩
    let executed := unit.executeBatch Memory.store {} removal (.ofText "u1") session
    let before := session.moment.store
    let after := executed.2.moment.store
    inOrder removal ((before.container "Goals").documents.contents (.ofText "u1")) =
        .error (2, .missing) ∧
      AllOrNothing (.ofText "u1") removal (before.container "Goals").documents
        (after.container "Goals").documents executed.1 ∧
      ∀ name, name ≠ "Goals" → after.container name = before.container name :=
  ⟨rfl, executeBatch_allOrNothing [] 3 (.ofSeconds 30) {} _ (.ofText "u1") ⟨"Goals", "/userId"⟩
    ⟨{ settings := {} }, ⟨0, storedGoal 1, []⟩, 0⟩ rfl rfl (fun _ mem => nomatch mem) rfl rfl⟩

/-- An increment that leaves the words of 64 bits is refused, but nothing is reported. -/
theorem executeBatch_overflow_unreported :
    let increment : Operation := .patch ⟨"Goal", "g1", .ofText "u1"⟩ [.increment "/n" (.int 1)]
    let unit : UnitOfWork := ⟨[], .forBatches 3 (.ofSeconds 30)⟩
    let session : Session Memory :=
      ⟨{ settings := {} }, ⟨0, storedGoal 9223372036854775807, []⟩, 0⟩
    let executed := unit.executeBatch Memory.store {} [increment] (.ofText "u1") session
    let documents := (session.moment.store.container "Goals").documents
    Batch.check [increment] (.ofText "u1") = .ok ⟨"Goals", "/userId"⟩ ∧
      inOrder [increment] (documents.contents (.ofText "u1")) = .error (0, .overflow) ∧
      ¬∃ result, executed.1 = .ok result ∧ Aborted [increment] 0 .overflow result := by
  refine ⟨rfl, rfl, fun ⟨result, reported, _⟩ => ?_⟩
  have unreported : Except.error Failure.overflow = Except.ok result := reported
  cases unreported

end DocumentClient
