import DocumentClient.Repository

/-!
# DocumentClient.UnitOfWork

**A unit of work over a connection**: one repository for each document type, made when it is asked
for first and the same from then on, and batches that are applied as a whole or not at all.

* The connection is shared by units of work, the repositories are not: what a unit of work has
  handed out is kept in `UnitOfWork.repositories`.
* A repository that was handed out is given again also after the connection was disposed of, since
  the connection is not asked for it a second time. A batch resolves its container each time.
* Operations that make no batch are refused by `Batch.check` before the connection is asked for
  anything. What is sent is repeated by the policy for batches only.
-/

namespace DocumentClient

open Store

/-- A unit of work. -/
structure UnitOfWork where
  /-- The repositories that were handed out, by the names of their types. -/
  repositories : List (String × Repository) := []
  /-- When batches are sent again. -/
  batchPolicy : Retry.Policy

namespace UnitOfWork

variable {σ : Type}

/-- A new unit of work, with the policy for batches that the settings ask for. -/
def ofSettings (settings : Settings) : UnitOfWork :=
  { batchPolicy := .batchesOfSettings settings }

/-- The unit of work after a repository was handed out. -/
def add (unit : UnitOfWork) (repository : Repository) : UnitOfWork :=
  { unit with repositories := unit.repositories ++ [(repository.typeName, repository)] }

/-- The repository of a document type, and the unit of work afterwards. -/
def repository (unit : UnitOfWork) (store : Store σ) (typeName : String) :
    Action (Session σ) (Repository × UnitOfWork) :=
  match Keyed.find? typeName unit.repositories with
  | some repository => Action.succeed (repository, unit)
  | none => do
    let repository ← Repository.openDefault store typeName
    return (repository, unit.add repository)

/-- Applies operations to the documents of one partition, all or none. Operations that make no
batch are refused before anything is sent. -/
def executeBatch (unit : UnitOfWork) (store : Store σ) (request : Retry.Request)
    (operations : List Batch.Operation) (key : PartitionKey) :
    Action (Session σ) Batch.Result := do
  let placement ← Action.ofExcept ((Batch.check operations key).mapError Batch.Error.toFailure)
  let handle ← Connection.container store placement.container
  let response ← Session.atStore
    (unit.batchPolicy.run "batch" request (store.executeBatch handle.container key operations))
  return .ofResponse response

end UnitOfWork

end DocumentClient
