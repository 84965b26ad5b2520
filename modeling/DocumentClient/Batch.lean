import DocumentClient.Document
import DocumentClient.Patch

/-!
# DocumentClient.Batch

**Atomic batches.** All operations of a batch go to one container and one partition. `check` makes
sure of that before anything is sent, and what the store answers is judged by `Result.ofResponse`.

* An `Operation` carries the `Target` that it is about: the type of a document, its id and its
  key. Operations that store a whole document take the target from it; for the others the caller
  names it. The constructors that callers use (`Operation.ofCreate` and its neighbours) refuse
  blank ids and lists that make no patch, so a batch cannot have them.
* `check` reports the first operation that does not fit, by its index. Of an operation the
  container is looked at first, then the partition, then the document that it stores.
* A response says whether the batch was applied, and has a status for each operation. When a batch
  fails, all operations but one get a status which says that it was because of another one, so
  `Result.blamed` looks for an operation that failed by itself.

A batch that is refused here was not sent. One that was sent and failed may have been applied all
the same, if its answer got lost; what that means for sending it again is the policy's to say.
-/

namespace DocumentClient.Batch

/-! ## Operations -/

/-- The document that an operation is about. -/
structure Target where
  /-- The type of the document. -/
  typeName : String
  /-- The id of the document. -/
  id : String
  /-- The key of its partition. -/
  key : PartitionKey
  deriving Repr, Inhabited

/-- One operation of a batch. -/
inductive Operation where
  /-- Stores a document whose id is not taken. -/
  | create (target : Target) (document : Json)
  /-- Stores a document in place of another. -/
  | replace (target : Target) (document : Json)
  /-- Removes a document. -/
  | delete (target : Target)
  /-- Changes a document. -/
  | patch (target : Target) (ops : List PatchOp)
  deriving Repr, Inhabited

namespace Operation

/-- The document that the operation is about. -/
def target : Operation → Target
  | .create target _ | .replace target _ | .delete target | .patch target _ => target

/-- The name of the kind of operation. -/
def kind : Operation → String
  | .create _ _ => "create"
  | .replace _ _ => "replace"
  | .delete _ => "delete"
  | .patch _ _ => "patch"

/-- The document that the operation stores, if it stores a whole one. -/
def document? : Operation → Option Json
  | .create _ document | .replace _ document => some document
  | .delete _ | .patch _ _ => none

/-- The target that a document has by itself. -/
def targetOf (typeName : String) (document : Document) (key : PartitionKey) : Target :=
  ⟨typeName, document.id, key⟩

/-- Creation of a document, whose id must not be blank. -/
def ofCreate (typeName : String) (document : Document) (key : PartitionKey) :
    Except Failure Operation := do
  (document.checkWritable typeName).mapError ModelError.toFailure
  return .create (targetOf typeName document key) document.toJson

/-- Replacement of a document, whose id must not be blank. -/
def ofReplace (typeName : String) (document : Document) (key : PartitionKey) :
    Except Failure Operation := do
  (document.checkWritable typeName).mapError ModelError.toFailure
  return .replace (targetOf typeName document key) document.toJson

/-- Removal of the document of an id. -/
def ofDelete (typeName id : String) (key : PartitionKey) : Operation :=
  .delete ⟨typeName, id, key⟩

/-- A change of the document of an id; the operations must make a patch. -/
def ofPatch (typeName id : String) (key : PartitionKey) (ops : List PatchOp) :
    Except Failure Operation := do
  (Patch.check ops).mapError PatchError.toFailure
  return .patch ⟨typeName, id, key⟩ ops

end Operation

/-! ## Checking a batch -/

/-- The largest number of operations in one batch. -/
def maxOperations : Nat := 100

/-- Why a list of operations makes no batch for a partition. -/
inductive Error where
  /-- There are no operations. -/
  | empty
  /-- There are too many operations. -/
  | tooMany (count : Nat)
  /-- The type of a document is not in the catalog. -/
  | model (error : ModelError)
  /-- An operation goes to another container than the first. -/
  | container (index : Nat) (found expected : String)
  /-- An operation goes to another partition than the batch. -/
  | key (index : Nat) (found expected : String)
  /-- The document of an operation belongs to another partition than the batch. -/
  | body (index : Nat) (id keyText path : String)
  deriving DecidableEq, Repr

namespace Error

/-- The wording of a batch error. -/
def message : Error → String
  | .empty => "batch contains no operations"
  | .tooMany count =>
    "batch contains " ++ Text.natText count ++ " operations, the limit is " ++
      Text.natText maxOperations
  | .model error => error.message
  | .container index found expected =>
    "operation " ++ Text.natText index ++ " targets container '" ++ found ++
      "' but the batch targets '" ++ expected ++ "'"
  | .key index found expected =>
    "operation " ++ Text.natText index ++ " uses partition key '" ++ found ++
      "' but the batch uses '" ++ expected ++ "'"
  | .body index id keyText path =>
    "operation " ++ Text.natText index ++ " document '" ++ id ++
      "' does not carry partition key '" ++ keyText ++ "' at " ++ path

/-- A batch error as a failure of the client: an unknown type is configuration. -/
def toFailure : Error → Failure
  | .model error => error.toFailure
  | error => .invalidBatch error.message

end Error

/-- Checks one operation against the placement and the key of the batch. -/
def checkOperation (placement : Placement) (key : PartitionKey) (index : Nat)
    (operation : Operation) : Except Error Unit := do
  let target := operation.target
  let found ← (Catalog.placement target.typeName).mapError Error.model
  if found.container ≠ placement.container then
    throw (.container index found.container placement.container)
  if !target.key.equiv key then
    throw (.key index target.key.text key.text)
  match operation.document? with
  | some document =>
    if !key.isCarriedBy document placement then
      throw (.body index target.id key.text placement.partitionPath)
  | none => pure ()

/-- Checks operations in order, the first of which has the given index. -/
def checkFrom (placement : Placement) (key : PartitionKey) :
    Nat → List Operation → Except Error Unit
  | _, [] => .ok ()
  | index, operation :: operations =>
    match checkOperation placement key index operation with
    | .error error => .error error
    | .ok () => checkFrom placement key (index + 1) operations

/-- A batch has 1 to 100 operations; all go to the container of the first and to the partition
of the key, and documents that are stored whole carry that key. -/
def check (operations : List Operation) (key : PartitionKey) : Except Error Placement :=
  match operations with
  | [] => .error .empty
  | first :: _ =>
    if maxOperations < operations.length then .error (.tooMany operations.length)
    else
      match Catalog.placement first.target.typeName with
      | .error error => .error (.model error)
      | .ok placement => (checkFrom placement key 0 operations).map fun () => placement

/-! ## Results -/

/-- What a store says about one operation. -/
structure OperationResponse where
  /-- The status of the operation. -/
  status : Nat
  /-- What the operation cost. -/
  charge : Binary64
  /-- A message, if there is one. -/
  message : Option String
  deriving DecidableEq, Repr, Inhabited

/-- What a store says about a batch. -/
structure Response where
  /-- Was the batch applied? -/
  success : Bool
  /-- The operations, one after the other. -/
  results : List OperationResponse
  deriving DecidableEq, Repr, Inhabited

/-- The status of an operation that was not applied because of another one. -/
def dependencyStatus : Nat := 424

/-- The outcome of one operation. -/
structure OperationResult where
  /-- The position of the operation in the batch. -/
  index : Nat
  /-- The status of the operation. -/
  status : Nat
  /-- What the operation cost. -/
  charge : Binary64
  /-- A message, if there is one. -/
  message : Option String
  deriving DecidableEq, Repr, Inhabited

/-- Does the status report success? -/
def OperationResult.isSuccess (result : OperationResult) : Bool :=
  200 ≤ result.status && result.status < 300

/-- The outcome of a batch. -/
structure Result where
  /-- Was the batch applied? -/
  committed : Bool
  /-- The outcomes of the operations. -/
  operations : List OperationResult
  /-- The operation to blame, if the batch was not applied. -/
  firstFailure : Option OperationResult
  /-- What the operations cost together. -/
  charge : Binary64
  deriving DecidableEq, Repr, Inhabited

namespace Result

/-- The state that a batch ends in. -/
def state (result : Result) : String :=
  if result.committed then "committed" else "aborted"

/-- Numbers the operations of a response. -/
def numbered (results : List OperationResponse) : List OperationResult :=
  results.zipIdx.map fun (r, index) => ⟨index, r.status, r.charge, r.message⟩

/-- The operation to blame: the first that failed by itself, else the first that failed. -/
def blamed (operations : List OperationResult) : Option OperationResult :=
  (operations.find? fun r => !r.isSuccess && r.status != dependencyStatus) <|>
    operations.find? fun r => !r.isSuccess

/-- Judges a response. The batch was applied if the store says so and no operation failed. -/
def ofResponse (response : Response) : Result :=
  let operations := numbered response.results
  let committed := response.success && operations.all OperationResult.isSuccess
  { committed := committed
    operations := operations
    firstFailure := if committed then none else blamed operations
    charge := Binary64.sum (operations.map OperationResult.charge) }

end Result

end DocumentClient.Batch
