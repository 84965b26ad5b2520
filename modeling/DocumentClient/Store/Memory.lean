import DocumentClient.Query.Evaluation
import DocumentClient.Store

/-!
# DocumentClient.Store.Memory

**A store in memory.** Each container files its documents under the text of their partition key and
their id, and keeps them in that order. Answers come at once, so nobody ever stops waiting for one.

* `Documents` is a map that is sorted by `DocumentKey`; a container cannot hold two documents in
  one place, or hold them out of order. A container that nobody has written to is empty.
* For rehearsing failures a container has a queue of them: every call takes the first one, if
  there is one, in place of an answer (`served`).
* A patch is applied to the document itself. If one of its operations cannot be applied, the
  changes before it remain.
* A batch is applied to a copy of the documents, which takes their place if nothing was refused.
* A page of results ends with a token that says how many results came before the next one. The
  results are computed anew for each page.
-/

namespace DocumentClient

/-- What documents are filed under. -/
structure DocumentKey where
  /-- The text of the partition key. -/
  partition : String
  /-- The id of the document. -/
  id : String
  deriving DecidableEq, Repr, Inhabited

/-- Keys are ordered by partition, and within one by id. -/
instance : LT DocumentKey where
  lt a b := a.partition < b.partition ∨ (a.partition = b.partition ∧ a.id < b.id)

instance : DecidableLT DocumentKey := fun a b =>
  inferInstanceAs
    (Decidable (a.partition < b.partition ∨ (a.partition = b.partition ∧ a.id < b.id)))

instance : Trans (· < · : DocumentKey → DocumentKey → Prop)
    (· < · : DocumentKey → DocumentKey → Prop) (· < · : DocumentKey → DocumentKey → Prop) where
  trans {a b c} before before' := by
    rcases before with before | ⟨same, before⟩ <;> rcases before' with before' | ⟨same', before'⟩
    · exact .inl (String.lt_trans before before')
    · exact .inl (same' ▸ before)
    · exact .inl (same ▸ before')
    · exact .inr ⟨same.trans same', String.lt_trans before before'⟩

instance : Std.Asymm (α := DocumentKey) (· < ·) where
  asymm a b before after := by
    rcases before with before | ⟨same, before⟩ <;> rcases after with after | ⟨same', after⟩
    · exact String.lt_asymm before after
    · exact String.lt_irrefl _ (same' ▸ before)
    · exact String.lt_irrefl _ (same ▸ after)
    · exact String.lt_asymm before after

instance : Std.Trichotomous (α := DocumentKey) (· < ·) where
  trichotomous := by
    intro ⟨partition, id⟩ ⟨partition', id'⟩ notBefore notAfter
    obtain rfl : partition = partition' :=
      Std.Trichotomous.trichotomous partition partition' (fun before => notBefore (.inl before))
        fun after => notAfter (.inl after)
    obtain rfl : id = id' :=
      Std.Trichotomous.trichotomous id id' (fun before => notBefore (.inr ⟨rfl, before⟩))
        fun after => notAfter (.inr ⟨rfl, after⟩)
    rfl

/-- Documents in order of their keys. -/
abbrev Documents : Type := Keyed.Map DocumentKey Json

namespace Memory

/-- A container. -/
structure Container where
  /-- The documents. -/
  documents : Documents := ∅
  /-- How many calls there were. -/
  calls : Nat := 0
  /-- How many of the calls were batches. -/
  batchCalls : Nat := 0
  /-- The failures of the next calls. -/
  failures : List Failure := []
  deriving Repr, Inhabited

end Memory

/-- A store in memory. -/
structure Memory where
  /-- The containers by name; one that was never used is empty. -/
  containers : Keyed.Map String Memory.Container := ∅
  /-- The names of the containers that were created. -/
  created : List String := []
  /-- Was the database created? -/
  databaseCreated : Bool := false
  /-- Was the store disposed of? -/
  disposed : Bool := false
  /-- The failures of the next checks of the database. -/
  databaseFailures : List Failure := []
  deriving Repr, Inhabited

namespace Memory

open Store

/-- A container by name. -/
def container (memory : Memory) (name : String) : Container :=
  (memory.containers.find? name).getD {}

/-- Puts a container in place of another. -/
def setContainer (memory : Memory) (name : String) (container : Container) : Memory :=
  { memory with containers := memory.containers.insert name container }

/-- A container that was put in place is found there. -/
@[simp] theorem container_setContainer_self (memory : Memory) (name : String)
    (container : Container) : (memory.setContainer name container).container name = container := by
  simp [Memory.container, setContainer]

/-- The other containers stay what they are. -/
theorem container_setContainer_of_ne {name other : String} (h : other ≠ name) (memory : Memory)
    (container : Container) :
    (memory.setContainer name container).container other = memory.container other := by
  simp [Memory.container, setContainer, Keyed.Map.find?_insert_of_ne h]

/-- The key of the document of an id in a partition. -/
def documentKey (key : PartitionKey) (id : String) : DocumentKey :=
  ⟨key.text, id⟩

namespace Container

/-- A call of a container: what it answers, and the container afterwards. -/
abbrev Step (α : Type) : Type := Container → Except Failure α × Container

/-- Counts a call, and fails in place of `answer` if a failure is waiting. -/
def served {α : Type} (answer : Step α) : Step α :=
  fun container =>
    let counted := { container with calls := container.calls + 1 }
    match counted.failures with
    | [] => answer counted
    | failure :: failures => (.error failure, { counted with failures })

/-- The failure of a call for a document that is not there. -/
def missing (name id : String) : Failure :=
  .notFound (name ++ " '" ++ id ++ "'")

/-- What it costs to read a document. -/
def readCharge : Binary64 := .ofNat 1

/-- What it costs to store or to change a document. -/
def writeCharge : Binary64 := .ofNat 10

/-- What it costs to remove a document. -/
def deleteCharge : Binary64 := .ofNat 5

/-- What a page of results costs. -/
def pageCharge : Binary64 := .ofNat 2

/-- What an operation of a batch costs. -/
def operationCharge : Binary64 := .ofNat 1

/-- Returns a document. -/
def readItem (name id : String) (key : PartitionKey) : Step ItemResponse :=
  served fun container =>
    match container.documents.find? (documentKey key id) with
    | some document => (.ok ⟨document, readCharge⟩, container)
    | none => (.error (missing name id), container)

/-- Stores a document under the id that it carries. -/
def upsertItem (key : PartitionKey) (document : Json) : Step ItemResponse :=
  served fun container =>
    match document.field? "id" with
    | some (.str id) =>
      (.ok ⟨document, writeCharge⟩,
        { container with
          documents := container.documents.insert (documentKey key id) document })
    | _ => (.error (.validation "document has no id"), container)

/-- Removes a document. -/
def deleteItem (name id : String) (key : PartitionKey) : Step Binary64 :=
  served fun container =>
    if container.documents.contains (documentKey key id) then
      (.ok deleteCharge,
        { container with documents := container.documents.erase (documentKey key id) })
    else (.error (missing name id), container)

/-- Changes a document. If an operation cannot be applied, the changes before it remain. -/
def patchItem (name id : String) (key : PartitionKey) (ops : List PatchOp) : Step ItemResponse :=
  served fun container =>
    match container.documents.find? (documentKey key id) with
    | none => (.error (missing name id), container)
    | some document =>
      let (changed, error) := Patch.applyAll ops document
      let container :=
        { container with
          documents := container.documents.insert (documentKey key id) changed }
      match error with
      | none => (.ok ⟨changed, writeCharge⟩, container)
      | some error => (.error error.toFailure, container)

/-! ### Queries -/

/-- The documents of a partition, or of all. -/
def documentsOf (container : Container) (key : Option PartitionKey) : List Json :=
  let inScope := fun (place : DocumentKey) => key.all fun k => place.partition == k.text
  (container.documents.filterKeys inScope).values

/-- Reads where to go on: the number of results before the page. -/
def startOf (continuation : Option String) : Except Failure Nat :=
  match continuation with
  | none => .ok 0
  | some token =>
    (Text.readNumeral Word.max64 token.toList).mapError fun _ =>
      .validation "bad continuation"

/-- Cuts a page out of results. There is another page if results are left after it. -/
def pageOf (results : List Json) (start : Nat) (maxItems : Option Nat) : QueryPage :=
  let stop := Nat.min (start + maxItems.getD Word.max32) results.length
  { items := (results.take stop).drop start
    continuation := if stop < results.length then some (Text.natText stop) else none
    charge := pageCharge }

/-- Returns one page of the results of a query. -/
def queryItems (statement : Query.Statement) (options : QueryOptions) : Step QueryPage :=
  served fun container =>
    match Query.evaluate? statement (container.documentsOf options.key) with
    | none => (.error (.internal ("fake store cannot evaluate: " ++ statement.text)), container)
    | some results =>
      ((startOf options.continuation).map fun start => pageOf results start options.maxItems,
        container)

/-! ### Batches -/

/-- The status of an operation that is refused because of what is stored. -/
inductive Refusal where
  /-- There is a document under the id already. -/
  | exists
  /-- There is no document under the id. -/
  | missing
  /-- The document cannot be changed so. -/
  | unpatchable
  /-- A number that the change computes is out of range. -/
  | overflow
  deriving DecidableEq, Repr

/-- The status that reports a refusal. -/
def Refusal.status : Refusal → Nat
  | .exists => 409
  | .missing => 404
  | .unpatchable | .overflow => 400

/-- Applies an operation to documents: the status of its success, and the documents then. -/
def applyOperation (key : PartitionKey) (operation : Batch.Operation) (documents : Documents) :
    Except Refusal (Nat × Documents) :=
  let place := documentKey key operation.target.id
  match operation, documents.find? place with
  | .create _ _, some _ => .error .exists
  | .create _ document, none => .ok (201, documents.insert place document)
  | .replace _ document, some _ => .ok (200, documents.insert place document)
  | .delete _, some _ => .ok (204, documents.erase place)
  | .patch _ ops, some document =>
    match Patch.applyAll ops document with
    | (changed, none) => .ok (200, documents.insert place changed)
    | (_, some .overflow) => .error .overflow
    | (_, some _) => .error .unpatchable
  | _, none => .error .missing

/-- Applies operations one after the other: the statuses of their successes and the documents
then, or how many operations came before the first refusal, and that refusal. -/
def applyOperations (key : PartitionKey) :
    List Batch.Operation → Documents → Except (Nat × Refusal) (List Nat × Documents)
  | [], documents => .ok ([], documents)
  | operation :: operations, documents =>
    match applyOperation key operation documents with
    | .error refusal => .error (0, refusal)
    | .ok (status, documents) =>
      match applyOperations key operations documents with
      | .error (before, refusal) => .error (before + 1, refusal)
      | .ok (statuses, documents) => .ok (status :: statuses, documents)

/-- Operations are applied only if the first one is, and the others after it. -/
theorem applyOperations_cons_ok {key : PartitionKey} {operation : Batch.Operation}
    {operations : List Batch.Operation} {documents documents' : Documents} {statuses : List Nat}
    (h : applyOperations key (operation :: operations) documents = .ok (statuses, documents')) :
    ∃ status between statuses', applyOperation key operation documents = .ok (status, between) ∧
      applyOperations key operations between = .ok (statuses', documents') := by
  rw [applyOperations] at h
  split at h
  · cases h
  · rename_i status between applied
    split at h
    · cases h
    · rename_i statuses' documents'' rest
      cases h
      exact ⟨status, between, statuses', applied, rest⟩

/-- What is said of an operation that was applied. -/
def applied (status : Nat) : Batch.OperationResponse :=
  ⟨status, operationCharge, none⟩

/-- What is said of an operation that was refused. -/
def refused (refusal : Refusal) : Batch.OperationResponse :=
  ⟨refusal.status, operationCharge, some "operation failed"⟩

/-- What is said of the other operations then. -/
def dependent : Batch.OperationResponse :=
  ⟨Batch.dependencyStatus, operationCharge, some "dependent operation failed"⟩

/-- What is said of `count` operations, of which the one at `index` was refused. -/
def refusedResults (count index : Nat) (refusal : Refusal) : List Batch.OperationResponse :=
  List.replicate index dependent ++ refused refusal :: List.replicate (count - index - 1) dependent

/-- Applies the operations of a batch, or none of them. -/
def batchAnswer (key : PartitionKey) (operations : List Batch.Operation) : Step Batch.Response :=
  fun container =>
    match applyOperations key operations container.documents with
    | .ok (statuses, documents) =>
      (.ok ⟨true, statuses.map applied⟩, { container with documents })
    | .error (_, .overflow) => (.error .overflow, container)
    | .error (index, refusal) =>
      (.ok ⟨false, refusedResults operations.length index refusal⟩, container)

/-- Applies the operations of a batch, or none of them, and counts the batch. -/
def executeBatch (key : PartitionKey) (operations : List Batch.Operation) : Step Batch.Response :=
  fun container =>
    served (batchAnswer key operations) { container with batchCalls := container.batchCalls + 1 }

end Container

/-! ## The store -/

/-- A call of a container as a call of the store. -/
def inContainer {α : Type} (name : String) (step : Container.Step α) : Call Memory α :=
  fun _ memory =>
    let (outcome, container) := step (memory.container name)
    .atOnce outcome (memory.setContainer name container)

/-- Checks the database, which is always there. -/
def readDatabase (memory : Memory) : Except Failure Unit × Memory :=
  match memory.databaseFailures with
  | [] => (.ok (), memory)
  | failure :: failures => (.error failure, { memory with databaseFailures := failures })

/-- Notes that a container was created, unless it was already. -/
def createContainer (memory : Memory) (name : String) : Bool × Memory :=
  if memory.created.contains name then (false, memory)
  else (true, { memory with created := memory.created ++ [name] })

/-- The store in memory. -/
def store : Store Memory where
  readDatabase _ _ memory :=
    let (outcome, memory) := memory.readDatabase
    .atOnce outcome memory
  createDatabase _ _ _ memory :=
    .atOnce (.ok (!memory.databaseCreated)) { memory with databaseCreated := true }
  createContainer _ definition _ memory :=
    let (isNew, memory) := memory.createContainer definition.name
    .atOnce (.ok isNew) memory
  openContainer _ name _ memory := memory.setContainer name (memory.container name)
  dispose _ memory := { memory with disposed := true }
  readItem name id key := inContainer name (Container.readItem name id key)
  upsertItem name key document := inContainer name (Container.upsertItem key document)
  deleteItem name id key := inContainer name (Container.deleteItem name id key)
  patchItem name id key ops := inContainer name (Container.patchItem name id key ops)
  queryItems name statement options := inContainer name (Container.queryItems statement options)
  executeBatch name key operations := inContainer name (Container.executeBatch key operations)
  pageBound name memory := (memory.container name).documents.length + 1

end Memory

end DocumentClient
