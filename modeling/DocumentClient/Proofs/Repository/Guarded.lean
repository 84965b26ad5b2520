import DocumentClient.Proofs.Batch.Checking
import DocumentClient.Proofs.Keyed
import DocumentClient.Proofs.Repository.Writes
import Mathlib.Logic.Relation

/-!
# DocumentClient.Proofs.Repository.Guarded

**Documents lie where they belong.** There are two ways for a document to get into a container: a
repository stores it, or a batch does. Each checks on its own that the id is not blank and that the
document carries the key of the partition; the store itself files a document under the id of the
target and the text of the key without a look at it.

* `Placement.Files` is what is true of a document in its place, and `Guards` says it of all
  documents in the containers of the catalog. A container may hold documents of several types, so
  `Guards` is asked of each type; types of one container have one placement.
* `Write.Guarded` says which writes are meant. A batch is guarded by how its operations are made:
  `Operation.Built` has one constructor for each way, and none for changes of a document, of which
  nobody can say beforehand what they store.

## Proof shape

* `Guards.upsertItem`, `Guards.deleteItem` and `Guards.executeBatch` show that the calls preserve
  the invariant, given what was checked before them. The batch goes by induction over its
  operations (`files_applyOperations`), and a failure that waits changes nothing
  (`Guards.served`).
* A write may make any number of attempts; that each of them preserves what one call preserves is
  shown once, for all writes (`Write.perform_preserves`).
* `guards_of_step` is what one step of a client with such writes preserves; `reachable_files` is
  what follows for any number of steps.
-/

namespace DocumentClient

open Store Memory.Container

/-! ### Documents in their places -/

/-- A document lies where it belongs: it carries the id of its place, which is not blank, and, at
the partition path, a key whose text is that of the place. -/
structure Placement.Files (placement : Placement) (place : DocumentKey) (document : Json) :
    Prop where
  /-- The document has the id of its place. -/
  named : document.field? "id" = some (.str place.id)
  /-- The id is not blank. -/
  notBlank : Text.isBlankText place.id = false
  /-- The document carries a key whose text is that of the place. -/
  carried : ∃ value key, document.descend placement.segments = some value ∧
    value.equiv key.value = true ∧ PartitionKey.text key = place.partition

/-- All documents of a container lie where they belong, for each type that is stored there. -/
def Guards (name : String) (container : Memory.Container) : Prop :=
  ∀ typeName placement, Catalog.find? typeName = some placement → placement.container = name →
    ∀ entry ∈ container.documents, placement.Files entry.1 entry.2

theorem guards_of_empty {name : String} {container : Memory.Container}
    (empty : container.documents = ∅) : Guards name container := by
  intro typeName placement _ _ entry mem
  rw [empty] at mem
  exact absurd mem (Keyed.Map.not_mem_empty entry)

/-- A call preserves what its answer preserves: one that takes a failure which waits leaves
documents alone. -/
theorem Guards.served {α : Type} {name : String} {answer : Step α} {container : Memory.Container}
    (guards : Guards name container)
    (answered : Guards name (answer { container with calls := container.calls + 1 }).2) :
    Guards name (served answer container).2 := by
  cases waiting : container.failures with
  | nil =>
      simp only [Memory.Container.served, waiting]
      exact waiting ▸ answered
  | cons failure failures =>
      simp only [Memory.Container.served, waiting]
      exact guards

/-! ### What is checked before a document is sent -/

/-- A document in the place of its id and of a key that it carries lies where it belongs. -/
theorem Placement.files_of_carried {placement : Placement} {document : Document}
    {key : PartitionKey} (notBlank : Text.isBlankText document.id = false)
    (carried : key.isCarriedBy document.toJson placement = true) :
    placement.Files (Memory.documentKey key document.id) document.toJson where
  named := document.find?_id
  notBlank := notBlank
  carried := by
    obtain ⟨value, found, equal⟩ := Placement.isCarriedBy_iff.mp carried
    exact ⟨value, key, found, equal, rfl⟩

theorem Document.checkWritable_ok {document : Document} {typeName : String}
    (h : (document.checkWritable typeName).mapError ModelError.toFailure = .ok ()) :
    Text.isBlankText document.id = false := by
  unfold checkWritable at h
  split at h
  · cases h
  · rename_i notBlank
    exact Bool.eq_false_iff.mpr notBlank

/-- Something is made of a document only if the document can be written. -/
theorem Document.writable_of_made {α : Type} {document : Document} {typeName : String}
    {value made : α}
    (h : (do
      (document.checkWritable typeName).mapError ModelError.toFailure
      return value : Except Failure α) = .ok made) :
    value = made ∧ Text.isBlankText document.id = false := by
  obtain ⟨⟨⟩, writable, made⟩ := exists_of_outcome_bind_eq_ok h
  exact ⟨Except.ok.inj made, checkWritable_ok writable⟩

/-- A document that a repository sends lies where it belongs. -/
theorem Repository.files_of_checked {repository : Repository} {document : Document}
    {key : PartitionKey} (h : repository.checkUpsert document key = .ok ()) :
    repository.placement.Files (Memory.documentKey key document.id) document.toJson := by
  obtain ⟨⟨⟩, writable, h⟩ := exists_of_outcome_bind_eq_ok h
  cases carried : key.isCarriedBy document.toJson repository.placement with
  | false =>
      rw [carried] at h
      cases h
  | true => exact Placement.files_of_carried (Document.checkWritable_ok writable) carried

namespace Batch

/-- An operation as the constructors make it: a document that is stored whole has the id of the
target, which is not blank. -/
inductive Operation.Built : Operation → Prop
  /-- A creation that was accepted. -/
  | create {typeName : String} {document : Document} {key : PartitionKey} {operation : Operation}
      (made : Operation.ofCreate typeName document key = .ok operation) : Built operation
  /-- A replacement that was accepted. -/
  | replace {typeName : String} {document : Document} {key : PartitionKey} {operation : Operation}
      (made : Operation.ofReplace typeName document key = .ok operation) : Built operation
  /-- A removal. -/
  | delete (typeName id : String) (key : PartitionKey) :
      Built (Operation.ofDelete typeName id key)

/-- What an operation stores lies where it belongs; an operation that changes a document does not
say what it stores. -/
def Operation.Guarded (placement : Placement) (key : PartitionKey) : Operation → Prop
  | .create target document | .replace target document =>
    placement.Files (Memory.documentKey key target.id) document
  | .delete _ => True
  | .patch _ _ => False

/-- Operations that pass and were made by the constructors store documents where they belong. -/
theorem Operation.Built.guarded {placement : Placement} {key : PartitionKey}
    {operation : Operation} (built : operation.Built) (passes : Passes placement key operation) :
    operation.Guarded placement key := by
  cases built with
  | create made =>
      obtain ⟨rfl, notBlank⟩ := Document.writable_of_made made
      exact Placement.files_of_carried notBlank
        (Placement.isCarriedBy_iff.mpr (passes.body _ rfl))
  | replace made =>
      obtain ⟨rfl, notBlank⟩ := Document.writable_of_made made
      exact Placement.files_of_carried notBlank
        (Placement.isCarriedBy_iff.mpr (passes.body _ rfl))
  | delete typeName id key => trivial

end Batch

/-! ### What the calls preserve -/

section Calls

variable {placement : Placement} {key : PartitionKey} {documents documents' : Documents}

theorem Placement.files_insert {place : DocumentKey} {document : Json}
    (new : placement.Files place document)
    (files : ∀ entry ∈ documents, placement.Files entry.1 entry.2) :
    ∀ entry ∈ documents.insert place document, placement.Files entry.1 entry.2 := by
  intro entry mem
  rcases Keyed.Map.mem_of_mem_insert mem with rfl | mem
  · exact new
  · exact files entry mem

theorem Placement.files_erase (place : DocumentKey)
    (files : ∀ entry ∈ documents, placement.Files entry.1 entry.2) :
    ∀ entry ∈ documents.erase place, placement.Files entry.1 entry.2 :=
  fun entry mem => files entry (Keyed.Map.mem_of_mem_erase mem)

/-- One operation that is guarded leaves documents where they belong. -/
theorem files_applyOperation {operation : Batch.Operation} {status : Nat}
    (guarded : operation.Guarded placement key)
    (files : ∀ entry ∈ documents, placement.Files entry.1 entry.2)
    (h : applyOperation key operation documents = .ok (status, documents')) :
    ∀ entry ∈ documents', placement.Files entry.1 entry.2 := by
  unfold applyOperation at h
  cases operation with
  | create target document =>
      cases found : documents.find? (Memory.documentKey key target.id) with
      | some _ => simp [Batch.Operation.target, found] at h
      | none =>
          simp only [Batch.Operation.target, found] at h
          cases h
          exact Placement.files_insert guarded files
  | replace target document =>
      cases found : documents.find? (Memory.documentKey key target.id) with
      | none => simp [Batch.Operation.target, found] at h
      | some _ =>
          simp only [Batch.Operation.target, found] at h
          cases h
          exact Placement.files_insert guarded files
  | delete target =>
      cases found : documents.find? (Memory.documentKey key target.id) with
      | none => simp [Batch.Operation.target, found] at h
      | some _ =>
          simp only [Batch.Operation.target, found] at h
          cases h
          exact Placement.files_erase _ files
  | patch target ops => exact guarded.elim

/-- So do several, one after the other. -/
theorem files_applyOperations {operations : List Batch.Operation} {statuses : List Nat}
    (guarded : ∀ operation ∈ operations, operation.Guarded placement key)
    (files : ∀ entry ∈ documents, placement.Files entry.1 entry.2)
    (h : applyOperations key operations documents = .ok (statuses, documents')) :
    ∀ entry ∈ documents', placement.Files entry.1 entry.2 := by
  induction operations generalizing documents statuses with
  | nil =>
      cases h
      exact files
  | cons operation operations ih =>
      obtain ⟨status, between, statuses', applied, rest⟩ := applyOperations_cons_ok h
      have filed := files_applyOperation (guarded operation List.mem_cons_self) files applied
      exact ih (fun other mem => guarded other (List.mem_cons_of_mem operation mem)) filed rest

end Calls

namespace Guards

variable {name : String} {placement : Placement} {key : PartitionKey} {container : Memory.Container}

theorem of_files {typeName : String} (found : Catalog.find? typeName = some placement)
    (files : ∀ entry ∈ container.documents, placement.Files entry.1 entry.2) :
    Guards placement.container container := by
  intro typeName' placement' found' here
  obtain rfl := Catalog.placement_unique found' found here
  exact files

theorem upsertItem {typeName : String} (found : Catalog.find? typeName = some placement)
    {document : Document}
    (new : placement.Files (Memory.documentKey key document.id) document.toJson)
    (guards : Guards placement.container container) :
    Guards placement.container (Memory.Container.upsertItem key document.toJson container).2 := by
  refine guards.served ?_
  have named : document.toJson.field? "id" = some (.str document.id) := document.find?_id
  simp only [named]
  exact of_files found (Placement.files_insert new (guards typeName placement found rfl))

theorem deleteItem (id : String) (guards : Guards name container) :
    Guards name (Memory.Container.deleteItem name id key container).2 := by
  refine guards.served ?_
  split
  · exact fun typeName placement found here =>
      Placement.files_erase _ (guards typeName placement found here)
  · exact guards

/-- A container applies a batch of guarded operations, or leaves documents alone. -/
theorem executeBatch {typeName : String} (found : Catalog.find? typeName = some placement)
    {operations : List Batch.Operation}
    (guarded : ∀ operation ∈ operations, operation.Guarded placement key)
    (guards : Guards placement.container container) :
    Guards placement.container (Memory.Container.executeBatch key operations container).2 := by
  have counted : Guards placement.container
      { container with batchCalls := container.batchCalls + 1 } := guards
  refine counted.served ?_
  unfold batchAnswer
  cases applied : applyOperations key operations container.documents with
  | error refused =>
      obtain ⟨index, refusal⟩ := refused
      cases refusal <;> exact guards
  | ok answer =>
      obtain ⟨statuses, documents⟩ := answer
      exact of_files found
        (files_applyOperations guarded (guards typeName placement found rfl) applied)

end Guards

/-! ### Any number of steps -/

/-- A write that the client guards: a document is stored by a repository of the catalog, and the
operations of a batch are creations, replacements and removals as the constructors make them. -/
inductive Write.Guarded : Write → Prop
  /-- A repository of the catalog stores a document. -/
  | upsert {repository : Repository} (mapped : repository.Mapped) (document : Document)
      (key : PartitionKey) : Guarded (.upsert repository document key)
  /-- A repository removes a document. -/
  | delete (repository : Repository) (id : String) (key : PartitionKey) :
      Guarded (.delete repository id key)
  /-- Operations are applied as a batch. -/
  | batch (unit : UnitOfWork) {operations : List Batch.Operation}
      (built : ∀ operation ∈ operations, operation.Built) (key : PartitionKey) :
      Guarded (.batch unit operations key)

theorem Write.Guarded.preserves {write : Write} (guarded : write.Guarded) :
    write.Preserves Guards := by
  cases guarded with
  | upsert mapped document key =>
      intro checked container
      rw [mapped.handle]
      exact Guards.upsertItem mapped.placed (Repository.files_of_checked checked)
  | delete repository id key => exact fun container => Guards.deleteItem id
  | batch unit built key =>
      intro placement checked container
      obtain ⟨⟨typeName, found⟩, -, -, passes⟩ := Batch.check_eq_ok_iff.mp checked
      exact Guards.executeBatch found fun operation mem =>
        (built operation mem).guarded (passes operation mem)

/-- **Step lemma.** One step with guarded writes leaves documents where they belong. -/
theorem guards_of_step {session session' : Session Memory}
    (step : ClientStep Write.Guarded session session') (coherent : session.connection.Coherent)
    (guards : ∀ name, Guards name (session.moment.store.container name)) (name : String) :
    Guards name (session'.moment.store.container name) := by
  cases step with
  | @write write guarded request =>
      exact write.perform_preserves guarded.preserves coherent guards name
  | around _ same =>
      intro typeName placement found here entry mem
      rw [same name] at mem
      exact guards name typeName placement found here entry mem

/-- Any number of steps leaves documents where they belong. -/
theorem guards_of_steps {start session : Session Memory} (coherent : start.connection.Coherent)
    (guards : ∀ name, Guards name (start.moment.store.container name))
    (steps : Relation.ReflTransGen (ClientStep Write.Guarded) start session) :
    session.connection.Coherent ∧
      ∀ name, Guards name (session.moment.store.container name) := by
  induction steps with
  | refl => exact ⟨coherent, guards⟩
  | tail _ step ih => exact ⟨step.coherent ih.1, guards_of_step step ih.1 ih.2⟩

/-- **Documents lie where they belong in every store that is reached from an empty one**, by
storing and removing documents and by batches of operations, in any order, whatever fails on the
way: a document of the container of a type carries the id of its place, which is not blank, and,
at the partition path of the type, a key whose text is that of the place. -/
theorem reachable_files {start session : Session Memory} (coherent : start.connection.Coherent)
    (empty : ∀ name, (start.moment.store.container name).documents = ∅)
    (steps : Relation.ReflTransGen (ClientStep Write.Guarded) start session) {typeName : String}
    {placement : Placement} (found : Catalog.find? typeName = some placement)
    {place : DocumentKey} {document : Json}
    (stored : (place, document) ∈
      (session.moment.store.container placement.container).documents) :
    placement.Files place document := by
  obtain ⟨-, guards⟩ :=
    guards_of_steps coherent (fun name => guards_of_empty (empty name)) steps
  exact guards placement.container typeName placement found rfl _ stored

theorem Write.creation_guarded (user : String) : (Write.creation user).Guarded := by
  have created : Batch.Operation.ofCreate "Goal" (Repository.goal user) (.ofText user) =
      .ok (.create ⟨"Goal", "g1", .ofText user⟩ (Repository.goal user).toJson) := by
    have writable : (Repository.goal user).checkWritable "Goal" = .ok () :=
      if_neg (show ¬Text.isBlankText "g1" = true by decide)
    rw [Batch.Operation.ofCreate, writable]
    rfl
  exact .batch _ (List.forall_mem_singleton.mpr (.create created)) (.ofText user)

/-- A goal that is created in a batch on a new connection. -/
theorem reachable_files_created :
    let session := (Write.creation "u1").perform {} Session.fresh
    Relation.ReflTransGen (ClientStep Write.Guarded) Session.fresh session ∧
      (⟨"u1", "g1"⟩, (Repository.goal "u1").toJson) ∈
        (session.moment.store.container "Goals").documents ∧
      Placement.Files ⟨"Goals", Catalog.byUser⟩ ⟨"u1", "g1"⟩ (Repository.goal "u1").toJson := by
  have steps : Relation.ReflTransGen (ClientStep Write.Guarded) Session.fresh
      ((Write.creation "u1").perform {} Session.fresh) :=
    .single (.write (Write.creation_guarded "u1") {})
  have documents : (((Write.creation "u1").perform {} Session.fresh).moment.store.container
      "Goals").documents = {(⟨"u1", "g1"⟩, (Repository.goal "u1").toJson)} := by
    rfl
  have stored : (⟨"u1", "g1"⟩, (Repository.goal "u1").toJson) ∈
      (((Write.creation "u1").perform {} Session.fresh).moment.store.container "Goals").documents :=
    documents ▸ List.mem_singleton_self _
  have placed : Catalog.find? "Goal" = some ⟨"Goals", Catalog.byUser⟩ := rfl
  exact ⟨steps, stored, reachable_files (fun _ mem => absurd mem List.not_mem_nil)
    (fun _ => rfl) steps placed stored⟩

end DocumentClient
