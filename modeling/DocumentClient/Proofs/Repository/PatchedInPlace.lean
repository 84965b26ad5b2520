import DocumentClient.Proofs.Batch.Atomicity
import DocumentClient.Proofs.Patch
import DocumentClient.Proofs.Repository.Guarded

/-!
# DocumentClient.Proofs.Repository.PatchedInPlace

**A patch that spares the id and the partition key does not move its document.** Neither a
repository nor a batch looks at what a patch would make of a document, so a patch may well change
the id or the key that the document is stored under (`patched_out_of_place`). One that changes
neither field, nor anything inside of them, leaves the document where it belongs, whatever becomes
of the call.

* `Placement.Placed` is what is true of a document in its place, and `KeepsPlace` says it of what
  is stored there; the place may also be empty, if the document may be removed.
* `PatchOp.Spares` asks of an operation that it touches neither field; `Operation.SparesPlace` and
  `Write.SparesPlace` ask it of batches and of writes. A batch may also store a document, which
  then has to have the id.

## Proof shape

* The frame lemma of patches carries the result: `Placement.Placed.applyAll` is what follows from
  it for one document, however far the patch could be applied.
* `keepsPlace_patchItem` and `keepsPlace_executeBatch` say it of one call; the batch goes by
  induction over its operations, with `keepsPlace_actOn` as the step.
* `Write.SparesPlace.preserves` says it of a write with any failures and repetitions, and
  `patched_in_place` of the session that the write leads to.
-/

namespace DocumentClient

open Store Memory.Container

/-! ### Documents under an id and a key -/

/-- A document has an id, and carries a key at the partition path of a placement. -/
structure Placement.Placed (placement : Placement) (id : String) (key : PartitionKey)
    (document : Json) : Prop where
  named : document.field? "id" = some (.str id)
  carried : key.isCarriedBy document placement = true

/-- An operation of a patch spares the id and the partition key of a document: it changes neither,
and nothing inside of them. -/
def PatchOp.Spares (placement : Placement) (op : PatchOp) : Prop :=
  op.field? ≠ some "id" ∧ ∀ first ∈ placement.segments.head?, op.field? ≠ some first

theorem Catalog.segments_ne_nil {typeName : String} {placement : Placement}
    (found : Catalog.find? typeName = some placement) : placement.segments ≠ [] := by
  obtain ⟨before, _, all, _⟩ := List.lookup_eq_some_iff.mp found
  have leads : ∀ entry ∈ entries, entry.2.segments ≠ [] := by decide
  exact leads (typeName, placement) (all ▸ List.mem_append_right before List.mem_cons_self)

section
variable {placement : Placement} {id : String} {key : PartitionKey}

/-- **A patch that spares the id and the key keeps both**, however far it could be applied. -/
theorem Placement.Placed.applyAll {document : Json} (placed : placement.Placed id key document)
    (leads : placement.segments ≠ []) {ops : List PatchOp}
    (spares : ∀ op ∈ ops, op.Spares placement) :
    placement.Placed id key (Patch.applyAll ops document).1 := by
  obtain ⟨named, carried⟩ := placed
  cases document with
  | obj fields =>
      obtain ⟨fields', reached, same⟩ := Patch.find?_of_applyAll ops fields
      rw [reached]
      constructor
      case named => exact (same "id" fun op mem => (spares op mem).1).trans named
      case carried =>
        unfold PartitionKey.isCarriedBy at carried ⊢
        cases segments : placement.segments with
        | nil => exact absurd segments leads
        | cons first rest =>
            have kept : Keyed.find? first fields' = Keyed.find? first fields :=
              same first fun op mem => (spares op mem).2 first (by rw [segments]; rfl)
            rw [segments] at carried
            simp only [Json.descend, Json.field?, kept] at carried ⊢
            exact carried
  | _ => cases named

/-- What is stored in a place is placed there; or nothing is, if it may be removed. -/
def KeepsPlace (placement : Placement) (id : String) (key : PartitionKey) (removed : Prop)
    (stored : Option Json) : Prop :=
  (∃ document, stored = some document ∧ placement.Placed id key document) ∨
    (removed ∧ stored = none)

/-! ### One call -/

variable {removed : Prop} {container : Memory.Container}

/-- A call keeps a place if its answer does: one that takes a failure which waits leaves documents
alone. -/
theorem keepsPlace_served {α : Type} {answer : Step α}
    (keeps : KeepsPlace placement id key removed
      (container.documents.find? (Memory.documentKey key id)))
    (answered : KeepsPlace placement id key removed
      ((answer { container with calls := container.calls + 1 }).2.documents.find?
        (Memory.documentKey key id))) :
    KeepsPlace placement id key removed
      ((served answer container).2.documents.find? (Memory.documentKey key id)) := by
  cases waiting : container.failures with
  | nil =>
      simp only [served, waiting]
      exact waiting ▸ answered
  | cons failure failures =>
      simp only [served, waiting]
      exact keeps

/-- The call of a patch keeps the place of the document that it changes. -/
theorem keepsPlace_patchItem {name : String} {ops : List PatchOp}
    (leads : placement.segments ≠ []) (spares : ∀ op ∈ ops, op.Spares placement)
    (keeps : KeepsPlace placement id key removed
      (container.documents.find? (Memory.documentKey key id))) :
    KeepsPlace placement id key removed
      ((patchItem name id key ops container).2.documents.find? (Memory.documentKey key id))
      := by
  refine keepsPlace_served keeps ?_
  dsimp only
  rcases keeps with ⟨document, found, placed⟩ | ⟨gone, missing⟩
  · -- also a patch that is refused midway leaves the place as it must be
    have patched := placed.applyAll leads spares
    simp only [found]
    rcases applied : Patch.applyAll ops document with ⟨changed, error⟩
    rw [applied] at patched
    cases error with
    | none => exact .inl ⟨changed, Keyed.find?_insert_self _ _ _, patched⟩
    | some error => exact .inl ⟨changed, Keyed.find?_insert_self _ _ _, patched⟩
  · simp only [missing]
    exact .inr ⟨gone, rfl⟩

end

namespace Batch

/-- An operation of a batch spares the place of an id: what it stores there has the id, and a patch
there spares the id and the partition key. -/
def Operation.SparesPlace (placement : Placement) (id : String) : Operation → Prop
  | .create target document | .replace target document =>
    target.id = id → document.field? "id" = some (.str id)
  | .delete _ => True
  | .patch target ops => target.id = id → ∀ op ∈ ops, op.Spares placement

/-- Does a list of operations remove the document of an id? -/
def Removes (operations : List Operation) (id : String) : Prop :=
  ∃ target, .delete target ∈ operations ∧ target.id = id

end Batch

section
variable {placement : Placement} {id : String} {key : PartitionKey} {removed : Prop}

/-- One operation of a batch keeps the place of an id. -/
theorem keepsPlace_actOn {operation : Batch.Operation} (leads : placement.segments ≠ [])
    (spares : operation.SparesPlace placement id) (here : operation.target.id = id)
    (carried : ∀ document, operation.document? = some document →
      key.isCarriedBy document placement = true)
    (may : ∀ target, operation = .delete target → removed) {stored after : Option Json}
    (keeps : KeepsPlace placement id key removed stored)
    (h : operation.actOn stored = .ok after) : KeepsPlace placement id key removed after := by
  cases operation with
  | create target document =>
      cases stored with
      | some stored => cases h
      | none =>
          cases h
          exact .inl ⟨document, rfl, spares here, carried document rfl⟩
  | replace target document =>
      cases stored with
      | none => cases h
      | some stored =>
          cases h
          exact .inl ⟨document, rfl, spares here, carried document rfl⟩
  | delete target =>
      cases stored with
      | none => cases h
      | some stored =>
          cases h
          exact .inr ⟨may target rfl, rfl⟩
  | patch target ops =>
      rcases keeps with ⟨document, rfl, placed⟩ | ⟨gone, rfl⟩
      · have patched := placed.applyAll leads (spares here)
        simp only [Batch.Operation.actOn] at h
        rcases applied : Patch.applyAll ops document with ⟨changed, _ | error⟩
        · rw [applied] at patched
          simp only [applied] at h
          cases h
          exact .inl ⟨changed, rfl, patched⟩
        · cases error <;> simp [applied] at h
      · cases h

/-- So do several, one after the other. -/
theorem keepsPlace_inOrder {operations : List Batch.Operation} (leads : placement.segments ≠ [])
    (spares : ∀ operation ∈ operations, operation.SparesPlace placement id)
    (carried : ∀ operation ∈ operations, ∀ document, operation.document? = some document →
      key.isCarriedBy document placement = true)
    (may : Batch.Removes operations id → removed) {contents after : Contents}
    (keeps : KeepsPlace placement id key removed (contents id))
    (h : Batch.inOrder operations contents = .ok after) :
    KeepsPlace placement id key removed (after id) := by
  induction operations generalizing contents with
  | nil =>
      cases h
      exact keeps
  | cons operation operations ih =>
      obtain ⟨document, acted, rest⟩ := Batch.inOrder_cons_ok h
      refine ih (fun other mem => spares other (List.mem_cons_of_mem operation mem))
        (fun other mem => carried other (List.mem_cons_of_mem operation mem))
        (fun removes => may (removes.imp fun _ => And.imp_left (List.mem_cons_of_mem operation)))
        ?_ rest
      -- an operation on another id leaves this place alone
      by_cases here : operation.target.id = id
      · rw [here, Function.update_self]
        rw [here] at acted
        refine keepsPlace_actOn leads (spares operation List.mem_cons_self) here
          (carried operation List.mem_cons_self) (fun target deletes => may ?_) keeps acted
        subst deletes
        exact ⟨target, List.mem_cons_self, here⟩
      · rwa [Function.update_of_ne (Ne.symm here)]

/-- The call of a batch keeps the place of an id. -/
theorem keepsPlace_executeBatch {operations : List Batch.Operation}
    {container : Memory.Container} (leads : placement.segments ≠ [])
    (spares : ∀ operation ∈ operations, operation.SparesPlace placement id)
    (carried : ∀ operation ∈ operations, ∀ document, operation.document? = some document →
      key.isCarriedBy document placement = true)
    (may : Batch.Removes operations id → removed)
    (keeps : KeepsPlace placement id key removed
      (container.documents.find? (Memory.documentKey key id))) :
    KeepsPlace placement id key removed
      ((Memory.Container.executeBatch key operations container).2.documents.find?
        (Memory.documentKey key id)) := by
  cases waiting : container.failures with
  | cons failure failures =>
      simp only [Memory.Container.executeBatch, served, waiting]
      exact keeps
  | nil =>
      have atomic := Memory.Container.executeBatch_atomic key operations waiting
      unfold AllOrNothing at atomic
      cases order : Batch.inOrder operations (container.documents.contents key) with
      | ok contents =>
          rw [order] at atomic
          have kept := keepsPlace_inOrder leads spares carried may keeps order
          rw [← atomic.2.inside] at kept
          exact kept
      | error refused =>
          obtain ⟨index, refusal⟩ := refused
          -- a batch that is refused, for whatever reason, leaves all documents as they were
          have same : (Memory.Container.executeBatch key operations container).2.documents =
              container.documents := by
            rw [order] at atomic
            cases refusal <;> exact atomic.2
          rw [same]
          exact keeps

end

/-! ### Any write -/

namespace Write

/-- A patch of the document of an id and a key, or a batch with the key that may patch it: neither
touches the id and the partition key of the document. -/
inductive SparesPlace (placement : Placement) (id : String) (key : PartitionKey) : Write → Prop
  | patch (repository : Repository) {ops : List PatchOp}
      (spares : ∀ op ∈ ops, op.Spares placement) :
      SparesPlace placement id key (.patch repository id key ops)
  | batch (unit : UnitOfWork) {operations : List Batch.Operation}
      (spares : ∀ operation ∈ operations, operation.SparesPlace placement id) :
      SparesPlace placement id key (.batch unit operations key)

/-- Does a write remove the document of an id? -/
def Removes (write : Write) (id : String) : Prop :=
  match write with
  | .batch _ operations _ => Batch.Removes operations id
  | _ => False

variable {typeName : String} {placement : Placement} {id : String} {key : PartitionKey}

/-- The call of such a write keeps the place of the document. -/
theorem SparesPlace.preserves {write : Write} (spares : write.SparesPlace placement id key)
    (found : Catalog.find? typeName = some placement) :
    write.Preserves fun name container =>
      name = placement.container → KeepsPlace placement id key (write.Removes id)
        (container.documents.find? (Memory.documentKey key id)) := by
  have leads := Catalog.segments_ne_nil found
  cases spares with
  | patch repository spares =>
      intro container keeps here
      exact keepsPlace_patchItem leads spares (keeps here)
  | batch unit spares =>
      intro placement' checked container keeps here
      obtain ⟨⟨typeName', found'⟩, -, -, passes⟩ := Batch.check_eq_ok_iff.mp checked
      -- a batch for the container of the type has the placement of the type
      obtain rfl := Catalog.placement_unique found' found here
      refine keepsPlace_executeBatch leads spares (fun operation mem document stores => ?_)
        (fun removes => removes) (keeps rfl)
      exact Placement.isCarriedBy_iff.mpr ((passes operation mem).body document stores)

end Write

/-- **Patches that spare the id and the partition key leave a document in its place.** A document of
a type of the catalog has the id and carries the key that it is stored under. After a patch of it,
or after a batch with that key, the document that is stored there still does, whether the call was
answered, failed, was repeated or cancelled; only a batch that removes it may leave none. -/
theorem patched_in_place {typeName : String} {placement : Placement}
    (found : Catalog.find? typeName = some placement) {id : String} {key : PartitionKey}
    {write : Write} (spares : write.SparesPlace placement id key) (request : Retry.Request)
    {session : Session Memory} (coherent : session.connection.Coherent) {document : Json}
    (stored : (session.moment.store.container placement.container).documents.find?
      (Memory.documentKey key id) = some document)
    (placed : placement.Placed id key document) :
    let after := (write.perform request session).moment.store.container placement.container
    let stored' := after.documents.find? (Memory.documentKey key id)
    (∃ document', stored' = some document' ∧ placement.Placed id key document') ∨
      (write.Removes id ∧ stored' = none) := by
  refine write.perform_preserves (spares.preserves found) coherent (fun name here => ?_)
    placement.container rfl
  subst here
  exact .inl ⟨document, stored, placed⟩

theorem Repository.goal_placed :
    Placement.Placed ⟨"Goals", Catalog.byUser⟩ "g1" (.ofText "u1") (Repository.goal "u1").toJson :=
  ⟨rfl, by decide⟩

/-- Operations on a goal that spare its id and its user. -/
def entitle : List PatchOp :=
  [.set "/title" (.str "rest"), .increment "/progress" (.int 1), .remove "/due/userId"]

theorem entitle_spares : ∀ op ∈ entitle, op.Spares ⟨"Goals", Catalog.byUser⟩ := by
  have fields : entitle.map PatchOp.field? = [some "title", some "progress", some "due"] := by
    decide
  have segments : Placement.segments ⟨"Goals", Catalog.byUser⟩ = ["userId"] := by decide
  intro op mem
  have field : op.field? ∈ entitle.map PatchOp.field? := List.mem_map_of_mem mem
  rw [fields] at field
  rw [PatchOp.Spares, segments]
  constructor
  case left =>
    intro named
    rw [named] at field
    revert field
    decide
  case right =>
    rintro first ⟨⟩ named
    rw [named] at field
    revert field
    decide

/-- A batch that changes a goal, between operations on another one. -/
def entitling : Write :=
  .batch { batchPolicy := .forBatches 3 (.ofSeconds 30) }
    [.create ⟨"Goal", "g2", .ofText "u1"⟩ (.obj [("id", .str "g2"), ("userId", .str "u1")]),
      .patch ⟨"Goal", "g1", .ofText "u1"⟩ entitle, .delete ⟨"Goal", "g2", .ofText "u1"⟩]
    (.ofText "u1")

theorem entitling_spares :
    entitling.SparesPlace ⟨"Goals", Catalog.byUser⟩ "g1" (.ofText "u1") := by
  refine .batch _ fun operation mem => ?_
  simp only [List.mem_cons, List.not_mem_nil, or_false] at mem
  rcases mem with rfl | rfl | rfl
  · intro other
    exact absurd other (by decide)
  · exact fun _ => entitle_spares
  · trivial

/-- A goal that is changed by itself, and one that is changed in a batch, stay in their places. -/
theorem patched_in_place_entitled :
    ∃ document, ((Session.withGoal "u1").moment.store.container "Goals").documents.find?
        (Memory.documentKey (.ofText "u1") "g1") = some document ∧
      Placement.Placed ⟨"Goals", Catalog.byUser⟩ "g1" (.ofText "u1") document ∧
      ∀ write : Write,
        write = .patch Repository.goals "g1" (.ofText "u1") entitle ∨ write = entitling →
          let after := (write.perform {} (.withGoal "u1")).moment.store.container "Goals"
          let stored := after.documents.find? (Memory.documentKey (.ofText "u1") "g1")
          (∃ document', stored = some document' ∧
              Placement.Placed ⟨"Goals", Catalog.byUser⟩ "g1" (.ofText "u1") document') ∨
            (write.Removes "g1" ∧ stored = none) := by
  have found : Catalog.find? "Goal" = some ⟨"Goals", Catalog.byUser⟩ := rfl
  have coherent : (Session.withGoal "u1").connection.Coherent :=
    fun _ mem => absurd mem List.not_mem_nil
  refine ⟨(Repository.goal "u1").toJson, rfl, Repository.goal_placed, ?_⟩
  rintro write (rfl | rfl)
  · exact patched_in_place found (.patch Repository.goals entitle_spares) {} coherent rfl
      Repository.goal_placed
  · exact patched_in_place found entitling_spares {} coherent rfl Repository.goal_placed

/-- A patch of the user of a goal is accepted, and leaves the goal with the key of another user in
its old place. -/
theorem patched_out_of_place :
    ∃ document later stored,
      Repository.goals.patch Memory.store {} "g1" (.ofText "u1") [.set "/userId" (.str "u2")]
          ⟨0, .withGoal "u1", []⟩ = (.ok document, later) ∧
        (later.store.container "Goals").documents.find?
          (Memory.documentKey (.ofText "u1") "g1") = some stored ∧
        ¬Placement.Placed ⟨"Goals", Catalog.byUser⟩ "g1" (.ofText "u1") stored := by
  refine ⟨_, _, .obj [("id", .str "g1"), ("userId", .str "u2")], rfl, rfl, fun placed => ?_⟩
  have carried := placed.carried
  revert carried
  decide

end DocumentClient
