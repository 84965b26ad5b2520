import DocumentClient.Proofs.Batch.Execution
import DocumentClient.Proofs.Connection
import DocumentClient.Proofs.Repository.Answers

/-!
# DocumentClient.Proofs.Repository.Writes

**The operations that change documents, as data**, and what they preserve. A repository creates,
stores, changes and removes documents one by one, and a batch several at once; `Write` has a
constructor for each of them, so that what is true of all can be shown once.

* `Write.Preserves` asks of a property of containers only that the one call which a write may make
  preserves it, and it may use what the client checked before the call.
* `Write.perform_preserves` is the frame around that: whatever the policy repeats, whichever
  failures wait and whenever the request is cancelled, the property holds of every container
  afterwards. So invariants of containers are shown call by call, with no word about attempts.
* `ClientStep` is one step of whoever writes, or of anything around it that leaves documents
  alone: time passes, failures are prepared, documents are read, another connection takes over.
  `ClientStep.coherent` says that no step mixes up handles.
* The last part has a goal of a user and a batch that creates it. They are what invariants are
  tried on elsewhere.
-/

namespace DocumentClient

open Store Retry Memory.Container

/-- An operation that changes documents. -/
inductive Write where
  /-- Stores a document. -/
  | upsert (repository : Repository) (document : Document) (key : PartitionKey)
  /-- Removes the document of an id. -/
  | delete (repository : Repository) (id : String) (key : PartitionKey)
  /-- Changes the document of an id. -/
  | patch (repository : Repository) (id : String) (key : PartitionKey) (ops : List PatchOp)
  /-- Applies operations as a batch. -/
  | batch (unit : UnitOfWork) (operations : List Batch.Operation) (key : PartitionKey)

namespace Write

/-- The key of the partition that is written to. -/
def key : Write → PartitionKey
  | .upsert _ _ key | .delete _ _ key | .patch _ _ key _ | .batch _ _ key => key

/-- The session after a write, however it ended. -/
def perform (request : Request) : Write → Session Memory → Session Memory
  | .upsert repository document key, session =>
    (Session.atStore (repository.upsert Memory.store request document key) session).2
  | .delete repository id key, session =>
    (Session.atStore (repository.delete Memory.store request id key) session).2
  | .patch repository id key ops, session =>
    (Session.atStore (repository.patch Memory.store request id key ops) session).2
  | .batch unit operations key, session =>
    (unit.executeBatch Memory.store request operations key session).2

/-- The call that a write may make, once the client has checked it, preserves a property of
containers. -/
def Preserves (P : String → Memory.Container → Prop) : Write → Prop
  | .upsert repository document key =>
    repository.checkUpsert document key = .ok () →
      ∀ container, P repository.handle.container container →
        P repository.handle.container (upsertItem key document.toJson container).2
  | .delete repository id key =>
    ∀ container, P repository.handle.container container →
      P repository.handle.container (deleteItem repository.handle.container id key container).2
  | .patch repository id key ops =>
    ∀ container, P repository.handle.container container →
      P repository.handle.container (patchItem repository.handle.container id key ops container).2
  | .batch _ operations key =>
    ∀ placement, Batch.check operations key = .ok placement →
      ∀ container, P placement.container container →
        P placement.container (executeBatch key operations container).2

variable {P : String → Memory.Container → Prop} {request : Request} {session : Session Memory}

/-- A batch that is submitted preserves what its call preserves. -/
theorem batch_preserves {unit : UnitOfWork} {operations : List Batch.Operation}
    {key : PartitionKey} (preserves : (batch unit operations key).Preserves P)
    (coherent : session.connection.Coherent)
    (holds : ∀ name, P name (session.moment.store.container name)) (name : String) :
    P name (((batch unit operations key).perform request session).moment.store.container name) := by
  cases checked : Batch.check operations key with
  | error failure =>
      rw [perform, UnitOfWork.executeBatch_of_refused checked]
      exact holds name
  | ok placement =>
      cases live : session.connection.disposed with
      | true =>
          have closed : Connection.container Memory.store placement.container session =
              (.error Connection.disposedFailure, session) := if_pos live
          rw [perform, UnitOfWork.executeBatch_of_unopened checked closed]
          exact holds name
      | false =>
          obtain ⟨moment, begun, -, run⟩ :=
            unit.executeBatch_submitted request checked coherent live
          rw [perform, run]
          refine Policy.run_preserves (preserves placement checked) unit.batchPolicy "batch" request
            moment (fun other => ?_) name
          rw [begun]
          exact holds other

/-- **What the call of a write preserves, the write preserves.** -/
theorem perform_preserves (write : Write) (preserves : write.Preserves P)
    (coherent : session.connection.Coherent)
    (holds : ∀ name, P name (session.moment.store.container name)) (name : String) :
    P name ((write.perform request session).moment.store.container name) := by
  -- what is refused before it is sent does not reach the store; any other write is its one call
  cases write with
  | upsert repository document key =>
      cases checked : repository.checkUpsert document key with
      | error failure =>
          have unmoved : ((upsert repository document key).perform request session).moment =
              session.moment :=
            congrArg Prod.snd (Repository.upsert_of_refused checked)
          rw [unmoved]
          exact holds name
      | ok _ =>
          have called : ((upsert repository document key).perform request session).moment =
              (repository.call "upsert" request (fun container =>
                Memory.store.upsertItem container key document.toJson) session.moment).2 :=
            congrArg Prod.snd (Repository.upsert_of_checked checked rfl)
          rw [called]
          exact Policy.run_preserves (preserves checked) repository.policy "upsert" request
            session.moment holds name
  | delete repository id key =>
      have called : ((delete repository id key).perform request session).moment =
          (repository.call "delete" request (fun container =>
            Memory.store.deleteItem container id key) session.moment).2 :=
        congrArg Prod.snd (Repository.delete_of_run rfl)
      rw [called]
      exact Policy.run_preserves preserves repository.policy "delete" request session.moment holds
        name
  | patch repository id key ops =>
      cases checked : Patch.check ops with
      | error failure =>
          have unmoved : ((patch repository id key ops).perform request session).moment =
              session.moment :=
            congrArg Prod.snd (Repository.patch_of_refused checked)
          rw [unmoved]
          exact holds name
      | ok _ =>
          have called : ((patch repository id key ops).perform request session).moment =
              (repository.call "patch" request (fun container =>
                Memory.store.patchItem container id key ops) session.moment).2 :=
            congrArg Prod.snd (Repository.patch_of_checked checked rfl)
          rw [called]
          exact Policy.run_preserves preserves repository.policy "patch" request session.moment
            holds name
  | batch unit operations key => exact batch_preserves preserves coherent holds name

/-- Writes keep the handles of the connection coherent. -/
theorem perform_coherent (write : Write) (coherent : session.connection.Coherent) :
    (write.perform request session).connection.Coherent := by
  cases write with
  | upsert repository document key => exact coherent
  | delete repository id key => exact coherent
  | patch repository id key ops => exact coherent
  | batch unit operations key =>
      cases checked : Batch.check operations key with
      | error failure =>
          rw [perform, UnitOfWork.executeBatch_of_refused checked]
          exact coherent
      | ok placement =>
          have opened := coherent.container Memory.store placement.container
          generalize opening : Connection.container Memory.store placement.container session = ended
            at opened
          obtain ⟨outcome, session'⟩ := ended
          cases outcome with
          | error failure =>
              rw [perform, UnitOfWork.executeBatch_of_unopened checked opening]
              exact opened
          | ok handle =>
              rw [perform, UnitOfWork.executeBatch_of_opened checked opening rfl]
              exact opened

end Write

/-! ### Steps of a client -/

/-- One step of a client of a store in memory, which makes only the writes that are allowed. -/
inductive ClientStep (allowed : Write → Prop) : Session Memory → Session Memory → Prop
  /-- A write, which may meet failures and be cancelled, and ends however it ends. -/
  | write {session : Session Memory} {write : Write} (may : allowed write)
      (request : Retry.Request) : ClientStep allowed session (write.perform request session)
  /-- Anything that leaves documents alone: time passes, failures are prepared, containers are
  opened, documents are read, another connection takes over. -/
  | around {session session' : Session Memory} (coherent : session'.connection.Coherent)
      (same : ∀ name, (session'.moment.store.container name).documents =
        (session.moment.store.container name).documents) : ClientStep allowed session session'

theorem ClientStep.coherent {allowed : Write → Prop} {session session' : Session Memory}
    (step : ClientStep allowed session session') (coherent : session.connection.Coherent) :
    session'.connection.Coherent := by
  cases step with
  | @write write may request => exact write.perform_coherent coherent
  | around coherent' _ => exact coherent'

/-! ### A first write -/

/-- A goal of a user. -/
def Repository.goal (user : String) : Document :=
  ⟨[("id", .str "g1"), ("userId", .str user)], "g1", rfl⟩

/-- A store with the goal of a user. -/
def Memory.withGoal (user : String) : Memory :=
  Memory.setContainer {} "Goals"
    { documents := {(Memory.documentKey (.ofText user) "g1", (Repository.goal user).toJson)} }

/-- A connection to that store. -/
def Session.withGoal (user : String) : Session Memory :=
  ⟨{ settings := {} }, ⟨0, .withGoal user, []⟩, 0⟩

/-- A batch that creates the goal of a user. -/
def Write.creation (user : String) : Write :=
  .batch { batchPolicy := .forBatches 3 (.ofSeconds 30) }
    [.create ⟨"Goal", "g1", .ofText user⟩ (Repository.goal user).toJson] (.ofText user)

/-- A new connection to an empty store. -/
def Session.fresh : Session Memory :=
  ⟨{ settings := {} }, ⟨0, {}, []⟩, 0⟩

end DocumentClient
