import DocumentClient.Connection
import DocumentClient.Proofs.Keyed
import DocumentClient.Proofs.Store.Serving
import DocumentClient.Repository
import DocumentClient.Store.Memory

/-!
# DocumentClient.Proofs.Connection

**How handles and repositories are come by.** A connection hands out one handle for each container,
and a repository is opened over the handle of the container of its type.

* `Opens` lists the ways to come by a handle, and `container_opens` says that there are no others.
  What is shown of a connection that was asked for a handle goes by these cases, and does not open
  the definition again.
* `Coherent` is the invariant of the handles: each is kept under the name of its container. It holds
  of a new connection and of whatever becomes of it.
* `Repository.Mapped` is what is known of a repository that was opened over such a connection: its
  type is in the catalog, its handle is that of the container of the type, and its policy is one of
  those of the client. What is said of repositories elsewhere is said of these.
-/

namespace DocumentClient

open Store

namespace Connection

variable {σ : Type}

/-! ### Coming by a handle -/

/-- How the handle of a container is come by. -/
inductive Opens (store : Store σ) (name : String) (session : Session σ) :
    Except Failure Handle × Session σ → Prop
  /-- The connection was disposed of. -/
  | refused (h : session.connection.disposed = true) :
      Opens store name session (.error disposedFailure, session)
  /-- The handle was made before. -/
  | known {handle : Handle} (live : session.connection.disposed = false)
      (h : Keyed.find? name session.connection.handles = some handle) :
      Opens store name session (.ok handle, session)
  /-- The handle is made, and the store prepares for calls of the container. -/
  | made (live : session.connection.disposed = false)
      (h : Keyed.find? name session.connection.handles = none) :
      Opens store name session
        (.ok ⟨name, session.connection.handlesMade⟩,
          { session with
            connection := session.connection.addHandle name
            moment := { session.moment with
              store := store.openContainer session.connection.settings.databaseName name
                session.moment.now session.moment.store } })

/-- There is no other way to come by a handle. -/
theorem container_opens (store : Store σ) (name : String) (session : Session σ) :
    Opens store name session (Connection.container store name session) := by
  unfold Connection.container
  dsimp only
  split
  · exact .refused ‹_›
  · rename_i live
    split
    · exact .known (by simpa using live) ‹_›
    · exact .made (by simpa using live) ‹_›

/-- What no opening changes is the same once there is a handle. -/
theorem container_reads {α : Type} {store : Store σ} {read : σ → α}
    (opened : ∀ database container now state,
      read (store.openContainer database container now state) = read state)
    (name : String) (session : Session σ) :
    read (Connection.container store name session).2.moment.store =
      read session.moment.store := by
  have opens := container_opens store name session
  generalize Connection.container store name session = ended at opens
  cases opens with
  | refused => rfl
  | known => rfl
  | made => exact opened _ _ _ _

/-! ### The handles of a connection -/

/-- Every handle is kept under the name of its container. -/
def Coherent (connection : Connection) : Prop :=
  ∀ entry ∈ connection.handles, entry.2.container = entry.1

theorem Coherent.container_eq {connection : Connection} (coherent : connection.Coherent)
    {name : String} {handle : Handle}
    (h : Keyed.find? name connection.handles = some handle) : handle.container = name :=
  coherent (name, handle) (Keyed.mem_of_find? h)

theorem coherent_ofSettings {settings : Settings} {connection : Connection}
    (h : ofSettings settings = .ok connection) : connection.Coherent := by
  unfold ofSettings at h
  cases check : settings.check with
  | error failure => simp [check, Except.map] at h
  | ok _ =>
      simp only [check, Except.map, Except.ok.injEq] at h
      subst h
      intro entry mem
      exact absurd mem List.not_mem_nil

theorem Coherent.addHandle {connection : Connection} (coherent : connection.Coherent)
    (name : String) : (connection.addHandle name).Coherent := by
  intro entry mem
  rcases List.mem_append.mp mem with mem | mem
  · exact coherent entry mem
  · obtain rfl := List.mem_singleton.mp mem
    rfl

theorem Coherent.container {session : Session σ} (coherent : session.connection.Coherent)
    (store : Store σ) (name : String) :
    (Connection.container store name session).2.connection.Coherent := by
  have opens := container_opens store name session
  generalize Connection.container store name session = opened at opens ⊢
  cases opens with
  | refused _ => exact coherent
  | known _ _ => exact coherent
  | made _ _ => exact coherent.addHandle name

theorem Coherent.dispose {session : Session σ} (coherent : session.connection.Coherent)
    (store : Store σ) : (Connection.dispose store session).connection.Coherent := by
  unfold Connection.dispose
  split
  · exact coherent
  · intro entry mem
    exact absurd mem List.not_mem_nil

/-! ### Handles of containers in memory -/

/-- A connection in use comes by a handle of a container in memory, and no container changes. -/
theorem Coherent.container_memory {session : Session Memory}
    (coherent : session.connection.Coherent) (live : session.connection.disposed = false)
    (name : String) :
    ∃ handle session', Connection.container Memory.store name session = (.ok handle, session') ∧
      handle.container = name ∧ session'.moment.now = session.moment.now ∧
      session'.moment.store.container = session.moment.store.container := by
  have opens := container_opens Memory.store name session
  generalize Connection.container Memory.store name session = opened at opens
  cases opens with
  | refused disposed => simp [live] at disposed
  | known _ found =>
      exact ⟨_, _, rfl, coherent.container_eq found, rfl, rfl⟩
  | made _ _ =>
      refine ⟨_, _, rfl, rfl, rfl, ?_⟩
      funext other
      by_cases h : other = name
      · subst h
        exact Memory.container_setContainer_self _ _ _
      · exact Memory.container_setContainer_of_ne h _ _

end Connection

/-! ### Repositories over a connection -/

namespace Repository

open Retry

/-- A repository of a document type of the catalog. -/
structure Mapped (repository : Repository) : Prop where
  /-- The type is in the catalog. -/
  placed : Catalog.find? repository.typeName = some repository.placement
  /-- The handle is that of the container of the type. -/
  handle : repository.handle.container = repository.placement.container
  /-- The policy is one for points, or one for batches. -/
  usual : repository.policy.Usual

theorem locate_eq_ok {typeName : String} {placement : Placement}
    (h : Catalog.locate typeName = .ok placement) :
    Catalog.find? typeName = some placement := by
  unfold Catalog.locate Catalog.placement at h
  cases found : Catalog.find? typeName with
  | none =>
      rw [found] at h
      cases h
  | some placed =>
      rw [found] at h
      cases h
      rfl

/-- Whatever repository is opened over a connection is one of the catalog. -/
theorem mapped_of_openWith {store : Store Memory} {typeName : String} {policy : Policy}
    {session session' : Session Memory} {repository : Repository}
    (coherent : session.connection.Coherent) (usual : policy.Usual)
    (h : openWith store typeName policy session = (.ok repository, session')) :
    repository.Mapped := by
  obtain ⟨placement, session₁, located, opened⟩ :=
    Action.exists_of_bind_eq_ok (congrArg Prod.fst h)
  obtain ⟨found, rfl⟩ := Prod.mk.inj located
  obtain ⟨handle, session₂, opening, made⟩ := Action.exists_of_bind_eq_ok opened
  cases made
  have opens := Connection.container_opens store placement.container session
  rw [opening] at opens
  cases opens with
  | known live known => exact ⟨locate_eq_ok found, coherent.container_eq known, usual⟩
  | made live unknown => exact ⟨locate_eq_ok found, rfl, usual⟩

/-- A repository of goals. -/
def goals : Repository where
  typeName := "Goal"
  placement := ⟨"Goals", Catalog.byUser⟩
  handle := ⟨"Goals", 0⟩
  policy := .forPoints 3 (.ofSeconds 30)
  pageSize := 50
  serial := 0

theorem goals_mapped : goals.Mapped :=
  ⟨rfl, rfl, .inl rfl⟩

end Repository

end DocumentClient
