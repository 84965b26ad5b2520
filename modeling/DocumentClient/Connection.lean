import DocumentClient.Settings
import DocumentClient.Store

/-!
# DocumentClient.Connection

**The one owner of a store.** A connection prepares for calls of each container once and hands out
the same handle from then on; it checks that the store is there, keeps count of both, and at last
disposes of the store. Handles that were handed out outlive that.

* A `Connection` is plain data. What it does is a computation on a `Session`: the connection,
  where its store stands, and how many repositories were made over it. A computation that fails
  leaves the session in which it failed.
* Handles are numbered in the order in which they are made, so that one handle can be told from
  another one for the same container.
* A check of the store has an outcome even if it fails: failures of the store count as not being
  there, and so does an answer that takes too long. Only a failure that is not the store's is
  passed on, and it counts as a check all the same.
* Statistics are computed when they are asked for. A `RefreshTask` that computes them again and
  again runs beside all of this; it is told by the instant at which it started and its interval.
-/

namespace DocumentClient

open Store

/-- A container that was prepared for calls. -/
structure Handle where
  /-- The name of the container. -/
  container : String
  /-- How many handles the connection had made before. -/
  serial : Nat
  deriving DecidableEq, Repr, Inhabited

/-- A handle as diagnostics show it. -/
def Handle.display (handle : Handle) : String :=
  "ContainerHandle \x7b name: " ++ Text.quotedForDisplay handle.container ++ ", .. \x7d"

/-- What a check of the store found. -/
structure HealthCheck where
  /-- Was the store there? -/
  healthy : Bool
  /-- The message of what went wrong. -/
  error : Option String
  deriving DecidableEq, Repr, Inhabited

/-- A task that refreshes the statistics again and again. -/
structure RefreshTask where
  /-- The instant at which the task was started. -/
  startedAt : Nat
  /-- How long it waits each time. -/
  interval : Duration
  deriving DecidableEq, Repr, Inhabited

namespace RefreshTask

/-- How often the task has refreshed the statistics up to an instant. A task that does not wait
never gets to it. -/
def refreshesBy (task : RefreshTask) (instant : Nat) : Nat :=
  (Duration.ofMillis (instant - task.startedAt)).nanos / task.interval.timed.nanos

/-- Does the task refresh the statistics after one instant and not after another? -/
def refreshesWithin (task : RefreshTask) (earlier later : Nat) : Bool :=
  task.refreshesBy earlier < task.refreshesBy later

end RefreshTask

/-- A connection. -/
structure Connection where
  /-- The settings of the connection. -/
  settings : Settings
  /-- The handles that were handed out, by the names of their containers. -/
  handles : List (String × Handle) := []
  /-- How many handles were made. -/
  handlesMade : Nat := 0
  /-- How many containers there are handles for, as the statistics say. -/
  containerReferences : Nat := 0
  /-- How often the store was checked. -/
  healthChecks : Nat := 0
  /-- What the last check found. -/
  lastHealthCheck : Option HealthCheck := none
  /-- The task that refreshes the statistics. -/
  refreshTask : Option RefreshTask := none
  /-- Was the connection disposed of? -/
  disposed : Bool := false
  deriving Repr, Inhabited

/-- A connection in use: itself, where its store stands, and how many repositories were made
over it. -/
structure Session (σ : Type) where
  /-- The connection. -/
  connection : Connection
  /-- Where the store stands. -/
  moment : Moment σ
  /-- How many repositories were made. -/
  repositoriesMade : Nat := 0
  deriving Repr, Inhabited

namespace Session

variable {σ α : Type}

/-- Runs a computation against the store. -/
def atStore (action : Action (Moment σ) α) : Action (Session σ) α :=
  Action.within Session.moment (fun session moment => { session with moment }) action

/-- The settings of the connection. -/
def settings (session : Session σ) : Settings :=
  session.connection.settings

/-- Changes the connection. -/
def setConnection (session : Session σ) (connection : Connection) : Session σ :=
  { session with connection }

end Session

namespace Connection

variable {σ : Type}

/-- How often the statistics are refreshed unless told otherwise. -/
def refreshInterval : Duration := .ofSeconds 60

/-- A new connection; its settings must have nothing wrong with them. -/
def ofSettings (settings : Settings) : Except Failure Connection :=
  settings.check.map fun () => { settings }

/-- Starts to refresh the statistics, unless that goes on already or the connection was disposed
of. -/
def startRefresh (connection : Connection) (now : Nat) (interval : Duration) : Connection :=
  if connection.refreshTask.isSome || connection.disposed then connection
  else { connection with refreshTask := some ⟨now, interval⟩ }

/-- A new connection that refreshes its statistics. -/
def connect (settings : Settings) (now : Nat) : Except Failure Connection :=
  (ofSettings settings).map fun connection => connection.startRefresh now refreshInterval

/-! ## Handles -/

/-- The failure of a call for a container after the connection was disposed of. -/
def disposedFailure : Failure := .configuration ["connection disposed"]

/-- Adds a handle for a container, and counts the handles. -/
def addHandle (connection : Connection) (name : String) : Connection :=
  let handles := connection.handles ++ [(name, ⟨name, connection.handlesMade⟩)]
  { connection with
    handles
    handlesMade := connection.handlesMade + 1
    containerReferences := handles.length }

/-- The handle of a container, which is made when it is asked for first. -/
def container (store : Store σ) (name : String) : Action (Session σ) Handle :=
  fun session =>
    let connection := session.connection
    if connection.disposed then (.error disposedFailure, session)
    else
      match Keyed.find? name connection.handles with
      | some handle => (.ok handle, session)
      | none =>
        let moment := session.moment
        let opened :=
          store.openContainer connection.settings.databaseName name moment.now moment.store
        (.ok ⟨name, connection.handlesMade⟩,
          { session with
            connection := connection.addHandle name
            moment := { moment with store := opened } })

/-- The handle of the container of a document type. -/
def containerFor (store : Store σ) (typeName : String) : Action (Session σ) Handle := do
  let placement ← Action.ofExcept (Catalog.locate typeName)
  container store placement.container

/-! ## Checks of the store -/

/-- Keeps what a check found. -/
def recordHealth (connection : Connection) (check : HealthCheck) : Connection :=
  { connection with
    healthChecks := connection.healthChecks + 1
    lastHealthCheck := some check }

/-- What the answer of a check means: whether the store is there, or a failure that is not the
store's. -/
def healthOf (answer : Except Failure Unit) : Except Failure Bool :=
  match answer with
  | .ok () => .ok true
  | .error failure => if failure.isStoreFailure then .ok false else .error failure

/-- What is kept of the answer of a check. -/
def checkOf (answer : Except Failure Unit) : HealthCheck :=
  match answer with
  | .ok () => ⟨true, none⟩
  | .error failure => ⟨false, some failure.message⟩

/-- The failure of a check that took too long. -/
def checkTimedOut (timeout : Duration) : Failure :=
  .timeout ("health check exceeded " ++ timeout.text)

/-- Checks that the store is there. Failures of the store count as not being there, and so does
an answer that takes too long; any other failure is passed on. -/
def checkHealth (store : Store σ) (timeout : Duration) : Action (Session σ) Bool :=
  fun session =>
    let moment := session.moment
    let reply := store.readDatabase session.settings.databaseName moment.now moment.store
    let (answer, moment) := moment.await timeout.ticks reply
    let answer := answer.getD (.error (checkTimedOut timeout))
    (healthOf answer,
      { session with
        connection := session.connection.recordHealth (checkOf answer)
        moment })

/-! ## The end -/

/-- Disposes of the store, unless that was done already: handles are forgotten, and nothing is
refreshed any more. -/
def dispose (store : Store σ) (session : Session σ) : Session σ :=
  if session.connection.disposed then session
  else
    let moment := session.moment
    { session with
      connection :=
        { session.connection with
          disposed := true
          handles := []
          containerReferences := 0
          refreshTask := none }
      moment := { moment with store := store.dispose moment.now moment.store } }

/-! ## Statistics -/

/-- What a connection tells about itself. -/
structure Statistics where
  /-- The address of the store. -/
  endpoint : String
  /-- The name of the database. -/
  database : String
  /-- How the client reaches the store. -/
  mode : ConnectionMode
  /-- How many connections to one address are kept at most. -/
  maxConnections : Nat
  /-- How many containers there are handles for. -/
  containerReferences : Nat
  /-- How often the store was checked. -/
  healthChecks : Nat
  /-- What the last check found. -/
  lastHealthCheck : Option HealthCheck
  deriving DecidableEq, Repr, Inhabited

/-- What a connection tells about itself now. -/
def statistics (connection : Connection) : Statistics where
  endpoint := connection.settings.endpoint
  database := connection.settings.databaseName
  mode := connection.settings.mode
  maxConnections := connection.settings.maxConnections
  containerReferences := connection.containerReferences
  healthChecks := connection.healthChecks
  lastHealthCheck := connection.lastHealthCheck

end Connection

end DocumentClient
