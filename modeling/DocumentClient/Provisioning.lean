import DocumentClient.Connection

/-!
# DocumentClient.Provisioning

**Setting up a database and its containers.** Nothing that is there already is touched, so setting
up twice is the same as once.

* Definitions are checked before anything is created: a path to a partition key that is not
  absolute fails the whole call (`checkDefinitions`), and the first one is reported.
* Containers are created one after the other. What is returned are the names of those that were
  missing, in the order of the definitions; if the store fails midway, the containers before that
  stay, and a repetition goes on from there.
* `provision` does it for the catalog: the database first, then one container for each definition
  of `Catalog.definitions`.
-/

namespace DocumentClient.Provisioning

open Store

variable {σ : Type}

/-- Creates the database of the connection if it is missing; tells whether it was. -/
def ensureDatabase (store : Store σ) : Action (Session σ) Bool := do
  let settings ← Action.read Session.settings
  Session.atStore (store.createDatabase settings.databaseName settings.autoscale).action

/-- Paths to partition keys are absolute. -/
def checkDefinitions (definitions : List ContainerDefinition) : Except Failure Unit :=
  match definitions.find? fun definition => !definition.hasAbsolutePath with
  | some definition => .error (ModelError.partitionPath definition.partitionPath).toFailure
  | none => .ok ()

/-- Creates containers one after the other; returns the names of those that were missing. -/
def createContainers (store : Store σ) (database : String) :
    List ContainerDefinition → Action (Moment σ) (List String)
  | [] => Action.succeed []
  | definition :: definitions => do
    let wasMissing ← (store.createContainer database definition).action
    let names ← createContainers store database definitions
    return if wasMissing then definition.name :: names else names

/-- Creates the containers that are missing; returns their names. Nothing is created if one of
the definitions is refused. -/
def ensureContainers (store : Store σ) (definitions : List ContainerDefinition) :
    Action (Session σ) (List String) := do
  Action.ofExcept (checkDefinitions definitions)
  let settings ← Action.read Session.settings
  Session.atStore (createContainers store settings.databaseName definitions)

/-- Creates the database and the containers of the catalog; returns the names of the containers
that were missing. -/
def provision (store : Store σ) : Action (Session σ) (List String) := do
  let _ ← ensureDatabase store
  ensureContainers store Catalog.definitions

end DocumentClient.Provisioning
