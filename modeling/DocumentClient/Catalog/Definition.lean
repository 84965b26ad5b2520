import DocumentClient.Catalog
import DocumentClient.Json.Value

/-!
# DocumentClient.Catalog.Definition

**What a store is told when a container is created**: its name, its partitioning, how long its
documents live and which of their paths it indexes.

* `definitions` is made from the catalog: one definition for each container, at the first type
  that lives in it. So a container is not created twice, however many types share it.
* Conversations and analytics events expire, after ninety days and after a year; documents of all
  other containers stay. Bodies that nobody searches are left out of the index.
* A definition has a JSON form, which is read back by `ContainerDefinition.ofJson?`. A time to
  live may be missing in it and is a signed word of 32 bits; everything else is needed.
* That the path to the partition key is absolute is not part of a definition, but checked where
  containers are created (`hasAbsolutePath`).
-/

namespace DocumentClient

/-- The paths of its documents that a container indexes. -/
structure IndexingPolicy where
  /-- The paths that are indexed. -/
  included : List String := ["/*"]
  /-- The paths that are left out. -/
  excluded : List String := ["/\"_etag\"/?"]
  deriving DecidableEq, Repr

/-- The definition of a container. -/
structure ContainerDefinition where
  /-- The name of the container. -/
  name : String
  /-- The path at which its documents carry their partition key. -/
  partitionPath : String
  /-- How many seconds a document lives; without a number it never expires. -/
  timeToLive : Option Int := none
  /-- The indexed paths. -/
  indexing : IndexingPolicy := {}
  deriving DecidableEq, Repr

namespace ContainerDefinition

/-- The definition with a time to live. -/
def withTimeToLive (definition : ContainerDefinition) (seconds : Int) : ContainerDefinition :=
  { definition with timeToLive := some seconds }

/-- The definition with one more path left out of the index. -/
def exclude (definition : ContainerDefinition) (path : String) : ContainerDefinition :=
  { definition with
    indexing := { definition.indexing with
      excluded := definition.indexing.excluded ++ [path] } }

/-- Is the path to the partition key absolute? -/
def hasAbsolutePath (definition : ContainerDefinition) : Bool :=
  Text.startsWith '/' definition.partitionPath

/-! ## JSON form -/

/-- The JSON form of a definition; a missing time to live is left out. -/
def toJson (definition : ContainerDefinition) : Json :=
  let paths := fun (list : List String) => Json.arr (list.map Json.str)
  let lifetime := match definition.timeToLive with
    | some seconds => [("defaultTtlSeconds", Json.int seconds)]
    | none => []
  Json.object ([("name", .str definition.name),
    ("partitionKeyPath", .str definition.partitionPath),
    ("indexingPolicy", Json.object
      [("includedPaths", paths definition.indexing.included),
       ("excludedPaths", paths definition.indexing.excluded)])] ++ lifetime)

/-- Reads an indexing policy; both lists are needed. -/
def indexing? (component : Option Json) : Option IndexingPolicy := do
  match ← (← component).components? ["includedPaths", "excludedPaths"] with
  | [included, excluded] =>
    return { included := ← Json.texts? included, excluded := ← Json.texts? excluded }
  | _ => none

/-- Reads a definition; everything but the time to live is needed, and that is a signed word of
32 bits. -/
def ofJson? (value : Json) : Option ContainerDefinition := do
  let names := ["name", "partitionKeyPath", "defaultTtlSeconds", "indexingPolicy"]
  match ← value.components? names with
  | [name, path, lifetime, indexing] =>
    return {
      name := ← Json.text? name
      partitionPath := ← Json.text? path
      timeToLive := ← Json.optional? (Json.whole? Word.isSigned32) lifetime
      indexing := ← indexing? indexing }
  | _ => none

end ContainerDefinition

namespace Catalog

/-- How many seconds a conversation lives: ninety days. -/
def conversationLifetime : Int := 90 * 24 * 60 * 60

/-- How many seconds an analytics event lives: a year. -/
def analyticsLifetime : Int := 365 * 24 * 60 * 60

/-- The definition of the container of a placement. Conversations and analytics events expire,
and their bodies are not indexed. -/
def definition (placement : Placement) : ContainerDefinition :=
  let plain : ContainerDefinition :=
    { name := placement.container, partitionPath := placement.partitionPath }
  if placement.container = conversations then
    (plain.withTimeToLive conversationLifetime).exclude "/messages/*"
  else if placement.container = analytics then
    (plain.withTimeToLive analyticsLifetime).exclude "/payload/*"
  else plain

/-- Adds the definition of a placement, unless its container is defined already. -/
def addDefinition (definitions : List ContainerDefinition) (placement : Placement) :
    List ContainerDefinition :=
  if definitions.any fun d => d.name = placement.container then definitions
  else definitions ++ [definition placement]

/-- The definitions of all containers of the catalog, one for each. -/
def definitions : List ContainerDefinition :=
  (entries.map Prod.snd).foldl addDefinition []

end Catalog

end DocumentClient
