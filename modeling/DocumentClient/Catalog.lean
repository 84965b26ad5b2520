import DocumentClient.Failure
import DocumentClient.Text.Split

/-!
# DocumentClient.Catalog

**Where documents of each type live.** The catalog is one table from type names to placements: a
container, and the path at which its documents carry their partition key. Repositories, batches and
the definitions of containers all read this table, so they cannot disagree.

* Every type has a container of its own, but nothing depends on that: what is about a container
  takes the name from the placement, and types with one name would share it.
* `Placement.segments` are the field names along a path, of which the empty ones do not count.
  There are two paths only: documents are filed by their user, and users by their own id.
* A type that is not in the table has no placement. That is a mistake in the configuration of the
  client, and reported as one; what is wrong with a document is input (`ModelError.toFailure`).
-/

namespace DocumentClient

/-- Why the model of documents refuses something. -/
inductive ModelError where
  /-- No container is set aside for documents of this type. -/
  | unmappedType (typeName : String)
  /-- The path to a partition key is not absolute. -/
  | partitionPath (path : String)
  /-- The document cannot be stored, for this reason. -/
  | document (reason : String)
  deriving DecidableEq, Repr

namespace ModelError

/-- The wording of a model error. -/
def message : ModelError → String
  | .unmappedType typeName => "Document type '" ++ typeName ++ "' has no container mapping"
  | .partitionPath path => "Invalid partition key path '" ++ path ++ "'"
  | .document reason => "Invalid document: " ++ reason

/-- A model error as a failure of the client: the catalog and the paths are configuration, a
document is input. -/
def toFailure : ModelError → Failure
  | .document reason => .validation reason
  | error => .configuration [error.message]

end ModelError

/-- Where documents of one type are stored. -/
structure Placement where
  /-- The name of the container. -/
  container : String
  /-- The path at which documents of the container carry their partition key. -/
  partitionPath : String
  deriving DecidableEq, Repr

/-- The field names along the path to the partition key; empty ones do not count. -/
def Placement.segments (placement : Placement) : List String :=
  ((Text.splitAt '/' placement.partitionPath.toList).filter fun s => !s.isEmpty).map String.ofList

namespace Catalog

/-- Partitioning by the id of the document itself. -/
def byId : String := "/id"

/-- Partitioning by the id of the user that the document belongs to. -/
def byUser : String := "/userId"

/-- The name of the container of conversations. -/
def conversations : String := "Conversations"

/-- The name of the container of analytics events. -/
def analytics : String := "Analytics"

/-- Every document type with its placement. -/
def entries : List (String × Placement) :=
  [("User", ⟨"Users", byId⟩),
   ("Persona", ⟨"Personas", byUser⟩),
   ("Buddy", ⟨"Buddies", byUser⟩),
   ("Goal", ⟨"Goals", byUser⟩),
   ("Task", ⟨"Tasks", byUser⟩),
   ("Conversation", ⟨conversations, byUser⟩),
   ("AnalyticsEvent", ⟨analytics, byUser⟩)]

/-- The placement of a document type, if the type is in the catalog. -/
def find? (typeName : String) : Option Placement :=
  entries.lookup typeName

/-- The placement of a document type. -/
def placement (typeName : String) : Except ModelError Placement :=
  match find? typeName with
  | some placement => .ok placement
  | none => .error (.unmappedType typeName)

/-- The placement of a document type, its absence being a failure of the client. -/
def locate (typeName : String) : Except Failure Placement :=
  (placement typeName).mapError ModelError.toFailure

/-- The names of the document types, in the order of the table. -/
def typeNames : List String :=
  entries.map Prod.fst

end Catalog

end DocumentClient
