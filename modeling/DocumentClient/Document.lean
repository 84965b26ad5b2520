import DocumentClient.Catalog
import DocumentClient.Json.Printer
import DocumentClient.Text.Property

/-!
# DocumentClient.Document

**Documents and the keys of their partitions.**

* A document is a JSON object with a text in the field `id`. Every document type has this shape, so
  a type is known by its name alone. That the id is a field is part of a `Document`, so that what
  was decoded once need not be looked at again.
* The key of a partition is any JSON value. Keys are compared as JSON values, but a store files
  documents under the text of their key, and keys that differ as values may share a text.
-/

namespace DocumentClient

/-! ## Documents -/

/-- A document. -/
structure Document where
  /-- The fields of the document, in order of name. -/
  fields : List (String × Json)
  /-- The id of the document. -/
  id : String
  /-- The id is a field of the document. -/
  find?_id : Keyed.find? "id" fields = some (.str id)

namespace Document

/-- The document that a value is, if it is one. -/
def ofJson? : Json → Option Document
  | .obj fields =>
    match h : Keyed.find? "id" fields with
    | some (.str id) => some ⟨fields, id, h⟩
    | _ => none
  | _ => none

/-- The value of a document. -/
def toJson (document : Document) : Json :=
  .obj document.fields

/-- Reads a document from what a store returned. -/
def decode (value : Json) : Except Failure Document :=
  match ofJson? value with
  | some document => .ok document
  | none => .error (.serialization "not an object with a text in the field id")

/-- A document can be stored under its id only if that is not blank. -/
def checkWritable (typeName : String) (document : Document) : Except ModelError Unit :=
  if Text.isBlankText document.id then .error (.document (typeName ++ " has an empty id"))
  else .ok ()

/-- Reading a written document gives it back. -/
@[simp] theorem ofJson?_toJson (document : Document) :
    ofJson? document.toJson = some document := by
  obtain ⟨fields, id, h⟩ := document
  simp only [toJson, ofJson?]
  split
  · rename_i id' h'
    rw [h] at h'
    cases h'
    rfl
  · rename_i hne
    exact absurd h (hne id)

end Document

/-! ## Partition keys -/

/-- The key of a partition. -/
structure PartitionKey where
  /-- The value of the key. -/
  value : Json
  deriving Repr, Inhabited

namespace PartitionKey

/-- A key that is a text. -/
def ofText (s : String) : PartitionKey := ⟨.str s⟩

/-- The text of a key: a text is its own text, any other value has its compact JSON. -/
def text (key : PartitionKey) : String :=
  match key.value with
  | .str s => s
  | value => value.compact

/-- Equality of keys as JSON values. -/
def equiv (a b : PartitionKey) : Bool :=
  a.value.equiv b.value

/-- Does a document carry the key at the partition path of a placement? -/
def isCarriedBy (key : PartitionKey) (document : Json) (placement : Placement) : Bool :=
  match document.descend placement.segments with
  | some value => value.equiv key.value
  | none => false

end PartitionKey

end DocumentClient
