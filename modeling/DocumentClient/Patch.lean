import DocumentClient.Failure
import DocumentClient.Json.Value
import DocumentClient.Text.Numeral
import DocumentClient.Text.Split

/-!
# DocumentClient.Patch

**Partial updates of documents.** A patch is a short list of operations, each on one path. The
client checks the list before it is sent; `applyAll` is what a store does with it.

A path is a JSON pointer: names and list positions, each after a slash. Inside a token a tilde and a
digit stand for the tilde and the slash. An operation changes the field that the last name stands
for, in the object that `modifyObject` finds under the names before it; the last name is taken to
the letter, without escapes.
-/

namespace DocumentClient

/-! ## Pointers -/

namespace Json

/-- Replaces the two escapes of a pointer token. The escape of the slash is resolved first, so a
tilde that comes out of an escape starts no other one. -/
def unescapeToken : List Char → List Char
  | '~' :: '1' :: rest => '/' :: unescapeToken rest
  | '~' :: '0' :: rest => '~' :: unescapeToken rest
  | c :: rest => c :: unescapeToken rest
  | [] => []

/-- The tokens of a pointer: none for the empty text, which points to the whole value; any other
pointer starts with a slash. -/
def pointerTokens? : List Char → Option (List String)
  | [] => some []
  | '/' :: rest =>
    some ((Text.splitAt '/' rest).map fun token => String.ofList (unescapeToken token))
  | _ => none

/-- The list position that a token denotes: decimal digits without sign and leading zeros. -/
def listIndex? (token : String) : Option Nat :=
  match token.toList with
  | '+' :: _ => none
  | '0' :: _ :: _ => none
  | cs => (Text.readNumeral Word.max64 cs).toOption

/-- Changes the fields of the object that a path leads to. The error `absent` tells that there
is no object. -/
def modifyObject {ε : Type} (absent : ε)
    (change : List (String × Json) → Except ε (List (String × Json))) :
    List String → Json → Except ε Json
  | [], .obj fields => (change fields).map .obj
  | token :: tokens, .obj fields =>
    match Keyed.find? token fields with
    | none => .error absent
    | some inner =>
      (modifyObject absent change tokens inner).map fun changed =>
        .obj (Keyed.insert token changed fields)
  | token :: tokens, .arr items =>
    match listIndex? token with
    | none => .error absent
    | some i =>
      match items[i]? with
      | none => .error absent
      | some inner =>
        (modifyObject absent change tokens inner).map fun changed => .arr (items.set i changed)
  | _, _ => .error absent

end Json

/-! ## Operations -/

/-- One change of a document. -/
inductive PatchOp where
  /-- Stores a value in a field. -/
  | add (path : String) (value : Json)
  /-- Stores a value in a field. -/
  | set (path : String) (value : Json)
  /-- Stores a value in a field that is there already. -/
  | replace (path : String) (value : Json)
  /-- Removes a field, if it is there. -/
  | remove (path : String)
  /-- Adds a whole number to a field. -/
  | increment (path : String) (amount : Json)
  deriving Repr, Inhabited

namespace PatchOp

/-- The path that the operation changes. -/
def path : PatchOp → String
  | .add path _ | .set path _ | .replace path _ | .remove path | .increment path _ => path

/-- The name of the kind of operation. -/
def kind : PatchOp → String
  | .add _ _ => "add"
  | .set _ _ => "set"
  | .replace _ _ => "replace"
  | .remove _ => "remove"
  | .increment _ _ => "incr"

/-- The value that the operation carries, if any. -/
def value? : PatchOp → Option Json
  | .add _ value | .set _ value | .replace _ value | .increment _ value => some value
  | .remove _ => none

/-! ## JSON form -/

/-- The JSON form of an operation. -/
def toJson (op : PatchOp) : Json :=
  let value := match op.value? with
    | some value => [("value", value)]
    | none => []
  Json.object ([("op", .str op.kind), ("path", .str op.path)] ++ value)

/-- The operation of a kind on a path; every kind but removal needs a value. -/
def ofParts? (kind path : String) (value : Option Json) : Option PatchOp :=
  match kind, value with
  | "add", some value => some (.add path value)
  | "set", some value => some (.set path value)
  | "replace", some value => some (.replace path value)
  | "remove", _ => some (.remove path)
  | "incr", some value => some (.increment path value)
  | _, _ => none

/-- Reads an operation: an object, or a list of kind, path and value. -/
def ofJson? : Json → Option PatchOp
  | .arr [.str "remove", .str path] => some (.remove path)
  | .arr [.str kind, .str path, value] =>
    if kind = "remove" then none else ofParts? kind path (some value)
  | .obj fields => do
    let kind ← Json.text? (Keyed.find? "op" fields)
    let path ← Json.text? (Keyed.find? "path" fields)
    ofParts? kind path (Keyed.find? "value" fields)
  | _ => none

/-- Reads a list of operations. -/
def listOfJson? : Json → Option (List PatchOp)
  | .arr items => items.mapM ofJson?
  | _ => none

end PatchOp

/-! ## Checking a patch -/

/-- Why a list of operations makes no patch. -/
inductive PatchError where
  /-- There are none, or too many. -/
  | count (n : Nat)
  /-- A path does not start with a slash. -/
  | relativePath (path : String)
  deriving DecidableEq, Repr

namespace Patch

/-- The largest number of operations in one patch. -/
def maxOperations : Nat := 10

end Patch

/-- The wording of a patch error. -/
def PatchError.message : PatchError → String
  | .count n =>
    "patch requires 1 to " ++ Text.natText Patch.maxOperations ++ " operations, got " ++
      Text.natText n
  | .relativePath path => "patch path '" ++ path ++ "' must start with '/'"

/-- A patch error as a failure of the client. -/
def PatchError.toFailure (error : PatchError) : Failure :=
  .validation error.message

namespace Patch

/-- Does the path of an operation start with a slash? -/
def isAbsolute (op : PatchOp) : Bool :=
  Text.startsWith '/' op.path

/-- A patch has one to ten operations, and all their paths are absolute. -/
def check (ops : List PatchOp) : Except PatchError Unit :=
  if ops.isEmpty ∨ maxOperations < ops.length then .error (.count ops.length)
  else
    match ops.find? fun op => !isAbsolute op with
    | some op => .error (.relativePath op.path)
    | none => .ok ()

/-! ## Applying a patch -/

/-- Why an operation cannot be applied to a document. -/
inductive ApplyError where
  /-- The path has no slash. -/
  | noSlash (path : String)
  /-- What precedes the last slash leads to no object. -/
  | parent (path : String)
  /-- The field to replace is not there. -/
  | missing (path : String)
  /-- The amount of an increment is no signed word of 64 bits. -/
  | amount
  /-- The incremented number is no signed word of 64 bits. -/
  | overflow
  deriving DecidableEq, Repr

/-- An application error as the failure that a store reports. -/
def ApplyError.toFailure : ApplyError → Failure
  | .noSlash path => .validation ("bad patch path " ++ path)
  | .parent path => .validation ("no parent for " ++ path)
  | .missing path => .validation (path ++ " does not exist")
  | .amount => .validation "increment requires an integer"
  | .overflow => .overflow

/-- Changes the fields of the object that holds the last name of the path. A current value that
is no signed word of 64 bits counts as zero in an increment. -/
def changeFields (op : PatchOp) (name : String) (fields : List (String × Json)) :
    Except ApplyError (List (String × Json)) :=
  match op with
  | .add _ value | .set _ value => .ok (Keyed.insert name value fields)
  | .replace path value =>
    if Keyed.contains name fields then .ok (Keyed.insert name value fields)
    else .error (.missing path)
  | .remove _ => .ok (Keyed.erase name fields)
  | .increment _ amount =>
    let current := ((Keyed.find? name fields).bind Json.asInt64?).getD 0
    match amount.asInt64? with
    | none => .error .amount
    | some amount =>
      if Word.isSigned64 (current + amount) then
        .ok (Keyed.insert name (.int (current + amount)) fields)
      else .error .overflow

/-- Applies one operation. The path is cut at its last slash: a pointer to the object, and the
name of the field in it, which is taken literally. -/
def apply (op : PatchOp) (document : Json) : Except ApplyError Json :=
  match Text.splitLast? '/' op.path.toList with
  | none => .error (.noSlash op.path)
  | some (parent, name) =>
    match Json.pointerTokens? parent with
    | none => .error (.parent op.path)
    | some tokens =>
      Json.modifyObject (.parent op.path) (changeFields op (String.ofList name)) tokens document

/-- Applies operations one after the other, up to the first that cannot be applied: what the
document is then, and the error if there is one. -/
def applyAll : List PatchOp → Json → Json × Option ApplyError
  | [], document => (document, none)
  | op :: ops, document =>
    match apply op document with
    | .error error => (document, some error)
    | .ok changed => applyAll ops changed

end Patch

end DocumentClient
