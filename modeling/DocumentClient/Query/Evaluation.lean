import DocumentClient.Query.Plan
import DocumentClient.Text.Numeral
import DocumentClient.Text.Property
import DocumentClient.Text.Split

/-!
# DocumentClient.Query.Evaluation

**Answering queries over a list of documents.** Only some texts are understood: one of the two
projections, equalities joined by conjunctions, one order and one window. Any other text is refused.

* A text is taken apart from its end: the window is cut off first, then the order, and what is
  left is the predicate (`TextParts.ofText`). Nothing is known of a text but its characters, so a
  keyword inside of a part would cut it there.
* Parentheses are dropped before conditions are read (`readConditions?`), so a text with
  parentheses anywhere is taken for the conjunction of the equalities that are left without them.
* Sorting puts documents in one by one and compares by the value at a path. Values of different
  kinds are not ordered, and then nothing can be said of the order but what `insertByKey` makes of
  it.
-/

namespace DocumentClient.Query

/-! ## Conditions -/

/-- A field that has to hold a value. -/
structure Condition where
  /-- The names along the path to the field. -/
  path : List String
  /-- The value. -/
  value : Json

/-- The names along a path in query text. -/
def namesOf (path : List Char) : List String :=
  (Text.splitAt '.' path).map String.ofList

/-- Does a document satisfy a condition? -/
def Condition.holds (condition : Condition) (document : Json) : Bool :=
  match document.descend condition.path with
  | some value => value.equiv condition.value
  | none => false

/-- Reads one equality: a path after the alias of the document, and the name of a parameter of
the statement. -/
def readEquality? (statement : Statement) (clause : List Char) : Option Condition := do
  let (field, name) ← Text.splitOnce? " = ".toList (Text.trimChars clause)
  let path ← Text.afterStart? "c.".toList field
  let value ← statement.parameter? (String.ofList (Text.trimChars name))
  return ⟨namesOf path, value⟩

/-- Reads conditions joined by conjunctions. Parentheses do not matter then; disjunctions and
denials are not understood. -/
def readConditions? (statement : Statement) (text : List Char) : Option (List Condition) :=
  let bare := text.filter fun c => c != '(' && c != ')'
  if Text.occursIn " OR ".toList bare || Text.occursIn "NOT ".toList bare then none
  else (Text.splitAll " AND ".toList bare).mapM (readEquality? statement)

/-! ## Order -/

/-- Does the first value come before the second? Numbers are compared as floating-point ones,
texts character by character; a missing value comes before any other, and values of different
kinds are not ordered. -/
def isBefore : Option Json → Option Json → Bool
  | some (.str a), some (.str b) => a < b
  | some a, some b =>
    match a.asNumber?, b.asNumber? with
    | some x, some y => x.lt y
    | _, _ => false
  | none, some _ => true
  | _, none => false

/-- Puts a document among others that stand in reverse order: it moves to the front past all
that it comes before, one by one. -/
def insertByKey (document : Option Json × Json) :
    List (Option Json × Json) → List (Option Json × Json)
  | [] => [document]
  | last :: rest =>
    if isBefore document.1 last.1 then last :: insertByKey document rest
    else document :: last :: rest

/-- Sorts documents by the value at a path; documents that are not ordered keep their order. -/
def sortByPath (path : List String) (documents : List Json) : List Json :=
  let keyed := documents.map fun document => (document.descend path, document)
  ((keyed.foldl (fun sorted document => insertByKey document sorted) []).reverse).map Prod.snd

/-- The order that a text asks for: a path after the alias of the document, and a direction. -/
structure OrderClause where
  /-- The names along the path. -/
  path : List String
  /-- Is the sorted list reversed? -/
  descending : Bool

/-- Reads an order. Any direction but the descending one is ascending. -/
def readOrder? (text : List Char) : Option OrderClause := do
  let (field, direction) ← Text.splitOnce? [' '] text
  let path ← Text.afterStart? "c.".toList field
  return ⟨namesOf path, direction == "DESC".toList⟩

/-- Orders documents. -/
def OrderClause.apply (order : OrderClause) (documents : List Json) : List Json :=
  let sorted := sortByPath order.path documents
  if order.descending then sorted.reverse else sorted

/-! ## Windows -/

/-- Reads how many documents to leave out, and how many to return. -/
def readWindow? (text : List Char) : Option (Nat × Nat) := do
  let (skip, take) ← Text.splitOnce? " LIMIT ".toList text
  let skip ← (Text.readNumeral Word.max64 skip).toOption
  let take ← (Text.readNumeral Word.max64 take).toOption
  return (skip, take)

/-! ## Statements -/

/-- The parts of the text of a query that come after its projection. -/
structure TextParts where
  /-- The predicate with its keyword, if there is one. -/
  predicate : List Char
  /-- The order, without its keyword. -/
  order : Option (List Char)
  /-- The window, without its first keyword. -/
  window : Option (List Char)

/-- Cuts off what follows the first occurrence of a keyword. -/
def cutAt (keyword text : List Char) : List Char × Option (List Char) :=
  match Text.splitOnce? keyword text with
  | some (before, after) => (before, some after)
  | none => (text, none)

/-- The parts of a text: the window is cut off first, then the order. -/
def TextParts.ofText (text : List Char) : TextParts :=
  let (text, window) := cutAt " OFFSET ".toList text
  let (predicate, order) := cutAt " ORDER BY ".toList text
  { predicate, order, window }

/-- The documents that satisfy the predicate of a text. -/
def selectBy? (statement : Statement) (predicate : List Char) (documents : List Json) :
    Option (List Json) :=
  match Text.afterStart? " WHERE ".toList predicate with
  | some text =>
    (readConditions? statement text).map fun conditions =>
      documents.filter fun document => conditions.all fun c => c.holds document
  | none => if predicate.isEmpty then some documents else none

/-- Orders documents if a text asks for it. -/
def orderBy? (text : Option (List Char)) (documents : List Json) : Option (List Json) :=
  match text with
  | none => some documents
  | some text => (readOrder? text).map fun order => order.apply documents

/-- Cuts a window out of documents if a text asks for it. -/
def windowOf? (text : Option (List Char)) (documents : List Json) : Option (List Json) :=
  match text with
  | none => some documents
  | some text => (readWindow? text).map fun (skip, take) => (documents.drop skip).take take

/-- What a text without its projection makes of documents. -/
def evaluateDocuments? (statement : Statement) (text : List Char) (documents : List Json) :
    Option (List Json) := do
  let parts := TextParts.ofText text
  let selected ← selectBy? statement parts.predicate documents
  let ordered ← orderBy? parts.order selected
  windowOf? parts.window ordered

/-- How many documents satisfy the predicate of a text without its projection. -/
def evaluateCount? (statement : Statement) (text : List Char) (documents : List Json) :
    Option (List Json) := do
  let parts := TextParts.ofText text
  let selected ← selectBy? statement parts.predicate documents
  return [.int selected.length]

/-- The results of a statement over documents, if its text is understood. -/
def evaluate? (statement : Statement) (documents : List Json) : Option (List Json) :=
  let text := statement.text.toList
  match Text.afterStart? "SELECT VALUE COUNT(1) FROM c".toList text with
  | some rest => evaluateCount? statement rest documents
  | none =>
    match Text.afterStart? "SELECT * FROM c".toList text with
    | some rest => evaluateDocuments? statement rest documents
    | none => none

end DocumentClient.Query
