import DocumentClient.Json.Value
import DocumentClient.Text.Property
import DocumentClient.Text.Split

/-!
# DocumentClient.Query.Expr

**Predicates over documents as trees.** The tree can hold more than the store can be asked: which
trees compile is said in `DocumentClient.Query.Compile`.

A field is given by a reference, a path of names divided by points. In query text each name appears
in the spelling in which documents store it, which starts with a small letter: `storedSpelling`
lowers the leading word of a name, and `fieldText` is the text of a reference.
-/

namespace DocumentClient.Query

/-! ## Spelling of names -/

/-- Lowers the leading word of a name. A run of capitals is lowered up to the capital that
starts the next word; `first` tells that no character has been lowered yet. Only ASCII letters
change. -/
def lowerWord : Bool → List Char → List Char
  | _, [] => []
  | first, c :: rest =>
    if !Text.isUppercase c then c :: rest
    else if !first && rest.head?.any (fun next => !Text.isUppercase next) then c :: rest
    else c.toLower :: lowerWord false rest

/-- The stored spelling of a name. -/
def storedSpelling (name : List Char) : List Char :=
  lowerWord true name

/-- The stored spelling of a name that is a text. -/
def camelCase (name : String) : String :=
  String.ofList (storedSpelling name.toList)

/-! ## Paths -/

/-- May the character occur in a name: an ASCII letter, an ASCII digit or the underscore? -/
def isNameChar (c : Char) : Bool :=
  c.isAlphanum || c == '_'

/-- Is the text a name: not empty, made of name characters, and not starting with a digit? -/
def isName (name : List Char) : Bool :=
  !name.isEmpty && name.all isNameChar && !name.head?.any Char.isDigit

/-- The names along a reference. -/
def pathNames (reference : String) : List (List Char) :=
  Text.splitAt '.' reference.toList

/-- Is every part of the reference a name? -/
def isFieldPath (reference : String) : Bool :=
  (pathNames reference).all isName

/-- The alias of the queried document in query text. -/
def documentAlias : Char := 'c'

/-- The names of a path in their stored spelling, each after a point. -/
def storedNamesText (names : List (List Char)) : List Char :=
  names.flatMap fun name => '.' :: storedSpelling name

/-- The text of a reference in a query. -/
def fieldText (reference : String) : List Char :=
  documentAlias :: storedNamesText (pathNames reference)

/-! ## Trees -/

/-- An operator between two values. -/
inductive BinaryOp where
  | eq | ne | gt | ge | lt | le | add | subtract | multiply | divide | modulo
  deriving DecidableEq, Repr

namespace BinaryOp

/-- The symbol of an operator. -/
def symbol : BinaryOp → String
  | .eq => "="
  | .ne => "!="
  | .gt => ">"
  | .ge => ">="
  | .lt => "<"
  | .le => "<="
  | .add => "+"
  | .subtract => "-"
  | .multiply => "*"
  | .divide => "/"
  | .modulo => "%"

/-- Does the operator compare, rather than compute? -/
def isComparison : BinaryOp → Bool
  | .eq | .ne | .gt | .ge | .lt | .le => true
  | .add | .subtract | .multiply | .divide | .modulo => false

end BinaryOp

/-- A connective between two predicates. -/
inductive LogicalOp where
  | and | or
  deriving DecidableEq, Repr

/-- The keyword of a connective. -/
def LogicalOp.keyword : LogicalOp → String
  | .and => "AND"
  | .or => "OR"

/-- An expression over a document. -/
inductive Expr where
  /-- A field of the document; the names along the path are divided by points. -/
  | field (reference : String)
  /-- A value that the caller supplies. -/
  | literal (value : Json)
  /-- An operator between two values. -/
  | binary (op : BinaryOp) (left right : Expr)
  /-- A connective between two predicates. -/
  | logical (op : LogicalOp) (left right : Expr)
  /-- The denial of a predicate. -/
  | not (operand : Expr)
  /-- A method called on a value. -/
  | call (method : String) (target : Expr) (arguments : List Expr)
  deriving Repr, Inhabited

namespace Expr

/-! ## Literals -/

mutual
/-- The literals of an expression in visiting order: left before right, the target of a call
before its arguments. -/
def literals : Expr → List Json
  | .field _ => []
  | .literal value => [value]
  | .binary _ left right => left.literals ++ right.literals
  | .logical _ left right => left.literals ++ right.literals
  | .not operand => operand.literals
  | .call _ target arguments => target.literals ++ literalsOfAll arguments
/-- The literals of several expressions, one after the other. -/
def literalsOfAll : List Expr → List Json
  | [] => []
  | e :: es => e.literals ++ literalsOfAll es
end

/-! ## Predicates on a field -/

/-- Compares a field with a value. -/
def compare (reference : String) (op : BinaryOp) (value : Json) : Expr :=
  .binary op (.field reference) (.literal value)

/-- Calls a method on a field. -/
def callOn (reference method : String) (arguments : List Expr) : Expr :=
  .call method (.field reference) arguments

/-- Calls a method on a field with one value. -/
def callWith (reference method : String) (value : Json) : Expr :=
  callOn reference method [.literal value]

/-- Both predicates hold. -/
def and (left right : Expr) : Expr := .logical .and left right

/-- One of the predicates holds. -/
def or (left right : Expr) : Expr := .logical .or left right

end Expr

end DocumentClient.Query
