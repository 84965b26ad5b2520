import DocumentClient.Failure
import DocumentClient.Query.Expr
import DocumentClient.Query.Plan
import DocumentClient.Text.Numeral

/-!
# DocumentClient.Query.Compile

**Compiling plans to query text.** Three functions on expressions divide the work: `Expr.error?`
finds the first node that cannot be compiled, `Expr.text` writes the text, and `Expr.literals` lists
the values that the text refers to by name. Values never enter the text: the literal that is visited
n-th, counting from zero, appears as the parameter of that number.

* `Expr.text` is defined for all expressions and says something sensible only of those without an
  error; that way the text needs no failure in it, and the compilations check first.
* Parentheses are put where the text could be read in two ways: around the operands of a
  comparison that are comparisons or denials themselves, around what is denied, and around two
  predicates with a connective between them.
* There are three compilations. `compileFilter` has a predicate only, and the store pages as it
  likes; `compile` has an order and a window in the text; `compileCount` asks how many documents
  there are. `compilePlan` chooses between the first two.
-/

namespace DocumentClient.Query

/-! ## What cannot be compiled -/

/-- Why an expression cannot be compiled. -/
inductive CompileError where
  /-- The operator computes instead of comparing. -/
  | operator (op : BinaryOp)
  /-- The store has no such method. -/
  | method (name : String)
  /-- The method takes one argument, not this many. -/
  | argumentCount (method : String) (count : Nat)
  /-- The reference is no path of names. -/
  | fieldPath (reference : String)
  deriving DecidableEq, Repr

namespace CompileError

/-- The wording of a compile error. -/
def message : CompileError → String
  | .operator op => "binary operator '" ++ op.symbol ++ "' is not supported"
  | .method name => "method '" ++ name ++ "' is not supported"
  | .argumentCount name count =>
    "method '" ++ name ++ "' expects exactly one argument, got " ++ Text.natText count
  | .fieldPath reference =>
    "field reference '" ++ reference ++ "' is not a valid property path"

/-- A compile error as a failure of the client. -/
def toFailure (error : CompileError) : Failure :=
  .compilation error.message

end CompileError

/-- The store's function for a method. -/
def functionFor? : String → Option String
  | "Contains" => some "CONTAINS"
  | "StartsWith" => some "STARTSWITH"
  | "EndsWith" => some "ENDSWITH"
  | _ => none

/-- What is wrong with a reference, if it is no path of names. -/
def fieldError? (reference : String) : Option CompileError :=
  if isFieldPath reference then none else some (.fieldPath reference)

/-- What is wrong with a call itself, apart from its operands. -/
def callError? (method : String) (count : Nat) : Option CompileError :=
  if (functionFor? method).isNone then some (.method method)
  else if count ≠ 1 then some (.argumentCount method count)
  else none

namespace Expr

mutual
/-- The error of the first node that cannot be compiled: a node comes before its operands, left
before right, the target of a call before its arguments. -/
def error? : Expr → Option CompileError
  | .field reference => fieldError? reference
  | .literal _ => none
  | .binary op left right =>
    if op.isComparison then left.error? <|> right.error? else some (.operator op)
  | .logical _ left right => left.error? <|> right.error?
  | .not operand => operand.error?
  | .call method target arguments =>
    callError? method arguments.length <|> target.error? <|> errorOfAny? arguments
/-- The first error among several expressions. -/
def errorOfAny? : List Expr → Option CompileError
  | [] => none
  | e :: es => e.error? <|> errorOfAny? es
end

/-! ## Text -/

/-- The name of the parameter of a number. -/
def parameterName (n : Nat) : List Char :=
  "@param".toList ++ Text.natChars n

/-- Does the expression need parentheses as an operand of a comparison? -/
def isCompound : Expr → Bool
  | .binary _ _ _ | .not _ => true
  | _ => false

/-- Is the expression written in parentheses of its own? -/
def isLogical : Expr → Bool
  | .logical _ _ _ => true
  | _ => false

/-- A text in parentheses. -/
def parenthesized (text : List Char) : List Char :=
  '(' :: text ++ [')']

/-- A text in parentheses if the condition holds. -/
def parenthesizedIf (condition : Bool) (text : List Char) : List Char :=
  if condition then parenthesized text else text

mutual
/-- The text of an expression, in which the first literal has the number `n`. Operands of a
comparison that are comparisons or denials themselves are put in parentheses, and so is what
is denied; two predicates with a connective between them are always in parentheses. -/
def text (n : Nat) : Expr → List Char
  | .field reference => fieldText reference
  | .literal _ => parameterName n
  | .binary op left right =>
    parenthesizedIf left.isCompound (left.text n) ++
      ' ' :: op.symbol.toList ++ ' ' ::
      parenthesizedIf right.isCompound (right.text (n + left.literals.length))
  | .logical op left right =>
    parenthesized (left.text n ++ ' ' :: op.keyword.toList ++ ' ' ::
      right.text (n + left.literals.length))
  | .not operand =>
    "NOT ".toList ++ parenthesizedIf (!operand.isLogical) (operand.text n)
  | .call method target arguments =>
    ((functionFor? method).getD method).toList ++
      parenthesized (target.text n ++ argumentsText (n + target.literals.length) arguments)
/-- The texts of arguments, each after a comma. -/
def argumentsText (n : Nat) : List Expr → List Char
  | [] => []
  | e :: es => ", ".toList ++ e.text n ++ argumentsText (n + e.literals.length) es
end

end Expr

/-! ## Statements -/

/-- The parameters for a list of values, which are numbered from zero. -/
def parametersFor (values : List Json) : List Parameter :=
  values.zipIdx.map fun (value, n) => ⟨String.ofList (Expr.parameterName n), value⟩

/-- What a query selects: the documents, or how many there are. -/
inductive Projection where
  | documents | count
  deriving DecidableEq, Repr

/-- The beginning of the text of a query. -/
def Projection.text : Projection → List Char
  | .documents => "SELECT * FROM c".toList
  | .count => "SELECT VALUE COUNT(1) FROM c".toList

/-- The text of an optional predicate, after its keyword. -/
def whereText : Option Expr → List Char
  | none => []
  | some filter => " WHERE ".toList ++ filter.text 0

/-- The text of an optional order, after its keyword. -/
def orderText : Option Order → List Char
  | none => []
  | some order =>
    " ORDER BY ".toList ++ fieldText order.reference ++ ' ' :: order.keyword.toList

/-- The text of a window: how many documents to leave out, and how many to return. -/
def windowText (skip take : Nat) : List Char :=
  " OFFSET ".toList ++ Text.natChars skip ++ " LIMIT ".toList ++ Text.natChars take

/-- The literals of an optional predicate. -/
def literalsOf (filter : Option Expr) : List Json :=
  (filter.map Expr.literals).getD []

/-- Compiles a predicate alone; the store pages as it likes. -/
def compileFilter (projection : Projection) (filter : Option Expr) :
    Except CompileError Statement :=
  match filter.bind Expr.error? with
  | some error => .error error
  | none =>
    .ok ⟨String.ofList (projection.text ++ whereText filter), parametersFor (literalsOf filter)⟩

/-- Compiles a plan with its order and its window. Without a number to skip none is skipped;
without a number to take a page is taken. -/
def compile (pageSize : Nat) (plan : Plan) : Except CompileError Statement :=
  match plan.filter.bind Expr.error? <|> plan.order.bind (fun o => fieldError? o.reference) with
  | some error => .error error
  | none =>
    .ok ⟨String.ofList (Projection.documents.text ++ whereText plan.filter ++
      orderText plan.order ++ windowText (plan.skip.getD 0) (plan.take.getD pageSize)),
      parametersFor (literalsOf plan.filter)⟩

/-- Compiles a plan: with its window if it has an order or a window, else its predicate
alone. -/
def compilePlan (pageSize : Nat) (plan : Plan) : Except CompileError Statement :=
  if plan.needsWindow then compile pageSize plan else compileFilter .documents plan.filter

/-- Compiles a query for the number of documents that satisfy a predicate. -/
def compileCount (filter : Option Expr) : Except CompileError Statement :=
  compileFilter .count filter

end DocumentClient.Query
