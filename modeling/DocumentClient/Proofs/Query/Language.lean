import DocumentClient.Proofs.Query.Compiling
import DocumentClient.Proofs.Text.Split

/-!
# DocumentClient.Proofs.Query.Language

**The compiler accepts its language, and refuses everything else for the first node that is not of
it.** The language is described without the compiler: `Expr.Allowed` and `Expr.Fault` look at one
node, `Expr.nodes` lists the nodes of an expression, each before its operands, and `nodesOf` puts
the field of an order behind those of the predicate.

* `isFieldPath_iff` is about references: the parts between the points are what is joined by them.
  `PropertyPath` says what a reference is without cutting it.
* `error?_eq` turns the search for an error, which goes down the expression, into one along its
  nodes; `findSome?_ownError?_eq_some_iff` says what such a search finds.
* A node is of the language or has one fault (`allowed_or_fault`), so that it is enough to show
  what its own error is in each case. The number of arguments of a call counts only if there is
  such a method, as the search for errors has it.
* `GoesBy` says what the caller sees of a compilation that goes by some nodes. `compiles_exactly`
  puts the three ways to compile side by side, with the text and the parameters that they share;
  they go by the same nodes, apart from the order, which two of them leave out.
-/

namespace DocumentClient.Query

/-! ### References -/

/-- A digit. -/
def Digit (c : Char) : Prop :=
  '0' ≤ c ∧ c ≤ '9'

/-- The characters of property names: ASCII letters and digits, and the underscore. -/
def PropertyChar (c : Char) : Prop :=
  ('A' ≤ c ∧ c ≤ 'Z') ∨ ('a' ≤ c ∧ c ≤ 'z') ∨ Digit c ∨ c = '_'

/-- The name of a property. -/
structure PropertyName (name : List Char) : Prop where
  /-- It is not empty. -/
  nonempty : name ≠ []
  /-- It consists of characters of property names. -/
  chars : ∀ c ∈ name, PropertyChar c
  /-- It does not start with a digit. -/
  start : ∀ c ∈ name.head?, ¬Digit c

/-- A reference to a property: names, with points between them. -/
def PropertyPath (reference : String) : Prop :=
  ∃ names : List (List Char), names ≠ [] ∧ (∀ name ∈ names, PropertyName name) ∧
    reference.toList = Text.join ['.'] names

theorem isDigit_iff {c : Char} : c.isDigit = true ↔ Digit c :=
  Bool.and_eq_true_iff.trans (and_congr decide_eq_true_iff decide_eq_true_iff)

theorem isNameChar_iff {c : Char} : isNameChar c = true ↔ PropertyChar c := by
  have upper : c.isUpper = true ↔ 'A' ≤ c ∧ c ≤ 'Z' := ⟨of_decide_eq_true, decide_eq_true⟩
  have lower : c.isLower = true ↔ 'a' ≤ c ∧ c ≤ 'z' :=
    Bool.and_eq_true_iff.trans (and_congr decide_eq_true_iff decide_eq_true_iff)
  have alphanum : c.isAlphanum = (c.isUpper || c.isLower || c.isDigit) := rfl
  rw [isNameChar, alphanum, PropertyChar]
  simp only [Bool.or_eq_true, upper, lower, isDigit_iff, beq_iff_eq, or_assoc]

theorem isName_iff {name : List Char} : isName name = true ↔ PropertyName name := by
  have digit : ∀ c : Char, c.isDigit = false ↔ ¬Digit c := fun c => by
    rw [← isDigit_iff, Bool.not_eq_true]
  cases name with
  | nil => exact iff_of_false (by decide) fun named => named.nonempty rfl
  | cons c name =>
      simp only [isName, Bool.and_eq_true, Bool.not_eq_true', List.isEmpty_cons, List.all_eq_true,
        isNameChar_iff, List.head?_cons, Option.any_some, digit]
      constructor
      · rintro ⟨⟨-, chars⟩, start⟩
        refine ⟨List.cons_ne_nil c name, chars, fun d first => ?_⟩
        cases first
        exact start
      · exact fun named => ⟨⟨trivial, named.chars⟩, named.start c rfl⟩

/-- The check of a reference: it is cut at its points, and the parts are names exactly if it is
names with points between them. -/
theorem isFieldPath_iff {reference : String} :
    isFieldPath reference = true ↔ PropertyPath reference := by
  -- a point is no character of a name, so that cutting undoes joining
  have point : ∀ {name : List Char}, PropertyName name → '.' ∉ name := fun named mem => by
    have outside : isNameChar '.' = false := by decide
    rw [isNameChar_iff.mpr (named.chars _ mem)] at outside
    cases outside
  have names_iff : isFieldPath reference = true ↔
      ∀ name ∈ pathNames reference, PropertyName name := by
    simp only [isFieldPath, List.all_eq_true, isName_iff]
  rw [names_iff]
  constructor
  · intro named
    refine ⟨pathNames reference, Text.splitFrom_ne_nil _ _ _, named, ?_⟩
    exact (Text.join_splitFrom (List.cons_ne_nil '.' []) 0 reference.toList).symm
  · rintro ⟨names, pos, named, same⟩
    have cut : pathNames reference = names := by
      rw [pathNames, same]
      exact Text.splitFrom_join pos fun name mem => point (named name mem)
    rwa [cut]

/-! ### Nodes -/

namespace Expr

mutual
/-- The nodes of an expression, each before its operands, left before right, the target of a call
before its arguments. -/
def nodes : Expr → List Expr
  | .field reference => [.field reference]
  | .literal value => [.literal value]
  | .binary op left right => .binary op left right :: (left.nodes ++ right.nodes)
  | .logical op left right => .logical op left right :: (left.nodes ++ right.nodes)
  | .not operand => .not operand :: operand.nodes
  | .call method target arguments =>
    .call method target arguments :: (target.nodes ++ nodesOfAll arguments)
/-- The nodes of several expressions, one after the other. -/
def nodesOfAll : List Expr → List Expr
  | [] => []
  | e :: es => e.nodes ++ nodesOfAll es
end

/-- The operators of the language compare. -/
def Comparison (op : BinaryOp) : Prop :=
  op = .eq ∨ op = .ne ∨ op = .gt ∨ op = .ge ∨ op = .lt ∨ op = .le

/-- The methods of the language are about texts. -/
def TextMethod (method : String) : Prop :=
  method = "Contains" ∨ method = "StartsWith" ∨ method = "EndsWith"

/-- The node is one of the language, whatever its operands are. -/
def Allowed : Expr → Prop
  | .field reference => PropertyPath reference
  | .literal _ | .logical _ _ _ | .not _ => True
  | .binary op _ _ => Comparison op
  | .call method _ arguments => TextMethod method ∧ arguments.length = 1

/-- What is wrong with a node that is not of the language. The number of arguments counts only if
there is such a method. -/
inductive Fault : Expr → CompileError → Prop
  /-- The reference is none to a property. -/
  | field {reference : String} (noPath : ¬PropertyPath reference) :
    Fault (.field reference) (.fieldPath reference)
  /-- The operator does not compare. -/
  | operator {op : BinaryOp} (computes : ¬Comparison op) (left right : Expr) :
    Fault (.binary op left right) (.operator op)
  /-- There is no such method. -/
  | method {method : String} (unknown : ¬TextMethod method) (target : Expr)
    (arguments : List Expr) : Fault (.call method target arguments) (.method method)
  /-- The method has not exactly one argument. -/
  | argumentCount {method : String} (known : TextMethod method) (target : Expr)
    {arguments : List Expr} (count : arguments.length ≠ 1) :
    Fault (.call method target arguments) (.argumentCount method arguments.length)

/-- The error of a node, apart from its operands. -/
def ownError? : Expr → Option CompileError
  | .field reference => fieldError? reference
  | .literal _ | .logical _ _ _ | .not _ => none
  | .binary op _ _ => if op.isComparison then none else some (.operator op)
  | .call method _ arguments => callError? method arguments.length

theorem isComparison_iff {op : BinaryOp} : op.isComparison = true ↔ Comparison op := by
  cases op <;> simp [BinaryOp.isComparison, Comparison]

theorem functionFor?_isNone_iff {method : String} :
    (functionFor? method).isNone = true ↔ ¬TextMethod method := by
  unfold functionFor? TextMethod
  split <;> simp_all

theorem Allowed.ownError? {e : Expr} (allowed : e.Allowed) : e.ownError? = none := by
  cases e with
  | field reference => exact if_pos (isFieldPath_iff.mpr allowed)
  | literal _ | logical _ _ _ | not _ => rfl
  | binary op left right => exact if_pos (isComparison_iff.mpr allowed)
  | call method target arguments =>
      obtain ⟨known, one⟩ := allowed
      exact (if_neg fun none => functionFor?_isNone_iff.mp none known).trans
        (if_neg (Decidable.not_not.mpr one))

theorem Fault.ownError? {e : Expr} {error : CompileError} (fault : e.Fault error) :
    e.ownError? = some error := by
  cases fault with
  | field noPath => exact if_neg (mt isFieldPath_iff.mp noPath)
  | operator computes _ _ => exact if_neg (mt isComparison_iff.mp computes)
  | method unknown _ _ => exact if_pos (functionFor?_isNone_iff.mpr unknown)
  | argumentCount known _ count =>
      exact (if_neg fun none => functionFor?_isNone_iff.mp none known).trans (if_pos count)

/-- A node is of the language, or something is wrong with it. -/
theorem allowed_or_fault (e : Expr) : e.Allowed ∨ ∃ error, e.Fault error := by
  cases e with
  | field reference =>
      by_cases path : PropertyPath reference
      · exact .inl path
      · exact .inr ⟨_, .field path⟩
  | literal _ | logical _ _ _ | not _ => exact .inl trivial
  | binary op left right =>
      by_cases compares : Comparison op
      · exact .inl compares
      · exact .inr ⟨_, .operator compares left right⟩
  | call method target arguments =>
      by_cases known : TextMethod method
      · by_cases one : arguments.length = 1
        · exact .inl ⟨known, one⟩
        · exact .inr ⟨_, .argumentCount known target one⟩
      · exact .inr ⟨_, .method known target arguments⟩

theorem ownError?_eq_none_iff {e : Expr} : e.ownError? = none ↔ e.Allowed := by
  refine ⟨fun none => ?_, Allowed.ownError?⟩
  rcases allowed_or_fault e with allowed | ⟨error, fault⟩
  · exact allowed
  · cases none.symm.trans fault.ownError?

theorem ownError?_eq_some_iff {e : Expr} {error : CompileError} :
    e.ownError? = some error ↔ e.Fault error := by
  refine ⟨fun found => ?_, Fault.ownError?⟩
  rcases allowed_or_fault e with allowed | ⟨error', fault⟩
  · cases found.symm.trans allowed.ownError?
  · cases found.symm.trans fault.ownError?
    exact fault

/-! ### The first error -/

theorem findSome?_cons (e : Expr) (es : List Expr) :
    (e :: es).findSome? ownError? = (e.ownError? <|> es.findSome? ownError?) := by
  rw [List.findSome?_cons]
  cases e.ownError? <;> rfl

theorem findSome?_append (es more : List Expr) :
    (es ++ more).findSome? ownError? = (es.findSome? ownError? <|> more.findSome? ownError?) := by
  rw [List.findSome?_append]
  exact Option.or_eq_orElse

mutual
/-- **The error of an expression is the first along its nodes.** -/
theorem error?_eq : (e : Expr) → e.error? = e.nodes.findSome? ownError?
  | .field reference => (List.findSome?_singleton ..).symm
  | .literal _ => rfl
  | .binary op left right => by
    rw [nodes, findSome?_cons, findSome?_append, ← error?_eq left, ← error?_eq right, ownError?,
      error?]
    cases op.isComparison <;> rfl
  | .logical _ left right => by
    rw [nodes, findSome?_cons, findSome?_append, ← error?_eq left, ← error?_eq right]
    rfl
  | .not operand => by
    rw [nodes, findSome?_cons, ← error?_eq operand]
    rfl
  | .call method target arguments => by
    rw [nodes, findSome?_cons, findSome?_append, ← error?_eq target, ← errorOfAny?_eq arguments]
    rfl
theorem errorOfAny?_eq : (es : List Expr) →
    errorOfAny? es = (nodesOfAll es).findSome? ownError?
  | [] => rfl
  | e :: es => by
    rw [nodesOfAll, findSome?_append, ← error?_eq e, ← errorOfAny?_eq es]
    rfl
end

end Expr

/-- The nodes of a predicate, and behind them the field of an order. -/
def nodesOf (filter : Option Expr) (order : Option Order) : List Expr :=
  (filter.map Expr.nodes).getD [] ++ (order.map fun o => Expr.field o.reference).toList

/-- The error that the compiler reports is the first along these nodes. -/
theorem findSome?_nodesOf (filter : Option Expr) (order : Option Order) :
    (nodesOf filter order).findSome? Expr.ownError? =
      (filter.bind Expr.error? <|> order.bind fun o => fieldError? o.reference) := by
  have predicate : ((filter.map Expr.nodes).getD []).findSome? Expr.ownError? =
      filter.bind Expr.error? := by
    cases filter with
    | none => rfl
    | some e => exact (Expr.error?_eq e).symm
  have field : ((order.map fun o => Expr.field o.reference).toList).findSome? Expr.ownError? =
      order.bind fun o => fieldError? o.reference := by
    cases order with
    | none => rfl
    | some order => exact List.findSome?_singleton ..
  rw [nodesOf, Expr.findSome?_append, predicate, field]

/-- All of the nodes are of the language. -/
def AllAllowed (nodes : List Expr) : Prop :=
  ∀ node ∈ nodes, node.Allowed

/-- What is wrong with the first of the nodes that is not of the language. -/
def FirstFault (nodes : List Expr) (error : CompileError) : Prop :=
  ∃ before node after, nodes = before ++ node :: after ∧ AllAllowed before ∧ node.Fault error

theorem findSome?_ownError?_eq_none_iff {nodes : List Expr} :
    nodes.findSome? Expr.ownError? = none ↔ AllAllowed nodes := by
  simp only [List.findSome?_eq_none_iff, Expr.ownError?_eq_none_iff, AllAllowed]

/-- The first error is what is wrong with the first node that is not of the language. -/
theorem findSome?_ownError?_eq_some_iff {nodes : List Expr} {error : CompileError} :
    nodes.findSome? Expr.ownError? = some error ↔ FirstFault nodes error := by
  simp only [List.findSome?_eq_some_iff, Expr.ownError?_eq_none_iff, Expr.ownError?_eq_some_iff,
    FirstFault, AllAllowed, and_comm]

/-! ### Compiling -/

/-- A compilation, as its caller sees it, goes by a list of nodes: it comes to a statement if all of
them are of the language, and otherwise to an error for the first that is not. -/
structure GoesBy (nodes : List Expr) (statement : Statement)
    (compiled : Except Failure Statement) : Prop where
  /-- It succeeds exactly if all nodes are of the language, and with one statement. -/
  succeeds : ∀ result, compiled = .ok result ↔ AllAllowed nodes ∧ result = statement
  /-- It fails exactly with the compilation error for the first node that is not. -/
  fails : ∀ failure, compiled = .error failure ↔
    ∃ error : CompileError, FirstFault nodes error ∧ failure = .compilation error.message

/-- A compilation that looks for the first error along the nodes goes by them. -/
theorem goesBy_of_eq {nodes : List Expr} {statement : Statement}
    {compiled : Except CompileError Statement}
    (searches : compiled = match nodes.findSome? Expr.ownError? with
      | some error => .error error
      | none => .ok statement) :
    GoesBy nodes statement (compiled.mapError CompileError.toFailure) := by
  cases found : nodes.findSome? Expr.ownError? with
  | none =>
      have allowed := findSome?_ownError?_eq_none_iff.mp found
      rw [searches, found]
      refine ⟨fun result => ?_, fun failure => iff_of_false nofun ?_⟩
      · exact ⟨fun same => ⟨allowed, (Except.ok.inj same).symm⟩, fun same => same.2 ▸ rfl⟩
      · rintro ⟨error, first, -⟩
        cases found.symm.trans (findSome?_ownError?_eq_some_iff.mpr first)
  | some error =>
      have first := findSome?_ownError?_eq_some_iff.mp found
      rw [searches, found]
      refine ⟨fun result => iff_of_false nofun ?_, fun failure => ?_⟩
      · rintro ⟨allowed, -⟩
        cases found.symm.trans (findSome?_ownError?_eq_none_iff.mpr allowed)
      · constructor
        · exact fun same => ⟨error, first, (Except.error.inj same).symm⟩
        · rintro ⟨error', first', rfl⟩
          cases found.symm.trans (findSome?_ownError?_eq_some_iff.mpr first')
          rfl

/-- The three ways to compile the predicate of a plan. -/
structure CompilesExactly (pageSize : Nat) (plan : Plan) : Prop where
  /-- Alone, it goes by its nodes. -/
  alone : GoesBy (nodesOf plan.filter none)
    ⟨String.ofList ("SELECT * FROM c".toList ++ whereText plan.filter),
      parametersFor (literalsOf plan.filter)⟩
    ((compileFilter .documents plan.filter).mapError CompileError.toFailure)
  /-- For a count, it goes by its nodes too, and has the same condition and parameters. -/
  count : GoesBy (nodesOf plan.filter none)
    ⟨String.ofList ("SELECT VALUE COUNT(1) FROM c".toList ++ whereText plan.filter),
      parametersFor (literalsOf plan.filter)⟩
    ((compileCount plan.filter).mapError CompileError.toFailure)
  /-- With the order and the window of the plan, the field of the order comes last; the condition
  and the parameters are the same. -/
  windowed : GoesBy (nodesOf plan.filter plan.order)
    ⟨String.ofList ("SELECT * FROM c".toList ++ whereText plan.filter ++
        (orderText plan.order ++ windowText (plan.skip.getD 0) (plan.take.getD pageSize))),
      parametersFor (literalsOf plan.filter)⟩
    ((compile pageSize plan).mapError CompileError.toFailure)
  /-- An error of the predicate is reported by all three. -/
  alike : ∀ error, FirstFault (nodesOf plan.filter none) error →
    compileFilter .documents plan.filter = .error error ∧ compileCount plan.filter = .error error ∧
      compile pageSize plan = .error error

/-- **The compiler accepts exactly its language.** Whatever the predicate, the order and the window,
a query is compiled exactly if all nodes of the predicate are of the language, and the field of the
order too if it takes part; otherwise it is refused for the first node that is not. -/
theorem compiles_exactly (pageSize : Nat) (plan : Plan) : CompilesExactly pageSize plan := by
  -- without an order the nodes are those of the predicate alone
  have predicate : plan.filter.bind Expr.error? =
      (nodesOf plan.filter none).findSome? Expr.ownError? := by
    rw [findSome?_nodesOf]
    cases plan.filter.bind Expr.error? <;> rfl
  constructor
  case alone =>
    refine goesBy_of_eq ?_
    rw [compileFilter, predicate]
    rfl
  case count =>
    refine goesBy_of_eq ?_
    rw [compileCount, compileFilter, predicate]
    rfl
  case windowed =>
    refine goesBy_of_eq ?_
    rw [compile, findSome?_nodesOf, ← List.append_assoc]
    rfl
  case alike =>
    intro error first
    have found := findSome?_ownError?_eq_some_iff.mpr first
    rw [← predicate] at found
    refine ⟨?_, ?_, ?_⟩
    · rw [compileFilter, found]
    · rw [compileCount, compileFilter, found]
    · rw [compile, found]
      rfl

end DocumentClient.Query
