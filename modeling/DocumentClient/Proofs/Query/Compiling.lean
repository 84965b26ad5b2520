import DocumentClient.Query.Compile

/-!
# DocumentClient.Proofs.Query.Compiling

**Which expressions compile, and what the three ways to compile a query come to.**

The check of an expression looks for an error, left before right; a proof about compiled expressions
wants to know what they are made of. `Expr.Compiles` says that, with one constructor for each node
that the store can be asked about, so that what is proved of compiled expressions goes by induction
on it. `compiles_of_error?` derives it from the check: the induction is along the check itself, and
every node that is not of the language has an error there.

* `compile_eq_ok` and `compileFilter_eq_ok` take a compilation apart that succeeded;
  `compile_of_compiles` and `compileFilter_of_compiles` say that it succeeds, and with what.
* `predicateStatement` and `windowStatement` name the statements that these come to, so that other
  modules can speak of their texts and their parameters.

Small lemmas say what the parts of a statement are, with and without a predicate or an order. A part
that is there starts with a blank, and one that is not has no text at all.
-/

namespace DocumentClient.Query

namespace Expr

/-! ### Expressions that compile -/

/-- The expressions that the store can be asked about. A method has exactly one argument. -/
inductive Compiles : Expr → Prop
  /-- A field whose reference is a path of names. -/
  | field {reference : String} (path : isFieldPath reference = true) : Compiles (.field reference)
  /-- Any value. -/
  | literal (value : Json) : Compiles (.literal value)
  /-- A comparison. -/
  | binary {op : BinaryOp} {left right : Expr} (comparison : op.isComparison = true)
    (compilesLeft : Compiles left) (compilesRight : Compiles right) :
    Compiles (.binary op left right)
  /-- A connective. -/
  | logical (op : LogicalOp) {left right : Expr} (compilesLeft : Compiles left)
    (compilesRight : Compiles right) : Compiles (.logical op left right)
  /-- A denial. -/
  | not {operand : Expr} (compilesOperand : Compiles operand) : Compiles (.not operand)
  /-- A method of the store with its one argument. -/
  | call {method function : String} {target argument : Expr}
    (known : functionFor? method = some function) (compilesTarget : Compiles target)
    (compilesArgument : Compiles argument) : Compiles (.call method target [argument])

theorem orElse_eq_none {first second : Option CompileError} (h : (first <|> second) = none) :
    first = none ∧ second = none := by
  cases first with
  | none => exact ⟨rfl, h⟩
  | some error => cases h

/-- A call without an error of its own is one of a known method, with one argument. -/
theorem callError?_eq_none {method : String} {arguments : List Expr}
    (h : callError? method arguments.length = none) :
    (∃ function, functionFor? method = some function) ∧ ∃ argument, arguments = [argument] := by
  unfold callError? at h
  split at h
  · cases h
  · rename_i known
    split at h
    · cases h
    · rename_i count
      exact ⟨Option.ne_none_iff_exists'.mp (by simpa using known),
        List.length_eq_one_iff.mp (Decidable.not_not.mp count)⟩

/-- **An expression without an error compiles.** -/
theorem compiles_of_error? : (e : Expr) → e.error? = none → Compiles e
  | .field reference, h => by
    simp only [error?, fieldError?, ite_eq_left_iff, reduceCtorEq, imp_false] at h
    exact .field (Decidable.not_not.mp h)
  | .literal value, _ => .literal value
  | .binary op left right, h => by
    unfold error? at h
    split at h
    · obtain ⟨noneLeft, noneRight⟩ := orElse_eq_none h
      exact .binary ‹_› (compiles_of_error? left noneLeft) (compiles_of_error? right noneRight)
    · cases h
  | .logical op left right, h => by
    obtain ⟨noneLeft, noneRight⟩ := orElse_eq_none h
    exact .logical op (compiles_of_error? left noneLeft) (compiles_of_error? right noneRight)
  | .not operand, h => .not (compiles_of_error? operand h)
  | .call method target [], h => by
    obtain ⟨-, argument, none⟩ := callError?_eq_none (orElse_eq_none h).1
    cases none
  | .call method target [argument], h => by
    obtain ⟨itself, parts⟩ := orElse_eq_none h
    obtain ⟨noneTarget, noneArgument⟩ := orElse_eq_none parts
    obtain ⟨⟨function, known⟩, -⟩ := callError?_eq_none itself
    exact .call known (compiles_of_error? target noneTarget)
      (compiles_of_error? argument (orElse_eq_none noneArgument).1)
  | .call method target (_ :: _ :: _), h => by
    obtain ⟨-, argument, one⟩ := callError?_eq_none (orElse_eq_none h).1
    cases one

/-- An expression that compiles has no error. -/
theorem Compiles.error? {e : Expr} (h : Compiles e) : e.error? = none := by
  induction h with
  | field path => exact if_pos path
  | literal value => rfl
  | binary comparison _ _ noneLeft noneRight =>
      rw [Expr.error?, if_pos comparison, noneLeft, noneRight]
      rfl
  | logical op _ _ noneLeft noneRight =>
      rw [Expr.error?, noneLeft, noneRight]
      rfl
  | not _ noneOperand => rw [Expr.error?, noneOperand]
  | call known _ _ noneTarget noneArgument =>
      simp [Expr.error?, errorOfAny?, callError?, known, noneTarget, noneArgument]

theorem bind_error?_of_compiles {filter : Option Expr} (compiles : ∀ e ∈ filter, e.Compiles) :
    filter.bind Expr.error? = none := by
  cases filter with
  | none => rfl
  | some e => exact (compiles e rfl).error?

theorem text_call {method function : String} (known : functionFor? method = some function)
    (target argument : Expr) (n : Nat) :
    (Expr.call method target [argument]).text n =
      function.toList ++ '(' :: (target.text n ++ (", ".toList ++
        (argument.text (n + target.literals.length) ++ [')']))) := by
  simp [text, argumentsText, parenthesized, known]

end Expr

/-! ### Parts of a statement -/

@[simp] theorem whereText_some (e : Expr) :
    whereText (some e) = " WHERE ".toList ++ e.text 0 := rfl

@[simp] theorem orderText_none : orderText none = [] := rfl

@[simp] theorem orderText_some (order : Order) :
    orderText (some order) =
      " ORDER BY ".toList ++ (fieldText order.reference ++ ' ' :: order.keyword.toList) := by
  unfold orderText
  exact List.append_assoc _ _ _

theorem windowText_eq (skip take : Nat) :
    windowText skip take =
      " OFFSET ".toList ++ (Text.natChars skip ++ (" LIMIT ".toList ++ Text.natChars take)) := by
  unfold windowText
  rw [List.append_assoc, List.append_assoc]

@[simp] theorem literalsOf_some (e : Expr) : literalsOf (some e) = e.literals := rfl

theorem map_value_parametersFor (values : List Json) :
    (parametersFor values).map Parameter.value = values := by
  rw [parametersFor, List.map_map]
  exact List.zipIdx_map_fst 0 values

/-! ### Compilations that succeed -/

/-- A predicate that was compiled alone. -/
theorem compileFilter_eq_ok {projection : Projection} {filter : Option Expr}
    {statement : Statement} (h : compileFilter projection filter = .ok statement) :
    (∀ e ∈ filter, e.Compiles) ∧
      statement = ⟨String.ofList (projection.text ++ whereText filter),
        parametersFor (literalsOf filter)⟩ := by
  unfold compileFilter at h
  split at h
  · cases h
  · rename_i correct
    refine ⟨?_, (Except.ok.inj h).symm⟩
    rintro e rfl
    exact Expr.compiles_of_error? e correct

/-- A plan that was compiled with its order and its window. -/
theorem compile_eq_ok {pageSize : Nat} {plan : Plan} {statement : Statement}
    (h : compile pageSize plan = .ok statement) :
    (∀ e ∈ plan.filter, e.Compiles) ∧ (∀ o ∈ plan.order, isFieldPath o.reference = true) ∧
      statement = ⟨String.ofList (Projection.documents.text ++ whereText plan.filter ++
        orderText plan.order ++ windowText (plan.skip.getD 0) (plan.take.getD pageSize)),
        parametersFor (literalsOf plan.filter)⟩ := by
  unfold compile at h
  split at h
  · cases h
  · rename_i correct
    obtain ⟨filter, order⟩ := Expr.orElse_eq_none correct
    refine ⟨fun e compiled => ?_, fun o ordered => ?_, (Except.ok.inj h).symm⟩
    · rw [compiled] at filter
      exact Expr.compiles_of_error? e filter
    · rw [ordered] at order
      simpa [fieldError?] using order

/-! ### The statements that they come to -/

/-- The statement for a predicate alone. -/
def predicateStatement (projection : Projection) (filter : Option Expr) : Statement :=
  ⟨String.ofList (projection.text ++ whereText filter), parametersFor (literalsOf filter)⟩

/-- The statement for a plan with its order and its window. -/
def windowStatement (pageSize : Nat) (plan : Plan) : Statement :=
  ⟨String.ofList (Projection.documents.text ++ whereText plan.filter ++
    orderText plan.order ++ windowText (plan.skip.getD 0) (plan.take.getD pageSize)),
    parametersFor (literalsOf plan.filter)⟩

-- the texts are spelled out here once, so that no other proof computes them
theorem toList_predicateStatement (projection : Projection) (filter : Option Expr) :
    (predicateStatement projection filter).text.toList = projection.text ++ whereText filter :=
  String.toList_ofList

theorem toList_windowStatement (pageSize : Nat) (plan : Plan) :
    (windowStatement pageSize plan).text.toList = Projection.documents.text ++
      (whereText plan.filter ++ orderText plan.order ++
        windowText (plan.skip.getD 0) (plan.take.getD pageSize)) := by
  rw [windowStatement, String.toList_ofList, List.append_assoc, List.append_assoc,
    List.append_assoc]

theorem compileFilter_of_compiles {filter : Option Expr} (compiles : ∀ e ∈ filter, e.Compiles)
    (projection : Projection) :
    compileFilter projection filter = .ok (predicateStatement projection filter) := by
  rw [compileFilter, Expr.bind_error?_of_compiles compiles]
  rfl

theorem compile_of_compiles {plan : Plan} (compiles : ∀ e ∈ plan.filter, e.Compiles)
    (path : ∀ order ∈ plan.order, isFieldPath order.reference = true) (pageSize : Nat) :
    compile pageSize plan = .ok (windowStatement pageSize plan) := by
  have noOrderError : plan.order.bind (fun o => fieldError? o.reference) = none := by
    cases order : plan.order with
    | none => rfl
    | some order' => exact if_pos (path order' order)
  rw [compile, Expr.bind_error?_of_compiles compiles, noOrderError]
  rfl

end DocumentClient.Query
