import DocumentClient.Proofs.Query.Compiling
import DocumentClient.Proofs.Query.FieldPath
import DocumentClient.Proofs.Text.Numeral
import Mathlib.Data.List.Nodup

/-!
# DocumentClient.Proofs.Query.Parameters

**Values never reach the query text.** A value may look like anything, also like part of a query;
what the text contains of it is the name of a parameter, and nothing else.

* `parameterTokens` reads a text and finds every name of a parameter in it, whoever wrote it. So
  what is shown is about the text that is sent, and not about how it was put together.
* `Mentions` says which names a part of a text contains, whatever follows it that does not
  continue the last name. Parts of a text are joined by `between`: something between them ends a
  name.
* `Compiles.mentions` is the induction over expressions: the text of an expression contains the
  name of each of its literals once, in visiting order, and no other name. References and keywords
  have no at-sign, and so add none.
* `Expr.erased` forgets the values. The text of an expression and its error are those of the
  erased expression, so two expressions that differ only in their values cannot be told apart by
  either. This holds of every expression, whether it compiles or not.
* `Compilation` names the ways to compile a predicate, so that all of this is said once; the texts
  that they put around the predicate contain no names.

`Parameterized` is what the caller may rely on, and `literals_stay_parameters` says that every
compilation has it.
-/

namespace DocumentClient.Query

/-! ### Names of parameters in a text -/

/-- The names of parameters in a text: each at-sign with the name characters after it. -/
def parameterTokens : List Char → List (List Char)
  | [] => []
  | c :: cs =>
    if c = '@' then (c :: cs.takeWhile isNameChar) :: parameterTokens cs else parameterTokens cs

theorem parameterTokens_append_of_plain {plain : List Char} (h : '@' ∉ plain) (rest : List Char) :
    parameterTokens (plain ++ rest) = parameterTokens rest := by
  induction plain with
  | nil => rfl
  | cons c plain ih =>
      have other : c ≠ '@' := fun at_sign => h (at_sign ▸ List.mem_cons_self)
      rw [List.cons_append, parameterTokens, if_neg other]
      exact ih fun mem => h (List.mem_cons_of_mem c mem)

/-- The text goes on with no character of a name. -/
def EndsName (rest : List Char) : Prop :=
  ∀ c ∈ rest.head?, isNameChar c = false

/-- A text contains certain names, whatever follows it that does not continue the last one. -/
def Mentions (text : List Char) (names : List (List Char)) : Prop :=
  ∀ rest, EndsName rest → parameterTokens (text ++ rest) = names ++ parameterTokens rest

namespace Mentions

variable {text text' : List Char} {names names' : List (List Char)}

theorem of_plain (h : '@' ∉ text) : Mentions text [] :=
  fun rest _ => parameterTokens_append_of_plain h rest

theorem append_left {plain : List Char} (h : '@' ∉ plain) (mentions : Mentions text names) :
    Mentions (plain ++ text) names := by
  intro rest ends
  rw [List.append_assoc, parameterTokens_append_of_plain h]
  exact mentions rest ends

/-- Two texts with something between them that ends a name. -/
theorem between {c : Char} {plain : List Char} (mentions : Mentions text names)
    (ending : isNameChar c = false) (h : '@' ∉ c :: plain) (mentions' : Mentions text' names') :
    Mentions (text ++ (c :: plain ++ text')) (names ++ names') := by
  intro rest ends
  have ended : EndsName (c :: plain ++ text' ++ rest) := by
    intro d first
    obtain rfl : c = d := by simpa using first
    exact ending
  rw [List.append_assoc, mentions _ ended, List.append_assoc, parameterTokens_append_of_plain h,
    mentions' rest ends, List.append_assoc]

theorem parenthesized (mentions : Mentions text names) :
    Mentions (Expr.parenthesized text) names := by
  have opening : '@' ∉ ['('] := by decide
  have closed : Mentions (text ++ (')' :: [] ++ [])) (names ++ []) :=
    mentions.between (by decide) (by decide) (of_plain List.not_mem_nil)
  rw [List.append_nil, List.append_nil] at closed
  have opened : Mentions (['('] ++ (text ++ [')'])) names := append_left opening closed
  exact opened

theorem parenthesizedIf (condition : Bool) (mentions : Mentions text names) :
    Mentions (Expr.parenthesizedIf condition text) names := by
  cases condition with
  | false => exact mentions
  | true => exact mentions.parenthesized

end Mentions

/-! ### Names in the text of an expression -/

/-- The names of a number of parameters from a first one on. -/
def parameterNames (first count : Nat) : List (List Char) :=
  (List.range' first count).map Expr.parameterName

theorem parameterNames_append (first count more : Nat) :
    parameterNames first count ++ parameterNames (first + count) more =
      parameterNames first (count + more) := by
  rw [parameterNames, parameterNames, ← List.map_append, List.range'_append_1]
  rfl

theorem isNameChar_of_isDigit {c : Char} (h : c.isDigit = true) : isNameChar c = true := by
  simp [isNameChar, Char.isAlphanum, h]

/-- The name of a parameter is one name. -/
theorem mentions_parameterName (n : Nat) :
    Mentions (Expr.parameterName n) [Expr.parameterName n] := by
  intro rest ends
  have digits : ∀ c ∈ "param".toList ++ Text.natChars n, isNameChar c = true := by
    intro c mem
    rcases List.mem_append.mp mem with letter | digit
    · exact List.all_eq_true.mp (show "param".toList.all isNameChar = true by decide) c letter
    · exact isNameChar_of_isDigit (Text.isDigit_of_mem_natChars digit)
  have stops : rest.takeWhile isNameChar = [] := by
    cases rest with
    | nil => rfl
    | cons c rest => exact List.takeWhile_cons_of_neg (by simp [ends c rfl])
  have token : parameterTokens (Expr.parameterName n ++ rest) =
      ('@' :: (("param".toList ++ Text.natChars n) ++ rest).takeWhile isNameChar) ::
        parameterTokens (("param".toList ++ Text.natChars n) ++ rest) := rfl
  have plain : '@' ∉ "param".toList ++ Text.natChars n := fun mem =>
    absurd (digits '@' mem) (by decide)
  rw [token, List.takeWhile_append_of_pos digits, stops, List.append_nil,
    parameterTokens_append_of_plain plain]
  rfl

theorem at_not_mem_fieldText {reference : String} (path : isFieldPath reference = true) :
    '@' ∉ fieldText reference :=
  fun mem => absurd (isNameChar_of_mem_fieldText path mem) (by decide)

theorem at_not_mem_function {method function : String}
    (known : functionFor? method = some function) : '@' ∉ function.toList := by
  unfold functionFor? at known
  split at known <;> cases known <;> decide

/-- **The text of an expression** contains the names of its literals, in visiting order. -/
theorem Expr.Compiles.mentions {e : Expr} (h : e.Compiles) (n : Nat) :
    Mentions (e.text n) (parameterNames n e.literals.length) := by
  induction h generalizing n with
  | field path => exact .of_plain (at_not_mem_fieldText path)
  | literal value => exact mentions_parameterName n
  | @binary op left right _ _ _ mentionsLeft mentionsRight =>
      have symbol : '@' ∉ ' ' :: (op.symbol.toList ++ [' ']) := by cases op <;> decide
      have both := ((mentionsLeft n).parenthesizedIf left.isCompound).between (by decide) symbol
        ((mentionsRight (n + left.literals.length)).parenthesizedIf right.isCompound)
      rw [parameterNames_append, ← List.length_append] at both
      simpa [Expr.text, Expr.literals] using both
  | @logical op left right _ _ mentionsLeft mentionsRight =>
      have keyword : '@' ∉ ' ' :: (op.keyword.toList ++ [' ']) := by cases op <;> decide
      have both := ((mentionsLeft n).between (by decide) keyword
        (mentionsRight (n + left.literals.length))).parenthesized
      rw [parameterNames_append, ← List.length_append] at both
      simpa [Expr.text, Expr.literals] using both
  | @not operand _ mentions =>
      have keyword : '@' ∉ "NOT ".toList := by decide
      exact .append_left keyword ((mentions n).parenthesizedIf (!operand.isLogical))
  | @call method function target argument known _ _ mentionsTarget mentionsArgument =>
      have comma : '@' ∉ ',' :: [' '] := by decide
      have both := Mentions.append_left (at_not_mem_function known)
        ((mentionsTarget n).between (by decide) comma
          (mentionsArgument (n + target.literals.length))).parenthesized
      rw [parameterNames_append, ← List.length_append] at both
      simpa [Expr.text_call known, Expr.parenthesized, Expr.literals, Expr.literalsOfAll]
        using both

/-! ### Forgetting values -/

namespace Expr

mutual
/-- The expression with null in place of each value. -/
def erased : Expr → Expr
  | .field reference => .field reference
  | .literal _ => .literal .null
  | .binary op left right => .binary op left.erased right.erased
  | .logical op left right => .logical op left.erased right.erased
  | .not operand => .not operand.erased
  | .call method target arguments => .call method target.erased (erasedAll arguments)
/-- Several expressions with null in place of each value. -/
def erasedAll : List Expr → List Expr
  | [] => []
  | e :: es => e.erased :: erasedAll es
end

@[simp] theorem isCompound_erased (e : Expr) : e.erased.isCompound = e.isCompound := by
  cases e <;> rfl

@[simp] theorem isLogical_erased (e : Expr) : e.erased.isLogical = e.isLogical := by
  cases e <;> rfl

@[simp] theorem length_erasedAll (es : List Expr) : (erasedAll es).length = es.length := by
  induction es with
  | nil => rfl
  | cons e es ih => rw [erasedAll, List.length_cons, List.length_cons, ih]

mutual
/-- There are as many literals as before. -/
@[simp] theorem length_literals_erased : (e : Expr) → e.erased.literals.length = e.literals.length
  | .field _ => rfl
  | .literal _ => rfl
  | .binary _ left right => by
    simp [erased, literals, length_literals_erased left, length_literals_erased right]
  | .logical _ left right => by
    simp [erased, literals, length_literals_erased left, length_literals_erased right]
  | .not operand => length_literals_erased operand
  | .call _ target arguments => by
    simp [erased, literals, length_literals_erased target,
      length_literalsOfAll_erasedAll arguments]
@[simp] theorem length_literalsOfAll_erasedAll :
    (es : List Expr) → (literalsOfAll (erasedAll es)).length = (literalsOfAll es).length
  | [] => rfl
  | e :: es => by
    simp [erasedAll, literalsOfAll, length_literals_erased e, length_literalsOfAll_erasedAll es]
end

mutual
/-- **The text does not depend on values.** -/
theorem text_erased : (e : Expr) → ∀ n, e.erased.text n = e.text n
  | .field _, _ => rfl
  | .literal _, _ => rfl
  | .binary _ left right, n => by simp [erased, text, text_erased left, text_erased right]
  | .logical _ left right, n => by simp [erased, text, text_erased left, text_erased right]
  | .not operand, n => by simp [erased, text, text_erased operand]
  | .call _ target arguments, n => by
    simp [erased, text, text_erased target, argumentsText_erasedAll arguments]
theorem argumentsText_erasedAll :
    (es : List Expr) → ∀ n, argumentsText n (erasedAll es) = argumentsText n es
  | [], _ => rfl
  | e :: es, n => by
    simp [erasedAll, argumentsText, text_erased e, argumentsText_erasedAll es]
end

mutual
/-- **The error does not depend on values.** -/
theorem error?_erased : (e : Expr) → e.erased.error? = e.error?
  | .field _ => rfl
  | .literal _ => rfl
  | .binary _ left right => by
    simp [erased, error?, error?_erased left, error?_erased right]
  | .logical _ left right => by
    simp [erased, error?, error?_erased left, error?_erased right]
  | .not operand => error?_erased operand
  | .call _ target arguments => by
    simp [erased, error?, error?_erased target, errorOfAny?_erasedAll arguments]
theorem errorOfAny?_erasedAll : (es : List Expr) → errorOfAny? (erasedAll es) = errorOfAny? es
  | [] => rfl
  | e :: es => by
    simp [erasedAll, errorOfAny?, error?_erased e, errorOfAny?_erasedAll es]
end

end Expr

/-! ### Compiled statements -/

/-- The ways to compile a predicate. -/
inductive Compilation where
  /-- With the order and the window of a plan. -/
  | withWindow (pageSize : Nat) (plan : Plan)
  /-- Alone. -/
  | alone
  /-- For the number of documents. -/
  | count

/-- Compiles a predicate in one of the ways. -/
def Compilation.run : Compilation → Expr → Except CompileError Statement
  | .withWindow pageSize plan, e => compile pageSize { plan with filter := some e }
  | .alone, e => compileFilter .documents (some e)
  | .count, e => compileCount (some e)

/-- The text of an order contains no at-sign. -/
theorem at_not_mem_orderText {order : Option Order}
    (paths : ∀ o ∈ order, isFieldPath o.reference = true) : '@' ∉ orderText order := by
  cases order with
  | none => exact List.not_mem_nil
  | some order =>
      have keyword : '@' ∉ ' ' :: order.keyword.toList := by
        unfold Order.keyword
        split <;> decide
      rw [orderText_some, List.mem_append, not_or, List.mem_append, not_or]
      exact ⟨by decide, at_not_mem_fieldText (paths order rfl), keyword⟩

theorem at_not_mem_natChars (n : Nat) : '@' ∉ Text.natChars n :=
  fun mem => absurd (Text.isDigit_of_mem_natChars mem) (by decide)

theorem at_not_mem_windowText (skip take : Nat) : '@' ∉ windowText skip take := by
  rw [windowText_eq, List.mem_append, not_or, List.mem_append, not_or, List.mem_append, not_or]
  exact ⟨by decide, at_not_mem_natChars skip, by decide, at_not_mem_natChars take⟩

/-- Order and window start with a blank. -/
theorem endsName_orderText_windowText (order : Option Order) (skip take : Nat) :
    EndsName (orderText order ++ windowText skip take) := by
  have blank : ∀ first : List Char, first.head? = some ' ' → ∀ rest, EndsName (first ++ rest) := by
    intro first starts rest c mem
    obtain rfl : ' ' = c := by
      simpa [List.head?_append, starts] using mem
    decide
  cases order with
  | none =>
      rw [orderText_none, List.nil_append, windowText_eq]
      exact blank _ (by decide) _
  | some order =>
      rw [orderText_some, List.append_assoc]
      exact blank _ (by decide) _

/-- A predicate that is compiled stands in a text without other names. -/
theorem Compilation.run_eq_ok {compilation : Compilation} {e : Expr} {statement : Statement}
    (h : compilation.run e = .ok statement) :
    e.Compiles ∧ ∃ before after, '@' ∉ before ∧ '@' ∉ after ∧ EndsName after ∧
      statement = ⟨String.ofList (before ++ (e.text 0 ++ after)), parametersFor e.literals⟩ := by
  have noMore : EndsName [] := fun _ none => nomatch none
  have plain : ∀ projection : Projection, '@' ∉ projection.text ++ " WHERE ".toList := by
    intro projection
    cases projection <;> decide +kernel
  cases compilation with
  | withWindow pageSize plan =>
      obtain ⟨compiles, paths, rfl⟩ := compile_eq_ok h
      refine ⟨compiles e rfl, _, _, plain .documents, ?_,
        endsName_orderText_windowText plan.order (plan.skip.getD 0) (plan.take.getD pageSize), ?_⟩
      · rw [List.mem_append, not_or]
        exact ⟨at_not_mem_orderText paths, at_not_mem_windowText _ _⟩
      · simp only [whereText_some, literalsOf_some, List.append_assoc]
  | alone =>
      obtain ⟨compiles, rfl⟩ := compileFilter_eq_ok h
      refine ⟨compiles e rfl, _, [], plain .documents, List.not_mem_nil, noMore, ?_⟩
      simp only [whereText_some, literalsOf_some, List.append_assoc, List.append_nil]
  | count =>
      obtain ⟨compiles, rfl⟩ := compileFilter_eq_ok h
      refine ⟨compiles e rfl, _, [], plain .count, List.not_mem_nil, noMore, ?_⟩
      simp only [whereText_some, literalsOf_some, List.append_assoc, List.append_nil]

theorem compileFilter_erased (projection : Projection) (e : Expr) :
    (compileFilter projection (some e.erased)).map Statement.text =
      (compileFilter projection (some e)).map Statement.text := by
  simp only [compileFilter, Option.bind_some, Expr.error?_erased, whereText_some,
    Expr.text_erased]
  cases e.error? <;> rfl

/-- The text and the error of a compilation do not depend on values. -/
theorem Compilation.run_erased (compilation : Compilation) (e : Expr) :
    (compilation.run e.erased).map Statement.text = (compilation.run e).map Statement.text := by
  cases compilation with
  | withWindow pageSize plan =>
      simp only [run, compile, Option.bind_some, Expr.error?_erased, whereText_some,
        Expr.text_erased]
      split <;> rfl
  | alone => exact compileFilter_erased .documents e
  | count => exact compileFilter_erased .count e

theorem ofList_parameterName (n : Nat) :
    String.ofList (Expr.parameterName n) = "@param" ++ Text.natText n := by
  unfold Expr.parameterName Text.natText
  rw [String.ofList_append, String.ofList_toList]

theorem map_name_parametersFor (values : List Json) :
    (parametersFor values).map Parameter.name =
      (parameterNames 0 values.length).map String.ofList := by
  rw [parametersFor, parameterNames, List.map_map, List.map_map, ← List.zipIdx_map_snd 0 values,
    List.map_map]
  rfl

theorem parameterName_injective {m n : Nat} (same : Expr.parameterName m = Expr.parameterName n) :
    m = n :=
  Text.natChars_injective (List.append_cancel_left same)

theorem nodup_parameterNames (first count : Nat) : (parameterNames first count).Nodup :=
  List.Nodup.map (fun _ _ same => parameterName_injective same) (List.nodup_range' 1)

/-- What a statement that was compiled says of the values in its predicate. -/
structure Parameterized (e : Expr) (statement : Statement) : Prop where
  /-- The parameters have the values, in visiting order. -/
  values : statement.parameters.map Parameter.value = e.literals
  /-- They are numbered from zero. -/
  names : statement.parameters.map Parameter.name =
    (List.range e.literals.length).map fun n => "@param" ++ Text.natText n
  /-- Each name is that of one parameter. -/
  distinct : (statement.parameters.map Parameter.name).Nodup
  /-- The text refers to each parameter once, in the order of their numbers, and to nothing else. -/
  tokens : (parameterTokens statement.text.toList).map String.ofList =
    statement.parameters.map Parameter.name

/-- **Values never reach the query text.** In whichever way a predicate is compiled, its values are
the parameters, each is named once in the text, and a predicate that differs in values alone has
the same text, or the same error. -/
theorem literals_stay_parameters (compilation : Compilation) (e : Expr) :
    (∀ statement, compilation.run e = .ok statement → Parameterized e statement) ∧
      ∀ other : Expr, other.erased = e.erased →
        (compilation.run other).map Statement.text = (compilation.run e).map Statement.text := by
  refine ⟨fun statement compiled => ?_, fun other same => ?_⟩
  · obtain ⟨compiles, before, after, plainBefore, plainAfter, ends, rfl⟩ :=
      Compilation.run_eq_ok compiled
    have tokens : parameterTokens (before ++ (e.text 0 ++ after)) =
        parameterNames 0 e.literals.length := by
      rw [parameterTokens_append_of_plain plainBefore, compiles.mentions 0 after ends,
        ← List.append_nil after, parameterTokens_append_of_plain plainAfter]
      exact List.append_nil _
    refine ⟨map_value_parametersFor e.literals, ?_, ?_, ?_⟩
    · rw [map_name_parametersFor, parameterNames, List.map_map, List.range_eq_range']
      exact List.map_congr_left fun n _ => ofList_parameterName n
    · rw [map_name_parametersFor]
      exact (nodup_parameterNames 0 _).map fun _ _ same => String.ofList_injective same
    · rw [String.toList_ofList, tokens, map_name_parametersFor]
  · rw [← compilation.run_erased other, ← compilation.run_erased e, same]

/-- A value that looks like a part of a query is named in the text like any other. -/
theorem literals_stay_parameters_hostile :
    let hostile := Expr.compare "UserId" .eq (.str "@param0 OR c.id = @param1")
    let harmless := Expr.compare "UserId" .eq (.str "u1")
    ∃ statement, Compilation.alone.run hostile = .ok statement ∧
      Parameterized hostile statement ∧
      (Compilation.alone.run harmless).map Statement.text = .ok statement.text := by
  intro hostile harmless
  obtain ⟨parameterized, same⟩ := literals_stay_parameters .alone hostile
  exact ⟨_, rfl, parameterized _ rfl, same harmless rfl⟩

end DocumentClient.Query
