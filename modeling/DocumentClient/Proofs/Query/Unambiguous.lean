import DocumentClient.Proofs.Query.Compiling
import DocumentClient.Proofs.Query.FieldPath
import DocumentClient.Proofs.Text.Numeral
import Mathlib.Data.List.Forall2

/-!
# DocumentClient.Proofs.Query.Unambiguous

**Compiled text is unambiguous.** Two plans that compile to one text ask for the same: their
predicates have one structure up to the spelling of names, and order and window agree.

An expression appears in three forms: as a predicate (`text`), as an operand of a comparison
(`operandText`) and under a denial (`deniedText`). What may follow each form tells it from a longer
one: after an operand no name goes on (`EndsPath`), after a predicate no comparison does
(`EndsText`). Then:

* the first character of a form tells which node it comes from (`opening?`), except that
  comparisons, denials and connectives in parentheses start alike;
* a bracketed predicate and a connective differ after the predicate that both start with: one goes
  on with a closing parenthesis, the other with a blank;
* `Compiles.unique` is the induction over expressions, with all three forms of each part at hand.

## Proof shape

`UniqueText`, `UniqueOperand` and `UniqueDenied` say of one expression that it is told from any
other in a form, whatever follows both. They are shown node by node, from those of the parts: the
lemmas `uniqueText_…`, `uniqueOperand_…` and `uniqueDenied_…` each take a text apart at its head and
leave what follows to the parts. An operand in parentheses is a predicate, and a predicate that
needs none is an operand, so one form is derived from another wherever they agree
(`uniqueText_of_operand`, `uniqueOperand_of_text`).

Equal texts name the same parameters, but the values of these may differ; `Alike` leaves open how
values are related, and `Alike.of_values` says that the parameters decide. Order and window are told
apart behind the predicate, since both start with a blank and a letter that no predicate goes on
with.
-/

namespace DocumentClient.Query

namespace Expr

/-! ### Expressions of one structure -/

/-- Two expressions have one structure: their values are related by `R`, and fields are the same up
to the spelling of names. -/
inductive Alike (R : Json → Json → Prop) : Expr → Expr → Prop
  /-- Fields whose names have one stored spelling. -/
  | field {reference reference' : String} (names : storedNames reference = storedNames reference') :
    Alike R (.field reference) (.field reference')
  /-- Related values. -/
  | literal {value value' : Json} (related : R value value') :
    Alike R (.literal value) (.literal value')
  /-- The same operator on alike operands. -/
  | binary (op : BinaryOp) {left left' right right' : Expr} (alikeLeft : Alike R left left')
    (alikeRight : Alike R right right') : Alike R (.binary op left right) (.binary op left' right')
  /-- The same connective between alike predicates. -/
  | logical (op : LogicalOp) {left left' right right' : Expr} (alikeLeft : Alike R left left')
    (alikeRight : Alike R right right') :
    Alike R (.logical op left right) (.logical op left' right')
  /-- Denials of alike predicates. -/
  | not {operand operand' : Expr} (alike : Alike R operand operand') :
    Alike R (.not operand) (.not operand')
  /-- The same method, called on alike values. -/
  | call (method : String) {target target' argument argument' : Expr}
    (alikeTarget : Alike R target target') (alikeArgument : Alike R argument argument') :
    Alike R (.call method target [argument]) (.call method target' [argument'])

/-- Two expressions have one structure, whatever their values are. -/
abbrev SameShape : Expr → Expr → Prop := Alike fun _ _ => True

theorem Alike.length_literals {R : Json → Json → Prop} {e e' : Expr} (h : Alike R e e') :
    e.literals.length = e'.literals.length := by
  induction h with
  | field _ => rfl
  | literal _ => rfl
  | binary _ _ _ left right | logical _ _ _ left right =>
      rw [literals, literals, List.length_append, List.length_append, left, right]
  | not _ operand => exact operand
  | call _ _ _ target argument =>
      simp only [literals, literalsOfAll, List.length_append, List.length_nil, target, argument]

theorem forall₂_of_append {α : Type} {R : α → α → Prop} {a a' b b' : List α}
    (length : a.length = a'.length) (h : List.Forall₂ R (a ++ b) (a' ++ b')) :
    List.Forall₂ R a a' ∧ List.Forall₂ R b b' := by
  have first := List.forall₂_take_append _ a' b' h
  have second := List.forall₂_drop_append _ a' b' h
  rw [← length] at first second
  exact ⟨by simpa using first, by simpa using second⟩

/-- Expressions of one structure are alike if their values are related one by one. -/
theorem Alike.of_values {R : Json → Json → Prop} {e e' : Expr} (shape : SameShape e e')
    (values : List.Forall₂ R e.literals e'.literals) : Alike R e e' := by
  induction shape with
  | field names => exact .field names
  | literal _ => exact .literal (List.forall₂_cons.mp values).1
  | binary op shapeLeft _ left right =>
      obtain ⟨valuesLeft, valuesRight⟩ := forall₂_of_append shapeLeft.length_literals values
      exact .binary op (left valuesLeft) (right valuesRight)
  | logical op shapeLeft _ left right =>
      obtain ⟨valuesLeft, valuesRight⟩ := forall₂_of_append shapeLeft.length_literals values
      exact .logical op (left valuesLeft) (right valuesRight)
  | not _ operand => exact .not (operand values)
  | call method shapeTarget _ target argument =>
      obtain ⟨valuesTarget, valuesArgument⟩ := forall₂_of_append shapeTarget.length_literals values
      refine .call method (target valuesTarget) (argument ?_)
      simpa [literalsOfAll] using valuesArgument

/-! ### The forms of an expression -/

/-- The text of an expression as an operand of a comparison. -/
def operandText (n : Nat) (e : Expr) : List Char :=
  parenthesizedIf e.isCompound (e.text n)

/-- The text of an expression under a denial. -/
def deniedText (n : Nat) (e : Expr) : List Char :=
  parenthesizedIf (!e.isLogical) (e.text n)

theorem text_binary_append (op : BinaryOp) (left right : Expr) (n : Nat) (rest : List Char) :
    (Expr.binary op left right).text n ++ rest =
      left.operandText n ++ (' ' :: (op.symbol.toList ++
        (' ' :: (right.operandText (n + left.literals.length) ++ rest)))) := by
  simp [text, operandText]

theorem text_logical_append (op : LogicalOp) (left right : Expr) (n : Nat) (rest : List Char) :
    (Expr.logical op left right).text n ++ rest =
      '(' :: (left.text n ++ (' ' :: (op.keyword.toList ++
        (' ' :: (right.text (n + left.literals.length) ++ (')' :: rest)))))) := by
  simp [text, parenthesized]

theorem text_not_append (operand : Expr) (n : Nat) (rest : List Char) :
    (Expr.not operand).text n ++ rest = 'N' :: 'O' :: 'T' :: ' ' ::
      (operand.deniedText n ++ rest) := rfl

theorem text_call_append {method function : String} (known : functionFor? method = some function)
    (target argument : Expr) (n : Nat) (rest : List Char) :
    (Expr.call method target [argument]).text n ++ rest =
      function.toList ++ ('(' :: (target.text n ++ (',' :: ' ' ::
        (argument.text (n + target.literals.length) ++ (')' :: rest))))) := by
  simp [text_call known]

theorem parenthesized_append (text rest : List Char) :
    parenthesized text ++ rest = '(' :: (text ++ (')' :: rest)) := by
  simp [parenthesized]

theorem operandText_of_bare {e : Expr} (bare : e.isCompound = false) (n : Nat) :
    e.operandText n = e.text n := by
  rw [operandText, bare]
  rfl

theorem operandText_of_compound {e : Expr} (compound : e.isCompound = true) (n : Nat)
    (rest : List Char) : e.operandText n ++ rest = '(' :: (e.text n ++ (')' :: rest)) := by
  rw [operandText, compound]
  exact parenthesized_append _ rest

/-! ### Where a form starts -/

/-- What the first character of a form tells. -/
inductive Opening where
  | field | literal | bracket | denial | function
  deriving DecidableEq

/-- What a first character tells. -/
def openingOf : Char → Opening
  | 'c' => .field
  | '@' => .literal
  | '(' => .bracket
  | 'N' => .denial
  | _ => .function

/-- What the first character of a text tells, if there is one. -/
def opening? (text : List Char) : Option Opening :=
  text.head?.map openingOf

/-- How an expression starts as an operand. -/
def operandOpening : Expr → Opening
  | .field _ => .field
  | .literal _ => .literal
  | .binary _ _ _ | .not _ | .logical _ _ _ => .bracket
  | .call _ _ _ => .function

/-- How an expression starts as a predicate. -/
def textOpening : Expr → Opening
  | .binary _ left _ => left.operandOpening
  | .not _ => .denial
  | e => e.operandOpening

/-- The functions of the store start with a letter of their own. -/
theorem opening?_function {method function : String}
    (known : functionFor? method = some function) (rest : List Char) :
    opening? (function.toList ++ rest) = some .function := by
  unfold functionFor? at known
  split at known <;> cases known <;> rfl

/-- An operand starts as its node says. -/
theorem Compiles.opening?_operandText {e : Expr} (h : Compiles e) (n : Nat) (rest : List Char) :
    opening? (e.operandText n ++ rest) = some e.operandOpening := by
  cases h with
  | field path => rfl
  | literal value => rfl
  | binary _ _ _ => rw [operandText_of_compound rfl]; rfl
  | logical op _ _ => rw [operandText_of_bare rfl, text_logical_append]; rfl
  | not _ => rw [operandText_of_compound rfl]; rfl
  | call known _ _ =>
      rw [operandText_of_bare rfl, text_call_append known]
      exact opening?_function known _

/-- A predicate starts as its node says. -/
theorem Compiles.opening?_text {e : Expr} (h : Compiles e) (n : Nat) (rest : List Char) :
    opening? (e.text n ++ rest) = some e.textOpening := by
  cases h with
  | binary _ compilesLeft _ =>
      rw [text_binary_append]
      exact compilesLeft.opening?_operandText n _
  | not _ => rfl
  | field path => exact (Compiles.field path).opening?_operandText n rest
  | literal value => exact (Compiles.literal value).opening?_operandText n rest
  | logical op compilesLeft compilesRight =>
      exact (Compiles.logical op compilesLeft compilesRight).opening?_operandText n rest
  | call known compilesTarget compilesArgument =>
      exact (Compiles.call known compilesTarget compilesArgument).opening?_operandText n rest

theorem operandOpening_ne_denial (e : Expr) : e.operandOpening ≠ .denial := by
  cases e <;> exact Opening.noConfusion

/-! ### Where a form ends -/

/-- Does the text go on with a comparison: a blank, and the symbol of an operator? -/
def startsComparison : List Char → Bool
  | ' ' :: c :: _ => c == '=' || c == '!' || c == '<' || c == '>'
  | _ => false

/-- The text goes on neither with a name nor with a comparison. -/
def EndsText (rest : List Char) : Prop :=
  EndsPath rest ∧ startsComparison rest = false

theorem endsPath_cons {c : Char} {rest : List Char} (h : isNameChar c = false ∧ c ≠ '.') :
    EndsPath (c :: rest) := by
  intro d first
  obtain rfl : c = d := by simpa using first
  exact h

theorem endsPath_blank (rest : List Char) : EndsPath (' ' :: rest) :=
  endsPath_cons (by decide)

theorem endsText_close (rest : List Char) : EndsText (')' :: rest) :=
  ⟨endsPath_cons (by decide), rfl⟩

theorem endsText_comma (rest : List Char) : EndsText (',' :: rest) :=
  ⟨endsPath_cons (by decide), rfl⟩

theorem endsText_keyword (op : LogicalOp) (rest : List Char) :
    EndsText (' ' :: (op.keyword.toList ++ rest)) := by
  refine ⟨endsPath_blank _, ?_⟩
  cases op <;> rfl

theorem startsComparison_symbol {op : BinaryOp} (comparison : op.isComparison = true)
    (rest : List Char) : startsComparison (' ' :: (op.symbol.toList ++ rest)) = true := by
  cases op <;> first | rfl | cases comparison

theorem symbol_append_inj {op op' : BinaryOp} {rest rest' : List Char}
    (h : op.symbol.toList ++ (' ' :: rest) = op'.symbol.toList ++ (' ' :: rest')) :
    op = op' ∧ rest = rest' := by
  cases op <;> cases op' <;> simp_all [BinaryOp.symbol]

theorem keyword_append_inj {op op' : LogicalOp} {rest rest' : List Char}
    (h : op.keyword.toList ++ (' ' :: rest) = op'.keyword.toList ++ (' ' :: rest')) :
    op = op' ∧ rest = rest' := by
  cases op <;> cases op' <;> simp_all [LogicalOp.keyword]

theorem function_append_inj {method method' function function' : String} {rest rest' : List Char}
    (known : functionFor? method = some function) (known' : functionFor? method' = some function')
    (h : function.toList ++ ('(' :: rest) = function'.toList ++ ('(' :: rest')) :
    method = method' ∧ rest = rest' := by
  unfold functionFor? at known known'
  split at known <;> cases known <;> split at known' <;> cases known' <;> simp_all

/-! ### Forms are told apart -/

/-- A predicate is told from any other by its text, and from what follows it. -/
def UniqueText (e : Expr) : Prop :=
  ∀ n e' rest rest', Compiles e' → EndsText rest → EndsText rest' →
    e.text n ++ rest = e'.text n ++ rest' → SameShape e e' ∧ rest = rest'

/-- An operand is told from any other by its text, and from what follows it. -/
def UniqueOperand (e : Expr) : Prop :=
  ∀ n e' rest rest', Compiles e' → EndsPath rest → EndsPath rest' →
    e.operandText n ++ rest = e'.operandText n ++ rest' → SameShape e e' ∧ rest = rest'

/-- What is denied is told from anything else by its text, and from what follows it. -/
def UniqueDenied (e : Expr) : Prop :=
  ∀ n e' rest rest', Compiles e' → e.deniedText n ++ rest = e'.deniedText n ++ rest' →
    SameShape e e' ∧ rest = rest'

/-- An expression is told from any other in each of its forms. -/
structure Unique (e : Expr) : Prop where
  /-- As a predicate. -/
  text : UniqueText e
  /-- As an operand. -/
  operand : UniqueOperand e
  /-- Under a denial. -/
  denied : UniqueDenied e

section

variable {e e' left left' right right' : Expr} {n : Nat} {rest rest' : List Char}

theorem UniqueText.bracket (unique : UniqueText e) (compiles : Compiles e')
    (h : '(' :: (e.text n ++ (')' :: rest)) = '(' :: (e'.text n ++ (')' :: rest'))) :
    SameShape e e' ∧ rest = rest' := by
  obtain ⟨shape, same⟩ := unique n e' _ _ compiles (endsText_close rest) (endsText_close rest')
    (List.cons.inj h).2
  exact ⟨shape, (List.cons.inj same).2⟩

/-- A predicate in parentheses is no connective: after it they are closed. -/
theorem UniqueText.bracket_ne_logical {op : LogicalOp} (unique : UniqueText e)
    (compiles : Compiles left') :
    '(' :: (e.text n ++ (')' :: rest)) ≠ (Expr.logical op left' right').text n ++ rest' := by
  intro h
  rw [text_logical_append] at h
  have afterwards := (unique n left' _ _ compiles (endsText_close rest) (endsText_keyword op _)
    (List.cons.inj h).2).2
  exact absurd (List.cons.inj afterwards).1 (by decide)

/-- A connective is no predicate in parentheses: after its first part they are not closed. -/
theorem UniqueText.logical_ne_bracket {op : LogicalOp} (unique : UniqueText left)
    (compiles : Compiles e') :
    (Expr.logical op left right).text n ++ rest ≠ '(' :: (e'.text n ++ (')' :: rest')) := by
  intro h
  rw [text_logical_append] at h
  have afterwards := (unique n e' _ _ compiles (endsText_keyword op _) (endsText_close rest')
    (List.cons.inj h).2).2
  exact absurd (List.cons.inj afterwards).1 (by decide)

theorem UniqueText.logical {op op' : LogicalOp} (uniqueLeft : UniqueText left)
    (uniqueRight : UniqueText right) (compilesLeft : Compiles left')
    (compilesRight : Compiles right')
    (h : (Expr.logical op left right).text n ++ rest =
      (Expr.logical op' left' right').text n ++ rest') :
    SameShape (.logical op left right) (.logical op' left' right') ∧ rest = rest' := by
  rw [text_logical_append, text_logical_append] at h
  obtain ⟨shapeLeft, h⟩ := uniqueLeft n left' _ _ compilesLeft (endsText_keyword op _)
    (endsText_keyword op' _) (List.cons.inj h).2
  obtain ⟨rfl, second⟩ := keyword_append_inj (List.cons.inj h).2
  rw [shapeLeft.length_literals] at second
  obtain ⟨shapeRight, same⟩ := uniqueRight _ right' _ _ compilesRight (endsText_close rest)
    (endsText_close rest') second
  exact ⟨.logical op shapeLeft shapeRight, (List.cons.inj same).2⟩

/-- A predicate that appears as an operand as it is, is told apart as one: if a comparison went on
after it, the other would not end. -/
theorem uniqueText_of_operand (bare : e.isCompound = false) (compiles : Compiles e)
    (unique : UniqueOperand e) : UniqueText e := by
  intro n e' rest rest' compiles' ends ends' h
  have bareForm : e.operandText n ++ rest = e'.text n ++ rest' := by
    rw [operandText_of_bare bare]
    exact h
  cases compiles' with
  | @binary op left right comparison compilesLeft compilesRight =>
      rw [text_binary_append] at bareForm
      obtain ⟨-, same⟩ := unique n left _ _ compilesLeft ends.1 (endsPath_blank _) bareForm
      have goesOn := startsComparison_symbol comparison
        (' ' :: (right.operandText (n + left.literals.length) ++ rest'))
      rw [← same, ends.2] at goesOn
      cases goesOn
  | @not operand _ =>
      have starts := compiles.opening?_operandText n rest
      rw [bareForm] at starts
      exact absurd (Option.some.inj starts).symm (operandOpening_ne_denial e)
  | field path => exact unique n _ _ _ (.field path) ends.1 ends'.1 bareForm
  | literal value => exact unique n _ _ _ (.literal value) ends.1 ends'.1 bareForm
  | logical op compilesLeft compilesRight =>
      exact unique n _ _ _ (.logical op compilesLeft compilesRight) ends.1 ends'.1 bareForm
  | call known compilesTarget compilesArgument =>
      rw [← operandText_of_bare rfl] at bareForm
      exact unique n _ _ _ (.call known compilesTarget compilesArgument) ends.1 ends'.1 bareForm

/-- A predicate that appears as an operand in parentheses is told apart as one. -/
theorem uniqueOperand_of_text (compound : e.isCompound = true) (unique : UniqueText e) :
    UniqueOperand e := by
  intro n e' rest rest' compiles' _ _ h
  rw [operandText_of_compound compound] at h
  have starts := compiles'.opening?_operandText n rest'
  rw [← h] at starts
  cases compiles' with
  | field _ | literal _ | call _ _ _ => cases starts
  | binary comparison compilesLeft compilesRight =>
      rw [operandText_of_compound rfl] at h
      exact unique.bracket (.binary comparison compilesLeft compilesRight) h
  | not compilesOperand =>
      rw [operandText_of_compound rfl] at h
      exact unique.bracket (.not compilesOperand) h
  | logical op compilesLeft _ =>
      rw [operandText_of_bare rfl] at h
      exact absurd h (unique.bracket_ne_logical compilesLeft)

theorem deniedText_append_of_not_logical (h : e.isLogical = false) (n : Nat)
    (rest : List Char) : e.deniedText n ++ rest = '(' :: (e.text n ++ (')' :: rest)) := by
  rw [deniedText, h]
  exact parenthesized_append _ rest

/-- A predicate that is denied in parentheses is told apart there. -/
theorem uniqueDenied_of_text (plain : e.isLogical = false) (unique : UniqueText e) :
    UniqueDenied e := by
  intro n e' rest rest' compiles' h
  rw [deniedText_append_of_not_logical plain] at h
  by_cases plain' : e'.isLogical = false
  · rw [deniedText_append_of_not_logical plain'] at h
    exact unique.bracket compiles' h
  · cases compiles' with
    | logical op compilesLeft _ => exact absurd h (unique.bracket_ne_logical compilesLeft)
    | field _ | literal _ | binary _ _ _ | not _ | call _ _ _ => exact absurd rfl plain'

end

theorem uniqueOperand_field {reference : String} (path : isFieldPath reference = true) :
    UniqueOperand (.field reference) := by
  intro n e' rest rest' compiles' ends ends' h
  have starts := compiles'.opening?_operandText n rest'
  rw [← h] at starts
  cases compiles' with
  | literal _ | binary _ _ _ | not _ | logical _ _ _ | call _ _ _ => cases starts
  | field path' =>
      obtain ⟨names, same⟩ := fieldText_append_inj path path' ends ends' h
      exact ⟨.field names, same⟩

theorem uniqueOperand_literal (value : Json) : UniqueOperand (.literal value) := by
  intro n e' rest rest' compiles' _ _ h
  have starts := compiles'.opening?_operandText n rest'
  rw [← h] at starts
  cases compiles' with
  | field _ | binary _ _ _ | not _ | logical _ _ _ | call _ _ _ => cases starts
  | literal value' => exact ⟨.literal trivial, List.append_cancel_left h⟩

/-- A call is told apart as an operand. -/
theorem uniqueOperand_call {method function : String} {target argument : Expr}
    (known : functionFor? method = some function) (uniqueTarget : UniqueText target)
    (uniqueArgument : UniqueText argument) : UniqueOperand (.call method target [argument]) := by
  intro n e' rest rest' compiles' _ _ h
  rw [operandText_of_bare rfl, text_call_append known] at h
  have starts := compiles'.opening?_operandText n rest'
  rw [← h, opening?_function known] at starts
  cases compiles' with
  | field _ | literal _ | binary _ _ _ | not _ | logical _ _ _ => cases starts
  | @call method' function' target' argument' known' compilesTarget compilesArgument =>
      rw [operandText_of_bare rfl, text_call_append known'] at h
      obtain ⟨rfl, h⟩ := function_append_inj known known' h
      obtain ⟨shapeTarget, h⟩ := uniqueTarget n target' _ _ compilesTarget (endsText_comma _)
        (endsText_comma _) h
      simp only [List.cons.injEq, true_and, shapeTarget.length_literals] at h
      obtain ⟨shapeArgument, h⟩ := uniqueArgument _ argument' _ _ compilesArgument
        (endsText_close rest) (endsText_close rest') h
      exact ⟨.call method shapeTarget shapeArgument, (List.cons.inj h).2⟩

/-- A connective is told apart as an operand. -/
theorem uniqueOperand_logical (op : LogicalOp) {left right : Expr} (uniqueLeft : UniqueText left)
    (uniqueRight : UniqueText right) : UniqueOperand (.logical op left right) := by
  intro n e' rest rest' compiles' _ _ h
  rw [operandText_of_bare rfl] at h
  have starts := compiles'.opening?_operandText n rest'
  rw [← h] at starts
  cases compiles' with
  | field _ | literal _ | call _ _ _ => cases starts
  | binary comparison compilesLeft compilesRight =>
      rw [operandText_of_compound rfl] at h
      exact absurd h (uniqueLeft.logical_ne_bracket (.binary comparison compilesLeft compilesRight))
  | not compilesOperand =>
      rw [operandText_of_compound rfl] at h
      exact absurd h (uniqueLeft.logical_ne_bracket (.not compilesOperand))
  | logical op' compilesLeft compilesRight =>
      rw [operandText_of_bare rfl] at h
      exact uniqueLeft.logical uniqueRight compilesLeft compilesRight h

theorem uniqueDenied_logical (op : LogicalOp) {left right : Expr} (uniqueLeft : UniqueText left)
    (uniqueRight : UniqueText right) : UniqueDenied (.logical op left right) := by
  intro n e' rest rest' compiles' h
  by_cases plain' : e'.isLogical = false
  · rw [deniedText_append_of_not_logical plain'] at h
    exact absurd h (uniqueLeft.logical_ne_bracket compiles')
  · cases compiles' with
    | logical op' compilesLeft compilesRight =>
        exact uniqueLeft.logical uniqueRight compilesLeft compilesRight h
    | field _ | literal _ | binary _ _ _ | not _ | call _ _ _ => exact absurd rfl plain'

/-- A comparison is told apart as a predicate. -/
theorem uniqueText_binary {op : BinaryOp} {left right : Expr}
    (comparison : op.isComparison = true) (compilesLeft : Compiles left)
    (uniqueLeft : UniqueOperand left) (uniqueRight : UniqueOperand right) :
    UniqueText (.binary op left right) := by
  intro n e' rest rest' compiles' ends ends' h
  rw [text_binary_append] at h
  by_cases bare : e'.isCompound = false
  · -- the other ends where a comparison goes on here
    rw [← operandText_of_bare bare] at h
    obtain ⟨-, same⟩ := uniqueLeft n e' _ _ compiles' (endsPath_blank _) ends'.1 h
    have goesOn := startsComparison_symbol comparison
      (' ' :: (right.operandText (n + left.literals.length) ++ rest))
    rw [same, ends'.2] at goesOn
    cases goesOn
  · cases compiles' with
    | field _ | literal _ | logical _ _ _ | call _ _ _ => exact absurd rfl bare
    | not _ =>
        have starts := compilesLeft.opening?_operandText n (' ' :: (op.symbol.toList ++
          (' ' :: (right.operandText (n + left.literals.length) ++ rest))))
        rw [h] at starts
        exact absurd (Option.some.inj starts).symm (operandOpening_ne_denial left)
    | @binary op' left' right' _ compilesLeft' compilesRight' =>
        rw [text_binary_append] at h
        obtain ⟨shapeLeft, h⟩ := uniqueLeft n left' _ _ compilesLeft' (endsPath_blank _)
          (endsPath_blank _) h
        obtain ⟨rfl, second⟩ := symbol_append_inj (List.cons.inj h).2
        rw [shapeLeft.length_literals] at second
        obtain ⟨shapeRight, same⟩ := uniqueRight _ right' _ _ compilesRight' ends.1 ends'.1 second
        exact ⟨.binary op shapeLeft shapeRight, same⟩

theorem uniqueText_not {operand : Expr} (unique : UniqueDenied operand) :
    UniqueText (.not operand) := by
  intro n e' rest rest' compiles' _ _ h
  have starts := compiles'.opening?_text n rest'
  rw [← h, text_not_append] at starts
  have denial : e'.textOpening = .denial := (Option.some.inj starts).symm
  cases compiles' with
  | field _ | literal _ | logical _ _ _ | call _ _ _ => cases denial
  | binary _ _ _ => exact absurd denial (operandOpening_ne_denial _)
  | @not operand' compilesOperand =>
      rw [text_not_append, text_not_append] at h
      simp only [List.cons.injEq, true_and] at h
      obtain ⟨shape, same⟩ := unique n operand' rest rest' compilesOperand h
      exact ⟨.not shape, same⟩

/-- **Every expression that compiles is told from any other**, in each of its forms. -/
theorem Compiles.unique {e : Expr} (h : Compiles e) : Unique e := by
  induction h with
  | field path =>
      have operand := uniqueOperand_field path
      have text := uniqueText_of_operand rfl (.field path) operand
      exact ⟨text, operand, uniqueDenied_of_text rfl text⟩
  | literal value =>
      have operand := uniqueOperand_literal value
      have text := uniqueText_of_operand rfl (.literal value) operand
      exact ⟨text, operand, uniqueDenied_of_text rfl text⟩
  | binary comparison compilesLeft _ left right =>
      have text := uniqueText_binary comparison compilesLeft left.operand right.operand
      exact ⟨text, uniqueOperand_of_text rfl text, uniqueDenied_of_text rfl text⟩
  | logical op compilesLeft compilesRight left right =>
      have operand := uniqueOperand_logical op left.text right.text
      exact ⟨uniqueText_of_operand rfl (.logical op compilesLeft compilesRight) operand, operand,
        uniqueDenied_logical op left.text right.text⟩
  | not _ operand =>
      have text := uniqueText_not operand.denied
      exact ⟨text, uniqueOperand_of_text rfl text, uniqueDenied_of_text rfl text⟩
  | call known compilesTarget compilesArgument target argument =>
      have operand := uniqueOperand_call known target.text argument.text
      have text := uniqueText_of_operand rfl (.call known compilesTarget compilesArgument) operand
      exact ⟨text, operand, uniqueDenied_of_text rfl text⟩

end Expr

/-! ### Plans -/

/-- Two orders are the same up to the spelling of names. -/
def Order.Alike (order order' : Order) : Prop :=
  storedNames order.reference = storedNames order'.reference ∧
    order.descending = order'.descending

/-- Two plans ask for the same, with pages of a size: predicates with related values, orders that
are the same up to the spelling of names, and one window. -/
structure Plan.Alike (R : Json → Json → Prop) (pageSize : Nat) (plan plan' : Plan) : Prop where
  /-- The predicates have one structure and related values, or both are missing. -/
  filter : Option.Rel (Expr.Alike R) plan.filter plan'.filter
  /-- The orders are the same, or both are missing. -/
  order : Option.Rel Order.Alike plan.order plan'.order
  /-- As many documents are left out. -/
  skip : plan.skip.getD 0 = plan'.skip.getD 0
  /-- As many are returned at most. -/
  take : plan.take.getD pageSize = plan'.take.getD pageSize

theorem windowText_inj {skip take skip' take' : Nat}
    (h : windowText skip take = windowText skip' take') : skip = skip' ∧ take = take' := by
  have blank : ∀ rest, ∀ c ∈ (" LIMIT ".toList ++ rest).head?, Char.isDigit c = false := by
    intro rest c first
    obtain rfl : ' ' = c := by simpa using first
    decide
  have digits : ∀ n, (Text.natChars n).all Char.isDigit = true := fun n =>
    List.all_eq_true.mpr fun c mem => Text.isDigit_of_mem_natChars mem
  rw [windowText_eq, windowText_eq] at h
  obtain ⟨skips, rest⟩ := Text.append_inj_of_all (digits skip) (digits skip') (blank _) (blank _)
    (List.append_cancel_left h)
  exact ⟨Text.natChars_injective skips, Text.natChars_injective (List.append_cancel_left rest)⟩

theorem keyword_window_inj {order order' : Order} {rest rest' : List Char}
    (h : order.keyword.toList ++ (' ' :: rest) = order'.keyword.toList ++ (' ' :: rest')) :
    order.descending = order'.descending ∧ rest = rest' := by
  unfold Order.keyword at h
  cases descending : order.descending <;> cases descending' : order'.descending <;>
    simp_all

/-- Orders with the windows after them are told apart. -/
theorem orderText_windowText_inj {order order' : Option Order} {skip take skip' take' : Nat}
    (paths : ∀ o ∈ order, isFieldPath o.reference = true)
    (paths' : ∀ o ∈ order', isFieldPath o.reference = true)
    (h : orderText order ++ windowText skip take = orderText order' ++ windowText skip' take') :
    Option.Rel Order.Alike order order' ∧ skip = skip' ∧ take = take' := by
  cases order with
  | none =>
      cases order' with
      | none => exact ⟨.none, windowText_inj h⟩
      | some order' =>
          rw [orderText_some, windowText_eq] at h
          have third : some 'F' = some 'R' := congrArg (fun text => text[2]?) h
          cases third
  | some order =>
      cases order' with
      | none =>
          rw [orderText_some, orderText_none, List.nil_append, windowText_eq skip' take'] at h
          have third : some 'R' = some 'F' := congrArg (fun text => text[2]?) h
          cases third
      | some order' =>
          simp only [orderText_some, List.append_assoc, List.cons_append] at h
          obtain ⟨names, keywords⟩ := fieldText_append_inj (paths order rfl) (paths' order' rfl)
            (Expr.endsPath_blank _) (Expr.endsPath_blank _) (List.append_cancel_left h)
          obtain ⟨descending, windows⟩ := keyword_window_inj (List.cons.inj keywords).2
          exact ⟨.some ⟨names, descending⟩, windowText_inj (congrArg (List.cons ' ') windows)⟩

/-- An order and a window start with a blank and the same letter. -/
theorem orderText_windowText_eq_cons (order : Option Order) (skip take : Nat) :
    ∃ rest, orderText order ++ windowText skip take = ' ' :: 'O' :: rest := by
  cases order with
  | none =>
      rw [orderText_none, List.nil_append, windowText_eq]
      exact ⟨_, rfl⟩
  | some order =>
      rw [orderText_some, List.append_assoc]
      exact ⟨_, rfl⟩

/-- Predicates with the orders and windows after them are told apart. -/
theorem whereText_inj {filter filter' : Option Expr} {order order' : Option Order}
    {skip take skip' take' : Nat} (compiles : ∀ e ∈ filter, e.Compiles)
    (compiles' : ∀ e ∈ filter', e.Compiles)
    (h : whereText filter ++ (orderText order ++ windowText skip take) =
      whereText filter' ++ (orderText order' ++ windowText skip' take')) :
    Option.Rel Expr.SameShape filter filter' ∧
      orderText order ++ windowText skip take = orderText order' ++ windowText skip' take' := by
  obtain ⟨rest, starts⟩ := orderText_windowText_eq_cons order skip take
  obtain ⟨rest', starts'⟩ := orderText_windowText_eq_cons order' skip' take'
  rw [starts, starts'] at h ⊢
  cases filter with
  | none =>
      cases filter' with
      | none => exact ⟨.none, h⟩
      | some e' =>
          have second : some 'O' = some 'W' := congrArg (fun text => text[1]?) h
          cases second
  | some e =>
      cases filter' with
      | none =>
          have second : some 'W' = some 'O' := congrArg (fun text => text[1]?) h
          cases second
      | some e' =>
          rw [whereText_some, whereText_some, List.append_assoc, List.append_assoc] at h
          obtain ⟨shape, same⟩ := (compiles e rfl).unique.text 0 e' _ _ (compiles' e' rfl)
            ⟨Expr.endsPath_blank _, rfl⟩ ⟨Expr.endsPath_blank _, rfl⟩ (List.append_cancel_left h)
          exact ⟨.some shape, same⟩

theorem filter_alike {R : Json → Json → Prop} {filter filter' : Option Expr}
    (shape : Option.Rel Expr.SameShape filter filter')
    (values : List.Forall₂ R (literalsOf filter) (literalsOf filter')) :
    Option.Rel (Expr.Alike R) filter filter' := by
  cases shape with
  | none => exact .none
  | some shape => exact .some (.of_values shape values)

/-- **Compiled text is unambiguous.** Plans that compile to one text, with parameters whose values
are related one by one, ask for the same. In particular statements that are equal come from
predicates that are equal up to the spelling of names, whether equality of values is that of
`Json.equiv` or literal equality. -/
theorem compile_unambiguous (R : Json → Json → Prop) (pageSize : Nat) (plan plan' : Plan)
    (statement statement' : Statement) (compiled : compile pageSize plan = .ok statement)
    (compiled' : compile pageSize plan' = .ok statement') (text : statement.text = statement'.text)
    (parameters : List.Forall₂ (fun p p' => p.name = p'.name ∧ R p.value p'.value)
      statement.parameters statement'.parameters) : plan.Alike R pageSize plan' := by
  obtain ⟨compiles, paths, rfl⟩ := compile_eq_ok compiled
  obtain ⟨compiles', paths', rfl⟩ := compile_eq_ok compiled'
  have texts := String.ofList_injective text
  rw [List.append_assoc, List.append_assoc, List.append_assoc, List.append_assoc] at texts
  obtain ⟨shape, rest⟩ := whereText_inj compiles compiles' (List.append_cancel_left texts)
  obtain ⟨order, skip, take⟩ := orderText_windowText_inj paths paths' rest
  have values : List.Forall₂ R (literalsOf plan.filter) (literalsOf plan'.filter) := by
    rw [← map_value_parametersFor (literalsOf plan.filter),
      ← map_value_parametersFor (literalsOf plan'.filter), List.forall₂_map_left_iff,
      List.forall₂_map_right_iff]
    exact parameters.imp fun p p' related => related.2
  exact ⟨filter_alike shape values, order, skip, take⟩

/-- Predicates that differ in the spelling of a name alone compile to one statement. -/
theorem compile_unambiguous_spelling :
    let plan : Plan := { filter := some ((Expr.compare "UserID" .eq (.str "u1")).and
      (.not (.compare "Level" .gt (.int 3)))), order := some ⟨"level", true⟩, skip := some 0 }
    let plan' : Plan := { filter := some ((Expr.compare "userID" .eq (.str "u1")).and
      (.not (.compare "level" .gt (.int 3)))), order := some ⟨"Level", true⟩, take := some 50 }
    ∃ statement statement', compile 50 plan = .ok statement ∧
      compile 50 plan' = .ok statement' ∧ statement.text = statement'.text ∧
      plan.Alike Eq 50 plan' := by
  intro plan plan'
  have text : (Projection.documents.text ++ whereText plan.filter ++ orderText plan.order ++
        windowText (plan.skip.getD 0) (plan.take.getD 50)) =
      (Projection.documents.text ++ whereText plan'.filter ++ orderText plan'.order ++
        windowText (plan'.skip.getD 0) (plan'.take.getD 50)) := by
    decide +kernel
  refine ⟨_, _, rfl, rfl, congrArg String.ofList text, ?_⟩
  refine compile_unambiguous Eq 50 plan plan' _ _ rfl rfl (congrArg String.ofList text) ?_
  exact List.forall₂_same.mpr fun p _ => ⟨rfl, rfl⟩

end DocumentClient.Query
