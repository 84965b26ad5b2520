import DocumentClient.Proofs.Query.Conjunctions

/-!
# DocumentClient.Proofs.Query.Keywords

**The clauses of a statement are cut apart at their keywords**, whatever its predicate is: the
keywords of an order and of a window start nowhere in the text of an expression that compiles. Both
start with a blank and the same letter, and so does the connective `OR`; another letter after it
tells them from the connective (`NoConnective`).

That a keyword does not start in a text is said by `Text.Skips`, which knows what follows the text:
a keyword might start at the end of one part and go on in the next. The keyword is therefore given
by its first two characters and any others, and what is shown holds whatever comes behind.

* `Expr.Compiles.skips` is the induction over the expression. The blank in front of its text is
  part of what is shown, since a keyword could start there. No word of the text starts with the
  letter of the keywords but the connective, and a value is written as the name of a parameter.
* `skips_whereText` and `skips_orderText` are about clauses; `ofText_whereText` and
  `ofText_withWindow` cut a statement into them.
-/

namespace DocumentClient.Query

/-! ### Where keywords start -/

/-- How a keyword goes on after a blank and its first letter, if it is not the connective that
starts with that letter. -/
def NoConnective (more : List Char) : Prop :=
  ∀ rest, ¬more <+: 'R' :: ' ' :: rest

theorem noConnective_offset : NoConnective "FFSET ".toList :=
  fun _ starts => absurd (List.cons_prefix_cons.mp starts).1 (by decide)

theorem noConnective_orderBy : NoConnective "RDER BY ".toList :=
  fun _ starts =>
    absurd (List.cons_prefix_cons.mp (List.cons_prefix_cons.mp starts).2).1 (by decide)

section Keyword

variable {more : List Char}

/-- A keyword does not start in a word with another first letter, nor at the blank before it. -/
theorem skips_word {c : Char} {word : List Char} (other : 'O' ≠ c) (plain : ' ' ∉ c :: word)
    (rest : List Char) : Text.Skips (' ' :: 'O' :: more) (' ' :: c :: word) rest :=
  .blank other (.of_not_mem plain rest)

theorem skips_parenthesizedIf {text : List Char}
    (skips : ∀ rest, Text.Skips (' ' :: 'O' :: more) (' ' :: text) rest) (condition : Bool)
    (rest : List Char) :
    Text.Skips (' ' :: 'O' :: more) (' ' :: Expr.parenthesizedIf condition text) rest := by
  cases condition with
  | false => exact skips rest
  | true =>
      have parts : ' ' :: Expr.parenthesizedIf true text = [' ', '('] ++ (text ++ [')']) := rfl
      rw [parts, Text.Skips.append_iff, Text.Skips.append_iff]
      exact ⟨skips_word (by decide) (by decide) _, (skips _).2, .of_not_mem (by decide) rest⟩

theorem skips_connective (different : NoConnective more) (op : LogicalOp) (rest : List Char) :
    Text.Skips (' ' :: 'O' :: more) (' ' :: op.keyword.toList) (' ' :: rest) := by
  cases op with
  | and => exact skips_word (by decide) (by decide) _
  | or =>
      refine ⟨fun starts => different rest ?_, .of_not_mem (by decide) _⟩
      exact (List.cons_prefix_cons.mp (List.cons_prefix_cons.mp starts).2).2

/-- **The keyword of a clause starts nowhere in the text of an expression**, and not at a blank in
front of it. -/
theorem Expr.Compiles.skips {e : Expr} (h : e.Compiles) (different : NoConnective more) (n : Nat)
    (rest : List Char) : Text.Skips (' ' :: 'O' :: more) (' ' :: e.text n) rest := by
  induction h generalizing n rest with
  | field path => exact skips_word (by decide) (blank_not_mem_fieldText path) rest
  | literal value => exact skips_word (by decide) (blank_not_mem_parameterName n) rest
  | @binary op left right _ _ _ ihLeft ihRight =>
      have symbol : ∀ rest, Text.Skips (' ' :: 'O' :: more) (' ' :: op.symbol.toList) rest := by
        cases op <;> exact skips_word (by decide) (by decide)
      have parts : ' ' :: (Expr.binary op left right).text n =
          ' ' :: parenthesizedIf left.isCompound (left.text n) ++ (' ' :: op.symbol.toList ++
            ' ' :: parenthesizedIf right.isCompound (right.text (n + left.literals.length))) := by
        simp [text]
      rw [parts, Text.Skips.append_iff, Text.Skips.append_iff]
      exact ⟨skips_parenthesizedIf (ihLeft n) _ _, symbol _,
        skips_parenthesizedIf (ihRight _) _ rest⟩
  | @logical op left right _ _ ihLeft ihRight =>
      have parts : ' ' :: (Expr.logical op left right).text n =
          [' ', '('] ++ (left.text n ++ (' ' :: op.keyword.toList ++
            (' ' :: right.text (n + left.literals.length) ++ [')']))) := by
        simp [text, parenthesized]
      simp only [parts, Text.Skips.append_iff]
      exact ⟨skips_word (by decide) (by decide) _, (ihLeft n _).2,
        skips_connective different op _, ihRight _ _, .of_not_mem (by decide) rest⟩
  | @not operand _ ih =>
      have parts : ' ' :: (Expr.not operand).text n =
          " NOT".toList ++ (' ' :: parenthesizedIf (!operand.isLogical) (operand.text n)) := rfl
      rw [parts, Text.Skips.append_iff]
      exact ⟨skips_word (by decide) (by decide) _, skips_parenthesizedIf (ih n) _ rest⟩
  | @call method function target argument known _ _ ihTarget ihArgument =>
      have name : ∀ rest, Text.Skips (' ' :: 'O' :: more) (' ' :: function.toList) rest := by
        unfold functionFor? at known
        split at known <;> cases known <;> exact skips_word (by decide) (by decide)
      have parts : ' ' :: (Expr.call method target [argument]).text n =
          (' ' :: function.toList) ++ (['('] ++ (target.text n ++ ([','] ++
            (' ' :: argument.text (n + target.literals.length) ++ [')'])))) := by
        simp [text_call known]
      simp only [parts, Text.Skips.append_iff]
      exact ⟨name _, .of_not_mem (by decide) _, (ihTarget n _).2, .of_not_mem (by decide) _,
        ihArgument _ _, .of_not_mem (by decide) rest⟩

end Keyword

section Parts

variable {filter : Option Expr} {order : Option Order} {rest : List Char}

/-- A keyword does not start in the text of a predicate with its own keyword either. -/
theorem skips_whereText (compiles : ∀ e ∈ filter, e.Compiles) {more : List Char}
    (different : NoConnective more) (rest : List Char) :
    Text.Skips (' ' :: 'O' :: more) (whereText filter) rest := by
  cases filter with
  | none => trivial
  | some e =>
      have parts : whereText (some e) = " WHERE".toList ++ (' ' :: e.text 0) := rfl
      rw [parts, Text.Skips.append_iff]
      exact ⟨skips_word (by decide) (by decide) _, (compiles e rfl).skips different 0 rest⟩

/-- The keyword of a window does not start in the text of an order. -/
theorem skips_orderText (path : ∀ o ∈ order, isFieldPath o.reference = true)
    (ends : Text.EndsWord rest) : Text.Skips " OFFSET ".toList (orderText order) rest := by
  cases order with
  | none => trivial
  | some order =>
      have text : orderText (some order) = Text.spaced
          ["ORDER".toList, "BY".toList, fieldText order.reference, order.keyword.toList] := by
        rw [orderText_some]
        simp [Text.spaced]
      have keyword : ' ' ∉ order.keyword.toList ∧ order.keyword.toList ≠ "OFFSET".toList := by
        unfold Order.keyword
        split <;> decide
      rw [text]
      refine @Text.Skips.spaced _ "OFFSET".toList [] _ (by decide) ?_ ends
      refine List.forall_mem_cons.mpr ⟨by decide, List.forall_mem_cons.mpr ⟨by decide, ?_⟩⟩
      refine List.forall_mem_cons.mpr ⟨⟨blank_not_mem_fieldText (path order rfl), ?_⟩, ?_⟩
      · exact fieldText_ne _ (by decide)
      · exact List.forall_mem_singleton.mpr keyword

/-! ### Cutting the text -/

/-- The text of an order without its keyword. -/
def orderBody (order : Order) : List Char :=
  fieldText order.reference ++ ' ' :: order.keyword.toList

/-- The text of a window without its first keyword. -/
def windowBody (skip take : Nat) : List Char :=
  Text.natChars skip ++ (" LIMIT ".toList ++ Text.natChars take)

theorem cutAt_of_skips {keyword text : List Char} (pos : keyword ≠ [])
    (h : Text.Skips keyword text []) : cutAt keyword text = (text, none) := by
  rw [cutAt, h.splitOnce?_eq_none pos]

theorem cutAt_append {keyword text after : List Char}
    (h : Text.Skips keyword text (keyword ++ after)) :
    cutAt keyword (text ++ (keyword ++ after)) = (text, some after) := by
  rw [cutAt, h.splitOnce?_append]

/-- **A predicate alone** has neither an order nor a window after it. -/
theorem ofText_whereText (compiles : ∀ e ∈ filter, e.Compiles) :
    TextParts.ofText (whereText filter) = ⟨whereText filter, none, none⟩ := by
  have window := @cutAt_of_skips " OFFSET ".toList _ (by decide)
    (skips_whereText compiles noConnective_offset [])
  have order := @cutAt_of_skips " ORDER BY ".toList _ (by decide)
    (skips_whereText compiles noConnective_orderBy [])
  simp only [TextParts.ofText, window, order]

/-- **A predicate with an order and a window** is cut into the three. -/
theorem ofText_withWindow (compiles : ∀ e ∈ filter, e.Compiles)
    (path : ∀ o ∈ order, isFieldPath o.reference = true) (skip take : Nat) :
    TextParts.ofText (whereText filter ++ orderText order ++ windowText skip take) =
      ⟨whereText filter, order.map orderBody, some (windowBody skip take)⟩ := by
  have window : cutAt " OFFSET ".toList
      (whereText filter ++ orderText order ++ windowText skip take) =
        (whereText filter ++ orderText order, some (windowBody skip take)) := by
    rw [windowText_eq]
    refine cutAt_append (Text.Skips.append_iff.mpr ⟨?_, ?_⟩)
    · exact skips_whereText compiles noConnective_offset _
    · exact skips_orderText path (.cons _)
  have ordered : cutAt " ORDER BY ".toList (whereText filter ++ orderText order) =
      (whereText filter, order.map orderBody) := by
    cases order with
    | none =>
        rw [orderText_none, List.append_nil]
        exact cutAt_of_skips (by decide) (skips_whereText compiles noConnective_orderBy [])
    | some order =>
        rw [orderText_some]
        exact cutAt_append (skips_whereText compiles noConnective_orderBy _)
  simp only [TextParts.ofText, window, ordered]

end Parts

end DocumentClient.Query
