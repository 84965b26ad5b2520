import DocumentClient.Proofs.Query.Conjunctions
import Mathlib.Data.List.Basic

/-!
# DocumentClient.Proofs.Query.Pieces

**The text of a predicate without its parentheses, as pieces.** The evaluation drops all parentheses
before it looks at a predicate, and what is left says nothing of how it was grouped: a field, a
parameter, the symbol of an operator and the like, one after the other in the order of the
expression.

* `Expr.pieces` lists them; `Expr.Compiles.bare_text` says that they are the text.
* `Phrase` says how pieces follow each other, which is all that cutting the text needs to know
  about the expression: `Expr.Compiles.phrase` derives it, and everything else goes by induction
  on it.
* `Phrase.skips` and `Phrase.skips_denial` find the places at which a word between blanks and the
  keyword of a denial occur: only where there is a piece for them.
* `Phrase.splitAll` cuts the text into clauses where the pieces are cut at the conjunctions.

## Proof shape

The evaluation looks for words in a text, and a word might occur where no piece is: across two
pieces, or inside of one. The pieces that are words stand between blanks, and no other piece holds a
blank (`blank_not_mem_of_value`, `blank_not_mem_function`), so that an occurrence has to start at
the blank of a piece; behind that blank a phrase starts, and no word goes on as it does
(`OpensPhrase`). The keyword of a denial has a blank behind it and none in front. It may therefore
be the end of a field, with the blank of the next piece behind it, and such pieces are taken for a
denial too (`Denies`).
-/

namespace DocumentClient.Query

/-! ### Pieces -/

/-- A piece of the text of a predicate without parentheses. -/
inductive Piece where
  /-- The text of a field. -/
  | field (reference : String)
  /-- The name of a parameter. -/
  | parameter (number : Nat)
  /-- The symbol of an operator, between blanks. -/
  | symbol (op : BinaryOp)
  /-- The keyword of a connective, between blanks. -/
  | keyword (op : LogicalOp)
  /-- The keyword of a denial. -/
  | denial
  /-- The name of a function, in front of its operands. -/
  | function (method : String)
  /-- What stands between the operands of a function. -/
  | comma
  deriving DecidableEq

namespace Piece

/-- The text of a piece. -/
def text : Piece → List Char
  | .field reference => fieldText reference
  | .parameter number => Expr.parameterName number
  | .symbol op => ' ' :: (op.symbol.toList ++ [' '])
  | .keyword op => ' ' :: (op.keyword.toList ++ [' '])
  | .denial => "NOT ".toList
  | .function method => ((functionFor? method).getD method).toList
  | .comma => ", ".toList

/-- The text of pieces, one after the other. -/
def textOf (pieces : List Piece) : List Char :=
  pieces.flatMap text

theorem textOf_append (a b : List Piece) : textOf (a ++ b) = textOf a ++ textOf b :=
  List.flatMap_append

theorem textOf_cons (piece : Piece) (pieces : List Piece) :
    textOf (piece :: pieces) = piece.text ++ textOf pieces := rfl

theorem infix_textOf {part pieces : List Piece} (h : part <:+: pieces) :
    textOf part <:+: textOf pieces := by
  obtain ⟨before, after, rfl⟩ := h
  exact ⟨textOf before, textOf after, by simp only [textOf_append]⟩

/-- The pieces that stand for a value. -/
def IsValue : Piece → Prop
  | .field reference => isFieldPath reference = true
  | .parameter _ => True
  | _ => False

/-- The pieces that stand in front of others. -/
def IsMark : Piece → Prop
  | .denial => True
  | .function method => (functionFor? method).isSome = true
  | _ => False

/-- The pieces that stand between others. -/
def IsLink : Piece → Prop
  | .symbol _ | .keyword _ | .comma => True
  | _ => False

theorem not_isLink {piece : Piece} (h : piece.IsValue ∨ piece.IsMark) : ¬piece.IsLink := by
  cases piece <;> simp_all [IsValue, IsMark, IsLink]

/-- The word between blanks that a piece is, if it is one. -/
def word? : Piece → Option (List Char)
  | .symbol op => some op.symbol.toList
  | .keyword op => some op.keyword.toList
  | _ => none

end Piece

open Piece

mutual
/-- The pieces of the text of an expression, in which the first literal has the number `n`. -/
def Expr.pieces (n : Nat) : Expr → List Piece
  | .field reference => [.field reference]
  | .literal _ => [.parameter n]
  | .binary op left right =>
    left.pieces n ++ .symbol op :: right.pieces (n + left.literals.length)
  | .logical op left right =>
    left.pieces n ++ .keyword op :: right.pieces (n + left.literals.length)
  | .not operand => .denial :: operand.pieces n
  | .call method target arguments =>
    .function method :: (target.pieces n ++
      Expr.argumentPieces (n + target.literals.length) arguments)
/-- The pieces of arguments, each after a comma. -/
def Expr.argumentPieces (n : Nat) : List Expr → List Piece
  | [] => []
  | e :: es => .comma :: (e.pieces n ++ Expr.argumentPieces (n + e.literals.length) es)
end

theorem Expr.pieces_call (method : String) (target argument : Expr) (n : Nat) :
    (Expr.call method target [argument]).pieces n =
      .function method :: (target.pieces n ++
        .comma :: argument.pieces (n + target.literals.length)) := by
  simp [pieces, argumentPieces]

/-! ### The text without parentheses -/

theorem bare_append (a b : List Char) : bare (a ++ b) = bare a ++ bare b :=
  List.filter_append a b

theorem bare_parenthesizedIf (condition : Bool) (text : List Char) :
    bare (Expr.parenthesizedIf condition text) = bare text := by
  cases condition <;> simp [bare, Expr.parenthesizedIf, Expr.parenthesized]

theorem bare_fieldText {reference : String} (path : isFieldPath reference = true) :
    bare (fieldText reference) = fieldText reference := by
  refine bare_eq_self fun c mem => ?_
  have other := isNameChar_of_mem_fieldText path mem
  constructor <;> rintro rfl <;> exact absurd other (by decide)

theorem bare_parameterName (n : Nat) :
    bare (Expr.parameterName n) = Expr.parameterName n := by
  refine bare_eq_self fun c mem => ?_
  have other := of_mem_parameterName mem
  constructor <;> rintro rfl <;> exact absurd other (by decide)

theorem Piece.bare_text_of_word {piece : Piece} (isWord : piece.word?.isSome = true) :
    bare piece.text = piece.text := by
  cases piece with
  | symbol op => cases op <;> decide
  | keyword op => cases op <;> decide
  | _ => cases isWord

/-- **Without its parentheses the text of an expression is that of its pieces.** -/
theorem Expr.Compiles.bare_text {e : Expr} (h : e.Compiles) (n : Nat) :
    bare (e.text n) = textOf (e.pieces n) := by
  induction h generalizing n with
  | field path => exact (bare_fieldText path).trans (List.append_nil _).symm
  | literal value => exact (bare_parameterName n).trans (List.append_nil _).symm
  | @binary op left right _ _ _ ihLeft ihRight =>
      have parts : (Expr.binary op left right).text n =
          Expr.parenthesizedIf left.isCompound (left.text n) ++ ((Piece.symbol op).text ++
            Expr.parenthesizedIf right.isCompound (right.text (n + left.literals.length))) := by
        simp [Expr.text, Piece.text]
      rw [parts, bare_append, bare_append, bare_parenthesizedIf, bare_parenthesizedIf, ihLeft,
        ihRight, Piece.bare_text_of_word rfl, Expr.pieces, textOf_append, textOf_cons]
  | @logical op left right _ _ ihLeft ihRight =>
      have parts : (Expr.logical op left right).text n = Expr.parenthesizedIf true
          (left.text n ++ ((Piece.keyword op).text ++
            right.text (n + left.literals.length))) := by
        simp [Expr.text, Piece.text, Expr.parenthesizedIf]
      rw [parts, bare_parenthesizedIf, bare_append, bare_append, ihLeft, ihRight,
        Piece.bare_text_of_word rfl, Expr.pieces, textOf_append, textOf_cons]
  | @not operand _ ih =>
      have keyword : bare "NOT ".toList = Piece.denial.text := by decide
      rw [Expr.text, Expr.pieces, bare_append, bare_parenthesizedIf, ih, keyword, textOf_cons]
  | @call method function target argument known _ _ ihTarget ihArgument =>
      have parts : (Expr.call method target [argument]).text n =
          (Piece.function method).text ++ Expr.parenthesizedIf true
            (target.text n ++ (Piece.comma.text ++
              argument.text (n + target.literals.length))) := by
        simp [text_call known, Piece.text, known, Expr.parenthesizedIf, Expr.parenthesized]
      have name : bare (Piece.function method).text = (Piece.function method).text := by
        rw [Piece.text, known, Option.getD_some]
        unfold functionFor? at known
        split at known <;> cases known <;> decide
      have comma : bare Piece.comma.text = Piece.comma.text := by decide
      rw [parts, bare_append, name, bare_parenthesizedIf, bare_append, bare_append, ihTarget,
        comma, ihArgument, Expr.pieces_call, textOf_cons, textOf_append, textOf_cons]

/-! ### Phrases -/

/-- Pieces that follow each other as in the text of an expression. -/
inductive Phrase : List Piece → Prop
  /-- A value. -/
  | value {value : Piece} (isValue : value.IsValue) : Phrase [value]
  /-- A mark in front of a phrase. -/
  | mark {mark : Piece} {pieces : List Piece} (isMark : mark.IsMark) (phrase : Phrase pieces) :
    Phrase (mark :: pieces)
  /-- A value that is linked to a phrase. -/
  | link {value link : Piece} {pieces : List Piece} (isValue : value.IsValue)
    (isLink : link.IsLink) (phrase : Phrase pieces) : Phrase (value :: link :: pieces)

theorem Phrase.append {first second : List Piece} {link : Piece} (h : Phrase first)
    (isLink : link.IsLink) (h' : Phrase second) : Phrase (first ++ link :: second) := by
  induction h with
  | value isValue => exact .link isValue isLink h'
  | mark isMark _ ih => exact .mark isMark ih
  | link isValue isLink' _ ih => exact .link isValue isLink' ih

/-- **The pieces of an expression are a phrase.** -/
theorem Expr.Compiles.phrase {e : Expr} (h : e.Compiles) (n : Nat) : Phrase (e.pieces n) := by
  induction h generalizing n with
  | field path => exact .value path
  | literal value => exact .value trivial
  | binary _ _ _ ihLeft ihRight => exact (ihLeft n).append trivial (ihRight _)
  | logical _ _ _ ihLeft ihRight => exact (ihLeft n).append trivial (ihRight _)
  | not _ ih => exact .mark trivial (ih n)
  | call known _ _ ihTarget ihArgument =>
      rw [Expr.pieces_call]
      exact .mark (by simp [IsMark, known]) ((ihTarget n).append trivial (ihArgument _))

/-- A phrase is cut at a link into two phrases. -/
theorem Phrase.split {first second : List Piece} {link : Piece}
    (h : Phrase (first ++ link :: second)) (isLink : link.IsLink) :
    Phrase first ∧ Phrase second := by
  generalize whole : first ++ link :: second = pieces at h
  induction h generalizing first with
  | value isValue =>
      cases first with
      | nil =>
          obtain ⟨rfl, -⟩ := List.cons.inj whole
          exact absurd isLink (not_isLink (.inl isValue))
      | cons piece first => simp at whole
  | mark isMark phrase ih =>
      cases first with
      | nil =>
          obtain ⟨rfl, -⟩ := List.cons.inj whole
          exact absurd isLink (not_isLink (.inr isMark))
      | cons piece first =>
          obtain ⟨rfl, same⟩ := List.cons.inj whole
          obtain ⟨before, after⟩ := ih same
          exact ⟨.mark isMark before, after⟩
  | @link value link' pieces isValue isLink' phrase ih =>
      cases first with
      | nil =>
          obtain ⟨rfl, -⟩ := List.cons.inj whole
          exact absurd isLink (not_isLink (.inl isValue))
      | cons piece first =>
          obtain ⟨rfl, same⟩ : piece = value ∧ first ++ link :: second = link' :: pieces :=
            List.cons.inj whole
          cases first with
          | nil =>
              obtain ⟨rfl, rfl⟩ := List.cons.inj same
              exact ⟨.value isValue, phrase⟩
          | cons piece' first =>
              obtain ⟨rfl, rest⟩ := List.cons.inj same
              obtain ⟨before, after⟩ := ih rest
              exact ⟨.link isValue isLink' before, after⟩

/-! ### Where a phrase starts -/

/-- Does the text start as a phrase does? -/
def OpensPhrase (text : List Char) : Prop :=
  ∃ c ∈ ['c', '@', 'N', 'C', 'S', 'E'], ∃ rest, text = c :: rest

theorem OpensPhrase.append {text : List Char} (h : OpensPhrase text) (rest : List Char) :
    OpensPhrase (text ++ rest) := by
  obtain ⟨c, first, more, rfl⟩ := h
  exact ⟨c, first, more ++ rest, rfl⟩

namespace Piece

theorem opens_value {value : Piece} (h : value.IsValue) : OpensPhrase value.text := by
  cases value with
  | field reference => exact ⟨'c', by decide, _, rfl⟩
  | parameter number => exact ⟨'@', by decide, _, rfl⟩
  | _ => exact h.elim

theorem opens_mark {mark : Piece} (h : mark.IsMark) :
    ∃ c ∈ ['N', 'C', 'S', 'E'], ∃ rest, mark.text = c :: rest := by
  cases mark with
  | denial => exact ⟨'N', by decide, _, rfl⟩
  | function method =>
      obtain ⟨function, known⟩ := Option.isSome_iff_exists.mp h
      rw [text, known, Option.getD_some]
      unfold functionFor? at known
      split at known <;> cases known
      · exact ⟨'C', by decide, _, rfl⟩
      · exact ⟨'S', by decide, _, rfl⟩
      · exact ⟨'E', by decide, _, rfl⟩
  | _ => exact h.elim

theorem blank_not_mem_of_value {value : Piece} (h : value.IsValue) : ' ' ∉ value.text := by
  cases value with
  | field reference => exact blank_not_mem_fieldText h
  | parameter number => exact blank_not_mem_parameterName number
  | _ => exact h.elim

end Piece

theorem blank_not_mem_function {method function : String}
    (known : functionFor? method = some function) : ' ' ∉ function.toList := by
  unfold functionFor? at known
  split at known <;> cases known <;> decide

theorem Phrase.opens {pieces : List Piece} (h : Phrase pieces) : OpensPhrase (textOf pieces) := by
  cases h with
  | value isValue => exact (Piece.opens_value isValue).append _
  | mark isMark _ =>
      obtain ⟨c, first, rest, text⟩ := Piece.opens_mark isMark
      have listed : c ∈ ['c', '@', 'N', 'C', 'S', 'E'] :=
        List.subset_cons_of_subset _ (List.subset_cons_self _ _) first
      exact OpensPhrase.append ⟨c, listed, rest, text⟩ _
  | link isValue _ _ => exact (Piece.opens_value isValue).append _

/-! ### Where words occur -/

namespace Piece

theorem text_of_word {piece : Piece} {word : List Char} (h : piece.word? = some word) :
    piece.text = ' ' :: (word ++ [' ']) := by
  cases piece <;> cases h <;> rfl

theorem word_plain {piece : Piece} {word : List Char} (h : piece.word? = some word) :
    ' ' ∉ word ∧ ∃ c ∉ ['c', '@', 'N', 'C', 'S', 'E'], ∃ rest, word = c :: rest := by
  cases piece with
  | symbol op => cases h; cases op <;> exact ⟨by decide, _, by decide, _, rfl⟩
  | keyword op => cases h; cases op <;> exact ⟨by decide, _, by decide, _, rfl⟩
  | _ => cases h

/-- The piece that is a word between blanks. -/
def ofWord? (word : List Char) : Option Piece :=
  [.symbol .eq, .symbol .ne, .symbol .gt, .symbol .ge, .symbol .lt, .symbol .le, .symbol .add,
    .symbol .subtract, .symbol .multiply, .symbol .divide, .symbol .modulo, .keyword .and,
    .keyword .or].find? fun piece => piece.word? == some word

theorem ofWord?_of_word {piece : Piece} {word : List Char} (h : piece.word? = some word) :
    ofWord? word = some piece := by
  cases piece with
  | symbol op => cases h; cases op <;> rfl
  | keyword op => cases h; cases op <;> rfl
  | _ => cases h

theorem word_injective {piece piece' : Piece} {word : List Char}
    (h : piece.word? = some word) (h' : piece'.word? = some word) : piece = piece' :=
  Option.some.inj ((ofWord?_of_word h).symm.trans (ofWord?_of_word h'))

end Piece

section Words

variable {link : Piece} {word : List Char} (isWord : link.word? = some word)

include isWord

theorem skips_blank {text : List Char} (opens : OpensPhrase text) :
    Text.Skips link.text [' '] text := by
  obtain ⟨-, c, other, more, rfl⟩ := Piece.word_plain isWord
  obtain ⟨d, first, rest, rfl⟩ := opens
  rw [Piece.text_of_word isWord]
  refine ⟨fun starts => other ?_, trivial⟩
  exact (List.cons_prefix_cons.mp (List.cons_prefix_cons.mp starts).2).1 ▸ first

/-- A word does not start in another one with a phrase behind it. -/
theorem skips_otherWord {link' : Piece} {word' text : List Char}
    (isWord' : link'.word? = some word') (different : link' ≠ link) (opens : OpensPhrase text) :
    Text.Skips link.text link'.text text := by
  have plain := (Piece.word_plain isWord).1
  have plain' := (Piece.word_plain isWord').1
  have parts : link'.text = (' ' :: word') ++ [' '] := Piece.text_of_word isWord'
  rw [parts, Text.Skips.append_iff]
  refine ⟨?_, skips_blank isWord opens⟩
  rw [Piece.text_of_word isWord]
  refine ⟨fun starts => different ?_, .of_not_mem plain' _⟩
  obtain ⟨tail, same⟩ := (List.cons_prefix_cons.mp starts).2
  rw [List.append_assoc] at same
  have words := (Text.append_inj_of_endsWord plain plain' (.cons _) (.cons _) same).1
  exact Piece.word_injective isWord' (words ▸ isWord)

/-- **A word between blanks occurs in the text of a phrase only as a piece of it.** -/
theorem Phrase.skips {pieces : List Piece} (h : Phrase pieces) (absent : link ∉ pieces)
    (rest : List Char) : Text.Skips link.text (textOf pieces) rest := by
  have plain : ∀ {text : List Char}, ' ' ∉ text → ∀ rest, Text.Skips link.text text rest := by
    intro text blankless
    rw [Piece.text_of_word isWord]
    exact .of_not_mem blankless
  induction h with
  | value isValue =>
      rw [textOf_cons, Text.Skips.append_iff]
      exact ⟨plain (Piece.blank_not_mem_of_value isValue) _, trivial⟩
  | @mark mark pieces isMark phrase ih =>
      rw [textOf_cons, Text.Skips.append_iff]
      refine ⟨?_, ih (fun mem => absent (List.mem_cons_of_mem _ mem))⟩
      cases mark with
      | denial =>
          have parts : Piece.denial.text = "NOT".toList ++ [' '] := rfl
          rw [parts, Text.Skips.append_iff]
          exact ⟨plain (by decide) _, skips_blank isWord (phrase.opens.append rest)⟩
      | function method =>
          obtain ⟨function, known⟩ := Option.isSome_iff_exists.mp isMark
          rw [Piece.text, known, Option.getD_some]
          exact plain (blank_not_mem_function known) _
      | _ => exact isMark.elim
  | @link value link' pieces isValue isLink phrase ih =>
      simp only [List.mem_cons, not_or] at absent
      rw [textOf_cons, textOf_cons, Text.Skips.append_iff, Text.Skips.append_iff]
      refine ⟨plain (Piece.blank_not_mem_of_value isValue) _, ?_, ih absent.2.2⟩
      have opens := phrase.opens.append rest
      cases link' with
      | symbol op => exact skips_otherWord isWord rfl (Ne.symm absent.2.1) opens
      | keyword op => exact skips_otherWord isWord rfl (Ne.symm absent.2.1) opens
      | comma =>
          have parts : Piece.comma.text = [','] ++ [' '] := rfl
          rw [parts, Text.Skips.append_iff]
          exact ⟨plain (by decide) _, skips_blank isWord opens⟩
      | _ => exact isLink.elim

end Words

/-! ### Where denials occur -/

/-- The pieces that are taken for a denial: the keyword of one, and a field whose text ends in that
keyword, with a word between blanks behind it. -/
def Denies (pieces : List Piece) : Prop :=
  .denial ∈ pieces ∨ ∃ reference link, [.field reference, link] <:+: pieces ∧
    link.word?.isSome = true ∧ "NOT".toList <:+ fieldText reference

theorem Denies.of_infix {part pieces : List Piece} (inside : part <:+: pieces)
    (denies : Denies part) : Denies pieces := by
  rcases denies with mem | ⟨reference, link, here, isWord, ending⟩
  · exact .inl (inside.subset mem)
  · exact .inr ⟨reference, link, here.trans inside, isWord, ending⟩

/-- The keyword of a denial occurs where pieces are taken for one. -/
theorem Denies.occursIn {pieces : List Piece} (denies : Denies pieces) :
    Text.occursIn "NOT ".toList (textOf pieces) = true := by
  refine Text.occursIn_of_infix ?_
  rcases denies with mem | ⟨reference, link, inside, isWord, before, ending⟩
  · obtain ⟨before, after, same⟩ := List.append_of_mem mem
    exact @infix_textOf [.denial] _ ⟨before, after, by simp [same]⟩
  · refine List.IsInfix.trans ?_ (infix_textOf inside)
    obtain ⟨word, isWord⟩ := Option.isSome_iff_exists.mp isWord
    refine ⟨before, word ++ [' '], ?_⟩
    rw [textOf_cons, textOf_cons, Piece.text_of_word isWord]
    simp [Piece.text, ← ending, textOf]

/-- A value ends in the keyword of a denial only if it is a field that does. -/
theorem Piece.noDenial_of_value {value : Piece} (isValue : value.IsValue)
    (noDenial : ∀ reference, value = .field reference → ¬"NOT".toList <:+ fieldText reference) :
    ¬"NOT".toList <:+ value.text := by
  cases value with
  | field reference => exact noDenial reference rfl
  | parameter number =>
      intro suffix
      have digit := @isDigit_of_suffix_parameterName number "NO".toList 'T' suffix
      exact absurd digit (by decide)
  | _ => exact isValue.elim

/-- **The keyword of a denial occurs in the text of a phrase only where pieces are taken for
one.** -/
theorem Phrase.skips_denial {pieces : List Piece} (h : Phrase pieces) (plain : ¬Denies pieces) :
    Text.Skips "NOT ".toList (textOf pieces) [] := by
  induction h with
  | @value value isValue =>
      have text : textOf [value] = value.text := List.append_nil _
      rw [text]
      exact .of_absent (c := ' ') (by decide) (Piece.blank_not_mem_of_value isValue)
  | @mark mark pieces isMark phrase ih =>
      rw [textOf_cons, Text.Skips.append_iff]
      refine ⟨?_, ih fun denies => plain (denies.of_infix (List.suffix_cons _ _).isInfix)⟩
      cases mark with
      | denial => exact absurd (.inl List.mem_cons_self) plain
      | function method =>
          obtain ⟨function, known⟩ := Option.isSome_iff_exists.mp isMark
          rw [Piece.text, known, Option.getD_some]
          unfold functionFor? at known
          split at known <;> cases known <;> simp [Text.Skips]
      | _ => exact isMark.elim
  | @link value link pieces isValue isLink phrase ih =>
      have rest := ih fun denies =>
        plain (denies.of_infix (List.suffix_append [value, link] pieces).isInfix)
      have blankless := Piece.blank_not_mem_of_value isValue
      -- a word behind the value starts with a blank, which ends the keyword
      have here : link.word?.isSome = true → ∀ after, Text.EndsWord after →
          Text.Skips "NOT ".toList value.text after := by
        intro isWord after ends
        refine Text.Skips.of_suffix (by decide) blankless
          (Piece.noDenial_of_value isValue fun reference same ending => plain ?_) ends
        exact .inr ⟨reference, link, ⟨[], pieces, by rw [same]; rfl⟩, isWord, ending⟩
      rw [textOf_cons, textOf_cons, ← List.append_assoc, Text.Skips.append_iff]
      refine ⟨?_, rest⟩
      cases link with
      | comma =>
          have parts : value.text ++ Piece.comma.text = (value.text ++ [',']) ++ [' '] := by
            simp [Piece.text]
          rw [parts, Text.Skips.append_iff]
          refine ⟨@Text.Skips.of_suffix _ "NOT".toList _ (by decide) ?_ ?_ (.cons _),
            .of_not_mem (by decide) _⟩
          · simpa using blankless
          · intro suffix
            rcases List.suffix_concat_iff.mp suffix with none | ⟨before, same, -⟩
            · cases none
            · exact absurd (congrArg List.getLast? same) (by simp)
      | symbol op =>
          rw [Text.Skips.append_iff]
          refine ⟨here rfl _ (.cons _), ?_⟩
          cases op <;> exact .of_not_mem (by decide) _
      | keyword op =>
          rw [Text.Skips.append_iff]
          refine ⟨here rfl _ (.cons _), ?_⟩
          cases op with
          | or => exact .of_not_mem (by decide) _
          | and => simp [Piece.text, LogicalOp.keyword, Text.Skips]
      | _ => exact isLink.elim

/-! ### Clauses -/

/-- The clauses of pieces, between the keywords of conjunctions. -/
def clausesOf (pieces : List Piece) : List (List Piece) :=
  pieces.splitOn (.keyword .and)

theorem clausesOf_eq_singleton {clause : List Piece} (whole : .keyword .and ∉ clause) :
    clausesOf clause = [clause] :=
  List.splitOn_eq_singleton whole

theorem clausesOf_append_cons (before after : List Piece) :
    clausesOf (before ++ .keyword .and :: after) = clausesOf before ++ clausesOf after :=
  List.splitOnP_append_cons before after (beq_self_eq_true _)

/-- What holds of one clause, and of a clause in front of pieces of which it holds, holds of every
phrase. -/
theorem Phrase.byClauses {P : List Piece → Prop}
    (single : ∀ clause, Phrase clause → .keyword .and ∉ clause → P clause)
    (cons : ∀ clause rest, Phrase clause → .keyword .and ∉ clause → P rest →
      P (clause ++ .keyword .and :: rest))
    {pieces : List Piece} (h : Phrase pieces) : P pieces := by
  by_cases more : Piece.keyword .and ∈ pieces
  · obtain ⟨clause, rest, same, whole⟩ := List.eq_append_cons_of_mem more
    obtain ⟨first, others⟩ := (same ▸ h).split trivial
    rw [same]
    exact cons clause rest first whole (byClauses single cons others)
  · exact single _ h more
termination_by pieces.length
decreasing_by simp [same]; omega

/-- Clauses are phrases of pieces that were there. -/
theorem Phrase.of_clause {pieces : List Piece} (h : Phrase pieces) :
    ∀ clause ∈ clausesOf pieces, Phrase clause ∧ clause ⊆ pieces := by
  refine byClauses (P := fun pieces => ∀ clause ∈ clausesOf pieces,
    Phrase clause ∧ clause ⊆ pieces) (fun clause phrase whole => ?_)
    (fun clause rest phrase whole ih => ?_) h
  · rw [clausesOf_eq_singleton whole]
    exact List.forall_mem_singleton.mpr ⟨phrase, List.Subset.refl _⟩
  · rw [clausesOf_append_cons, clausesOf_eq_singleton whole]
    refine List.forall_mem_cons.mpr ⟨⟨phrase, List.subset_append_left _ _⟩, fun other mem => ?_⟩
    obtain ⟨phrase', inside⟩ := ih other mem
    exact ⟨phrase', List.Subset.trans inside fun piece mem =>
      List.mem_append_right _ (List.mem_cons_of_mem _ mem)⟩

/-- **The text of a phrase is cut into the texts of its clauses.** -/
theorem Phrase.splitAll {pieces : List Piece} (h : Phrase pieces) :
    Text.splitAll " AND ".toList (textOf pieces) = (clausesOf pieces).map textOf := by
  have isWord : (Piece.keyword .and).word? = some "AND".toList := rfl
  have text : (Piece.keyword .and).text = " AND ".toList := rfl
  refine byClauses (P := fun pieces => Text.splitFrom " AND ".toList 0 (textOf pieces) =
    (clausesOf pieces).map textOf) (fun clause phrase whole => ?_)
    (fun clause rest phrase whole ih => ?_) h
  · have cut := (phrase.skips isWord whole []).splitFrom
    rw [List.append_nil, text, Text.splitFrom, Text.foldr_consFirst, List.append_nil] at cut
    rw [clausesOf_eq_singleton whole]
    exact cut
  · have cut := (phrase.skips isWord whole (" AND ".toList ++ textOf rest)).splitFrom
    rw [text, Text.splitFrom_append (by decide), ih, Text.foldr_consFirst, List.append_nil] at cut
    rw [textOf_append, textOf_cons, text, clausesOf_append_cons, clausesOf_eq_singleton whole]
    exact cut

end DocumentClient.Query
