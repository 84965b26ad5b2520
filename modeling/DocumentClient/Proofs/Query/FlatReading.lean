import DocumentClient.Proofs.Query.Evaluation
import DocumentClient.Proofs.Query.Language
import DocumentClient.Proofs.Query.Pieces
import DocumentClient.Proofs.Repository.Paging

/-!
# DocumentClient.Proofs.Query.FlatReading

**Which compiled predicates a container answers.** The evaluation reads a predicate without its
parentheses, so what decides is not how the predicate is built but what its pieces look like one
after the other.

* `ReadsAsEqualities` says which pieces are read: clauses between conjunctions, each with a field
  in front and an equality with a parameter at its end. Anything may stand between the two.
* `Expr.Unnested` leaves out comparisons of comparisons. Without it pieces can look like a
  conjunction that is not there, as `nested_conjunction_answered` shows.

## Proof shape

* `readEquality?_isSome_iff` is about one clause. The text of a clause is cut at the first symbol
  of an equality; that is the first such piece, because pieces are told apart by their words and
  no word starts inside of another one.
* `readConditions?_isSome_iff` is about all clauses. A disjunction, and what is taken for a
  denial, are looked for in the text as a whole, and occur there exactly where pieces say so.
* `Compilation.evaluate?_isSome_iff` is about statements: whatever the predicate is, their order
  and their window are read.
* `Unnested.conjunctive` is the induction that finds the conjunction again in its pieces. A clause
  that is no equality of a field and a value would have a word of a comparison or a connective
  among the pieces of an operand, and plain operands have none (`Compiles.word?_of_plain`).
* `container_answers_exactly` puts it together.
-/

namespace DocumentClient.Query

open Piece

/-! ### Where a phrase ends -/

theorem isBlank_of_isNameChar {c : Char} (h : isNameChar c = true) : Text.isBlank c = false := by
  have le_iff : ∀ a b : Char, a ≤ b ↔ a.toNat ≤ b.toNat := fun _ _ => Iff.rfl
  have range : (48 ≤ c.toNat ∧ c.toNat ≤ 57) ∨ (65 ≤ c.toNat ∧ c.toNat ≤ 90) ∨
      (95 ≤ c.toNat ∧ c.toNat ≤ 122) := by
    rcases isNameChar_iff.mp h with ⟨first, last⟩ | ⟨first, last⟩ | ⟨first, last⟩ | rfl
    · exact .inr (.inl ⟨(le_iff _ _).mp first, (le_iff _ _).mp last⟩)
    · exact .inr (.inr ⟨Nat.le_trans (by decide) ((le_iff _ _).mp first), (le_iff _ _).mp last⟩)
    · exact .inl ⟨(le_iff _ _).mp first, (le_iff _ _).mp last⟩
    · exact .inr (.inr (by decide))
  simp [Text.isBlank, Text.blankRanges]
  omega

theorem Piece.isBlank_of_value {value : Piece} (h : value.IsValue) :
    ∀ c ∈ value.text, Text.isBlank c = false := by
  intro c mem
  cases value with
  | field reference =>
      rcases isNameChar_of_mem_fieldText h mem with name | rfl
      · exact isBlank_of_isNameChar name
      · decide
  | parameter number =>
      rcases of_mem_parameterName mem with name | rfl
      · exact isBlank_of_isNameChar name
      · decide
  | _ => exact h.elim

theorem Phrase.ends {pieces : List Piece} (h : Phrase pieces) :
    ∃ before value, Piece.IsValue value ∧ textOf pieces = before ++ value.text := by
  induction h with
  | @value value isValue => exact ⟨[], value, isValue, List.append_nil _⟩
  | @mark mark _ _ _ ih =>
      obtain ⟨before, value, isValue, same⟩ := ih
      exact ⟨mark.text ++ before, value, isValue, by rw [textOf_cons, same, List.append_assoc]⟩
  | @link first link _ _ _ _ ih =>
      obtain ⟨before, value, isValue, same⟩ := ih
      refine ⟨first.text ++ (link.text ++ before), value, isValue, ?_⟩
      rw [textOf_cons, textOf_cons, same, List.append_assoc, List.append_assoc]

/-- The text of a phrase has no blanks at its ends. -/
theorem Phrase.trimChars {pieces : List Piece} (h : Phrase pieces) :
    Text.trimChars (textOf pieces) = textOf pieces := by
  refine Text.trimChars_eq_self (fun c mem => ?_) fun c mem => ?_
  · obtain ⟨d, first, rest, same⟩ := h.opens
    rw [same] at mem
    obtain rfl := Option.some.inj mem
    have notBlank : ∀ d ∈ ['c', '@', 'N', 'C', 'S', 'E'], Text.isBlank d = false := by
      simp [Text.isBlank, Text.blankRanges]
    exact notBlank _ first
  · obtain ⟨before, value, isValue, same⟩ := h.ends
    obtain ⟨d, -, rest, text⟩ := Piece.opens_value isValue
    have pos : value.text ≠ [] := text ▸ List.cons_ne_nil d rest
    rw [same, List.getLast?_append, List.getLast?_eq_some_getLast pos, Option.some_or] at mem
    obtain rfl := Option.some.inj mem
    exact Piece.isBlank_of_value isValue _ (List.getLast_mem pos)

/-! ### Reading a clause -/

/-- The text of a phrase starts with the alias of the document exactly if a field comes first. -/
theorem Phrase.afterStart?_isSome_iff {pieces : List Piece} (h : Phrase pieces) :
    (Text.afterStart? "c.".toList (textOf pieces)).isSome = true ↔
      ∃ reference rest, pieces = .field reference :: rest := by
  have other : ∀ {c : Char} {text : List Char}, c ≠ 'c' →
      ¬(Text.afterStart? "c.".toList (c :: text)).isSome = true := by
    intro c text other found
    obtain ⟨after, found⟩ := Option.isSome_iff_exists.mp found
    exact other (List.cons.inj (Text.afterStart?_eq_some_iff.mp found)).1
  have first : ∀ {value : Piece} {rest : List Piece}, value.IsValue →
      ((Text.afterStart? "c.".toList (textOf (value :: rest))).isSome = true ↔
        ∃ reference rest', value :: rest = .field reference :: rest') := by
    intro value rest isValue
    cases value with
    | field reference =>
        refine iff_of_true ?_ ⟨reference, rest, rfl⟩
        obtain ⟨after, found, -⟩ := namesOf_fieldText isValue
        rw [textOf_cons, Piece.text, Text.afterStart?_eq_some_iff.mp found, List.append_assoc,
          Text.afterStart?_append]
        rfl
    | parameter number => exact iff_of_false (other (by decide)) (by simp)
    | _ => exact isValue.elim
  cases h with
  | value isValue => exact first isValue
  | @mark mark rest isMark phrase =>
      obtain ⟨c, opens, more, text⟩ := Piece.opens_mark isMark
      have noField : ¬∃ reference rest', mark :: rest = .field reference :: rest' := by
        rintro ⟨reference, rest', same⟩
        rw [(List.cons.inj same).1] at isMark
        exact isMark
      rw [textOf_cons, text]
      exact iff_of_false (other (by rintro rfl; exact absurd opens (by decide))) noField
  | link isValue _ _ => exact first isValue

/-- Only a parameter has the text of its name. -/
theorem Phrase.eq_parameter {pieces : List Piece} (h : Phrase pieces) {number : Nat}
    (same : textOf pieces = Expr.parameterName number) : pieces = [.parameter number] := by
  cases h with
  | @value value isValue =>
      cases value with
      | field reference => cases (List.cons.inj same).1
      | parameter other =>
          rw [parameterName_injective ((List.append_nil _).symm.trans same)]
      | _ => exact isValue.elim
  | @mark mark rest isMark phrase =>
      obtain ⟨c, opens, more, text⟩ := Piece.opens_mark isMark
      rw [textOf_cons, text] at same
      obtain ⟨rfl, -⟩ := List.cons.inj same
      exact absurd opens (by decide)
  | @link value link rest isValue isLink phrase =>
      have blank : ' ' ∈ link.text := by
        cases link with
        | symbol op => exact List.mem_cons_self
        | keyword op => exact List.mem_cons_self
        | comma => decide
        | _ => exact isLink.elim
      refine absurd ?_ (blank_not_mem_parameterName number)
      rw [← same, textOf_cons, textOf_cons]
      exact List.mem_append_right _ (List.mem_append_left _ blank)

theorem parameter?_isSome_iff (values : List Json) (text name : String) :
    ((Statement.mk text (parametersFor values)).parameter? name).isSome = true ↔
      ∃ number < values.length, name = String.ofList (Expr.parameterName number) := by
  have names := map_name_parametersFor values
  rw [Statement.parameter?, Option.isSome_map, List.find?_isSome]
  simp only [decide_eq_true_eq]
  rw [← List.mem_map (f := Parameter.name), names, parameterNames]
  simp [eq_comm]

/-- The pieces that are read as an equality: a field first, and at the end the only symbol of an
equality, with a parameter. Anything may stand between the two. -/
def IsEquality (clause : List Piece) : Prop :=
  ∃ reference between number, .symbol .eq ∉ between ∧
    clause = .field reference :: between ++ [.symbol .eq, .parameter number]

/-- Pieces that are cut at the first symbol of an equality. -/
theorem isEquality_append_cons {before after : List Piece} (first : .symbol .eq ∉ before) :
    IsEquality (before ++ .symbol .eq :: after) ↔
      (∃ reference rest, before = .field reference :: rest) ∧
        ∃ number, after = [.parameter number] := by
  constructor
  · rintro ⟨reference, between, number, absent, same⟩
    have absent' : Piece.symbol .eq ∉ .field reference :: between := by simpa using absent
    obtain ⟨rfl, -, rfl⟩ := (List.append_cons_inj_of_notMem absent' (by simp)).mp same.symm
    exact ⟨⟨reference, between, rfl⟩, number, rfl⟩
  · rintro ⟨⟨reference, between, rfl⟩, number, rfl⟩
    exact ⟨reference, between, number, fun mem => first (List.mem_cons_of_mem _ mem), rfl⟩

/-- **A clause is read exactly if its pieces are those of an equality.** -/
theorem readEquality?_isSome_iff {values : List Json} {clause : List Piece} (h : Phrase clause)
    (known : ∀ number, .parameter number ∈ clause → number < values.length) (text : String) :
    (readEquality? ⟨text, parametersFor values⟩ (textOf clause)).isSome = true ↔
      IsEquality clause := by
  have isWord : (Piece.symbol .eq).word? = some "=".toList := rfl
  have separator : (Piece.symbol .eq).text = " = ".toList := rfl
  by_cases equals : Piece.symbol .eq ∈ clause
  · obtain ⟨before, after, rfl, first⟩ := List.eq_append_cons_of_mem equals
    obtain ⟨phrase, phrase'⟩ := h.split trivial
    have cut : Text.splitOnce? " = ".toList (textOf (before ++ .symbol .eq :: after)) =
        some (textOf before, textOf after) := by
      rw [textOf_append, textOf_cons, separator]
      exact Text.Skips.splitOnce?_append (phrase.skips isWord first _)
    have found : ((Statement.mk text (parametersFor values)).parameter?
        (String.ofList (textOf after))).isSome = true ↔ ∃ number, after = [.parameter number] := by
      rw [parameter?_isSome_iff]
      constructor
      · rintro ⟨number, -, same⟩
        exact ⟨number, phrase'.eq_parameter (String.ofList_injective same)⟩
      · rintro ⟨number, rfl⟩
        exact ⟨number, known number (by simp), congrArg _ (List.append_nil _)⟩
    rw [isEquality_append_cons first, ← phrase.afterStart?_isSome_iff, ← found]
    unfold readEquality?
    rw [h.trimChars, cut]
    dsimp only [Option.bind_eq_bind, Option.bind_some]
    rw [phrase'.trimChars]
    cases Text.afterStart? "c.".toList (textOf before) <;>
      cases Statement.parameter? _ (String.ofList (textOf after)) <;> simp
  · have whole : Text.splitOnce? " = ".toList (textOf clause) = none :=
      (h.skips isWord equals []).splitOnce?_eq_none (by decide)
    unfold readEquality?
    rw [h.trimChars, whole]
    refine iff_of_false (by simp) ?_
    rintro ⟨reference, between, number, -, rfl⟩
    exact equals (by simp)

/-! ### Reading a predicate -/

/-- Parameters are numbered as the literals are. -/
theorem Expr.Compiles.parameter_lt {e : Expr} (h : e.Compiles) {n number : Nat}
    (mem : .parameter number ∈ e.pieces n) : number < n + e.literals.length := by
  induction h generalizing n with
  | field path => simp [Expr.pieces] at mem
  | literal value =>
      obtain rfl : number = n := by simpa [Expr.pieces] using mem
      exact Nat.lt_succ_self number
  | binary _ _ _ ihLeft ihRight | logical _ _ _ ihLeft ihRight =>
      simp only [Expr.pieces, List.mem_append, List.mem_cons, reduceCtorEq, false_or] at mem
      rw [Expr.literals, List.length_append]
      rcases mem with mem | mem
      · have := ihLeft mem
        omega
      · have := ihRight mem
        omega
  | not _ ih =>
      simp only [Expr.pieces, List.mem_cons, reduceCtorEq, false_or] at mem
      exact ih mem
  | call _ _ _ ihTarget ihArgument =>
      simp only [Expr.pieces_call, List.mem_append, List.mem_cons, reduceCtorEq, false_or] at mem
      simp only [Expr.literals, Expr.literalsOfAll, List.length_append, List.append_nil]
      rcases mem with mem | mem
      · have := ihTarget mem
        omega
      · have := ihArgument mem
        omega

/-- The pieces that are read: clauses of equalities, without a disjunction and without what is taken
for a denial. -/
structure ReadsAsEqualities (pieces : List Piece) : Prop where
  /-- Nothing is taken for a denial. -/
  affirms : ¬Denies pieces
  /-- There is no disjunction. -/
  noDisjunction : .keyword .or ∉ pieces
  /-- Each clause is an equality. -/
  equalities : ∀ clause ∈ clausesOf pieces, IsEquality clause

theorem isSome_mapM_iff {α β : Type} {f : α → Option β} {xs : List α} :
    (xs.mapM f).isSome = true ↔ ∀ x ∈ xs, (f x).isSome = true := by
  induction xs with
  | nil => simp
  | cons x xs ih =>
      rw [List.mapM_cons, List.forall_mem_cons, ← ih]
      cases f x <;> cases List.mapM f xs <;> simp

/-- **A predicate is read exactly if its pieces are those of equalities.** -/
theorem readConditions?_isSome_iff {e : Expr} (h : e.Compiles) (text : String) :
    (readConditions? ⟨text, parametersFor e.literals⟩ (e.text 0)).isSome = true ↔
      ReadsAsEqualities (e.pieces 0) := by
  have phrase := h.phrase 0
  have clauses : ((Text.splitAll " AND ".toList (textOf (e.pieces 0))).mapM
      (readEquality? ⟨text, parametersFor e.literals⟩)).isSome = true ↔
        ∀ clause ∈ clausesOf (e.pieces 0), IsEquality clause := by
    rw [isSome_mapM_iff, phrase.splitAll, List.forall_mem_map]
    refine forall₂_congr fun clause mem => ?_
    obtain ⟨phrase', inside⟩ := phrase.of_clause clause mem
    exact readEquality?_isSome_iff phrase'
      (fun number mem => by simpa using h.parameter_lt (inside mem)) text
  have reads : readConditions? ⟨text, parametersFor e.literals⟩ (e.text 0) =
      if Text.occursIn " OR ".toList (bare (e.text 0)) ||
        Text.occursIn "NOT ".toList (bare (e.text 0)) then none
      else (Text.splitAll " AND ".toList (bare (e.text 0))).mapM
        (readEquality? ⟨text, parametersFor e.literals⟩) := rfl
  rw [reads, h.bare_text]
  constructor
  · intro read
    split at read
    · cases read
    · rename_i plain
      rw [Bool.or_eq_true, not_or] at plain
      refine ⟨fun denies => plain.2 denies.occursIn, fun mem => plain.1 ?_, clauses.mp read⟩
      obtain ⟨before, after, same⟩ := List.append_of_mem mem
      exact Text.occursIn_of_infix
        (@infix_textOf [.keyword .or] _ ⟨before, after, by simp [same]⟩)
  · rintro ⟨affirms, noDisjunction, equalities⟩
    have disjunction := @Phrase.skips (.keyword .or) _ rfl _ phrase noDisjunction []
    have denial := phrase.skips_denial affirms
    have text : (Piece.keyword .or).text = " OR ".toList := rfl
    rw [text] at disjunction
    rw [if_neg]
    · exact clauses.mpr equalities
    · rw [Text.occursIn, disjunction.splitOnce?_eq_none (by decide), Text.occursIn,
        denial.splitOnce?_eq_none (by decide)]
      decide

/-! ### Reading a statement -/

theorem selectBy?_isSome_iff {e : Expr} (h : e.Compiles) (text : String) (documents : List Json) :
    (selectBy? ⟨text, parametersFor e.literals⟩ (whereText (some e)) documents).isSome = true ↔
      ReadsAsEqualities (e.pieces 0) := by
  unfold selectBy?
  rw [whereText_some, Text.afterStart?_append]
  dsimp only
  rw [Option.isSome_map]
  exact readConditions?_isSome_iff h text

/-- The numbers of a window are words of 64 bits. -/
def Compilation.Fits : Compilation → Prop
  | .withWindow pageSize plan =>
    plan.skip.getD 0 ≤ Word.max64 ∧ plan.take.getD pageSize ≤ Word.max64
  | .alone | .count => True

theorem evaluate?_predicateStatement {e : Expr} (h : e.Compiles) (documents : List Json) :
    evaluate? (predicateStatement .documents (some e)) documents =
      selectBy? (predicateStatement .documents (some e)) (whereText (some e)) documents := by
  have compiles : ∀ e' ∈ some e, e'.Compiles := fun e' same => Option.some.inj same ▸ h
  rw [evaluate?_documents (toList_predicateStatement .documents (some e))]
  unfold evaluateDocuments?
  rw [ofText_whereText compiles]
  dsimp only [Option.bind_eq_bind]
  cases selectBy? _ (whereText (some e)) documents <;> rfl

/-- **Predicates with the same pieces and the same literals are taken for one another.** -/
theorem selectBy?_of_pieces_eq {e e' : Expr} (h : e.Compiles) (h' : e'.Compiles)
    (pieces : e.pieces 0 = e'.pieces 0) (literals : e.literals = e'.literals) (text : String)
    (documents : List Json) :
    selectBy? ⟨text, parametersFor e.literals⟩ (whereText (some e)) documents =
      selectBy? ⟨text, parametersFor e'.literals⟩ (whereText (some e')) documents := by
  have reads : ∀ statement, readConditions? statement (e.text 0) =
      readConditions? statement (e'.text 0) := by
    intro statement
    have same : bare (e.text 0) = bare (e'.text 0) := by
      rw [h.bare_text, h'.bare_text, pieces]
    unfold bare at same
    simp only [readConditions?, same]
  unfold selectBy?
  rw [whereText_some, whereText_some, Text.afterStart?_append, Text.afterStart?_append, literals]
  dsimp only
  rw [reads]

/-- **A compiled statement is evaluated exactly if its predicate is read**, in whichever way it was
compiled and over whichever documents: its order and its window are always read. -/
theorem Compilation.evaluate?_isSome_iff {compilation : Compilation} {e : Expr}
    {statement : Statement} (compiled : compilation.run e = .ok statement)
    (fits : compilation.Fits) (documents : List Json) :
    (evaluate? statement documents).isSome = true ↔ ReadsAsEqualities (e.pieces 0) := by
  have alone : e.Compiles → ((evaluate? (predicateStatement .documents (some e))
      documents).isSome = true ↔ ReadsAsEqualities (e.pieces 0)) := fun compiles => by
    rw [evaluate?_predicateStatement compiles]
    exact selectBy?_isSome_iff compiles _ documents
  cases compilation with
  | withWindow pageSize plan =>
      obtain ⟨compiles, path, rfl⟩ := compile_eq_ok compiled
      have text := toList_windowStatement pageSize { plan with filter := some e }
      unfold windowStatement at text
      rw [evaluate?_documents text]
      unfold evaluateDocuments?
      rw [ofText_withWindow compiles path]
      dsimp only [Option.bind_eq_bind]
      rw [literalsOf_some, ← selectBy?_isSome_iff (compiles e rfl) _ documents]
      cases selectBy? _ (whereText (some e)) documents with
      | none => rfl
      | some selected =>
          have ordered : ∃ documents', orderBy? (plan.order.map orderBody) selected =
              some documents' := by
            cases order : plan.order with
            | none => exact ⟨selected, rfl⟩
            | some order' =>
                exact ⟨_, congrArg (Option.map _) (readOrder?_text (path order' order))⟩
          obtain ⟨documents', ordered⟩ := ordered
          rw [Option.bind_some, ordered, Option.bind_some, windowOf?,
            readWindow?_text fits.1 fits.2]
          rfl
  | alone =>
      obtain ⟨compiles, rfl⟩ := compileFilter_eq_ok compiled
      exact alone (compiles e rfl)
  | count =>
      obtain ⟨compiles, rfl⟩ := compileFilter_eq_ok compiled
      have counted : (evaluate? (predicateStatement .count (some e)) documents).isSome =
          (evaluate? (predicateStatement .documents (some e)) documents).isSome := by
        rw [evaluate?_count compiles, Option.isSome_map]
      exact (Bool.eq_iff_iff.mp counted).trans (alone (compiles e rfl))

/-! ### Predicates without comparisons of comparisons -/

namespace Expr

/-- Neither a comparison nor a connective is part of the expression. -/
def Plain (e : Expr) : Prop :=
  ∀ node ∈ e.nodes, (∀ op left right, node ≠ .binary op left right) ∧
    ∀ op left right, node ≠ .logical op left right

/-- Neither a comparison nor a connective is part of an operand of a comparison. -/
def Unnested (e : Expr) : Prop :=
  ∀ op left right, .binary op left right ∈ e.nodes → left.Plain ∧ right.Plain

theorem mem_nodes_self (e : Expr) : e ∈ e.nodes := by
  cases e <;> exact List.mem_cons_self

/-- **A plain expression has no word between blanks among its pieces.** -/
theorem Compiles.word?_of_plain {e : Expr} (h : e.Compiles) (plain : e.Plain) {n : Nat} :
    ∀ piece ∈ e.pieces n, piece.word? = none := by
  induction h generalizing n with
  | field path => exact List.forall_mem_singleton.mpr rfl
  | literal value => exact List.forall_mem_singleton.mpr rfl
  | binary _ _ _ _ _ => exact absurd rfl ((plain _ (mem_nodes_self _)).1 _ _ _)
  | logical _ _ _ _ _ => exact absurd rfl ((plain _ (mem_nodes_self _)).2 _ _ _)
  | not _ ih =>
      refine List.forall_mem_cons.mpr ⟨rfl, ih fun node mem => plain node ?_⟩
      exact List.mem_cons_of_mem _ mem
  | @call method function target argument _ _ _ ihTarget ihArgument =>
      have nodes : (Expr.call method target [argument]).nodes =
          .call method target [argument] :: (target.nodes ++ argument.nodes) := by
        simp [Expr.nodes, nodesOfAll]
      rw [pieces_call]
      refine List.forall_mem_cons.mpr ⟨rfl, List.forall_mem_append.mpr ⟨?_, ?_⟩⟩
      · exact ihTarget fun node mem => plain node (by simp [nodes, mem])
      · refine List.forall_mem_cons.mpr ⟨rfl, ?_⟩
        exact ihArgument fun node mem => plain node (by simp [nodes, mem])

/-- A plain expression whose first piece is a field is that field. -/
theorem Compiles.eq_field_of_plain {e : Expr} (h : e.Compiles) (plain : e.Plain) {n : Nat}
    {reference : String} {rest : List Piece} (first : e.pieces n = .field reference :: rest) :
    e = .field reference ∧ isFieldPath reference = true := by
  cases h with
  | field path =>
      cases first
      exact ⟨rfl, path⟩
  | binary _ _ _ => exact absurd rfl ((plain _ (mem_nodes_self _)).1 _ _ _)
  | logical _ _ _ => exact absurd rfl ((plain _ (mem_nodes_self _)).2 _ _ _)
  | _ => cases first

theorem Compiles.eq_literal_of_plain {e : Expr} (h : e.Compiles) (plain : e.Plain)
    {n number : Nat} (only : e.pieces n = [.parameter number]) :
    ∃ value, e = .literal value := by
  cases h with
  | literal value => exact ⟨value, rfl⟩
  | binary _ _ _ => exact absurd rfl ((plain _ (mem_nodes_self _)).1 _ _ _)
  | logical _ _ _ => exact absurd rfl ((plain _ (mem_nodes_self _)).2 _ _ _)
  | _ => cases only

end Expr

/-- The first clause starts with the first piece. -/
theorem IsEquality.of_cons {piece : Piece} {pieces : List Piece} (other : piece ≠ .keyword .and)
    (equalities : ∀ clause ∈ clausesOf (piece :: pieces), IsEquality clause) :
    ∃ reference, piece = .field reference := by
  have cut : clausesOf (piece :: pieces) =
      (clausesOf pieces).modifyHead (List.cons piece) := by
    simp [clausesOf, List.splitOn, List.splitOnP_cons_eq_if_modifyHead, other]
  obtain ⟨clause, clauses, same⟩ := List.exists_cons_of_ne_nil
    (List.splitOnP_ne_nil (· == Piece.keyword .and) pieces)
  have same : clausesOf pieces = clause :: clauses := same
  rw [cut, same] at equalities
  obtain ⟨reference, between, number, -, whole⟩ := equalities _ List.mem_cons_self
  exact ⟨reference, (List.cons.inj whole).1⟩

/-- An operand that is a field or a value is not written with words. -/
theorem Expr.Compiles.not_mem_of_plain {e : Expr} (compiles : e.Compiles) (plain : e.Plain)
    {n : Nat} {piece : Piece} (isWord : piece.word?.isSome = true) : piece ∉ e.pieces n := by
  intro mem
  rw [compiles.word?_of_plain plain piece mem] at isWord
  cases isWord

/-- A comparison that is read compares a field with a value, and is an equality. -/
theorem Expr.Conjunctive.of_comparison {op : BinaryOp} {left right : Expr} {n : Nat}
    (compilesLeft : left.Compiles) (compilesRight : right.Compiles) (plainLeft : left.Plain)
    (plainRight : right.Plain) (reads : ReadsAsEqualities ((Expr.binary op left right).pieces n)) :
    (Expr.binary op left right).Conjunctive := by
  have one : .keyword .and ∉ (Expr.binary op left right).pieces n := by
    simp only [Expr.pieces, List.mem_append, List.mem_cons, not_or, reduceCtorEq,
      not_false_eq_true, true_and]
    exact ⟨compilesLeft.not_mem_of_plain plainLeft rfl,
      compilesRight.not_mem_of_plain plainRight rfl⟩
  have clause : IsEquality ((Expr.binary op left right).pieces n) := by
    refine reads.equalities _ ?_
    rw [clausesOf_eq_singleton one]
    exact List.mem_singleton_self _
  rw [Expr.pieces] at clause
  -- the symbol of an equality is in the text, and neither operand has it
  have equality : op = .eq := by
    obtain ⟨reference, between, number, -, whole⟩ := clause
    have mem : Piece.symbol .eq ∈ left.pieces n ++
        .symbol op :: right.pieces (n + left.literals.length) := by simp [whole]
    rcases List.mem_append.mp mem with inside | inside
    · exact absurd inside (compilesLeft.not_mem_of_plain plainLeft rfl)
    · rcases List.mem_cons.mp inside with same | inside
      · exact (Piece.symbol.inj same).symm
      · exact absurd inside (compilesRight.not_mem_of_plain plainRight rfl)
  subst equality
  obtain ⟨⟨reference, rest, first⟩, number, last⟩ :=
    (isEquality_append_cons (compilesLeft.not_mem_of_plain plainLeft rfl)).mp clause
  obtain ⟨rfl, path⟩ := compilesLeft.eq_field_of_plain plainLeft first
  obtain ⟨value, rfl⟩ := compilesRight.eq_literal_of_plain plainRight last
  refine @Expr.Conjunctive.equality ⟨reference, value⟩ ⟨path, fun ending => reads.affirms ?_⟩
  exact .inr ⟨reference, .symbol .eq, ⟨[], _, rfl⟩, rfl, ending⟩

/-- **A predicate that is read is the conjunction that it looks like**, if it compares no
comparisons. -/
theorem Expr.Unnested.conjunctive {e : Expr} (unnested : e.Unnested) (h : e.Compiles) {n : Nat}
    (reads : ReadsAsEqualities (e.pieces n)) : e.Conjunctive := by
  induction h generalizing n with
  | field path =>
      obtain ⟨_, _, _, -, whole⟩ := reads.equalities _ (List.mem_singleton_self _)
      simp at whole
  | literal value =>
      obtain ⟨_, _, _, -, whole⟩ := reads.equalities _ (List.mem_singleton_self _)
      simp at whole
  | not _ _ => exact absurd (.inl List.mem_cons_self) reads.affirms
  | call _ _ _ _ _ =>
      rw [Expr.pieces_call] at reads
      obtain ⟨_, same⟩ := IsEquality.of_cons (by simp) reads.equalities
      cases same
  | @logical op left right _ _ ihLeft ihRight =>
      have whole := reads.noDisjunction
      cases op with
      | or => exact absurd (by simp [Expr.pieces]) whole
      | and =>
          have clauses := reads.equalities
          rw [Expr.pieces, clausesOf_append_cons, List.forall_mem_append] at clauses
          simp only [Expr.pieces, List.mem_append, List.mem_cons, not_or] at whole
          refine .and (ihLeft (fun op l r mem => unnested op l r ?_) (n := n)
            ⟨fun denies => reads.affirms (denies.of_infix (List.infix_append' [] _ _)), whole.1,
              clauses.1⟩)
            (ihRight (fun op l r mem => unnested op l r ?_) (n := n + left.literals.length)
              ⟨fun denies => reads.affirms (denies.of_infix ?_), whole.2.2, clauses.2⟩)
          · exact List.mem_cons_of_mem _ (List.mem_append_left _ mem)
          · exact List.mem_cons_of_mem _ (List.mem_append_right _ mem)
          · exact ((List.suffix_cons _ _).trans (List.suffix_append _ _)).isInfix
  | @binary op left right _ compilesLeft compilesRight _ _ =>
      obtain ⟨plainLeft, plainRight⟩ := unnested op left right (Expr.mem_nodes_self _)
      exact .of_comparison compilesLeft compilesRight plainLeft plainRight reads

theorem Expr.Conjunctive.readsAsEqualities {e : Expr} (h : e.Conjunctive) :
    ReadsAsEqualities (e.pieces 0) := by
  rw [← readConditions?_isSome_iff h.compiles "", readConditions?_text h]
  rfl

/-! ### What a container answers -/

theorem queryItems_of_quiet {container : Memory.Container} (quiet : container.failures = [])
    (statement : Statement) (options : QueryOptions) :
    (Memory.Container.queryItems statement options container).1 =
      Memory.Container.answerOf statement options container.documents := by
  have served := Memory.Container.serves_queryItems statement options
  rw [(served.answered container quiet).1, Memory.Container.effect_queryItems]

/-- **A container answers exactly the queries whose pieces are those of equalities.** Whatever the
predicate, the way it was compiled and the documents: if its pieces are those of equalities, the
query is answered with a page of its results, and otherwise it is refused. If no comparisons are
compared, those are exactly the conjunctions of equalities. -/
theorem container_answers_exactly {compilation : Compilation} {e : Expr} {statement : Statement}
    (compiled : compilation.run e = .ok statement) (fits : compilation.Fits)
    {container : Memory.Container} (quiet : container.failures = []) (options : QueryOptions) :
    (ReadsAsEqualities (e.pieces 0) → ∃ results,
      evaluate? statement (container.documentsOf options.key) = some results ∧
        (Memory.Container.queryItems statement options container).1 =
          (Memory.Container.startOf options.continuation).map fun start =>
            Memory.Container.pageOf results start options.maxItems) ∧
      (¬ReadsAsEqualities (e.pieces 0) →
        (Memory.Container.queryItems statement options container).1 =
          .error (.internal ("fake store cannot evaluate: " ++ statement.text))) ∧
      (e.Unnested → (ReadsAsEqualities (e.pieces 0) ↔ e.Conjunctive)) := by
  have understood := compilation.evaluate?_isSome_iff compiled fits
    (container.documentsOf options.key)
  have answer := queryItems_of_quiet quiet statement options
  refine ⟨fun reads => ?_, fun refused => ?_, fun unnested => ⟨?_, ?_⟩⟩
  · obtain ⟨results, evaluates⟩ := Option.isSome_iff_exists.mp (understood.mpr reads)
    exact ⟨results, evaluates, answer.trans (Memory.Container.answerOf_of_some evaluates)⟩
  · have none := Option.not_isSome_iff_eq_none.mp (mt understood.mp refused)
    exact answer.trans (Memory.Container.answerOf_of_none none)
  · exact unnested.conjunctive (compilation.run_eq_ok compiled).1
  · exact Expr.Conjunctive.readsAsEqualities

/-- A conjunction of two equalities is answered; with a disjunction in its place, the query is
refused. -/
theorem container_answers_exactly_connectives :
    let first := Expr.compare "A" .eq (.int 1)
    let second := Expr.compare "B" .eq (.int 2)
    let container : Memory.Container :=
      { documents := {(⟨"u1", "g1"⟩, .obj [("a", .int 1), ("b", .int 2), ("id", .str "g1")])} }
    (∃ statement, Compilation.count.run (first.and second) = .ok statement ∧
      ∃ results, evaluate? statement (container.documentsOf none) = some results ∧
        (Memory.Container.queryItems statement {} container).1 =
          .ok (Memory.Container.pageOf results 0 none)) ∧
      ∃ statement, Compilation.alone.run (first.or second) = .ok statement ∧
        (Memory.Container.queryItems statement {} container).1 =
          .error (.internal ("fake store cannot evaluate: " ++ statement.text)) := by
  intro first second container
  have quiet : container.failures = [] := rfl
  have both : Compilation.count.run (first.and second) = .ok _ := rfl
  have either : Compilation.alone.run (first.or second) = .ok _ := rfl
  have conjunctive : (first.and second).Conjunctive :=
    .and (@Expr.Conjunctive.equality ⟨"A", .int 1⟩ ⟨by decide, by decide⟩)
      (@Expr.Conjunctive.equality ⟨"B", .int 2⟩ ⟨by decide, by decide⟩)
  have disjunction : ¬ReadsAsEqualities ((first.or second).pieces 0) :=
    fun reads => reads.noDisjunction (by decide)
  obtain ⟨answered, -, -⟩ := container_answers_exactly both trivial quiet {}
  obtain ⟨-, refused, -⟩ := container_answers_exactly either trivial quiet {}
  exact ⟨⟨_, both, answered conjunctive.readsAsEqualities⟩, _, either, refused disjunction⟩

/-- A comparison with a conjunction is no conjunction of equalities, but its pieces are those of
one, and so it is answered as one. -/
theorem nested_conjunction_answered :
    let nested := Expr.binary .eq (.field "A")
      ((Expr.literal (.int 1)).and (.compare "B" .eq (.int 2)))
    let document := Json.obj [("a", .int 1), ("b", .int 2), ("id", .str "g1")]
    let container : Memory.Container := { documents := {(⟨"u1", "g1"⟩, document)} }
    ¬nested.Conjunctive ∧ ∃ statement, Compilation.alone.run nested = .ok statement ∧
      statement.text = "SELECT * FROM c WHERE c.a = (@param0 AND c.b = @param1)" ∧
      (Memory.Container.queryItems statement {} container).1 =
        .ok ⟨[document], none, Memory.Container.pageCharge⟩ := by
  intro nested document container
  let flat := (Expr.compare "A" .eq (.int 1)).and (.compare "B" .eq (.int 2))
  have conjunctive : flat.Conjunctive :=
    .and (@Expr.Conjunctive.equality ⟨"A", .int 1⟩ ⟨by decide, by decide⟩)
      (@Expr.Conjunctive.equality ⟨"B", .int 2⟩ ⟨by decide, by decide⟩)
  have compiles : nested.Compiles := Expr.compiles_of_error? nested rfl
  have evaluates : evaluate? (predicateStatement .documents (some nested))
      (container.documentsOf none) = some [document] := by
    rw [evaluate?_predicateStatement compiles]
    refine (selectBy?_of_pieces_eq compiles conjunctive.compiles rfl rfl _ _).trans ?_
    refine (@selectBy?_whereText { filter := some flat } (fun e same => ?_) _ _).trans rfl
    exact Option.some.inj same ▸ conjunctive
  refine ⟨fun conjunctive => ?_, _, rfl, rfl, ?_⟩
  · cases conjunctive.map_value_equalities
  · refine (queryItems_of_quiet rfl (predicateStatement .documents (some nested)) {}).trans ?_
    rw [Memory.Container.answerOf_of_some evaluates]
    rfl

end DocumentClient.Query
