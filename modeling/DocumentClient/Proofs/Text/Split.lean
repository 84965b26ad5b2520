import DocumentClient.Text.Split
import Mathlib.Data.List.Basic

/-!
# DocumentClient.Proofs.Text.Split

**Where one part of a text ends and the next one begins.** Texts are cut at separators in two ways,
at the first one or at every one, and joined with them; connection strings, paths, pages and the
clauses of a query all depend on it that a cut finds the parts that were joined.

* `Skips` says that a separator does not start inside a part of a text; both ways to cut a text
  leave such a part whole (`Skips.splitOnce?`, `Skips.splitFrom`).
* `join_splitFrom` and `splitFrom_join` say that cutting and joining undo each other.
* `spaced` are words with blanks in front of them, as the texts of queries are made of.

## Proof shape

* `Skips` takes what follows the part as an argument, since a separator may start in one part and
  end in the next. `Skips.append_iff` is the step for all inductions over parts.
* `Skips.of_absent` is what mostly suffices: a character of the separator is not in the text.
* `Skips.spaced` and `Skips.spaced_of_suffix` are for words with blanks between them, where it
  does not: a separator that is itself a word, or ends one, is found only where the word is.
  `EndsWord` is what keeps a word from going on unnoticed.
-/

namespace DocumentClient.Text

/-- Parts whose characters have a property are told from what follows them, if that does not
start with such a character. -/
theorem append_inj_of_all {p : Char → Bool} {a b r s : List Char} (ha : a.all p = true)
    (hb : b.all p = true) (hr : ∀ c ∈ r.head?, p c = false) (hs : ∀ c ∈ s.head?, p c = false)
    (h : a ++ r = b ++ s) : a = b ∧ r = s := by
  induction a generalizing b with
  | nil =>
      cases b with
      | nil => exact ⟨rfl, h⟩
      | cons c b =>
          have outside := hr c (by simp_all)
          simp [outside] at hb
  | cons c a ih =>
      have inside : p c = true ∧ a.all p = true := by simpa using ha
      cases b with
      | nil =>
          have outside := hs c (by simp [← show c :: a ++ r = s from h])
          simp [outside] at inside
      | cons d b =>
          obtain ⟨rfl, tails⟩ := List.cons.inj h
          have rest : b.all p = true := by
            rw [List.all_cons] at hb
            exact (Bool.and_eq_true_iff.mp hb).2
          obtain ⟨rfl, same⟩ := ih inside.2 rest tails
          exact ⟨rfl, same⟩

/-! ### What a text starts with -/

theorem afterStart?_eq_some_iff {start cs rest : List Char} :
    afterStart? start cs = some rest ↔ cs = start ++ rest := by
  rw [afterStart?, List.isPrefixOf?_eq_some_iff_append_eq]
  exact eq_comm

@[simp] theorem afterStart?_append (start rest : List Char) :
    afterStart? start (start ++ rest) = some rest :=
  afterStart?_eq_some_iff.mpr rfl

theorem afterStart?_eq_none {start cs : List Char} (h : ¬start <+: cs) :
    afterStart? start cs = none := by
  refine Option.eq_none_iff_forall_ne_some.mpr fun rest found => h ⟨rest, ?_⟩
  exact (afterStart?_eq_some_iff.mp found).symm

/-! ### Where a separator does not start -/

variable {separator text before rest : List Char}

/-- The separator does not start inside the text, if `rest` follows it. -/
def Skips (separator : List Char) : List Char → List Char → Prop
  | [], _ => True
  | c :: cs, rest => ¬separator <+: c :: (cs ++ rest) ∧ Skips separator cs rest

namespace Skips

/-- A separator that starts inside neither of two texts does not start inside both together. -/
theorem append_iff : Skips separator (before ++ text) rest ↔
    Skips separator before (text ++ rest) ∧ Skips separator text rest := by
  induction before with
  | nil => exact (and_iff_right trivial).symm
  | cons c before ih =>
      rw [List.cons_append, Skips, Skips, ih, List.append_assoc, and_assoc]

theorem of_not_mem {first : Char} {more : List Char} (h : first ∉ text) (rest : List Char) :
    Skips (first :: more) text rest := by
  induction text with
  | nil => trivial
  | cons c text ih =>
      refine ⟨fun starts => h ?_, ih fun mem => h (List.mem_cons_of_mem c mem)⟩
      exact (List.cons_prefix_cons.mp starts).1 ▸ List.mem_cons_self

/-- A separator does not start in a text without one of its characters, if nothing follows it. -/
theorem of_absent {c : Char} (mem : c ∈ separator) (absent : c ∉ text) :
    Skips separator text [] := by
  induction text with
  | nil => trivial
  | cons d text ih =>
      refine ⟨fun starts => absent ?_, ih fun mem => absent (List.mem_cons_of_mem d mem)⟩
      rw [List.append_nil] at starts
      exact starts.subset mem

theorem blank {c d : Char} {more : List Char} (other : c ≠ d)
    (h : Skips (' ' :: c :: more) (d :: text) rest) :
    Skips (' ' :: c :: more) (' ' :: d :: text) rest :=
  ⟨fun starts => other (List.cons_prefix_cons.mp (List.cons_prefix_cons.mp starts).2).1, h⟩

theorem splitOnce? (h : Skips separator text rest) :
    splitOnce? separator (text ++ rest) =
      (Text.splitOnce? separator rest).map fun parts => (text ++ parts.1, parts.2) := by
  induction text with
  | nil => exact Option.map_id'.symm
  | cons c text ih =>
      rw [List.cons_append, Text.splitOnce?, afterStart?_eq_none h.1, ih h.2, Option.map_map]
      rfl

theorem splitOnce?_eq_none (pos : separator ≠ []) (h : Skips separator text []) :
    Text.splitOnce? separator text = none := by
  have whole := h.splitOnce?
  rwa [List.append_nil, Text.splitOnce?, if_neg (mt List.isEmpty_iff.mp pos)] at whole

theorem splitFrom (h : Skips separator text rest) :
    splitFrom separator 0 (text ++ rest) =
      text.foldr consFirst (Text.splitFrom separator 0 rest) := by
  induction text with
  | nil => rfl
  | cons c text ih =>
      have starts : ¬separator.isPrefixOf (c :: (text ++ rest)) :=
        mt List.isPrefixOf_iff_prefix.mp h.1
      rw [List.cons_append, Text.splitFrom, if_neg starts, ih h.2]
      rfl

end Skips

theorem splitFrom_ne_nil (separator : List Char) (inside : Nat) (cs : List Char) :
    splitFrom separator inside cs ≠ [] := by
  induction cs generalizing inside with
  | nil => cases inside <;> exact List.cons_ne_nil _ _
  | cons c cs ih =>
      cases inside with
      | succ inside => exact ih inside
      | zero =>
          rw [splitFrom]
          split
          · exact List.cons_ne_nil _ _
          · obtain ⟨part, parts, same⟩ := List.exists_cons_of_ne_nil (ih 0)
            rw [same]
            exact List.cons_ne_nil _ _

theorem foldr_consFirst (text part : List Char) (parts : List (List Char)) :
    text.foldr consFirst (part :: parts) = (text ++ part) :: parts := by
  induction text with
  | nil => rfl
  | cons c text ih =>
      rw [List.foldr_cons, ih]
      rfl

theorem splitOnce?_append (separator rest : List Char) :
    splitOnce? separator (separator ++ rest) = some ([], rest) := by
  cases separator with
  | nil => cases rest <;> rfl
  | cons c separator =>
      have starts := afterStart?_append (c :: separator) rest
      rw [List.cons_append] at starts ⊢
      rw [splitOnce?, starts]

theorem occursIn_of_infix (h : separator <:+: text) : occursIn separator text = true := by
  obtain ⟨before, after, rfl⟩ := h
  rw [List.append_assoc, occursIn]
  induction before with
  | nil => rw [List.nil_append, splitOnce?_append, Option.isSome_some]
  | cons c before ih =>
      rw [List.cons_append, Text.splitOnce?]
      split
      · rfl
      · rw [Option.isSome_map, ih]

theorem Skips.splitOnce?_append (h : Skips separator text (separator ++ rest)) :
    Text.splitOnce? separator (text ++ (separator ++ rest)) = some (text, rest) := by
  rw [h.splitOnce?, Text.splitOnce?_append, Option.map_some, List.append_nil]

theorem splitLast?_append {mark : Char} {after : List Char} (last : mark ∉ after)
    (before : List Char) : splitLast? mark (before ++ mark :: after) = some (before, after) := by
  have skips : Skips [mark] after.reverse ([mark] ++ before.reverse) :=
    Skips.of_not_mem (mt List.mem_reverse.mp last) _
  have turned : (before ++ mark :: after).reverse =
      after.reverse ++ ([mark] ++ before.reverse) := by simp
  rw [splitLast?, turned, skips.splitOnce?_append]
  simp

theorem splitLast?_eq_none {mark : Char} {cs : List Char} (absent : mark ∉ cs) :
    splitLast? mark cs = none := by
  have skips : Skips [mark] cs.reverse [] := Skips.of_not_mem (mt List.mem_reverse.mp absent) _
  rw [splitLast?, skips.splitOnce?_eq_none (List.cons_ne_nil _ _), Option.map_none]

/-- The parts around the last occurrence of a character. -/
theorem splitLast?_eq_some_iff {mark : Char} {cs before after : List Char} :
    splitLast? mark cs = some (before, after) ↔ cs = before ++ mark :: after ∧ mark ∉ after := by
  constructor
  · intro cut
    by_cases mem : mark ∈ cs
    · obtain ⟨after', before', turned, last⟩ :=
        List.eq_append_cons_of_mem (List.mem_reverse.mpr mem)
      have whole : cs = before'.reverse ++ mark :: after'.reverse := by
        simpa using congrArg List.reverse turned
      have last : mark ∉ after'.reverse := mt List.mem_reverse.mp last
      rw [whole, splitLast?_append last] at cut
      obtain ⟨rfl, rfl⟩ := Prod.mk.inj (Option.some.inj cut)
      exact ⟨whole, last⟩
    · rw [splitLast?_eq_none mem] at cut
      cases cut
  · rintro ⟨rfl, last⟩
    exact splitLast?_append last before

/-- Characters of an occurrence of a separator belong to no part. -/
theorem splitFrom_length (separator inside rest : List Char) :
    splitFrom separator inside.length (inside ++ rest) = splitFrom separator 0 rest := by
  induction inside with
  | nil => rfl
  | cons c inside ih => exact ih

theorem splitFrom_append (pos : separator ≠ []) (rest : List Char) :
    splitFrom separator 0 (separator ++ rest) = [] :: splitFrom separator 0 rest := by
  obtain ⟨c, more, rfl⟩ := List.exists_cons_of_ne_nil pos
  have starts : (c :: more).isPrefixOf (c :: (more ++ rest)) :=
    List.isPrefixOf_iff_prefix.mpr (List.prefix_append (c :: more) rest)
  rw [List.cons_append, splitFrom, if_pos starts]
  exact congrArg ([] :: ·) (splitFrom_length (c :: more) more rest)

/-- The parts between the occurrences of a character do not contain it. -/
theorem not_mem_of_mem_splitFrom {mark : Char} {cs part : List Char}
    (h : part ∈ splitFrom [mark] 0 cs) : mark ∉ part := by
  induction cs generalizing part with
  | nil =>
      obtain rfl : part = [] := List.mem_singleton.mp h
      exact List.not_mem_nil
  | cons c cs ih =>
      rw [splitFrom] at h
      split at h
      · rcases List.mem_cons.mp h with rfl | later
        · exact List.not_mem_nil
        · exact ih later
      · rename_i other
        obtain ⟨first, parts, same⟩ := List.exists_cons_of_ne_nil (splitFrom_ne_nil [mark] 0 cs)
        rw [same] at h ih
        rcases List.mem_cons.mp h with rfl | later
        · have differs : mark ≠ c := by simpa using other
          exact List.not_mem_cons_of_ne_of_not_mem differs (ih List.mem_cons_self)
        · exact ih (List.mem_cons_of_mem first later)

/-! ### Cutting and joining -/

theorem join_cons {parts : List (List Char)} (pos : parts ≠ []) (part : List Char) :
    join separator (part :: parts) = part ++ (separator ++ join separator parts) := by
  obtain ⟨next, more, rfl⟩ := List.exists_cons_of_ne_nil pos
  rw [join, List.append_assoc]
  exact List.cons_ne_nil next more

theorem join_consFirst {parts : List (List Char)} (pos : parts ≠ []) (c : Char) :
    join separator (consFirst c parts) = c :: join separator parts := by
  obtain ⟨part, more, rfl⟩ := List.exists_cons_of_ne_nil pos
  cases more with
  | nil => rfl
  | cons next more => rfl

/-- Joining undoes cutting. -/
theorem join_splitFrom (pos : separator ≠ []) (inside : Nat) (cs : List Char) :
    join separator (splitFrom separator inside cs) = cs.drop inside := by
  induction cs generalizing inside with
  | nil => cases inside <;> rfl
  | cons c cs ih =>
      cases inside with
      | succ inside => exact ih inside
      | zero =>
          have left := splitFrom_ne_nil separator
          rw [splitFrom]
          split
          · rename_i starts
            obtain ⟨rest, same⟩ := List.isPrefixOf_iff_prefix.mp starts
            rw [join_cons (left _ _), ih]
            cases separator with
            | nil => exact absurd rfl pos
            | cons first separator =>
                obtain ⟨rfl, rfl⟩ := List.cons.inj same
                simp
          · rw [join_consFirst (left _ _), ih]
            rfl

/-- Cutting undoes joining, if the separator starts in no part. -/
theorem splitFrom_join {first : Char} {more : List Char} {parts : List (List Char)}
    (pos : parts ≠ []) (without : ∀ part ∈ parts, first ∉ part) :
    splitFrom (first :: more) 0 (join (first :: more) parts) = parts := by
  induction parts with
  | nil => exact absurd rfl pos
  | cons part parts ih =>
      obtain ⟨here, there⟩ := List.forall_mem_cons.mp without
      by_cases last : parts = []
      · subst last
        have whole : splitFrom (first :: more) 0 (part ++ []) = _ :=
          (Skips.of_not_mem here []).splitFrom
        rwa [List.append_nil, splitFrom, foldr_consFirst, List.append_nil] at whole
      · rw [join_cons last, (Skips.of_not_mem here _).splitFrom,
          splitFrom_append (List.cons_ne_nil first more), ih last there, foldr_consFirst,
          List.append_nil]

/-! ### Words -/

/-- Words, each after a blank. -/
def spaced (words : List (List Char)) : List Char :=
  words.flatMap (' ' :: ·)

theorem spaced_cons (word : List Char) (words : List (List Char)) :
    spaced (word :: words) = ' ' :: (word ++ spaced words) := rfl

theorem spaced_append (words words' : List (List Char)) :
    spaced (words ++ words') = spaced words ++ spaced words' :=
  List.flatMap_append

/-- The text is over, or goes on with a blank. -/
def EndsWord (rest : List Char) : Prop :=
  ∀ c ∈ rest.head?, c = ' '

theorem EndsWord.nil : EndsWord [] :=
  fun _ none => nomatch none

theorem EndsWord.cons (rest : List Char) : EndsWord (' ' :: rest) :=
  fun _ blank => (Option.some.inj blank).symm

theorem EndsWord.spaced (words : List (List Char)) (ends : EndsWord rest) :
    EndsWord (spaced words ++ rest) := by
  cases words with
  | nil => exact ends
  | cons word words => exact .cons _

theorem append_inj_of_endsWord {a b r s : List Char} (ha : ' ' ∉ a) (hb : ' ' ∉ b)
    (hr : EndsWord r) (hs : EndsWord s) (h : a ++ r = b ++ s) : a = b ∧ r = s := by
  have blankless : ∀ {cs : List Char}, ' ' ∉ cs → cs.all (· != ' ') = true := fun h =>
    List.all_eq_true.mpr fun c mem => bne_iff_ne.mpr fun blank => h (blank ▸ mem)
  have ending : ∀ {cs : List Char}, EndsWord cs → ∀ c ∈ cs.head?, (c != ' ') = false :=
    fun ends c mem => bne_eq_false_iff_eq.mpr (ends c mem)
  exact append_inj_of_all (blankless ha) (blankless hb) (ending hr) (ending hs) h

/-- A separator that starts with a word does not start inside other words. -/
theorem Skips.spaced {word more : List Char} {words : List (List Char)} (blankless : ' ' ∉ word)
    (others : ∀ other ∈ words, ' ' ∉ other ∧ other ≠ word) (ends : EndsWord rest) :
    Skips (' ' :: (word ++ ' ' :: more)) (Text.spaced words) rest := by
  induction words with
  | nil => trivial
  | cons other words ih =>
      obtain ⟨⟨blankless', different⟩, others⟩ := List.forall_mem_cons.mp others
      rw [spaced_cons]
      refine ⟨fun starts => different ?_, ?_⟩
      · obtain ⟨tail, same⟩ := (List.cons_prefix_cons.mp starts).2
        rw [List.append_assoc, List.append_assoc] at same
        exact (append_inj_of_endsWord blankless blankless' (.cons _) (ends.spaced words)
          same).1.symm
      · exact append_iff.mpr ⟨of_not_mem blankless' _, ih others⟩

/-- The end of a word, with the blank after it, does not start inside a word that ends
otherwise. -/
theorem Skips.of_suffix {ending word : List Char} (blankless : ' ' ∉ ending) (plain : ' ' ∉ word)
    (other : ¬ending <:+ word) (ends : EndsWord rest) : Skips (ending ++ [' ']) word rest := by
  induction word with
  | nil => trivial
  | cons c word ih =>
      refine ⟨fun starts => other ?_, ih (fun mem => plain (List.mem_cons_of_mem c mem))
        fun suffix => other (suffix.trans (List.suffix_cons c word))⟩
      obtain ⟨tail, same⟩ := starts
      rw [List.append_assoc] at same
      have whole := append_inj_of_endsWord (b := c :: word) blankless plain (.cons tail) ends same
      exact whole.1 ▸ List.suffix_refl _

/-- The end of a word, with the blank after it, does not start inside words that end otherwise. -/
theorem Skips.spaced_of_suffix {ending : List Char} {words : List (List Char)} (pos : ending ≠ [])
    (blankless : ' ' ∉ ending)
    (others : ∀ other ∈ words, ' ' ∉ other ∧ ¬ending <:+ other) (ends : EndsWord rest) :
    Skips (ending ++ [' ']) (Text.spaced words) rest := by
  induction words with
  | nil => trivial
  | cons other words ih =>
      obtain ⟨⟨plain, different⟩, others⟩ := List.forall_mem_cons.mp others
      rw [spaced_cons]
      refine ⟨fun starts => blankless ?_, ?_⟩
      · obtain ⟨first, ending, rfl⟩ := List.exists_cons_of_ne_nil pos
        exact (List.cons_prefix_cons.mp starts).1 ▸ List.mem_cons_self
      · exact append_iff.mpr
          ⟨of_suffix blankless plain different (ends.spaced words), ih others⟩

end DocumentClient.Text
