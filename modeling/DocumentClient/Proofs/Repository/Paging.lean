import DocumentClient.Proofs.Query.Sorting
import DocumentClient.Proofs.Repository.Answers
import DocumentClient.Proofs.Store.Serving
import DocumentClient.Proofs.Text.Numeral

/-!
# DocumentClient.Proofs.Repository.Paging

**Pages that are fetched one after the other hold the results of a query, each once and in order.**
A container cuts pages out of the results and says in a token how many of them came before the next
page; a repository asks for page after page until there is no token, or until it has as many results
as are wanted.

* `pageOf_items` and `pageOf_continuation` say what one page holds and where the next one starts;
  `tokenOf` is the token of a place in the results, and `eq_of_startOf_tokenOf` that it is read as
  that place.
* `fetch_ends` says how a whole fetch ends, and `fetch_refused` what becomes of a text that is not
  understood: it is refused with the first page.

## Proof shape

* `fetchFrom_page` is the step: one page is answered from the documents, which stay as they are,
  and the fetch goes on after it.
* `fetchFrom_ends` is the induction over the pages: what was fetched before a page is always a
  beginning of the results, as long as the token says.
* A token of a place that a word cannot hold is refused. That can happen only if there are more
  results than a word can count, and so it stands in the conclusion, not among the hypotheses;
  only who knows that there are fewer documents gets rid of it.
-/

namespace DocumentClient

open Store

namespace Memory.Container

variable {results : List Json} {start size : Nat}

/-! ### One page -/

/-- A page goes on where the results before it end. -/
theorem pageOf_items (results : List Json) (start size : Nat) :
    results.take start ++ (pageOf results start (some size)).items =
      results.take (start + size) := by
  have items : (pageOf results start (some size)).items =
      (results.take (start + size)).drop start := by
    change (results.take (Nat.min (start + size) results.length)).drop start = _
    rw [← List.take_eq_take_min]
  have before : results.take start = (results.take (start + size)).take start := by
    rw [List.take_take, Nat.min_eq_left (Nat.le_add_right start size)]
  rw [items, before]
  exact List.take_append_drop start _

theorem pageOf_continuation (results : List Json) (start size : Nat) :
    (pageOf results start (some size)).continuation =
      if start + size < results.length then some (Text.natText (start + size)) else none := by
  change (if min (start + size) results.length < results.length then
    some (Text.natText (min (start + size) results.length)) else none) = _
  by_cases left : start + size < results.length
  · rw [Nat.min_eq_left (Nat.le_of_lt left)]
  · rw [Nat.min_eq_right (Nat.le_of_not_lt left), if_neg (Nat.lt_irrefl _), if_neg left]

/-- Where a page starts, as a token: only the first page has none. -/
def tokenOf : Nat → Option String
  | 0 => none
  | start + 1 => some (Text.natText (start + 1))

theorem tokenOf_of_pos (pos : 0 < start) : tokenOf start = some (Text.natText start) := by
  obtain ⟨start, rfl⟩ := Nat.exists_eq_add_one_of_ne_zero (Nat.ne_of_gt pos)
  rfl

/-- A token that is read says where the page starts. -/
theorem eq_of_startOf_tokenOf {m : Nat} (h : startOf (tokenOf start) = .ok m) : m = start := by
  cases start with
  | zero => exact (Except.ok.inj h).symm
  | succ start =>
      simp only [startOf, tokenOf, Text.natText, String.toList_ofList] at h
      cases read : Text.readNumeral Word.max64 (Text.natChars (start + 1)) with
      | error _ =>
          rw [read] at h
          cases h
      | ok n =>
          rw [read] at h
          cases h
          exact Text.eq_of_readNumeral_natChars read

theorem startOf_tokenOf (fits : start ≤ Word.max64) : startOf (tokenOf start) = .ok start := by
  cases start with
  | zero => rfl
  | succ start =>
      simp only [startOf, tokenOf, Text.natText, String.toList_ofList]
      rw [Text.readNumeral_natChars fits]
      rfl

theorem length_documentsOf_le (container : Memory.Container) (scope : Option PartitionKey) :
    (container.documentsOf scope).length ≤ container.documents.length := by
  rw [documentsOf, Keyed.Map.values, List.length_map]
  exact List.length_filter_le _ _

/-- What a query of documents is answered: a page of its results, if its text is understood. -/
def answerOf (statement : Query.Statement) (options : QueryOptions) (documents : Documents) :
    Except Failure QueryPage :=
  match Query.evaluate? statement (documentsOf { documents } options.key) with
  | none => .error (.internal ("fake store cannot evaluate: " ++ statement.text))
  | some results =>
    (startOf options.continuation).map fun start => pageOf results start options.maxItems

theorem answerOf_of_some {statement : Query.Statement} {options : QueryOptions}
    {container : Memory.Container}
    (h : Query.evaluate? statement (container.documentsOf options.key) = some results) :
    answerOf statement options container.documents =
      (startOf options.continuation).map fun start =>
        pageOf results start options.maxItems := by
  rw [answerOf, show Query.evaluate? statement (documentsOf { documents := container.documents }
    options.key) = some results from h]

theorem answerOf_of_none {statement : Query.Statement} {options : QueryOptions}
    {container : Memory.Container}
    (h : Query.evaluate? statement (container.documentsOf options.key) = none) :
    answerOf statement options container.documents =
      .error (.internal ("fake store cannot evaluate: " ++ statement.text)) := by
  rw [answerOf, show Query.evaluate? statement (documentsOf { documents := container.documents }
    options.key) = none from h]

/-- An answer that goes on where a token says is a page of the results from there on. -/
theorem answerOf_eq_ok {statement : Query.Statement} {scope : Option PartitionKey}
    {documents : Documents} {page : QueryPage}
    (h : answerOf statement ⟨scope, some size, tokenOf start⟩ documents = .ok page) :
    ∃ results, Query.evaluate? statement (documentsOf { documents } scope) = some results ∧
      page = pageOf results start (some size) := by
  unfold answerOf at h
  split at h
  · cases h
  · rename_i results evaluates
    cases token : startOf (tokenOf start) with
    | error failure => simp [token, Except.map] at h
    | ok m =>
        obtain rfl := eq_of_startOf_tokenOf token
        simp only [token, Except.map, Except.ok.injEq] at h
        exact ⟨results, evaluates, h.symm⟩

theorem effect_queryItems (statement : Query.Statement) (options : QueryOptions)
    (documents : Documents) :
    effect (queryItems statement options) documents =
      (answerOf statement options documents, documents) := by
  have same : documentsOf { documents, calls := 0 + 1 } options.key =
      documentsOf { documents } options.key := rfl
  simp only [effect, queryItems, served, same, answerOf]
  cases Query.evaluate? statement (documentsOf { documents } options.key) <;> rfl

end Memory.Container

/-! ### Page after page -/

/-- As many results as are wanted. -/
def wanted (most : Option Nat) (results : List Json) : List Json :=
  most.elim results results.take

theorem QueryOutcome.items_limit (fetched : QueryOutcome Json) (most : Option Nat) :
    (fetched.limit most).items = wanted most fetched.items := by
  cases most <;> rfl

namespace Repository

open Memory.Container

variable {repository : Repository} {request : Retry.Request} {statement : Query.Statement}
  {scope : Option PartitionKey} {most : Option Nat} {results : List Json}

theorem nextPageSize_pos (paged : 1 ≤ repository.pageSize) {count : Nat}
    (wanted : ¬most.any (· ≤ count)) : 1 ≤ repository.nextPageSize most count := by
  cases most with
  | none => exact paged
  | some most =>
      have left : count < most := by simpa using wanted
      exact Nat.le_min.mpr ⟨paged, by omega⟩

/-- How a fetch goes on after a page was answered. -/
def afterPage (repository : Repository) (request : Retry.Request) (statement : Query.Statement)
    (scope : Option PartitionKey) (most : Option Nat) (bound : Nat)
    (fetched : QueryOutcome Json) :
    Except Failure QueryPage → Action (Moment Memory) (QueryOutcome Json)
  | .error failure => Action.fail failure
  | .ok page =>
    match page.continuation with
    | none => Action.succeed (fetched.addPage page)
    | some token =>
      repository.fetchFrom Memory.store request statement scope most bound
        (fetched.addPage page) (some token)

/-- A policy that tries only failures again that may go away by themselves accepts no refusal of a
query. -/
theorem settled_of_usual (usual : repository.policy.Usual) (options : QueryOptions)
    (documents : Documents) (failure : Failure)
    (failed : answerOf statement options documents = .error failure) :
    repository.policy.ruleFor? failure = none := by
  refine usual.ruleFor?_eq_none (conclusive_queryItems statement options documents failure ?_)
  rwa [effect_queryItems]

/-- **Step lemma.** As long as more is wanted, one page is answered from the documents, which stay
as they are, and the fetch goes on after it. -/
theorem fetchFrom_page {fetched : QueryOutcome Json} {moment : Moment Memory}
    {token : Option String}
    (settled : ∀ failure, answerOf statement
      ⟨scope, some (repository.nextPageSize most fetched.items.length), token⟩
      (moment.store.container repository.handle.container).documents = .error failure →
        repository.policy.ruleFor? failure = none)
    (live : request.cancelledBy? moment.now = none)
    (quiet : (moment.store.container repository.handle.container).failures = [])
    (more : ¬most.any (· ≤ fetched.items.length)) (bound : Nat) :
    ∃ memory,
      Memory.Serving repository.handle.container moment.store memory
        (moment.store.container repository.handle.container).documents 1 [] ∧
      repository.fetchFrom Memory.store request statement scope most (bound + 1) fetched token
          moment =
        repository.afterPage request statement scope most bound fetched
          (answerOf statement
            ⟨scope, some (repository.nextPageSize most fetched.items.length), token⟩
            (moment.store.container repository.handle.container).documents)
          { moment with store := memory } := by
  obtain ⟨memory, run, served⟩ := Retry.Policy.run_inContainer_of_settled "query"
    (serves_queryItems statement
      ⟨scope, some (repository.nextPageSize most fetched.items.length), token⟩)
    (fun failure failed => settled failure (by rwa [effect_queryItems] at failed)) live quiet
    repository.policy.maxRetries
  rw [effect_queryItems] at run served
  refine ⟨memory, served, ?_⟩
  rw [fetchFrom_of_wanted more]
  generalize answerOf statement
    ⟨scope, some (repository.nextPageSize most fetched.items.length), token⟩
    (moment.store.container repository.handle.container).documents = answer at run
  cases answer with
  | error failure => exact Action.bind_apply_of_error run
  | ok page => exact Action.bind_apply_of_ok run

/-- No policy is asked about a failure of a query that is understood: only a token can be refused,
and not if there are few results. -/
theorem settled_of_evaluates (settled : repository.policy.Usual ∨ results.length ≤ Word.max64)
    {container : Memory.Container} {start size : Nat} (begun : start ≤ results.length)
    (evaluates : Query.evaluate? statement (container.documentsOf scope) = some results)
    (failure : Failure)
    (failed : answerOf statement ⟨scope, some size, tokenOf start⟩ container.documents =
      .error failure) : repository.policy.ruleFor? failure = none := by
  rcases settled with usual | fits
  · exact settled_of_usual usual _ _ failure failed
  · rw [answerOf_of_some evaluates, startOf_tokenOf (Nat.le_trans begun fits)] at failed
    cases failed

/-- Enough are the first results, if there are as many as are wanted. -/
theorem wanted_of_enough {fetched : QueryOutcome Json} {start : Nat}
    (items : fetched.items = results.take start) (begun : start ≤ results.length)
    (done : most.any (· ≤ fetched.items.length)) :
    wanted most fetched.items = wanted most results := by
  cases most with
  | none => cases done
  | some m =>
      have reached : m ≤ start := by
        rw [items, List.length_take, Nat.min_eq_left begun] at done
        simpa using done
      change fetched.items.take m = results.take m
      rw [items, List.take_take, Nat.min_eq_left reached]

theorem addPage_items {fetched : QueryOutcome Json} {start : Nat}
    (items : fetched.items = results.take start) (size : Nat) :
    (fetched.addPage (pageOf results start (some size))).items = results.take (start + size) := by
  rw [QueryOutcome.addPage, items]
  exact pageOf_items results start size

/-- **Induction over the pages.** A fetch that has the first results already, and goes on from
there, ends with those that are wanted, or with a token that is out of range. No policy is asked
about a failure if there are not too many results for their tokens. -/
theorem fetchFrom_ends (settled : repository.policy.Usual ∨ results.length ≤ Word.max64)
    (paged : 1 ≤ repository.pageSize)
    (most : Option Nat) (bound start : Nat) (fetched : QueryOutcome Json) (moment : Moment Memory)
    (live : request.cancelledBy? moment.now = none)
    (quiet : (moment.store.container repository.handle.container).failures = [])
    (evaluates : Query.evaluate? statement
      ((moment.store.container repository.handle.container).documentsOf scope) = some results)
    (items : fetched.items = results.take start) (begun : start ≤ results.length)
    (enough : results.length ≤ start + bound) (more : 1 ≤ bound) :
    ∃ outcome memory calls,
      repository.fetchFrom Memory.store request statement scope most bound fetched (tokenOf start)
          moment = (outcome, { moment with store := memory }) ∧
        Memory.Serving repository.handle.container moment.store memory
          (moment.store.container repository.handle.container).documents calls [] ∧
        (∀ fetched', outcome = .ok fetched' →
          wanted most fetched'.items = wanted most results) ∧
        (results.length ≤ Word.max64 → ∃ fetched', outcome = .ok fetched') := by
  induction bound generalizing start fetched moment with
  | zero => exact absurd more (Nat.not_succ_le_zero 0)
  | succ bound ih =>
      by_cases done : most.any (· ≤ fetched.items.length)
      · rw [fetchFrom_of_enough done]
        refine ⟨.ok fetched, moment.store, 0, rfl, quiet ▸ .refl _ _, ?_, fun _ => ⟨_, rfl⟩⟩
        rintro _ ⟨rfl⟩
        exact wanted_of_enough items begun done
      · obtain ⟨memory, served, goesOn⟩ := fetchFrom_page
          (settled_of_evaluates settled begun evaluates) live quiet done bound
        have positive := nextPageSize_pos paged done
        rw [goesOn, answerOf_of_some evaluates]
        generalize repository.nextPageSize most fetched.items.length = size at positive ⊢
        dsimp only
        cases token : startOf (tokenOf start) with
        | error failure =>
            refine ⟨_, memory, 1, rfl, served, nofun, fun fits => ?_⟩
            cases token.symm.trans (startOf_tokenOf (Nat.le_trans begun fits))
        | ok m =>
            obtain rfl := eq_of_startOf_tokenOf token
            have items' := addPage_items items size
            have next := pageOf_continuation results m size
            simp only [Except.map, afterPage, next]
            by_cases left : m + size < results.length
            · -- documents were not changed, so that the next page is cut out of the same results
              have evaluates' : Query.evaluate? statement
                  ((memory.container repository.handle.container).documentsOf scope) =
                    some results := by
                rw [documentsOf, served.documents]
                exact evaluates
              obtain ⟨outcome, memory', calls, run, served', found, fits⟩ := ih (m + size)
                (fetched.addPage (pageOf results m (some size))) { moment with store := memory }
                live served.failures evaluates' items' (Nat.le_of_lt left) (by omega) (by omega)
              rw [tokenOf_of_pos (by omega)] at run
              simp only [if_pos left]
              have same := served.trans served'
              rw [served.documents] at same
              exact ⟨outcome, memory', 1 + calls, run, same, found, fits⟩
            · simp only [if_neg left]
              refine ⟨_, memory, 1, rfl, served, ?_, fun _ => ⟨_, rfl⟩⟩
              rintro _ ⟨rfl⟩
              rw [items', List.take_of_length_le (Nat.le_of_not_lt left)]

/-- A fetch from memory asks for no more pages than there are documents, and one. -/
theorem fetch_memory (moment : Moment Memory) :
    repository.fetch Memory.store request statement scope most moment =
      (repository.fetchFrom Memory.store request statement scope most
        ((moment.store.container repository.handle.container).documents.length + 1) .empty none
          >>= fun fetched => pure (fetched.limit most)) moment := rfl

/-- **A fetch ends with the results that are wanted**, each once and in order, and changes no
document; only a token that is out of range can keep it from that. -/
theorem fetch_ends (settled : repository.policy.Usual ∨ results.length ≤ Word.max64)
    (paged : 1 ≤ repository.pageSize) (moment : Moment Memory)
    (live : request.cancelledBy? moment.now = none)
    (quiet : (moment.store.container repository.handle.container).failures = [])
    (evaluates : Query.evaluate? statement
      ((moment.store.container repository.handle.container).documentsOf scope) = some results) :
    ∃ outcome memory calls,
      repository.fetch Memory.store request statement scope most moment =
          (outcome, { moment with store := memory }) ∧
        Memory.Serving repository.handle.container moment.store memory
          (moment.store.container repository.handle.container).documents calls [] ∧
        (∀ fetched, outcome = .ok fetched → fetched.items = wanted most results) ∧
        (results.length ≤ Word.max64 → ∃ fetched, outcome = .ok fetched) := by
  have few := Nat.le_trans (Query.length_le_of_evaluate? evaluates)
    (Nat.succ_le_succ (length_documentsOf_le _ scope))
  obtain ⟨outcome, memory, calls, run, served, found, fits⟩ := fetchFrom_ends settled paged most
    ((moment.store.container repository.handle.container).documents.length + 1) 0 .empty moment
    live quiet evaluates rfl (Nat.zero_le _) (by omega) (Nat.le_add_left 1 _)
  have limited : repository.fetch Memory.store request statement scope most moment =
      (outcome.map fun fetched => fetched.limit most, { moment with store := memory }) := by
    rw [fetch_memory]
    cases outcome with
    | error failure => exact Action.bind_apply_of_error run
    | ok fetched => exact Action.bind_apply_of_ok run
  refine ⟨_, memory, calls, limited, served, fun fetched ended => ?_, fun within => ?_⟩
  · cases outcome with
    | error failure => cases ended
    | ok all =>
        cases ended
        rw [QueryOutcome.items_limit]
        exact found all rfl
  · obtain ⟨all, rfl⟩ := fits within
    exact ⟨_, rfl⟩

/-- A query whose text is not understood is refused with the first page. -/
theorem fetch_refused (usual : repository.policy.Usual) {moment : Moment Memory}
    (live : request.cancelledBy? moment.now = none)
    (quiet : (moment.store.container repository.handle.container).failures = [])
    (unknown : Query.evaluate? statement
      ((moment.store.container repository.handle.container).documentsOf scope) = none)
    (more : ¬most.any (· ≤ 0)) :
    ∃ later, repository.fetch Memory.store request statement scope most moment =
      (.error (.internal ("fake store cannot evaluate: " ++ statement.text)), later) := by
  obtain ⟨memory, -, goesOn⟩ := @fetchFrom_page repository request statement scope most .empty
    moment none (settled_of_usual usual _ _) live quiet more
    (moment.store.container repository.handle.container).documents.length
  rw [answerOf_of_none unknown] at goesOn
  exact ⟨_, (fetch_memory moment).trans (Action.bind_apply_of_error goesOn)⟩

/-- What is fetched are results: a query whose text is not understood has none. -/
theorem mem_of_fetch (usual : repository.policy.Usual) (paged : 1 ≤ repository.pageSize)
    {moment : Moment Memory} (live : request.cancelledBy? moment.now = none)
    (quiet : (moment.store.container repository.handle.container).failures = [])
    {fetched : QueryOutcome Json}
    (run : (repository.fetch Memory.store request statement scope most moment).1 = .ok fetched)
    {item : Json} (mem : item ∈ fetched.items) :
    ∃ results, Query.evaluate? statement
      ((moment.store.container repository.handle.container).documentsOf scope) = some results ∧
        item ∈ results := by
  cases evaluates : Query.evaluate? statement
      ((moment.store.container repository.handle.container).documentsOf scope) with
  | some results =>
      obtain ⟨outcome, memory, calls, ended, -, found, -⟩ :=
        @fetch_ends repository request statement scope most results (.inl usual) paged moment live
          quiet evaluates
      rw [ended] at run
      rw [found fetched run] at mem
      refine ⟨results, rfl, ?_⟩
      cases most with
      | none => exact mem
      | some most => exact List.mem_of_mem_take mem
  | none =>
      by_cases done : most.any (· ≤ (QueryOutcome.empty : QueryOutcome Json).items.length)
      · rw [fetch_memory, fetchFrom_of_enough done] at run
        cases run
        rw [QueryOutcome.items_limit] at mem
        cases most with
        | none => exact absurd mem List.not_mem_nil
        | some most => exact absurd (List.mem_of_mem_take mem) List.not_mem_nil
      · obtain ⟨later, refused⟩ := fetch_refused usual live quiet evaluates done
        rw [refused] at run
        cases run

end Repository

end DocumentClient
