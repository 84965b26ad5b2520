import DocumentClient.Proofs.Connection
import DocumentClient.Proofs.Repository.Paging
import DocumentClient.Proofs.Retry.Attempts

/-!
# DocumentClient.Proofs.Repository.PageRequests

**Which pages a fetch asks for, of any store.** A request carries the token of the page before, and
asks for no more than a page and no more than is still wanted. Requests end with the page that
completes the results, or with the first one that fails. Nothing is assumed of the pages: a store
may send none of what was asked for, or more than that.

* `itemsOf`, `chargeOf` and `tokenAfter` read off a list of pages what it comes to; `Complete`
  says when no other page is needed, and `requestAfter` is the request for the next one.
* `Answered` is the run of requests that a fetch makes: a page is added to it only while the pages
  before it are not complete. `Ends` says how the run ends.

## Proof shape

* `fetchFrom_request` is the step: while results are wanted, a fetch makes the next request and
  goes on with its page.
* `fetchFrom_requests` is the induction over the pages that are left; its invariant is that what
  was fetched, and where it goes on, can be read off the pages so far. `fetch_requests` is what
  follows for a whole fetch.
* `Replies` is a store with a stock of answers, so that every sequence of pages, with any failures
  between them, is that of a store. `Replies.bounded` shows that the hypothesis of
  `fetch_requests` on the number of pages can be had for each of them.
-/

namespace DocumentClient.Repository

open Store Retry

variable {σ : Type}

/-! ### What can be read off pages -/

/-- The results on pages, one page after the other. -/
def itemsOf (pages : List QueryPage) : List Json :=
  pages.flatMap QueryPage.items

/-- What pages cost together, added up from the first on. -/
def chargeOf (pages : List QueryPage) : Binary64 :=
  pages.foldl (fun sum page => sum.add page.charge) .zero

/-- Where to go on after pages, if there is anywhere. -/
def tokenAfter (pages : List QueryPage) : Option String :=
  pages.getLast?.bind QueryPage.continuation

/-- Pages are complete if they hold as many results as are wanted, or if there is no other page. -/
def Complete (most : Option Nat) (pages : List QueryPage) : Prop :=
  (∃ m, most = some m ∧ m ≤ (itemsOf pages).length) ∨ (pages ≠ [] ∧ tokenAfter pages = none)

/-- What is asked for after pages: as many results as a page holds or, if that is less, as many as
are still wanted, from where the last page ended. -/
def optionsAfter (repository : Repository) (key : Option PartitionKey) (most : Option Nat)
    (pages : List QueryPage) : QueryOptions where
  key := key
  maxItems := some (most.elim repository.pageSize fun m =>
    min repository.pageSize (m - (itemsOf pages).length))
  continuation := tokenAfter pages

/-- The request for the page after some. -/
def requestAfter (repository : Repository) (store : Store σ) (request : Request)
    (statement : Query.Statement) (key : Option PartitionKey) (most : Option Nat)
    (pages : List QueryPage) : Action (Moment σ) QueryPage :=
  repository.call "query" request fun container =>
    store.queryItems container statement (repository.optionsAfter key most pages)

/-- Pages that were asked for and answered, one after the other, each because those before it were
not complete; and the moment after that. -/
inductive Answered (repository : Repository) (store : Store σ) (request : Request)
    (statement : Query.Statement) (key : Option PartitionKey) (most : Option Nat)
    (begun : Moment σ) : List QueryPage → Moment σ → Prop
  | nothing : Answered repository store request statement key most begun [] begun
  | next {pages : List QueryPage} {page : QueryPage} {now later : Moment σ}
      (before : Answered repository store request statement key most begun pages now)
      (wanted : ¬Complete most pages)
      (answer : repository.requestAfter store request statement key most pages now =
        (.ok page, later)) :
      Answered repository store request statement key most begun (pages ++ [page]) later

/-- What pages come to. -/
def outcomeOf (pages : List QueryPage) : QueryOutcome Json :=
  { items := itemsOf pages, charge := chargeOf pages, pages := pages.length }

/-- What pages come to, cut to the results that are wanted. -/
def resultOf (most : Option Nat) (pages : List QueryPage) : QueryOutcome Json :=
  { items := wanted most (itemsOf pages), charge := chargeOf pages, pages := pages.length }

section
variable {pages : List QueryPage} {most : Option Nat}

theorem outcomeOf_concat (pages : List QueryPage) (page : QueryPage) :
    outcomeOf (pages ++ [page]) = (outcomeOf pages).addPage page := by
  simp [outcomeOf, itemsOf, chargeOf, QueryOutcome.addPage]

theorem tokenAfter_concat (pages : List QueryPage) (page : QueryPage) :
    tokenAfter (pages ++ [page]) = page.continuation := by
  simp [tokenAfter]

theorem limit_outcomeOf (most : Option Nat) (pages : List QueryPage) :
    (outcomeOf pages).limit most = resultOf most pages := by
  cases most <;> rfl

theorem enough_iff : (most.any (· ≤ (outcomeOf pages).items.length)) = true ↔
    ∃ m, most = some m ∧ m ≤ (itemsOf pages).length := by
  cases most with
  | none => simp
  | some m =>
      simp only [Option.any_some, Option.some.injEq, exists_eq_left', outcomeOf]
      exact decide_eq_true_iff

end

/-! ### The requests of a fetch -/

section
variable {repository : Repository} {store : Store σ} {request : Request}
  {statement : Query.Statement} {key : Option PartitionKey} {most : Option Nat}
  {begun now : Moment σ} {pages : List QueryPage}

/-- No page is asked for after the pages are complete. -/
theorem Answered.incomplete
    (answered : Answered repository store request statement key most begun pages now)
    {before : List QueryPage} (first : before <+: pages) (proper : before ≠ pages) :
    ¬Complete most before := by
  induction answered with
  | nothing => exact absurd (List.prefix_nil.mp first) proper
  | @next earlier page _ _ _ wanted _ ih =>
      rcases List.prefix_concat_iff.mp first with whole | first
      · exact absurd whole proper
      · by_cases same : before = earlier
        · rwa [same]
        · exact ih first same

/-- How requests end: with what complete pages come to, or with the failure of the request for the
page after them. -/
inductive Ends (repository : Repository) (store : Store σ) (request : Request)
    (statement : Query.Statement) (key : Option PartitionKey) (most : Option Nat)
    (outcome : List QueryPage → QueryOutcome Json) (pages : List QueryPage) (now : Moment σ) :
    Except Failure (QueryOutcome Json) × Moment σ → Prop
  | complete (h : Complete most pages) :
      Ends repository store request statement key most outcome pages now (.ok (outcome pages), now)
  | failed (h : ¬Complete most pages) {failure : Failure} {later : Moment σ}
      (answer : repository.requestAfter store request statement key most pages now =
        (.error failure, later)) :
      Ends repository store request statement key most outcome pages now (.error failure, later)

/-- The step of a fetch, as it is written, makes the request for the next page. -/
theorem options_eq (repository : Repository) (key : Option PartitionKey) (most : Option Nat)
    (pages : List QueryPage) :
    { key, maxItems := some (repository.nextPageSize most (outcomeOf pages).items.length),
      continuation := tokenAfter pages } = repository.optionsAfter key most pages := by
  cases most <;> rfl

/-- While results are wanted, a fetch makes the next request, and goes on with its page. -/
theorem fetchFrom_request (more : ¬∃ m, most = some m ∧ m ≤ (itemsOf pages).length) (left : Nat) :
    repository.fetchFrom store request statement key most (left + 1) (outcomeOf pages)
        (tokenAfter pages) =
      repository.requestAfter store request statement key most pages >>= fun page =>
        match page.continuation with
        | none => Action.succeed (outcomeOf (pages ++ [page]))
        | some token =>
          repository.fetchFrom store request statement key most left (outcomeOf (pages ++ [page]))
            (some token) := by
  rw [fetchFrom_of_wanted (mt enough_iff.mp more), options_eq]
  simp only [outcomeOf_concat]
  rfl

/-- **Induction over the pages.** A fetch that has answered pages already goes on where they end. -/
theorem fetchFrom_requests {bound : Nat}
    (bounded : ∀ pages now,
      Answered repository store request statement key most begun pages now →
        ¬Complete most pages → pages.length < bound)
    (left : Nat) (pages : List QueryPage) (now : Moment σ)
    (answered : Answered repository store request statement key most begun pages now)
    (goesOn : pages = [] ∨ ∃ token, tokenAfter pages = some token)
    (fits : pages.length + left = bound) :
    ∃ pages' now', Answered repository store request statement key most begun pages' now' ∧
      Ends repository store request statement key most outcomeOf pages' now'
        (repository.fetchFrom store request statement key most left (outcomeOf pages)
          (tokenAfter pages) now) := by
  -- the recursion is on the number of pages that may be left; pages that go on are complete only
  -- if they hold what is wanted
  have complete_iff : Complete most pages ↔
      ∃ m, most = some m ∧ m ≤ (itemsOf pages).length := by
    refine ⟨?_, .inl⟩
    rintro (enough | ⟨some_pages, ended⟩)
    · exact enough
    · rcases goesOn with none | ⟨token, more⟩
      · exact absurd none some_pages
      · rw [ended] at more
        cases more
  by_cases complete : Complete most pages
  · refine ⟨pages, now, answered, ?_⟩
    rw [fetchFrom_of_enough (enough_iff.mpr (complete_iff.mp complete))]
    exact .complete complete
  · have less := bounded pages now answered complete
    cases left with
    | zero => omega
    | succ left =>
        rw [fetchFrom_request (mt complete_iff.mpr complete) left]
        rcases answer : repository.requestAfter store request statement key most pages now with
          ⟨failure | page, later⟩
        · refine ⟨pages, now, answered, ?_⟩
          rw [Action.bind_apply_of_error answer]
          exact .failed complete answer
        · have next := Answered.next answered complete answer
          rw [Action.bind_apply_of_ok answer]
          cases token : page.continuation with
          | none =>
              refine ⟨pages ++ [page], later, next, .complete (.inr ⟨by simp, ?_⟩)⟩
              rw [tokenAfter_concat, token]
          | some token' =>
              have goesOn' : tokenAfter (pages ++ [page]) = some token' := by
                rw [tokenAfter_concat, token]
              have rest := fetchFrom_requests bounded left (pages ++ [page]) later next
                (.inr ⟨token', goesOn'⟩) (by rw [List.length_append, List.length_singleton]; omega)
              rwa [goesOn'] at rest

/-- **A fetch from any store.** If the store has no more pages than it says, a fetch asks for one
page after the other until the pages are complete, and no further. Its results are those on all
pages, in order and cut to as many as are wanted; if a request fails for good, so does the fetch. -/
theorem fetch_requests (repository : Repository) (store : Store σ) (request : Request)
    (statement : Query.Statement) (key : Option PartitionKey) (most : Option Nat)
    (begun : Moment σ)
    (bounded : ∀ pages now,
      Answered repository store request statement key most begun pages now →
        ¬Complete most pages →
          pages.length < store.pageBound repository.handle.container begun.store) :
    ∃ pages now, Answered repository store request statement key most begun pages now ∧
      (∀ before, before <+: pages → before ≠ pages → ¬Complete most before) ∧
      Ends repository store request statement key most (resultOf most) pages now
        (repository.fetch store request statement key most begun) := by
  obtain ⟨pages, now, answered, ends⟩ :=
    fetchFrom_requests bounded _ [] begun .nothing (.inl rfl) (Nat.zero_add _)
  refine ⟨pages, now, answered, fun before first proper => answered.incomplete first proper, ?_⟩
  have fetch_eq : repository.fetch store request statement key most begun =
      (repository.fetchFrom store request statement key most
        (store.pageBound repository.handle.container begun.store) (outcomeOf []) (tokenAfter [])
          >>= fun fetched => pure (fetched.limit most)) begun := rfl
  rw [fetch_eq]
  generalize ran : repository.fetchFrom store request statement key most
    (store.pageBound repository.handle.container begun.store) (outcomeOf []) (tokenAfter [])
      begun = ended at ends
  cases ends with
  | complete complete =>
      rw [Action.bind_apply_of_ok ran, limit_outcomeOf]
      exact .complete complete
  | failed incomplete answer =>
      rw [Action.bind_apply_of_error ran]
      exact .failed incomplete answer

end

end DocumentClient.Repository

namespace DocumentClient

open Store Retry

/-! ### Every sequence of pages is that of a store -/

/-- The answers that a store has in stock for queries, one after the other. -/
abbrev Replies : Type := List (Except Failure QueryPage)

namespace Replies

/-- The store that answers queries from its stock; it serves no other calls. -/
def store : Store Replies where
  readDatabase _ _ := .atOnce (.error (.internal "not served"))
  createDatabase _ _ _ := .atOnce (.error (.internal "not served"))
  createContainer _ _ _ := .atOnce (.error (.internal "not served"))
  openContainer _ _ _ replies := replies
  dispose _ replies := replies
  readItem _ _ _ _ := .atOnce (.error (.internal "not served"))
  upsertItem _ _ _ _ := .atOnce (.error (.internal "not served"))
  deleteItem _ _ _ _ := .atOnce (.error (.internal "not served"))
  patchItem _ _ _ _ _ := .atOnce (.error (.internal "not served"))
  queryItems _ _ _ _ replies :=
    match replies with
    | [] => .atOnce (.error (.internal "nothing is left")) []
    | reply :: replies => .atOnce reply replies
  executeBatch _ _ _ _ := .atOnce (.error (.internal "not served"))
  pageBound _ replies := replies.length + 1

section
variable {policy : Policy} {operation : String} {request : Request} {container : String}
  {statement : Query.Statement} {options : QueryOptions}

/-- An attempt at a query takes at most one answer, and exactly one if it gives a page. -/
theorem attempt_stock {limit : Duration} {moment : Moment Replies}
    {ending : Ending Replies QueryPage}
    (ends : AttemptEnds operation limit request (store.queryItems container statement options)
      moment ending) :
    ending.moment.store.length ≤ moment.store.length ∧
      ∀ page lastMoment later, ending = .finished (.ok page) lastMoment later →
        later.store.length < moment.store.length := by
  obtain ⟨now, replies, draws⟩ := moment
  cases replies with
  | nil => cases ends <;> exact ⟨Nat.le_refl _, nofun⟩
  | cons reply replies =>
      cases ends with
      | notMade _ => exact ⟨Nat.le_refl _, nofun⟩
      | abandoned _ => exact ⟨Nat.le_succ _, nofun⟩
      | answered ms _ _ =>
          refine ⟨Nat.le_succ _, fun page lastMoment later h => ?_⟩
          obtain ⟨-, -, rfl⟩ := Ending.finished.inj h
          exact Nat.lt_succ_self _
      | timedOut _ => exact ⟨Nat.le_succ _, nofun⟩

/-- A request that is answered with a page has taken it from the stock. -/
theorem run_stock {moment later : Moment Replies} {page : QueryPage}
    (h : policy.run operation request (store.queryItems container statement options) moment =
      (.ok page, later)) : later.store.length < moment.store.length := by
  have taken : ∀ page, (policy.run operation request
        (store.queryItems container statement options) moment).1 = .ok page →
      (policy.run operation request (store.queryItems container statement options)
        moment).2.store.length < moment.store.length := by
    refine Policy.runFrom_preserves (fun replies => replies.length ≤ moment.store.length)
      (fun outcome replies => ∀ page, outcome = .ok page → replies.length < moment.store.length)
      (fun _ _ _ => nofun) ?ended ?repeated policy.maxRetries moment (Nat.le_refl _)
    case ended =>
      rintro now outcome now' live verdict page rfl
      have attempted := attempt_stock (attempt_ends operation
        (request.attemptTimeout policy.attemptTimeout) request
        (store.queryItems container statement options) now)
      generalize attempt operation (request.attemptTimeout policy.attemptTimeout) request
        (store.queryItems container statement options) now = ending at verdict attempted
      cases ending with
      | cancelled moment => cases verdict
      | finished result lastMoment moment =>
          obtain rfl := Policy.judge_finished verdict
          obtain rfl := Policy.judge_done verdict
          exact Nat.lt_of_lt_of_le (attempted.2 page lastMoment _ rfl) live
    case repeated =>
      intro now rule failure lastMoment now' live verdict
      have attempted := attempt_stock (attempt_ends operation
        (request.attemptTimeout policy.attemptTimeout) request
        (store.queryItems container statement options) now)
      rw [(Policy.judge_again verdict).1] at attempted
      exact Nat.le_trans attempted.1 live
  rw [h] at taken
  exact taken page rfl

end

/-- Whatever is in stock, and whatever of it fails: there are no more pages than the store says. -/
theorem bounded (repository : Repository) (request : Request) (statement : Query.Statement)
    (key : Option PartitionKey) (most : Option Nat) (begun : Moment Replies)
    (pages : List QueryPage) (now : Moment Replies)
    (answered : Repository.Answered repository store request statement key most begun pages now) :
    pages.length < store.pageBound repository.handle.container begun.store := by
  have used : pages.length + now.store.length ≤ begun.store.length := by
    induction answered with
    | nothing => exact Nat.le_of_eq (Nat.zero_add _)
    | next _ _ answer ih =>
        have taken := run_stock answer
        rw [List.length_append, List.length_singleton]
        omega
  exact Nat.lt_succ_of_le (Nat.le_trans (Nat.le_add_right _ _) used)

/-- A page of numbers. -/
def page (items : List Int) (continuation : Option String) : QueryPage :=
  ⟨items.map fun n => .int n, continuation, .ofNat 2⟩

/-- Pages of all kinds, and a failure that goes away: a full page, an empty one that is not the
last, one with more results than were asked for, and the last one. -/
def stock : Replies :=
  [.ok (page [1, 2] (some "a")), .error (.serviceUnavailable "busy"), .ok (page [] (some "b")),
    .ok (page [3, 4, 5] (some "c")), .ok (page [6] none)]

end Replies

namespace Repository

/-- A fetch of four results, two a page, from such a store. -/
theorem fetch_requests_stock :
    let repository : Repository := { goals with pageSize := 2 }
    let begun : Moment Replies := ⟨0, Replies.stock, []⟩
    (∀ pages now, Answered repository Replies.store {} ⟨"SELECT * FROM c", []⟩ none (some 4) begun
        pages now → ¬Complete (some 4) pages →
          pages.length < Replies.store.pageBound repository.handle.container begun.store) ∧
      ∃ pages now, Answered repository Replies.store {} ⟨"SELECT * FROM c", []⟩ none (some 4) begun
          pages now ∧
        (∀ before, before <+: pages → before ≠ pages → ¬Complete (some 4) before) ∧
        Ends repository Replies.store {} ⟨"SELECT * FROM c", []⟩ none (some 4) (resultOf (some 4))
          pages now
          (repository.fetch Replies.store {} ⟨"SELECT * FROM c", []⟩ none (some 4) begun) := by
  intro repository begun
  have bounded := fun pages now answered (_ : ¬Complete (some 4) pages) =>
    Replies.bounded repository {} ⟨"SELECT * FROM c", []⟩ none (some 4) begun pages now answered
  exact ⟨bounded, fetch_requests repository Replies.store {} ⟨"SELECT * FROM c", []⟩ none (some 4)
    begun bounded⟩

example :
    ((({ goals with pageSize := 2 } : Repository).fetch Replies.store {} ⟨"SELECT * FROM c", []⟩
      none (some 4) ⟨0, Replies.stock, []⟩).1.map QueryOutcome.items) =
        .ok [.int 1, .int 2, .int 3, .int 4] := by
  rfl

end Repository

end DocumentClient
