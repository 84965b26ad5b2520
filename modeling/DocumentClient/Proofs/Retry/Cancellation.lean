import DocumentClient.Proofs.Retry.Attempts
import DocumentClient.Retry.Script

/-!
# DocumentClient.Proofs.Retry.Cancellation

**Cancellation is prompt, and until then nobody notices it.** Two runs of one scripted call are
compared: one that nobody cancels from outside, and one that is cancelled at an instant. Both start
alike and draw the same numbers. Attempts of the script may cancel the request themselves; that ends
both runs alike.

* `Progress` is what every step of a run does: time does not go back, and the attempts that are
  noted started neither before the ones that were noted already nor before the step.
* `Interrupted` relates the two runs. If the first one is over before the instant, the second one
  is the same; else the second one ends at the instant, and its attempts are those of the first
  one that started before.

## Proof shape

* `Attempted` and `Waited` say how one attempt and one wait end without and with the cancellation;
  `attempted` and `waited` show that there is no other way. In each of them there is one case in
  which the runs go on together, and the other ones end both.
* `Policy.runFrom_interrupted` is the induction over the attempts. As long as the cancellation is
  still to come, both runs stand at the same moment; it falls into an attempt, into a pause, or
  behind both, and only then the runs go on together.
* What comes in the first run after the second one has ended is only known to be `Progress`; that
  is enough, as none of its attempts started before the instant.
-/

namespace DocumentClient.Retry

open DocumentClient.Store

variable {α : Type}

/-! ### Time passes -/

/-- From one moment of a scripted call to a later one: time did not go back, and attempts were
noted that started no earlier. -/
structure Progress (earlier later : Moment (List Nat)) : Prop where
  /-- Time did not go back. -/
  now_le : earlier.now ≤ later.now
  /-- What was noted stays, and what was added started since. -/
  noted : ∃ starts, later.store = starts ++ earlier.store ∧ ∀ start ∈ starts, earlier.now ≤ start

namespace Progress

variable {m m' m'' : Moment (List Nat)}

theorem refl (m : Moment (List Nat)) : Progress m m :=
  ⟨Nat.le_refl m.now, [], rfl, fun _ mem => absurd mem List.not_mem_nil⟩

theorem trans (first : Progress m m') (second : Progress m' m'') : Progress m m'' := by
  obtain ⟨starts, noted, since⟩ := first.noted
  obtain ⟨starts', noted', since'⟩ := second.noted
  refine ⟨Nat.le_trans first.now_le second.now_le, starts' ++ starts, ?_, ?_⟩
  · rw [noted', noted, List.append_assoc]
  · intro start mem
    rcases List.mem_append.mp mem with mem | mem
    · exact Nat.le_trans first.now_le (since' start mem)
    · exact since start mem

theorem of_store_eq (now : m.now ≤ m'.now) (store : m'.store = m.store) : Progress m m' :=
  ⟨now, [], store, fun _ mem => absurd mem List.not_mem_nil⟩

/-- What is noted from an instant on does not count before it. -/
theorem filter_store {c : Nat} (h : Progress m m') (late : c ≤ m.now)
    (early : ∀ start ∈ m.store, start < c) : m'.store.filter (· < c) = m.store := by
  obtain ⟨starts, noted, since⟩ := h.noted
  have none : starts.filter (· < c) = [] := by
    rw [List.filter_eq_nil_iff]
    intro start mem
    have := since start mem
    simp only [decide_eq_true_eq]
    omega
  have all : m.store.filter (· < c) = m.store := by
    rw [List.filter_eq_self]
    intro start mem
    exact decide_eq_true (early start mem)
  rw [noted, List.filter_append, none, all, List.nil_append]

end Progress

/-- Time does not go back in a wait. -/
theorem Policy.wait_progress (policy : Policy) (rule : Rule) (retry : Nat) (failure : Failure)
    (request : Request) (lastMoment : Bool) (moment : Moment (List Nat)) :
    Progress moment (policy.wait rule retry failure request lastMoment moment).2 := by
  refine .of_store_eq ?_ (policy.wait_store rule retry failure request lastMoment moment)
  have drawn : (policy.draw rule failure moment).2.now = moment.now := by
    unfold Policy.draw
    split <;> rfl
  rw [← drawn]
  unfold Policy.wait
  generalize policy.draw rule failure moment = pair
  obtain ⟨number, m⟩ := pair
  dsimp only
  cases policy.delayFor rule retry failure number with
  | none => exact Nat.le_refl _
  | some delay =>
      dsimp only
      cases lastMoment with
      | true => exact Nat.le_refl _
      | false =>
          rw [if_neg Bool.false_ne_true]
          split
          · exact Nat.le_max_right _ _
          · exact Nat.le_add_right _ _

section

variable {operation : String} {limit : Duration} {timeout : Option Duration}
  {script : Nat → ScriptedAttempt α} {c : Nat} {moment : Moment (List Nat)}

/-! ### One step, cancelled or not -/

theorem cancelledBy?_of_none (instant : Nat) :
    (⟨timeout, none⟩ : Request).cancelledBy? instant = none := rfl

theorem cancelledBy?_of_lt (timeout : Option Duration) {instant : Nat} (h : instant < c) :
    (⟨timeout, some c⟩ : Request).cancelledBy? instant = none := by
  simp [Request.cancelledBy?, Option.filter, h]

theorem cancelledBy?_of_le (timeout : Option Duration) {instant : Nat} (h : c ≤ instant) :
    (⟨timeout, some c⟩ : Request).cancelledBy? instant = some c := by
  simp [Request.cancelledBy?, Option.filter, h]

/-- The moment of an attempt that has been noted and took until an instant. -/
def noted (moment : Moment (List Nat)) (ended : Nat) : Moment (List Nat) :=
  ⟨ended, moment.now :: moment.store, moment.draws⟩

theorem progress_noted {ended : Nat} (h : moment.now ≤ ended) :
    Progress moment (noted moment ended) :=
  ⟨h, [moment.now], rfl, fun _ mem => (List.mem_singleton.mp mem) ▸ Nat.le_refl _⟩

/-- How an attempt ends without and with a cancellation from outside that comes after its
start. Either the script cancels the request with the call; or the attempt is over at some
instant, unless the cancellation comes before. -/
inductive Attempted (operation : String) (limit : Duration) (timeout : Option Duration)
    (script : Nat → ScriptedAttempt α) (c : Nat) (moment : Moment (List Nat)) : Prop
  /-- The script cancels the request. -/
  | byItself
    (undisturbed : attempt operation limit ⟨timeout, none⟩ (scriptedCall script) moment =
      .cancelled (noted moment moment.now))
    (disturbed : attempt operation limit ⟨timeout, some c⟩ (scriptedCall script) moment =
      .cancelled (noted moment moment.now))
  /-- The attempt is over at an instant, or cancelled before. -/
  | completed (outcome : Except Failure α) (lastMoment : Bool) (ended : Nat)
    (h : moment.now ≤ ended)
    (undisturbed : attempt operation limit ⟨timeout, none⟩ (scriptedCall script) moment =
      .finished outcome lastMoment (noted moment ended))
    (disturbed : attempt operation limit ⟨timeout, some c⟩ (scriptedCall script) moment =
      if c ≤ ended then .cancelled (noted moment c)
      else .finished outcome lastMoment (noted moment ended))

/-- Whether an answer is in time or not, the attempt is noted, and some time has passed. -/
theorem await_noted (limit : Nat) {reply : Reply (List Nat) α}
    (settled : reply.settled = moment.now :: moment.store)
    (dropped : reply.dropped = moment.now :: moment.store) :
    ∃ answer ended, moment.now ≤ ended ∧
      moment.await limit reply = (answer, noted moment ended) := by
  unfold Moment.await
  rw [settled, dropped]
  cases reply.after.filter (· ≤ limit) with
  | some ms => exact ⟨some reply.outcome, moment.now + ms, Nat.le_add_right _ _, rfl⟩
  | none => exact ⟨none, moment.now + limit, Nat.le_add_right _ _, rfl⟩

/-- There is no other way for an attempt to end. -/
theorem attempted (operation : String) (limit : Duration) (timeout : Option Duration)
    (script : Nat → ScriptedAttempt α) (live : moment.now < c) :
    Attempted operation limit timeout script c moment := by
  generalize entry_eq : script moment.store.length = entry
  have reply := scriptedCall_eq entry_eq
  have start := cancelledBy?_of_lt timeout live
  by_cases onCall : entry.cancels = .onCall
  · refine .byItself ?_ ?_
    · simp [attempt, cancelledBy?_of_none, reply, onCall, noted]
    · simp [attempt, start, reply, onCall, noted]
  · obtain ⟨answer, ended, passed, waited⟩ :=
      await_noted limit.ticks (congrArg Reply.settled reply) (congrArg Reply.dropped reply)
    have onCall' : ¬(scriptedCall script moment.now moment.store).cancels = .onCall := by
      rw [reply]
      exact onCall
    refine .completed (answer.getD (.error (timedOut operation limit)))
      (answer.isSome && decide (entry.cancels = .onAnswer)) ended passed ?_ ?_
    · simp only [attempt, cancelledBy?_of_none, if_neg onCall', waited]
      cases answer <;> simp [reply]
    · by_cases before : c ≤ ended
      · have completed := cancelledBy?_of_le timeout before
        simp only [attempt, start, if_neg onCall', waited, noted, completed, if_pos before]
        simp [reply]
      · have live' := cancelledBy?_of_lt timeout (Nat.lt_of_not_le before)
        simp only [attempt, start, if_neg onCall', waited, noted, live', if_neg before]
        cases answer <;> simp [reply]

/-- How a wait before a repetition ends without and with a cancellation from outside that comes
after its start. Either it fails at once, in both cases alike; or it is over at some instant,
unless the cancellation comes before. -/
inductive Waited (policy : Policy) (rule : Rule) (retry : Nat) (failure : Failure)
    (timeout : Option Duration) (lastMoment : Bool) (c : Nat) (moment : Moment (List Nat)) : Prop
  /-- The wait fails at once. -/
  | failed (failure' : Failure) (moment' : Moment (List Nat)) (now : moment'.now = moment.now)
    (undisturbed : policy.wait rule retry failure ⟨timeout, none⟩ lastMoment moment =
      (.error failure', moment'))
    (disturbed : policy.wait rule retry failure ⟨timeout, some c⟩ lastMoment moment =
      (.error failure', moment'))
  /-- The wait is over at an instant, or cancelled before. -/
  | completed (woken : Moment (List Nat)) (now : moment.now ≤ woken.now)
    (store : woken.store = moment.store)
    (undisturbed : policy.wait rule retry failure ⟨timeout, none⟩ lastMoment moment =
      (.ok (), woken))
    (disturbed : policy.wait rule retry failure ⟨timeout, some c⟩ lastMoment moment =
      if c ≤ woken.now then (.error .cancelled, { woken with now := c }) else (.ok (), woken))

/-- A wait of some length ends with it, unless the request is cancelled by then. -/
theorem wait_of_delay {policy : Policy} {rule : Rule} {retry number : Nat} {failure : Failure}
    {m : Moment (List Nat)} {delay : Duration} (request : Request)
    (drawn : policy.draw rule failure moment = (number, m))
    (delayed : policy.delayFor rule retry failure number = some delay) :
    policy.wait rule retry failure request false moment =
      match request.cancelledBy? (m.later delay.ticks).now with
      | some instant => (.error .cancelled, { m with now := Nat.max instant m.now })
      | none => (.ok (), m.later delay.ticks) := by
  unfold Policy.wait
  rw [drawn]
  simp only [delayed]
  rfl

/-- There is no other way for a wait to end. -/
theorem waited (policy : Policy) (rule : Rule) (retry : Nat) (failure : Failure)
    (timeout : Option Duration) (lastMoment : Bool) (live : moment.now < c) :
    Waited policy rule retry failure timeout lastMoment c moment := by
  have drawn : (policy.draw rule failure moment).2.now = moment.now ∧
      (policy.draw rule failure moment).2.store = moment.store := by
    unfold Policy.draw
    split <;> exact ⟨rfl, rfl⟩
  generalize pair : policy.draw rule failure moment = drawing at drawn
  obtain ⟨number, m⟩ := drawing
  obtain ⟨now, store⟩ : m.now = moment.now ∧ m.store = moment.store := drawn
  cases delay : policy.delayFor rule retry failure number with
  | none =>
      refine .failed .overflow m now ?_ ?_
      · simp only [Policy.wait, pair, delay]
      · simp only [Policy.wait, pair, delay]
  | some d =>
      cases lastMoment with
      | true =>
          refine .failed .cancelled m now ?_ ?_
          · simp [Policy.wait, pair, delay]
          · simp [Policy.wait, pair, delay]
      | false =>
          have ends := fun from? => wait_of_delay ⟨timeout, from?⟩ pair delay
          -- How many ticks there are does not matter, and nothing here should compute it.
          obtain ⟨t, ticks⟩ : ∃ t, d.ticks = t := ⟨_, rfl⟩
          rw [ticks] at ends
          have passed : moment.now ≤ (m.later t).now := by
            rw [Moment.later_now, now]
            exact Nat.le_add_right _ _
          refine .completed (m.later t) passed ((m.later_store t).trans store) ?_ ?_
          · rw [ends, cancelledBy?_of_none]
          · by_cases before : c ≤ (m.later t).now
            · have due : Nat.max c m.now = c := Nat.max_eq_left (now ▸ Nat.le_of_lt live)
              rw [ends, cancelledBy?_of_le timeout before, if_pos before]
              simp only [due]
              rfl
            · rw [ends, cancelledBy?_of_lt timeout (Nat.lt_of_not_le before), if_neg before]

/-! ### The two runs -/

/-- What a cancellation from outside at instant `c` makes of a run that would end undisturbed.
If that is over before, nothing; otherwise the run ends at the instant, with those attempts that
started before. -/
structure Interrupted (c : Nat) (undisturbed disturbed : Except Failure α × Moment (List Nat)) :
    Prop where
  /-- A run that is over is not cancelled any more. -/
  completed : undisturbed.2.now < c → disturbed = undisturbed
  /-- Any other run is cancelled at once. -/
  prompt : c < undisturbed.2.now → disturbed.1 = .error .cancelled ∧ disturbed.2.now = c ∧
    disturbed.2.store = undisturbed.2.store.filter (· < c)

theorem Interrupted.refl {run : Except Failure α × Moment (List Nat)} (h : run.2.now < c) :
    Interrupted c run run :=
  ⟨fun _ => rfl, fun late => absurd late (by omega)⟩

theorem Interrupted.of_progress {m : Moment (List Nat)}
    {undisturbed : Except Failure α × Moment (List Nat)} (h : Progress m undisturbed.2)
    (late : c ≤ m.now) (early : ∀ start ∈ m.store, start < c) :
    Interrupted c undisturbed (.error .cancelled, { m with now := c }) := by
  refine ⟨fun completed => ?_, fun _ => ⟨rfl, rfl, (h.filter_store late early).symm⟩⟩
  have := h.now_le
  omega

theorem attempt_progress (operation : String) (limit : Duration) (timeout : Option Duration)
    (script : Nat → ScriptedAttempt α) (moment : Moment (List Nat)) :
    Progress moment
      (attempt operation limit ⟨timeout, none⟩ (scriptedCall script) moment).moment := by
  cases attempted operation limit timeout script (Nat.lt_succ_self moment.now) with
  | byItself undisturbed _ =>
      rw [undisturbed]
      exact progress_noted (Nat.le_refl _)
  | completed outcome lastMoment ended passed undisturbed _ =>
      rw [undisturbed]
      exact progress_noted passed

/-- What comes after the first attempt of a run that nobody cancels from outside are steps. -/
theorem Policy.runFrom_progress (policy : Policy) (operation : String) (timeout : Option Duration)
    (script : Nat → ScriptedAttempt α) (left : Nat) (moment : Moment (List Nat)) :
    Progress (attempt operation ((⟨timeout, none⟩ : Request).attemptTimeout policy.attemptTimeout)
        ⟨timeout, none⟩ (scriptedCall script) moment).moment
      (policy.runFrom operation ⟨timeout, none⟩ (scriptedCall script) left moment).2 := by
  induction left generalizing moment with
  | zero =>
      cases verdict : policy.judge (attempt operation
          ((⟨timeout, none⟩ : Request).attemptTimeout policy.attemptTimeout) ⟨timeout, none⟩
          (scriptedCall script) moment) with
      | done outcome moment' =>
          rw [Policy.runFrom_of_done verdict, Policy.judge_done verdict]
          exact .refl moment'
      | again rule failure lastMoment moment' =>
          rw [Policy.runFrom_zero_of_again verdict, (Policy.judge_again verdict).1]
          exact .refl moment'
  | succ left ih =>
      cases verdict : policy.judge (attempt operation
          ((⟨timeout, none⟩ : Request).attemptTimeout policy.attemptTimeout) ⟨timeout, none⟩
          (scriptedCall script) moment) with
      | done outcome moment' =>
          rw [Policy.runFrom_of_done verdict, Policy.judge_done verdict]
          exact .refl moment'
      | again rule failure lastMoment moment' =>
          rw [(Policy.judge_again verdict).1]
          have passed := policy.wait_progress rule (policy.maxRetries - left) failure
            ⟨timeout, none⟩ lastMoment moment'
          rcases hwait : policy.wait rule (policy.maxRetries - left) failure ⟨timeout, none⟩
            lastMoment moment' with ⟨_ | _, moment''⟩
          · rw [hwait] at passed
            rw [Policy.runFrom_of_stopped verdict hwait]
            exact passed
          · rw [hwait] at passed
            rw [Policy.runFrom_of_waited verdict hwait]
            exact passed.trans ((attempt_progress _ _ _ _ _).trans (ih moment''))

/-- The first attempt of the two runs: either the script or the cancellation from outside ends
them there, or the attempt is over before and they are still alike. -/
theorem Policy.runFrom_interrupted_or_alike (policy : Policy) (operation : String)
    (timeout : Option Duration) (script : Nat → ScriptedAttempt α) (left : Nat)
    (live : moment.now < c) (early : ∀ start ∈ moment.store, start < c) :
    Interrupted c
        (policy.runFrom operation ⟨timeout, none⟩ (scriptedCall script) left moment)
        (policy.runFrom operation ⟨timeout, some c⟩ (scriptedCall script) left moment) ∨
      ∃ ending : Ending (List Nat) α, ending.moment.now < c ∧
        (∀ start ∈ ending.moment.store, start < c) ∧
        ∀ from? ∈ [none, some c],
          attempt operation ((⟨timeout, from?⟩ : Request).attemptTimeout policy.attemptTimeout)
            ⟨timeout, from?⟩ (scriptedCall script) moment = ending := by
  have noted_early : ∀ ended, ∀ start ∈ (noted moment ended).store, start < c := by
    intro ended start mem
    rcases List.mem_cons.mp mem with rfl | mem
    · exact live
    · exact early start mem
  cases attempted operation ((⟨timeout, none⟩ : Request).attemptTimeout policy.attemptTimeout)
      timeout script live with
  | byItself undisturbed disturbed =>
      exact .inr ⟨.cancelled (noted moment moment.now), live, noted_early _,
        by simpa using ⟨undisturbed, disturbed⟩⟩
  | completed outcome lastMoment ended passed undisturbed disturbed =>
      by_cases before : c ≤ ended
      · -- The cancellation falls into the attempt.
        have rest := policy.runFrom_progress operation timeout script left moment
        rw [undisturbed] at rest
        rw [if_pos before] at disturbed
        have stopped :
            policy.runFrom operation ⟨timeout, some c⟩ (scriptedCall script) left moment =
              (.error .cancelled, noted moment c) :=
          Policy.runFrom_of_done (congrArg policy.judge disturbed)
        rw [stopped]
        exact .inl (Interrupted.of_progress rest before (noted_early ended))
      · rw [if_neg before] at disturbed
        exact .inr ⟨.finished outcome lastMoment (noted moment ended), Nat.lt_of_not_le before,
          noted_early ended, by simpa using ⟨undisturbed, disturbed⟩⟩

/-- **Induction over the two runs.** As long as the cancellation is still to come, both runs stand
at the same moment, and every attempt that was noted started before it. -/
theorem Policy.runFrom_interrupted (policy : Policy) (operation : String)
    (timeout : Option Duration) (script : Nat → ScriptedAttempt α) (left : Nat)
    (live : moment.now < c) (early : ∀ start ∈ moment.store, start < c) :
    Interrupted c
      (policy.runFrom operation ⟨timeout, none⟩ (scriptedCall script) left moment)
      (policy.runFrom operation ⟨timeout, some c⟩ (scriptedCall script) left moment) := by
  induction left generalizing moment with
  | zero =>
      rcases policy.runFrom_interrupted_or_alike operation timeout script 0 live early with
        done | ⟨ending, before, _, alike⟩
      · exact done
      · have undisturbed := congrArg policy.judge (alike none (by simp))
        have disturbed := congrArg policy.judge (alike (some c) (by simp))
        cases verdict : policy.judge ending with
        | done outcome moment' =>
            rw [verdict] at undisturbed disturbed
            rw [Policy.runFrom_of_done undisturbed, Policy.runFrom_of_done disturbed]
            exact .refl (Policy.judge_done verdict ▸ before)
        | again rule failure lastMoment moment' =>
            rw [verdict] at undisturbed disturbed
            rw [Policy.runFrom_zero_of_again undisturbed, Policy.runFrom_zero_of_again disturbed]
            rw [(Policy.judge_again verdict).1] at before
            exact .refl before
  | succ left ih =>
      -- the cancellation disturbs the attempt, or the attempt goes alike with it and without
      rcases policy.runFrom_interrupted_or_alike operation timeout script (left + 1) live early with
        done | ⟨ending, before, early', alike⟩
      · exact done
      · have undisturbed := congrArg policy.judge (alike none (by simp))
        have disturbed := congrArg policy.judge (alike (some c) (by simp))
        cases verdict : policy.judge ending with
        | done outcome moment' =>
            rw [verdict] at undisturbed disturbed
            rw [Policy.runFrom_of_done undisturbed, Policy.runFrom_of_done disturbed]
            exact .refl (Policy.judge_done verdict ▸ before)
        | again rule failure lastMoment moment' =>
            rw [verdict] at undisturbed disturbed
            rw [(Policy.judge_again verdict).1] at before early'
            -- alike attempts go into one pause, at whose end the cancellation may have fallen due
            cases waited policy rule (policy.maxRetries - left) failure timeout lastMoment
              before with
            | failed failure' moment'' now undisturbed' disturbed' =>
                rw [Policy.runFrom_of_stopped undisturbed undisturbed',
                  Policy.runFrom_of_stopped disturbed disturbed']
                exact .refl (now ▸ before)
            | completed woken now store undisturbed' disturbed' =>
                rw [Policy.runFrom_of_waited undisturbed undisturbed']
                have early'' : ∀ start ∈ woken.store, start < c := store ▸ early'
                by_cases due : c ≤ woken.now
                · -- The cancellation falls into the pause.
                  rw [if_pos due] at disturbed'
                  rw [Policy.runFrom_of_stopped disturbed disturbed']
                  exact Interrupted.of_progress ((attempt_progress _ _ _ _ _).trans
                    (policy.runFrom_progress operation timeout script left woken)) due early''
                · rw [if_neg due] at disturbed'
                  rw [Policy.runFrom_of_waited disturbed disturbed']
                  exact ih (Nat.lt_of_not_le due) early''

end

/-- **Cancellation is prompt, and until then nobody notices it.** A scripted call is run twice
from the same moment: once without a cancellation from outside, and once with one at instant `c`.

* If the request is cancelled from the start on, no attempt is made.
* If the first run is not over at `c`, the second one ends there as cancelled, and has made
  exactly those attempts that the first one starts before `c`.
* If the first run is over before `c`, the second one is the same. -/
theorem run_cancelled (policy : Policy) (operation : String) (timeout : Option Duration)
    (script : Nat → ScriptedAttempt α) (c now : Nat) (draws : List Nat) :
    let undisturbed := policy.run operation ⟨timeout, none⟩ (scriptedCall script) ⟨now, [], draws⟩
    let cancelled := policy.run operation ⟨timeout, some c⟩ (scriptedCall script) ⟨now, [], draws⟩
    (c ≤ now → cancelled = (.error .cancelled, ⟨now, [], draws⟩)) ∧
      (now < c → c < undisturbed.2.now →
        cancelled.1 = .error .cancelled ∧ cancelled.2.now = c ∧
          cancelled.2.store = undisturbed.2.store.filter (· < c)) ∧
      (undisturbed.2.now < c → cancelled = undisturbed) := by
  intro undisturbed cancelled
  have none_yet : ∀ live : now < c, Interrupted c undisturbed cancelled := fun live =>
    policy.runFrom_interrupted operation timeout script policy.maxRetries live
      (fun _ mem => absurd mem List.not_mem_nil)
  refine ⟨fun late => ?_, fun live => (none_yet live).prompt, fun completed => ?_⟩
  · have start := cancelledBy?_of_le timeout late
    have refused : attempt operation
        ((⟨timeout, some c⟩ : Request).attemptTimeout policy.attemptTimeout) ⟨timeout, some c⟩
        (scriptedCall script) ⟨now, [], draws⟩ = .cancelled ⟨now, [], draws⟩ := by
      simp [attempt, start]
    exact Policy.runFrom_of_done (congrArg policy.judge refused)
  · have passed : now ≤ undisturbed.2.now :=
      ((attempt_progress _ _ _ _ _).trans (policy.runFrom_progress operation timeout script
        policy.maxRetries ⟨now, [], draws⟩)).now_le
    exact (none_yet (Nat.lt_of_le_of_lt passed completed)).completed completed

/-- A policy that adds nothing to a wait. -/
def steadyPolicy : Policy := { Policy.forPoints 2 (.ofSeconds 30) with maxJitter := .zero }

/-- A store that fails again and again. -/
def failingScript : Nat → ScriptedAttempt Unit :=
  fun _ => { after := some 0, outcome := .error (.timeout "late") }

/-- The course of a call to that store, with or without a cancellation. -/
def failingRun (cancelledFrom : Option Nat) : Except Failure Unit × Moment (List Nat) :=
  steadyPolicy.run "op" ⟨none, cancelledFrom⟩ (scriptedCall failingScript) ⟨0, [], []⟩

/-- A cancellation that falls into the second pause. -/
theorem run_cancelled_inPause :
    (failingRun none).2.now = 6000 ∧ (failingRun none).2.store = [6000, 2000, 0] ∧
      (failingRun (some 3000)).1 = .error .cancelled ∧ (failingRun (some 3000)).2.now = 3000 ∧
        (failingRun (some 3000)).2.store = [2000, 0] := by
  have ended : (failingRun none).2.now = 6000 := rfl
  have starts : (failingRun none).2.store = [6000, 2000, 0] := rfl
  obtain ⟨outcome, now, store⟩ :=
    (run_cancelled steadyPolicy "op" none failingScript 3000 0 []).2.1 (by decide)
      (ended.symm ▸ (by decide : 3000 < 6000))
  exact ⟨ended, starts, outcome, now, store.trans (congrArg (List.filter (· < 3000)) starts)⟩

end DocumentClient.Retry
