import DocumentClient.Proofs.Retry.Policies
import DocumentClient.Retry.Script
import Mathlib.Algebra.Group.Nat.Defs

/-!
# DocumentClient.Proofs.Retry.Waits

**How long a run waits before its repetitions.** A wait is what the store asked for, or else the
base delay, doubled with every repetition up to the sixteenth, and something at random on top
(`Policy.Fitting`). What is drawn at random may be less than what was drawn before; but as long as
it is no more than twice the base delay, the next doubling makes up for it, and waits that the store
did not ask for never get shorter within sixteen repetitions.

* `Policy.note` is a run that notes its waits; `Policy.note_snd` says that it is the run.
* `Policy.waits_fitting_and_rising` is about the waits that are noted, of any call to any store.

## Proof shape

* `Policy.delayFor_fitting` is about one wait. What is drawn is a number of milliseconds, of which
  only what fits into a word counts; `jitter_nanos_le_maxJitter` bounds it in any case.
* `Policy.numbered_noteFrom` is the induction over the attempts: waits are numbered one after the
  other, and each is what the policy gives for its number and its failure (`Policy.Numbered`).
  That is all that the order of waits depends on.
* `Numbered.rising` compares any two waits, not only neighbours: between two that the store did
  not ask for there may be one that it did, which may be shorter or longer than both.
-/

namespace DocumentClient.Retry

open DocumentClient.Store

variable {σ α : Type}

/-- A wait before a repetition. -/
structure Wait where
  /-- The number of the repetition. -/
  retry : Nat
  /-- The failure of the attempt before it. -/
  failure : Failure
  /-- How long the wait is, if nobody interrupts it. -/
  delay : Duration
  deriving DecidableEq, Repr

/-- Is it a wait that the store did not ask for? -/
def Wait.isUnasked (wait : Wait) : Bool := wait.failure.hint?.isNone

namespace Policy

variable {policy : Policy} {rule : Rule} {failure : Failure} {operation : String}
  {request : Request} {call : Call σ α}

/-! ### The length of a wait -/

/-- The base delay, doubled with every repetition up to the sixteenth, in nanoseconds. -/
def doubled (policy : Policy) (retry : Nat) : Nat :=
  policy.baseDelay.nanos * 2 ^ Nat.min retry lastDoubling

/-- The length of a wait is right: it is what the store asked for when it took no more calls, or
else the doubled base delay, with no more on top than the policy adds at random. -/
def Fitting (policy : Policy) (retry : Nat) (failure : Failure) (delay : Duration) : Prop :=
  match failure with
  | .rateLimited _ (some hint) => delay = hint
  | _ => policy.doubled retry ≤ delay.nanos ∧
      delay.nanos ≤ policy.doubled retry + policy.maxJitter.nanos

theorem fitting_of_hint {hint : Duration} (h : failure.hint? = some hint) (retry : Nat) :
    policy.Fitting retry failure hint := by
  cases failure <;> cases h
  rfl

theorem fitting_iff_of_noHint (h : failure.hint? = none) (retry : Nat) (delay : Duration) :
    policy.Fitting retry failure delay ↔ policy.doubled retry ≤ delay.nanos ∧
      delay.nanos ≤ policy.doubled retry + policy.maxJitter.nanos := by
  cases failure <;> cases h <;> exact Iff.rfl

/-- The longest wait that the store does not ask for is a duration. -/
def LongestFits (policy : Policy) : Prop :=
  policy.baseDelay.nanos * 2 ^ 16 + policy.maxJitter.nanos ≤ Duration.longest.nanos

theorem doubled_le (policy : Policy) (retry : Nat) :
    policy.doubled retry ≤ policy.baseDelay.nanos * 2 ^ 16 :=
  Nat.mul_le_mul_left _ (Nat.pow_le_pow_right (by decide) (Nat.min_le_right retry lastDoubling))

/-- What is drawn at random adds no more than the policy allows, also when the number of its
milliseconds does not fit into a word and only what is left of it counts. -/
theorem jitter_nanos_le_maxJitter (policy : Policy) (draw : Nat) :
    (policy.jitter draw).nanos ≤ policy.maxJitter.nanos := by
  have bound : policy.jitterBound ≤ policy.maxJitter.millis := Nat.mod_le _ _
  calc (policy.jitter draw).nanos
      ≤ policy.jitterBound * Duration.nanosPerMilli := policy.jitter_nanos_le draw
    _ ≤ policy.maxJitter.millis * Duration.nanosPerMilli := Nat.mul_le_mul_right _ bound
    _ ≤ policy.maxJitter.nanos := Nat.div_mul_le_self _ _

theorem backoffDelay_nanos (fits : policy.LongestFits) (retry : Nat) :
    (policy.backoffDelay retry).nanos = policy.doubled retry := by
  have within := Nat.le_trans (policy.doubled_le retry) (Nat.le_trans (Nat.le_add_right _ _) fits)
  exact Nat.min_eq_left within

/-- **A wait before a repetition is a duration of the right length**, whatever is drawn. -/
theorem delayFor_fitting (usual : policy.Usual) (fits : policy.LongestFits)
    (accepted : policy.ruleFor? failure = some rule) (retry draw : Nat) :
    ∃ delay, policy.delayFor rule retry failure draw = some delay ∧
      policy.Fitting retry failure delay := by
  unfold delayFor
  rw [usual.hintFor?_eq accepted]
  cases hint : failure.hint? with
  | some hint' => exact ⟨hint', rfl, fitting_of_hint hint retry⟩
  | none =>
      have doubled := policy.doubled_le retry
      have added := policy.jitter_nanos_le_maxJitter draw
      have sum : (policy.backoffDelay retry).nanos + (policy.jitter draw).nanos ≤
          Duration.longest.nanos := by
        rw [backoffDelay_nanos fits]
        unfold LongestFits at fits
        omega
      refine ⟨_, if_pos sum, (fitting_iff_of_noHint hint retry _).mpr ?_⟩
      simp only [backoffDelay_nanos fits]
      omega

/-! ### A run that notes its waits -/

/-- Makes a call as `runFrom` does, and notes every wait with the length that is meant for it. -/
def noteFrom (policy : Policy) (operation : String) (request : Request) (call : Call σ α) :
    Nat → Moment σ → List Wait × Except Failure α × Moment σ
  | left, moment =>
    let limit := request.attemptTimeout policy.attemptTimeout
    match policy.judge (attempt operation limit request call moment) with
    | .done outcome moment => ([], outcome, moment)
    | .again rule failure lastMoment moment =>
      match left with
      | 0 => ([], .error failure, moment)
      | left + 1 =>
        let retry := policy.maxRetries - left
        let delay := policy.delayFor rule retry failure (policy.draw rule failure moment).1
        let noted := delay.toList.map fun delay => ⟨retry, failure, delay⟩
        match policy.wait rule retry failure request lastMoment moment with
        | (.error failure, moment) => (noted, .error failure, moment)
        | (.ok (), moment) =>
          let (waits, ended) := policy.noteFrom operation request call left moment
          (noted ++ waits, ended)

/-- Makes a call under a policy, and notes the waits. -/
def note (policy : Policy) (operation : String) (request : Request) (call : Call σ α)
    (moment : Moment σ) : List Wait × Except Failure α × Moment σ :=
  policy.noteFrom operation request call policy.maxRetries moment

/-- What is noted changes nothing about a run. -/
theorem noteFrom_snd (policy : Policy) (operation : String) (request : Request) (call : Call σ α)
    (left : Nat) (moment : Moment σ) :
    (policy.noteFrom operation request call left moment).2 =
      policy.runFrom operation request call left moment := by
  induction left generalizing moment with
  | zero =>
      unfold noteFrom runFrom
      dsimp only
      cases policy.judge (attempt operation (request.attemptTimeout policy.attemptTimeout) request
        call moment) <;> rfl
  | succ left ih =>
      unfold noteFrom runFrom
      dsimp only
      cases policy.judge (attempt operation (request.attemptTimeout policy.attemptTimeout) request
        call moment) with
      | done outcome moment' => rfl
      | again rule failure lastMoment moment' =>
          dsimp only
          rcases policy.wait rule (policy.maxRetries - left) failure request lastMoment moment'
            with ⟨_ | _, moment''⟩
          · rfl
          · exact ih moment''

/-- **A run that notes its waits is the run.** -/
theorem note_snd (policy : Policy) (operation : String) (request : Request) (call : Call σ α)
    (moment : Moment σ) :
    (policy.note operation request call moment).2 = policy.run operation request call moment :=
  policy.noteFrom_snd operation request call policy.maxRetries moment

/-! ### The waits of a run -/

/-- Waits are numbered one after the other, and each is what the policy gives for its number and
its failure, which a rule accepts. -/
structure Numbered (policy : Policy) (first : Nat) (waits : List Wait) : Prop where
  numbers : waits.map Wait.retry = List.range' first waits.length
  given : ∀ wait ∈ waits, ∃ rule draw, policy.ruleFor? wait.failure = some rule ∧
    policy.delayFor rule wait.retry wait.failure draw = some wait.delay

theorem Numbered.nil (policy : Policy) (first : Nat) : policy.Numbered first [] :=
  ⟨rfl, fun _ mem => absurd mem List.not_mem_nil⟩

/-- A wait in front of those that follow it. -/
theorem Numbered.cons {first draw : Nat} {delay : Duration} {waits : List Wait}
    (accepted : policy.ruleFor? failure = some rule)
    (delayed : policy.delayFor rule first failure draw = some delay)
    (rest : policy.Numbered (first + 1) waits) :
    policy.Numbered first (⟨first, failure, delay⟩ :: waits) where
  numbers := by rw [List.map_cons, rest.numbers, List.length_cons, List.range'_succ]
  given wait mem := by
    rcases List.mem_cons.mp mem with rfl | mem
    · exact ⟨rule, draw, accepted, delayed⟩
    · exact rest.given wait mem

/-- After a wait that is no duration a run does not go on. -/
theorem wait_of_overflow {moment : Moment σ} {retry : Nat} (lastMoment : Bool)
    (overflow : policy.delayFor rule retry failure (policy.draw rule failure moment).1 = none) :
    policy.wait rule retry failure request lastMoment moment =
      (.error .overflow, (policy.draw rule failure moment).2) := by
  unfold wait
  generalize policy.draw rule failure moment = drawn at overflow
  obtain ⟨number, moment'⟩ := drawn
  dsimp only at overflow ⊢
  rw [overflow]

/-- The waits of what is left of a run have the numbers that follow. -/
theorem numbered_noteFrom (policy : Policy) (operation : String) (request : Request)
    (call : Call σ α) (left : Nat) (within : left ≤ policy.maxRetries) (moment : Moment σ) :
    policy.Numbered (policy.maxRetries - left + 1)
      (policy.noteFrom operation request call left moment).1 := by
  induction left generalizing moment with
  | zero =>
      unfold noteFrom
      dsimp only
      cases policy.judge (attempt operation (request.attemptTimeout policy.attemptTimeout) request
        call moment) <;> exact .nil policy _
  | succ left ih =>
      have next : policy.maxRetries - (left + 1) + 1 = policy.maxRetries - left := by omega
      rw [next]
      unfold noteFrom
      dsimp only
      cases verdict : policy.judge (attempt operation
          (request.attemptTimeout policy.attemptTimeout) request call moment) with
      | done outcome moment' => exact .nil policy _
      | again rule failure lastMoment moment' =>
          have accepted := (judge_again verdict).2
          dsimp only
          cases delayed : policy.delayFor rule (policy.maxRetries - left) failure
              (policy.draw rule failure moment').1 with
          | none =>
              rw [wait_of_overflow lastMoment delayed]
              exact .nil policy _
          | some delay =>
              rcases policy.wait rule (policy.maxRetries - left) failure request lastMoment moment'
                with ⟨_ | _, moment''⟩
              · exact .cons accepted delayed (.nil policy _)
              · exact .cons accepted delayed (ih (by omega) moment'')

theorem numbered_note (policy : Policy) (operation : String) (request : Request)
    (call : Call σ α) (moment : Moment σ) :
    policy.Numbered 1 (policy.note operation request call moment).1 := by
  have numbered := policy.numbered_noteFrom operation request call policy.maxRetries (Nat.le_refl _)
    moment
  rwa [Nat.sub_self] at numbered

variable {waits : List Wait}

theorem Numbered.fitting {first : Nat} (numbered : policy.Numbered first waits)
    (usual : policy.Usual) (fits : policy.LongestFits) {wait : Wait} (mem : wait ∈ waits) :
    policy.Fitting wait.retry wait.failure wait.delay := by
  obtain ⟨rule, draw, accepted, delayed⟩ := numbered.given wait mem
  obtain ⟨delay, delayed', fitting⟩ := delayFor_fitting usual fits accepted wait.retry draw
  rw [delayed] at delayed'
  rwa [Option.some.inj delayed']

theorem Numbered.pairwise {first : Nat} (numbered : policy.Numbered first waits) :
    waits.Pairwise fun wait later => wait.retry < later.retry := by
  have rising : (waits.map Wait.retry).Pairwise (· < ·) := by
    rw [numbered.numbers]
    exact List.pairwise_lt_range'
  exact List.pairwise_map.mp rising

theorem Numbered.bounds {first : Nat} (numbered : policy.Numbered first waits) {wait : Wait}
    (mem : wait ∈ waits) : first ≤ wait.retry ∧ wait.retry < first + waits.length := by
  have number := List.mem_map_of_mem (f := Wait.retry) mem
  rw [numbered.numbers] at number
  exact List.mem_range'_1.mp number

/-- What a doubling adds makes up for what was added at random before. -/
theorem doubled_add_maxJitter_le (small : policy.maxJitter.nanos ≤ 2 * policy.baseDelay.nanos)
    {retry later : Nat} (pos : 1 ≤ retry) (before : retry < later) (within : later ≤ 16) :
    policy.doubled retry + policy.maxJitter.nanos ≤ policy.doubled later := by
  have undoubled : ∀ n ≤ 16, policy.doubled n = policy.baseDelay.nanos * 2 ^ n := fun n h => by
    rw [Policy.doubled, show Nat.min n lastDoubling = n from Nat.min_eq_left h]
  have twice : policy.baseDelay.nanos * 2 ^ 1 ≤ policy.baseDelay.nanos * 2 ^ retry :=
    Nat.mul_le_mul_left _ (Nat.pow_le_pow_right (by decide) pos)
  rw [undoubled retry (by omega), undoubled later within]
  calc policy.baseDelay.nanos * 2 ^ retry + policy.maxJitter.nanos
      ≤ policy.baseDelay.nanos * 2 ^ retry + policy.baseDelay.nanos * 2 ^ retry := by omega
    _ = policy.baseDelay.nanos * 2 ^ (retry + 1) := by rw [Nat.pow_succ, ← Nat.mul_assoc]; omega
    _ ≤ policy.baseDelay.nanos * 2 ^ later :=
        Nat.mul_le_mul_left _ (Nat.pow_le_pow_right (by decide) before)

/-- Of sixteen numbered waits those that the store did not ask for do not get shorter. -/
theorem Numbered.rising (numbered : policy.Numbered 1 waits) (usual : policy.Usual)
    (fits : policy.LongestFits) (small : policy.maxJitter.nanos ≤ 2 * policy.baseDelay.nanos)
    (few : waits.length ≤ 16) :
    (waits.filter Wait.isUnasked).Pairwise fun wait later =>
      wait.delay.nanos ≤ later.delay.nanos := by
  refine (numbered.pairwise.filter _).imp_of_mem fun {wait later} mem memLater before => ?_
  obtain ⟨mem, unasked⟩ := List.mem_filter.mp mem
  obtain ⟨memLater, unaskedLater⟩ := List.mem_filter.mp memLater
  have upper := ((fitting_iff_of_noHint (Option.isNone_iff_eq_none.mp unasked) _ _).mp
    (numbered.fitting usual fits mem)).2
  have lower := ((fitting_iff_of_noHint (Option.isNone_iff_eq_none.mp unaskedLater) _ _).mp
    (numbered.fitting usual fits memLater)).1
  have first := (numbered.bounds mem).1
  have last := (numbered.bounds memLater).2
  have made := doubled_add_maxJitter_le small first before (by omega)
  omega

/-- **Waits are as long as they should be, and do not get shorter.** Under a policy of the client
whose longest wait is a duration, a wait is exactly what the store asked for, or else between the
doubled base delay and that with the most that is added at random. So are all waits of a run; and
if no more than twice the base delay is added, then in a run of up to sixteen repetitions the waits
that the store did not ask for do not get shorter, whatever is drawn. -/
theorem waits_fitting_and_rising {policy : Policy} (usual : policy.Usual)
    (fits : policy.LongestFits) :
    (∀ failure rule, policy.ruleFor? failure = some rule → ∀ retry draw,
      ∃ delay, policy.delayFor rule retry failure draw = some delay ∧
        policy.Fitting retry failure delay) ∧
    ∀ {σ α : Type} (operation : String) (request : Request) (call : Call σ α) (moment : Moment σ),
      ∃ waits, policy.note operation request call moment =
          (waits, policy.run operation request call moment) ∧
        (∀ wait ∈ waits, policy.Fitting wait.retry wait.failure wait.delay) ∧
        (policy.maxJitter.nanos ≤ 2 * policy.baseDelay.nanos → waits.length ≤ 16 →
          (waits.filter Wait.isUnasked).Pairwise fun wait later =>
            wait.delay.nanos ≤ later.delay.nanos) := by
  refine ⟨fun failure rule accepted retry draw =>
    delayFor_fitting usual fits accepted retry draw, ?_⟩
  intro σ α operation request call moment
  have numbered := policy.numbered_note operation request call moment
  refine ⟨_, Prod.ext rfl (policy.note_snd operation request call moment), ?_, ?_⟩
  · exact fun wait mem => numbered.fitting usual fits mem
  · exact fun small few => numbered.rising usual fits small few

/-- Of 2⁶⁴ milliseconds and one more to add at random, that one is left. -/
example : ({ forPoints 3 (.ofSeconds 30) with maxJitter := .ofMillis (Word.max64 + 2) } :
    Policy).jitterBound = 1 := by decide

/-- A call that is refused three times, once with a hint, and then answered. -/
def refusedThrice : Nat → ScriptedAttempt Unit
  | 0 => { after := some 0, outcome := .error (.serviceUnavailable "busy") }
  | 1 => { after := some 0, outcome := .error (.rateLimited "slow" (some (.ofMillis 5))) }
  | 2 => { after := some 7, outcome := .error (.timeout "late") }
  | _ => { after := some 7, outcome := .ok () }

/-- The waits of the usual policy, if 900 and 12 are drawn. -/
def waitsOfRefusedThrice : List Wait :=
  [⟨1, .serviceUnavailable "busy", .ofMillis 2900⟩,
   ⟨2, .rateLimited "slow" (some (.ofMillis 5)), .ofMillis 5⟩,
   ⟨3, .timeout "late", .ofMillis 8012⟩]

/-- The waits that the store did not ask for do not get shorter, though the one that it asked for
is in between. -/
theorem waits_fitting_and_rising_refusedThrice :
    (forPoints 3 (.ofSeconds 30)).Usual ∧ (forPoints 3 (.ofSeconds 30)).LongestFits ∧
    (forPoints 3 (.ofSeconds 30)).maxJitter.nanos ≤
      2 * (forPoints 3 (.ofSeconds 30)).baseDelay.nanos ∧
    (∃ delay, (forPoints 3 (.ofSeconds 30)).delayFor Rule.transient 3 (.timeout "late") 12 =
      some delay ∧ (forPoints 3 (.ofSeconds 30)).Fitting 3 (.timeout "late") delay) ∧
    ((forPoints 3 (.ofSeconds 30)).note "op" {} (scriptedCall refusedThrice)
      ⟨0, [], [900, 12]⟩).1 = waitsOfRefusedThrice ∧
    (waitsOfRefusedThrice.filter Wait.isUnasked).Pairwise fun wait later =>
      wait.delay.nanos ≤ later.delay.nanos := by
  have usual : (forPoints 3 (.ofSeconds 30)).Usual := .inl rfl
  have fits : (forPoints 3 (.ofSeconds 30)).LongestFits := by
    unfold LongestFits
    decide
  have small : (forPoints 3 (.ofSeconds 30)).maxJitter.nanos ≤
      2 * (forPoints 3 (.ofSeconds 30)).baseDelay.nanos := by decide
  obtain ⟨lengths, runs⟩ := waits_fitting_and_rising usual fits
  obtain ⟨waits, noted, -, rising⟩ :=
    runs "op" {} (scriptedCall refusedThrice) ⟨0, [], [900, 12]⟩
  have computed : ((forPoints 3 (.ofSeconds 30)).note "op" {} (scriptedCall refusedThrice)
      ⟨0, [], [900, 12]⟩).1 = waitsOfRefusedThrice := by decide +kernel
  obtain rfl : waitsOfRefusedThrice = waits := computed.symm.trans (congrArg Prod.fst noted)
  exact ⟨usual, fits, small, lengths (.timeout "late") Rule.transient rfl 3 12, computed,
    rising small (by decide)⟩

end Policy

end DocumentClient.Retry
