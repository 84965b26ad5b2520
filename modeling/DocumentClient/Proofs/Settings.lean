import DocumentClient.Proofs.Text.Numeral
import DocumentClient.Settings
import Mathlib.Data.List.Nodup
import Mathlib.Data.List.Pairwise
import Mathlib.Data.String.Basic

/-!
# DocumentClient.Proofs.Settings

**Reading settings from variables reports every problem exactly once.** Texts are read first, and
what cannot be read is reported and replaced by its default; then the settings are checked as a
whole. So a variable could be reported twice, or an entry be about several of them. Neither happens.

* `Variable.Accepts` says which texts a variable may have, and `Variable.Fault` what is wrong with
  the others; neither mentions how the texts are read.
* `Variable.isAbout` finds the entries about a variable by what they start with. No two variables
  have a start in common (`Variable.labels_disjoint`).
* `Holds` says of settings that they are what the variables say, with defaults for those that are
  not set. `ofVariables_exact` puts the two sides together.

## Proof shape

* The numbers are one family: `Number` lists them, and everything is shown of a number with its
  name, its range and its word as parameters.
* `Variable.violations` are the violations that belong to one variable. There is one if the text
  has a fault and none otherwise (`Variable.reported`), as a number that cannot be read is
  replaced by its default, which is in range (`Number.isFit_default`).
* `Variable.perm_flatMap_violations` says that the violations of settings, with those of reading,
  are the violations of all variables. From there on only the order is left, and
  `Reported.of_perm` shows that it does not matter.
-/

namespace DocumentClient.Settings

/-! ### Numbers -/

/-- The settings that are numbers. -/
inductive Number where
  /-- How many documents a page holds at most. -/
  | pageSize
  /-- How often a failed call is repeated at most. -/
  | retryAttempts
  /-- How long a call may take. -/
  | timeoutSeconds
  /-- How many connections are kept at most. -/
  | maxConnections
  /-- The highest throughput of a new database. -/
  | autoscale
  deriving DecidableEq

namespace Number

/-- All of them, in the order in which they are checked. -/
def all : List Number :=
  [.pageSize, .retryAttempts, .timeoutSeconds, .maxConnections, .autoscale]

/-- The variable of a number. -/
def variableName : Number → String
  | .pageSize => variableNames.pageSize
  | .retryAttempts => variableNames.retryAttempts
  | .timeoutSeconds => variableNames.timeoutSeconds
  | .maxConnections => variableNames.maxConnections
  | .autoscale => variableNames.autoscale

/-- The largest number that is read. -/
def word : Number → Nat
  | .timeoutSeconds => Word.max64
  | _ => Word.max32

/-- Is a number in its range? -/
def Fits : Number → Nat → Prop
  | .pageSize, n => 1 ≤ n ∧ n ≤ 1000
  | .retryAttempts, n => n ≤ 10
  | .timeoutSeconds, n => 1 ≤ n ∧ n ≤ 300
  | .maxConnections, n => 1 ≤ n ∧ n ≤ 1000
  | .autoscale, n => 1000 ≤ n ∧ 1000 ∣ n

/-- Whether a number is in its range, as settings are checked. -/
def isFit : Number → Nat → Bool
  | .pageSize, n => 1 ≤ n && n ≤ maxPageSize
  | .retryAttempts, n => n ≤ maxRetryAttempts
  | .timeoutSeconds, n => 1 ≤ n && n ≤ maxTimeoutSeconds
  | .maxConnections, n => 1 ≤ n && n ≤ connectionLimit
  | .autoscale, n => autoscaleStep ≤ n && n % autoscaleStep == 0

theorem isFit_iff {number : Number} {n : Nat} : number.isFit n = true ↔ number.Fits n := by
  cases number <;>
    simp only [isFit, Fits, Bool.and_eq_true, decide_eq_true_eq, beq_iff_eq,
      Nat.dvd_iff_mod_eq_zero] <;>
    rfl

/-- What a number out of its range violates. -/
def violation : Number → Violation
  | .pageSize => .pageSize
  | .retryAttempts => .retryAttempts
  | .timeoutSeconds => .requestTimeout
  | .maxConnections => .maxConnections
  | .autoscale => .autoscale

/-- The number that settings hold; there may be no throughput. -/
def of? (settings : Settings) : Number → Option Nat
  | .pageSize => some settings.pageSize
  | .retryAttempts => some settings.retryAttempts
  | .timeoutSeconds => some settings.timeoutSeconds
  | .maxConnections => some settings.maxConnections
  | .autoscale => settings.autoscale

/-- The text of a variable gives a number: its digits do, without the blanks around them. -/
def Reads (number : Number) (text : String) (n : Nat) : Prop :=
  Text.IsNumeral (Text.trim text).toList n ∧ n ≤ number.word

theorem readNumber_eq_ok_iff {number : Number} {text : String} {n : Nat} :
    readNumber number.word (Text.trim text) = .ok n ↔ number.Reads text n := by
  rw [Reads, ← Text.readNumeral_eq_ok_iff, readNumber]
  cases Text.readNumeral number.word (Text.trim text).toList <;> simp [Except.mapError]

theorem Reads.unique {number : Number} {text : String} {m n : Nat} (hm : number.Reads text m)
    (hn : number.Reads text n) : m = n :=
  Except.ok.inj ((readNumber_eq_ok_iff.mpr hm).symm.trans (readNumber_eq_ok_iff.mpr hn))

theorem readNumber_eq_error {number : Number} {text reason : String}
    (h : readNumber number.word (Text.trim text) = .error reason) :
    ∃ error, Text.readNumeral number.word (Text.trim text).toList = .error error ∧
      error.message = reason := by
  rw [readNumber] at h
  cases result : Text.readNumeral number.word (Text.trim text).toList with
  | ok n => simp [result, Except.mapError] at h
  | error error => exact ⟨error, rfl, by simpa [result, Except.mapError] using h⟩

theorem isFit_default (number : Number) : (number.of? {}).all number.isFit = true := by
  cases number <;> rfl

end Number

/-! ### Modes -/

/-- The text of a variable gives a mode: it is its name, whatever the size of its letters. -/
def ModeReads (text : String) (mode : ConnectionMode) : Prop :=
  (Text.trim text).toList.map Char.toLower = mode.name.toList

theorem ofName?_eq_some_iff {name : String} {mode : ConnectionMode} :
    ConnectionMode.ofName? name = some mode ↔ name = mode.name := by
  unfold ConnectionMode.ofName?
  cases mode <;> split <;> simp_all [ConnectionMode.name]

theorem readMode_eq_ok_iff {text : String} {mode : ConnectionMode} :
    readMode (Text.trim text) = .ok mode ↔ ModeReads text mode := by
  rw [ModeReads, ← String.toList_ofList (l := List.map _ _), String.toList_inj,
    ← ofName?_eq_some_iff, readMode, ConnectionMode.read]
  cases ConnectionMode.ofName? _ <;> simp [Except.mapError]

/-- A text that is no mode is named in small letters. -/
theorem readMode_eq_error {text reason : String} (h : readMode (Text.trim text) = .error reason) :
    ∃ lowered, lowered.toList = (Text.trim text).toList.map Char.toLower ∧
      ConnectionMode.unknownMessage lowered = reason := by
  refine ⟨_, String.toList_ofList, ?_⟩
  rw [readMode, ConnectionMode.read] at h
  cases known : ConnectionMode.ofName? (String.ofList ((Text.trim text).toList.map Char.toLower))
    with
  | some mode => simp [known, Except.mapError] at h
  | none => simpa [known, Except.mapError] using h

/-! ### What is read -/

variable {α : Type}

@[simp] theorem valueOf_ok (value : Option α) : valueOf (.ok value) = value := by
  cases value <;> rfl

@[simp] theorem valueOf_error (violation : Violation) :
    valueOf (.error violation : Except Violation (Option α)) = none := rfl

@[simp] theorem violationOf_ok (value : Option α) : violationOf (.ok value) = [] := rfl

@[simp] theorem violationOf_error (violation : Violation) :
    violationOf (.error violation : Except Violation (Option α)) = [violation] := rfl

/-- What is read of the variable of a number. -/
def numberReading (lookup : String → Option String) (number : Number) :
    Except Violation (Option Nat) :=
  readVariable (readNumber number.word) number.variableName (lookup number.variableName)

/-- What is read of the variable of the mode. -/
def modeReading (lookup : String → Option String) : Except Violation (Option ConnectionMode) :=
  readVariable readMode variableNames.mode (lookup variableNames.mode)

/-- The settings that variables give, where what cannot be read has its default. -/
def read (lookup : String → Option String) : Settings :=
  let number := fun number => valueOf (numberReading lookup number)
  let defaults : Settings := {}
  { endpoint := (lookup variableNames.endpoint).getD defaults.endpoint
    key := (lookup variableNames.key).getD defaults.key
    databaseName := (lookup variableNames.databaseName).getD defaults.databaseName
    pageSize := (number .pageSize).getD defaults.pageSize
    retryAttempts := (number .retryAttempts).getD defaults.retryAttempts
    timeoutSeconds := (number .timeoutSeconds).getD defaults.timeoutSeconds
    mode := (valueOf (modeReading lookup)).getD defaults.mode
    maxConnections := (number .maxConnections).getD defaults.maxConnections
    autoscale := number .autoscale }

/-- The violations of variables that cannot be read. -/
def unread (lookup : String → Option String) : List Violation :=
  let number := fun number => violationOf (numberReading lookup number)
  number .pageSize ++ number .retryAttempts ++ number .timeoutSeconds ++
    violationOf (modeReading lookup) ++ number .maxConnections ++ number .autoscale

theorem ofVariables_eq (lookup : String → Option String) :
    ofVariables lookup =
      unlessViolated (unread lookup ++ (read lookup).violations) (read lookup) := rfl

theorem of?_read (lookup : String → Option String) (number : Number) :
    number.of? (read lookup) = (valueOf (numberReading lookup number)).or (number.of? {}) := by
  cases number
  case autoscale => exact Option.or_none.symm
  all_goals cases h : valueOf _ <;> simp [read, Number.of?, h]

/-- The numbers of settings are checked one by one. -/
theorem violations_eq (settings : Settings) :
    settings.violations =
      unlessHolds (Endpoint.isValid settings.endpoint) .endpoint ++
      unlessHolds (settings.key != "") .key ++
      unlessHolds (settings.databaseName != "") .databaseName ++
      Number.all.flatMap fun number =>
        unlessHolds ((number.of? settings).all number.isFit) number.violation := by
  simp only [violations, isAutoscale, Number.all, Number.of?, Option.all_some, Number.violation,
    List.flatMap_cons, List.flatMap_nil, List.append_nil, List.append_assoc]
  rfl

/-! ### Violations of one variable -/

/-- The variables that settings are read from. -/
inductive Variable where
  /-- The address of the store. -/
  | endpoint
  /-- The key of the account. -/
  | key
  /-- The name of the database. -/
  | databaseName
  /-- How the client reaches the store. -/
  | mode
  /-- A number. -/
  | number (which : Number)
  deriving DecidableEq

namespace Variable

/-- All of them. -/
def all : List Variable :=
  [.endpoint, .key, .databaseName, .mode] ++ Number.all.map .number

theorem mem_all (v : Variable) : v ∈ all := by
  cases v
  case number which => cases which <;> decide
  all_goals decide

/-- The name of a variable. -/
def name : Variable → String
  | .endpoint => variableNames.endpoint
  | .key => variableNames.key
  | .databaseName => variableNames.databaseName
  | .mode => variableNames.mode
  | .number which => which.variableName

/-- May a variable have a text, or be unset? A number must be in its range, and what is left out
is fine if its default is. -/
def Accepts : Variable → Option String → Prop
  | .endpoint, text => Endpoint.isValid (text.getD ({} : Settings).endpoint)
  | .key, text => ∃ key, text = some key ∧ key ≠ ""
  | .databaseName, text => text.getD ({} : Settings).databaseName ≠ ""
  | .mode, text => ∀ t ∈ text, ∃ mode, ModeReads t mode
  | .number which, text => ∀ t ∈ text, ∃ n, which.Reads t n ∧ which.Fits n

/-- What is wrong with the text of a variable. -/
inductive Fault : Variable → Option String → Violation → Prop
  /-- The endpoint, or its default, is no address. -/
  | endpoint {text : Option String}
      (invalid : Endpoint.isValid (text.getD ({} : Settings).endpoint) = false) :
      Fault .endpoint text .endpoint
  /-- The key is missing or empty. -/
  | key {text : Option String} (missing : text = none ∨ text = some "") : Fault .key text .key
  /-- The name of the database is empty. -/
  | databaseName {text : Option String} (empty : text = some "") :
      Fault .databaseName text .databaseName
  /-- The text is no mode. -/
  | unknown {text lowered : String} (unread : ∀ mode, ¬ModeReads text mode)
      (small : lowered.toList = (Text.trim text).toList.map Char.toLower) :
      Fault .mode (some text)
        (.unreadable variableNames.mode text (ConnectionMode.unknownMessage lowered))
  /-- The text is no number, or one that is too large to be read. -/
  | unreadable {which : Number} {text : String} {error : Text.NumeralError}
      (unread : ∀ n, ¬which.Reads text n)
      (reason : Text.readNumeral which.word (Text.trim text).toList = .error error) :
      Fault (.number which) (some text) (.unreadable which.variableName text error.message)
  /-- The number is out of its range. -/
  | unfit {which : Number} {text : String} {n : Nat} (reads : which.Reads text n)
      (outside : ¬which.Fits n) : Fault (.number which) (some text) which.violation

/-- The violations that belong to a variable: that it cannot be read, and that what is used in the
settings is out of range. -/
def violations (lookup : String → Option String) : Variable → List Violation
  | .endpoint => unlessHolds (Endpoint.isValid (read lookup).endpoint) .endpoint
  | .key => unlessHolds ((read lookup).key != "") .key
  | .databaseName => unlessHolds ((read lookup).databaseName != "") .databaseName
  | .mode => violationOf (modeReading lookup)
  | .number which =>
    violationOf (numberReading lookup which) ++
      unlessHolds ((which.of? (read lookup)).all which.isFit) which.violation

theorem perm_flatMap_violations (lookup : String → Option String) :
    (unread lookup ++ (read lookup).violations).Perm (all.flatMap (violations lookup)) := by
  rw [violations_eq]
  refine List.perm_iff_count.mpr fun violation => ?_
  simp [unread, all, Number.all, violations]
  omega

/-- Entries report a variable right: there is none if its text is accepted, else just one, which
says what is wrong. -/
def Reported (v : Variable) (text : Option String) (entries : List String) : Prop :=
  v.Accepts text ∧ entries = [] ∨
  ¬v.Accepts text ∧ ∃ violation, v.Fault text violation ∧ entries = [violation.message]

/-- A condition that accepts a variable, and no other text, reports it right. -/
theorem reported_unlessHolds {v : Variable} {text : Option String} {condition : Bool}
    {violation : Violation} (accepts : condition = true ↔ v.Accepts text)
    (fault : ¬v.Accepts text → v.Fault text violation) :
    v.Reported text ((unlessHolds condition violation).map Violation.message) := by
  by_cases held : condition = true
  · exact .inl ⟨accepts.mp held, by rw [unlessHolds, if_pos held, List.map_nil]⟩
  · have refused : ¬v.Accepts text := mt accepts.mpr held
    refine .inr ⟨refused, violation, fault refused, ?_⟩
    rw [unlessHolds, if_neg held, List.map_singleton]

/-- The variable of the key is reported right. -/
theorem reported_key (lookup : String → Option String) :
    key.Reported (lookup key.name) ((key.violations lookup).map Violation.message) := by
  have checking : key.violations lookup =
      unlessHolds ((lookup key.name).getD "" != "") .key := rfl
  rw [checking]
  cases lookup key.name with
  | none => exact reported_unlessHolds (by simp [Accepts]) fun _ => .key (.inl rfl)
  | some text =>
      refine reported_unlessHolds (by simp [Accepts]) fun refused => .key (.inr ?_)
      by_contra set
      exact refused ⟨text, rfl, mt (congrArg some) set⟩

/-- The variable of the name of the database is reported right. -/
theorem reported_databaseName (lookup : String → Option String) :
    databaseName.Reported (lookup databaseName.name)
      ((databaseName.violations lookup).map Violation.message) := by
  have checking : databaseName.violations lookup =
      unlessHolds ((lookup databaseName.name).getD "companion" != "") .databaseName := rfl
  rw [checking]
  refine reported_unlessHolds bne_iff_ne fun refused => .databaseName ?_
  have empty : (lookup databaseName.name).getD "companion" = "" := not_not.mp refused
  cases given : lookup databaseName.name with
  | none => simp [given] at empty
  | some text => simpa [given] using empty

/-- The variable of the mode is reported right. -/
theorem reported_mode (lookup : String → Option String) :
    mode.Reported (lookup mode.name) ((mode.violations lookup).map Violation.message) := by
  have reading : mode.violations lookup =
      violationOf (readVariable readMode mode.name (lookup mode.name)) := rfl
  rw [reading]
  cases lookup mode.name with
  | none => exact .inl ⟨nofun, rfl⟩
  | some text =>
      rw [readVariable]
      cases result : readMode (Text.trim text) with
      | ok value =>
          refine .inl ⟨fun t mem => ?_, rfl⟩
          obtain rfl := Option.some.inj mem
          exact ⟨value, readMode_eq_ok_iff.mp result⟩
      | error reason =>
          have unread : ∀ value, ¬ModeReads text value := fun value reads => by
            rw [readMode_eq_ok_iff.mpr reads] at result
            cases result
          obtain ⟨lowered, small, rfl⟩ := readMode_eq_error result
          refine .inr ⟨fun accepts => ?_, _, .unknown unread small, rfl⟩
          obtain ⟨value, reads⟩ := accepts text rfl
          exact unread value reads

/-- The variable of a number is reported right. -/
theorem reported_number (lookup : String → Option String) (which : Number) :
    (number which).Reported (lookup which.variableName)
      (((number which).violations lookup).map Violation.message) := by
  rw [violations, of?_read, numberReading]
  cases lookup which.variableName with
  | none =>
      exact .inl ⟨nofun, by simp [readVariable, unlessHolds, which.isFit_default]⟩
  | some text =>
      rw [readVariable]
      cases result : readNumber which.word (Text.trim text) with
      | ok n =>
          have reads : which.Reads text n := Number.readNumber_eq_ok_iff.mp result
          have accepts : which.isFit n = true ↔ (number which).Accepts (some text) := by
            rw [Number.isFit_iff]
            refine ⟨fun fits t mem => Option.some.inj mem ▸ ⟨n, reads, fits⟩, fun accepts => ?_⟩
            obtain ⟨m, reads', fits⟩ := accepts text rfl
            exact reads.unique reads' ▸ fits
          simpa using reported_unlessHolds accepts fun refused =>
            .unfit reads (mt Number.isFit_iff.mpr (mt accepts.mp refused))
      | error reason =>
          have unread : ∀ n, ¬which.Reads text n := fun n reads => by
            rw [Number.readNumber_eq_ok_iff.mpr reads] at result
            cases result
          obtain ⟨error, failed, rfl⟩ := Number.readNumber_eq_error result
          refine .inr ⟨fun accepts => ?_, _, .unreadable unread failed, ?_⟩
          · obtain ⟨n, reads, -⟩ := accepts text rfl
            exact unread n reads
          · simp [unlessHolds, which.isFit_default]

/-- **A variable with a fault is reported once, and any other is not reported.** -/
theorem reported (v : Variable) (lookup : String → Option String) :
    v.Reported (lookup v.name) ((v.violations lookup).map Violation.message) := by
  cases v with
  | endpoint =>
      exact reported_unlessHolds Iff.rfl fun refused =>
        .endpoint (Bool.eq_false_of_not_eq_true refused)
  | key => exact reported_key lookup
  | databaseName => exact reported_databaseName lookup
  | mode => exact reported_mode lookup
  | number which => exact reported_number lookup which

/-! ### Entries about a variable -/

/-- What the entries about a variable start with, up to the first colon: its name if it cannot be
read, and the setting if that is out of range. What is wrong with a throughput has no colon. -/
def labels : Variable → List String
  | .endpoint => ["endpoint"]
  | .key => ["key"]
  | .databaseName => ["database_name"]
  | .mode => [variableNames.mode]
  | .number .pageSize => [variableNames.pageSize, "default_page_size"]
  | .number .retryAttempts => [variableNames.retryAttempts, "retry_attempts"]
  | .number .timeoutSeconds => [variableNames.timeoutSeconds, "request_timeout_seconds"]
  | .number .maxConnections => [variableNames.maxConnections, "max_connections_per_endpoint"]
  | .number .autoscale =>
    [variableNames.autoscale,
      "autoscale max throughput must be a multiple of 1000 and at least 1000"]

/-- Is an entry about the variable? -/
def isAbout (v : Variable) (entry : String) : Bool :=
  v.labels.any fun label => label.toList = entry.toList.takeWhile (· != ':')

theorem labels_disjoint {v w : Variable} (other : v ≠ w) : v.labels.Disjoint w.labels := by
  have nodup : (all.flatMap labels).Nodup := by decide +kernel
  have symmetric : Std.Symm (Function.onFun List.Disjoint labels) :=
    ⟨fun _ _ => List.disjoint_symm⟩
  exact (List.nodup_flatMap.mp nodup).2.forall (mem_all v) (mem_all w) other

theorem isAbout_unique {v w : Variable} {entry : String} (hv : v.isAbout entry = true)
    (hw : w.isAbout entry = true) : v = w := by
  obtain ⟨label, mem, same⟩ := List.any_eq_true.mp hv
  obtain ⟨label', mem', same'⟩ := List.any_eq_true.mp hw
  obtain rfl : label = label' :=
    String.toList_inj.mp ((of_decide_eq_true same).trans (of_decide_eq_true same').symm)
  by_contra other
  exact labels_disjoint other mem mem'

theorem takeWhile_ne_colon {label : List Char} (plain : ':' ∉ label) (rest : List Char) :
    (label ++ ':' :: rest).takeWhile (· != ':') = label := by
  have kept : ∀ c ∈ label, (c != ':') = true := fun c mem =>
    bne_iff_ne.mpr fun colon => plain (colon ▸ mem)
  simp [List.takeWhile_append_of_pos kept]

/-- That a variable cannot be read is about it. -/
theorem isAbout_unreadable {v : Variable} {variableName : String} (mem : variableName ∈ v.labels)
    (plain : ':' ∉ variableName.toList) (text reason : String) :
    v.isAbout (Violation.unreadable variableName text reason).message = true := by
  have wording : (Violation.unreadable variableName text reason).message =
      variableName ++ ": cannot parse '" ++ text ++ "': " ++ reason := rfl
  have colon : ": cannot parse '".toList = ':' :: " cannot parse '".toList := rfl
  refine List.any_eq_true.mpr ⟨variableName, mem, decide_eq_true ?_⟩
  rw [wording]
  simp only [String.toList_append, List.append_assoc, colon, List.cons_append]
  exact (takeWhile_ne_colon plain _).symm

/-- What is wrong with a variable is about it. -/
theorem Fault.isAbout {v : Variable} {text : Option String} {violation : Violation}
    (fault : v.Fault text violation) : v.isAbout violation.message = true := by
  cases fault with
  | endpoint => decide +kernel
  | key => decide +kernel
  | databaseName => decide +kernel
  | unknown => exact isAbout_unreadable (by decide) (by decide) _ _
  | @unreadable which =>
      cases which <;> exact isAbout_unreadable (by decide) (by decide) _ _
  | @unfit which => cases which <;> decide +kernel

/-- What is reported of one variable is not about another one. -/
theorem filter_isAbout (v w : Variable) (lookup : String → Option String) :
    ((w.violations lookup).map Violation.message).filter v.isAbout =
      if w = v then (w.violations lookup).map Violation.message else [] := by
  rcases w.reported lookup with ⟨-, nothing⟩ | ⟨-, violation, fault, one⟩
  · simp [nothing]
  · rw [one]
    split
    · rename_i same
      exact List.filter_eq_self.mpr fun entry mem => by
        rw [List.mem_singleton.mp mem, ← same]
        exact fault.isAbout
    · rename_i other
      refine List.filter_eq_nil_iff.mpr fun entry mem about => other ?_
      rw [List.mem_singleton.mp mem] at about
      exact isAbout_unique fault.isAbout about

theorem flatMap_ite_all (v : Variable) (entries : Variable → List String) :
    all.flatMap (fun w => if w = v then entries w else []) = entries v := by
  cases v
  case number which => cases which <;> simp [all, Number.all]
  all_goals simp [all, Number.all]

theorem Reported.of_perm {v : Variable} {text : Option String} {entries entries' : List String}
    (reported : v.Reported text entries) (perm : entries'.Perm entries) :
    v.Reported text entries' := by
  rcases reported with ⟨accepts, rfl⟩ | ⟨refused, violation, fault, rfl⟩
  · exact .inl ⟨accepts, List.perm_nil.mp perm⟩
  · exact .inr ⟨refused, violation, fault, List.perm_singleton.mp perm⟩

end Variable

/-! ### The report -/

theorem pairwise_messages (violations : List Violation) :
    (messages violations).Pairwise (· ≤ ·) := by
  have sorted : (messages violations).Pairwise fun a b => decide (a ≤ b) = true :=
    List.pairwise_mergeSort (fun a b c => by simpa using le_trans)
      (fun a b => by simpa using le_total a b)
      (violations.map Violation.message)
  exact sorted.imp of_decide_eq_true

theorem messages_perm (lookup : String → Option String) :
    (messages (unread lookup ++ (read lookup).violations)).Perm
      (Variable.all.flatMap fun v => (v.violations lookup).map Violation.message) := by
  rw [← List.map_flatMap]
  exact (List.mergeSort_perm _ _).trans
    ((Variable.perm_flatMap_violations lookup).map Violation.message)

/-- **The entries about a variable are what is reported of it**: one if it has a fault, else
none. -/
theorem reported_filter (lookup : String → Option String) (v : Variable) :
    v.Reported (lookup v.name)
      ((messages (unread lookup ++ (read lookup).violations)).filter v.isAbout) := by
  refine (v.reported lookup).of_perm ?_
  have entries := (messages_perm lookup).filter v.isAbout
  rw [List.filter_flatMap] at entries
  simpa only [Variable.filter_isAbout, Variable.flatMap_ite_all] using entries

/-- Every entry is about a variable. -/
theorem exists_isAbout {lookup : String → Option String} {entry : String}
    (mem : entry ∈ messages (unread lookup ++ (read lookup).violations)) :
    ∃ v : Variable, v.isAbout entry = true := by
  obtain ⟨v, -, mem⟩ := List.mem_flatMap.mp ((messages_perm lookup).mem_iff.mp mem)
  rcases v.reported lookup with ⟨-, nothing⟩ | ⟨-, violation, fault, one⟩
  · rw [nothing] at mem
    cases mem
  · rw [one, List.mem_singleton] at mem
    exact ⟨v, mem ▸ fault.isAbout⟩

/-! ### What settings hold -/

/-- Settings hold what variables say: their texts, or what these give, and the defaults for the
variables that are not set. -/
structure Holds (settings : Settings) (lookup : String → Option String) : Prop where
  endpoint : settings.endpoint = (lookup variableNames.endpoint).getD ({} : Settings).endpoint
  key : settings.key = (lookup variableNames.key).getD ({} : Settings).key
  databaseName :
    settings.databaseName = (lookup variableNames.databaseName).getD ({} : Settings).databaseName
  mode : match lookup variableNames.mode with
    | none => settings.mode = ({} : Settings).mode
    | some text => ModeReads text settings.mode
  number : ∀ which : Number, match lookup which.variableName with
    | none => which.of? settings = which.of? {}
    | some text => ∃ n, which.of? settings = some n ∧ which.Reads text n

variable {lookup : String → Option String}

/-- The settings that are read hold what accepted variables say. -/
theorem holds_read (accepts : ∀ v : Variable, v.Accepts (lookup v.name)) :
    (read lookup).Holds lookup where
  endpoint := rfl
  key := rfl
  databaseName := rfl
  mode := by
    have mode : (read lookup).mode = (valueOf (modeReading lookup)).getD .direct := rfl
    have accepted := accepts .mode
    rw [mode, modeReading]
    cases given : lookup variableNames.mode with
    | none => simp [readVariable]
    | some text =>
        obtain ⟨mode, reads⟩ := accepted text given
        simpa [readVariable, readMode_eq_ok_iff.mpr reads] using reads
  number which := by
    have accepted := accepts (.number which)
    rw [of?_read, numberReading]
    cases given : lookup which.variableName with
    | none => simp [readVariable]
    | some text =>
        obtain ⟨n, reads, -⟩ := accepted text given
        refine ⟨n, ?_, reads⟩
        simp [readVariable, Number.readNumber_eq_ok_iff.mpr reads]

theorem violations_of_accepts (accepts : ∀ v : Variable, v.Accepts (lookup v.name)) :
    unread lookup ++ (read lookup).violations = [] := by
  have nothing : Variable.all.flatMap (Variable.violations lookup) = [] := by
    refine List.flatMap_eq_nil_iff.mpr fun v _ => ?_
    rcases v.reported lookup with ⟨-, nothing⟩ | ⟨refused, -⟩
    · exact List.map_eq_nil_iff.mp nothing
    · exact absurd (accepts v) refused
  exact List.perm_nil.mp (nothing ▸ Variable.perm_flatMap_violations lookup)

theorem violations_ne_nil {v : Variable} (refused : ¬v.Accepts (lookup v.name)) :
    unread lookup ++ (read lookup).violations ≠ [] := by
  intro nothing
  have report := reported_filter lookup v
  rw [nothing] at report
  rcases report with ⟨accepts, -⟩ | ⟨-, _, -, one⟩
  · exact refused accepts
  · simp [messages] at one

/-- **Reading settings reports every problem exactly once.** If every variable is accepted, the
settings hold what the variables say and can be used. Otherwise the failure lists entries in order:
exactly one for each variable that is not accepted, with what is wrong with its text, and none for
the others. -/
theorem ofVariables_exact (lookup : String → Option String) :
    (∀ v : Variable, v.Accepts (lookup v.name)) ∧
      (∃ settings, ofVariables lookup = .ok settings ∧ settings.Holds lookup ∧
        settings.check = .ok ()) ∨
    (∃ v : Variable, ¬v.Accepts (lookup v.name)) ∧
      ∃ entries, ofVariables lookup = .error (.configuration entries) ∧
        entries.Pairwise (· ≤ ·) ∧ (∀ entry ∈ entries, ∃ v : Variable, v.isAbout entry) ∧
        ∀ v : Variable, v.Reported (lookup v.name) (entries.filter v.isAbout) := by
  by_cases accepts : ∀ v : Variable, v.Accepts (lookup v.name)
  · have nothing := violations_of_accepts accepts
    refine .inl ⟨accepts, read lookup, ?_, holds_read accepts, ?_⟩
    · rw [ofVariables_eq, nothing]
      rfl
    · rw [check, (List.append_eq_nil_iff.mp nothing).2]
      rfl
  · obtain ⟨v, refused⟩ := not_forall.mp accepts
    refine .inr ⟨⟨v, refused⟩, messages (unread lookup ++ (read lookup).violations), ?_,
      pairwise_messages _, fun entry mem => exists_isAbout mem, reported_filter lookup⟩
    rw [ofVariables_eq, unlessViolated, if_neg]
    exact mt List.isEmpty_iff.mp (violations_ne_nil refused)

end DocumentClient.Settings
