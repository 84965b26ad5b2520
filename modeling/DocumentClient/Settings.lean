import DocumentClient.Duration
import DocumentClient.Endpoint
import DocumentClient.Failure
import DocumentClient.Json.Value
import DocumentClient.Text.Property
import DocumentClient.Text.Quoted

/-!
# DocumentClient.Settings

**The settings of a connection**: where the store is, who calls it, and the limits of the client.
Settings are checked as a whole, so a caller learns of everything that is wrong at once.

* `Settings.violations` are all the things that are wrong with settings, and `check` reports their
  messages in order of the texts.
* Settings are read from variables one by one. A text that cannot be read is reported, and its
  default takes its place, so that reading goes on and the rest is checked as well
  (`Settings.ofVariables`).
* The JSON form leaves out the key when it is written, and takes one when it is read; diagnostics
  have a text in its place (`redactedKey`).
* The limits of numbers are here; the words that they are read into are wider than the limits, so
  a number may be read and be out of range.
-/

namespace DocumentClient

/-- How the client reaches the store. -/
inductive ConnectionMode where
  /-- Connections to the machines that hold the documents. -/
  | direct
  /-- Connections to one machine that passes calls on. -/
  | gateway
  deriving DecidableEq, Repr, Inhabited

namespace ConnectionMode

/-- The name of a mode. -/
def name : ConnectionMode → String
  | .direct => "direct"
  | .gateway => "gateway"

/-- The name of a mode in diagnostics. -/
def displayName : ConnectionMode → String
  | .direct => "Direct"
  | .gateway => "Gateway"

/-- The mode of a name. -/
def ofName? : String → Option ConnectionMode
  | "direct" => some .direct
  | "gateway" => some .gateway
  | _ => none

/-- Reads a mode; ASCII capitals count as small letters. A text that is none is returned in
small letters. -/
def read (text : String) : Except String ConnectionMode :=
  let lowered := String.ofList (text.toList.map Char.toLower)
  match ofName? lowered with
  | some mode => .ok mode
  | none => .error lowered

/-- Says that a text is no mode. -/
def unknownMessage (lowered : String) : String :=
  "unknown connection mode '" ++ lowered ++ "'"

end ConnectionMode

/-- The settings of a connection. -/
structure Settings where
  /-- The address of the store. -/
  endpoint : String := "https://localhost:8081"
  /-- The key of the account. -/
  key : String := ""
  /-- The name of the database. -/
  databaseName : String := "companion"
  /-- How many documents a page of results holds at most. -/
  pageSize : Nat := 100
  /-- How often a failed call is repeated at most. -/
  retryAttempts : Nat := 3
  /-- How long a call may take, in seconds. -/
  timeoutSeconds : Nat := 30
  /-- How the client reaches the store. -/
  mode : ConnectionMode := .direct
  /-- How many connections to one address are kept at most. -/
  maxConnections : Nat := 50
  /-- The highest throughput of a new database, if it may grow by itself. -/
  autoscale : Option Nat := none
  deriving DecidableEq, Repr, Inhabited

namespace Settings

/-- How long a call may take. -/
def requestTimeout (settings : Settings) : Duration :=
  .ofSeconds settings.timeoutSeconds

/-! ## Checking -/

/-- Something wrong with settings. -/
inductive Violation where
  /-- The endpoint is no address. -/
  | endpoint
  /-- There is no key. -/
  | key
  /-- There is no name of a database. -/
  | databaseName
  /-- The page size is out of range. -/
  | pageSize
  /-- There are too many repetitions. -/
  | retryAttempts
  /-- The timeout is out of range. -/
  | requestTimeout
  /-- The number of connections is out of range. -/
  | maxConnections
  /-- The throughput is no positive number of steps. -/
  | autoscale
  /-- The text of a variable cannot be read, for this reason. -/
  | unreadable (variableName text reason : String)
  deriving DecidableEq, Repr

/-- The largest page size. -/
def maxPageSize : Nat := 1000

/-- The largest number of repetitions. -/
def maxRetryAttempts : Nat := 10

/-- The longest timeout, in seconds. -/
def maxTimeoutSeconds : Nat := 300

/-- The largest number of connections to one address. -/
def connectionLimit : Nat := 1000

/-- Throughput grows in steps of this size. -/
def autoscaleStep : Nat := 1000

/-- The wording of a violation. -/
def Violation.message : Violation → String
  | .endpoint => "endpoint: endpoint must be a valid URL"
  | .key => "key: account key must be set"
  | .databaseName => "database_name: database name must be set"
  | .pageSize =>
    "default_page_size: default page size must be between 1 and " ++ Text.natText maxPageSize
  | .retryAttempts =>
    "retry_attempts: retry attempts must be at most " ++ Text.natText maxRetryAttempts
  | .requestTimeout =>
    "request_timeout_seconds: request timeout must be between 1 and " ++
      Text.natText maxTimeoutSeconds ++ " seconds"
  | .maxConnections =>
    "max_connections_per_endpoint: max connections per endpoint must be between 1 and " ++
      Text.natText connectionLimit
  | .autoscale =>
    "autoscale max throughput must be a multiple of " ++ Text.natText autoscaleStep ++
      " and at least " ++ Text.natText autoscaleStep
  | .unreadable variableName text reason =>
    variableName ++ ": cannot parse '" ++ text ++ "': " ++ reason

/-- Is a throughput a positive number of steps? No throughput is fine. -/
def isAutoscale (throughput : Option Nat) : Bool :=
  throughput.all fun t => autoscaleStep ≤ t && t % autoscaleStep == 0

/-- A violation, unless the condition holds. -/
def unlessHolds (condition : Bool) (violation : Violation) : List Violation :=
  if condition then [] else [violation]

/-- Everything that is wrong with settings. -/
def violations (settings : Settings) : List Violation :=
  unlessHolds (Endpoint.isValid settings.endpoint) .endpoint ++
  unlessHolds (settings.key != "") .key ++
  unlessHolds (settings.databaseName != "") .databaseName ++
  unlessHolds (1 ≤ settings.pageSize && settings.pageSize ≤ maxPageSize) .pageSize ++
  unlessHolds (settings.retryAttempts ≤ maxRetryAttempts) .retryAttempts ++
  unlessHolds (1 ≤ settings.timeoutSeconds && settings.timeoutSeconds ≤ maxTimeoutSeconds)
    .requestTimeout ++
  unlessHolds (1 ≤ settings.maxConnections && settings.maxConnections ≤ connectionLimit)
    .maxConnections ++
  unlessHolds (isAutoscale settings.autoscale) .autoscale

/-- The messages of violations, in order of their texts. -/
def messages (violations : List Violation) : List String :=
  (violations.map Violation.message).mergeSort fun a b => a ≤ b

/-- A value, unless there are violations; then the failure that reports them. -/
def unlessViolated {α : Type} (violations : List Violation) (value : α) : Except Failure α :=
  if violations.isEmpty then .ok value else .error (.configuration (messages violations))

/-- Settings can be used if nothing is wrong with them. -/
def check (settings : Settings) : Except Failure Unit :=
  unlessViolated settings.violations ()

/-! ## Variables -/

/-- The names of the variables that settings are read from. -/
structure VariableNames where
  endpoint : String := "DOCSTORE_ENDPOINT"
  key : String := "DOCSTORE_KEY"
  databaseName : String := "DOCSTORE_DATABASE"
  pageSize : String := "DOCSTORE_PAGE_SIZE"
  retryAttempts : String := "DOCSTORE_RETRY_ATTEMPTS"
  timeoutSeconds : String := "DOCSTORE_REQUEST_TIMEOUT_SECONDS"
  mode : String := "DOCSTORE_CONNECTION_MODE"
  maxConnections : String := "DOCSTORE_MAX_CONNECTIONS"
  autoscale : String := "DOCSTORE_AUTOSCALE_MAX_THROUGHPUT"

/-- The variables that settings are read from. -/
def variableNames : VariableNames := {}

/-- Reads the text of a variable, without the blanks around it. A variable that is not set has
no value; one that cannot be read is a violation. -/
def readVariable {α : Type} (read : String → Except String α) (name : String)
    (text : Option String) : Except Violation (Option α) :=
  match text with
  | none => .ok none
  | some text =>
    match read (Text.trim text) with
    | .ok value => .ok (some value)
    | .error reason => .error (.unreadable name text reason)

/-- Reads a number up to a bound. -/
def readNumber (bound : Nat) (text : String) : Except String Nat :=
  (Text.readNumeral bound text.toList).mapError Text.NumeralError.message

/-- Reads a mode. -/
def readMode (text : String) : Except String ConnectionMode :=
  (ConnectionMode.read text).mapError ConnectionMode.unknownMessage

/-- What a variable was read as, if it was set and could be read. -/
def valueOf {α : Type} (reading : Except Violation (Option α)) : Option α :=
  reading.toOption.join

/-- The violation of a variable that could not be read. -/
def violationOf {α : Type} : Except Violation (Option α) → List Violation
  | .ok _ => []
  | .error violation => [violation]

/-- Reads settings from variables. What is not set, or cannot be read, has its default; the
settings that come out are checked, and what could not be read is reported with the rest. -/
def ofVariables (lookup : String → Option String) : Except Failure Settings :=
  let defaults : Settings := {}
  let names := variableNames
  let number := fun bound name => readVariable (readNumber bound) name (lookup name)
  let pageSize := number Word.max32 names.pageSize
  let retryAttempts := number Word.max32 names.retryAttempts
  let timeoutSeconds := number Word.max64 names.timeoutSeconds
  let mode := readVariable readMode names.mode (lookup names.mode)
  let maxConnections := number Word.max32 names.maxConnections
  let autoscale := number Word.max32 names.autoscale
  let settings : Settings :=
    { endpoint := (lookup names.endpoint).getD defaults.endpoint
      key := (lookup names.key).getD defaults.key
      databaseName := (lookup names.databaseName).getD defaults.databaseName
      pageSize := (valueOf pageSize).getD defaults.pageSize
      retryAttempts := (valueOf retryAttempts).getD defaults.retryAttempts
      timeoutSeconds := (valueOf timeoutSeconds).getD defaults.timeoutSeconds
      mode := (valueOf mode).getD defaults.mode
      maxConnections := (valueOf maxConnections).getD defaults.maxConnections
      autoscale := valueOf autoscale }
  let unread := violationOf pageSize ++ violationOf retryAttempts ++
    violationOf timeoutSeconds ++ violationOf mode ++ violationOf maxConnections ++
    violationOf autoscale
  unlessViolated (unread ++ settings.violations) settings

/-! ## JSON form -/

/-- The JSON form of settings, which leaves out the key. -/
def toJson (settings : Settings) : Json :=
  Json.object
    [("endpoint", .str settings.endpoint),
     ("database_name", .str settings.databaseName),
     ("default_page_size", .int settings.pageSize),
     ("retry_attempts", .int settings.retryAttempts),
     ("request_timeout_seconds", .int settings.timeoutSeconds),
     ("connection_mode", .str settings.mode.name),
     ("max_connections_per_endpoint", .int settings.maxConnections),
     ("autoscale_max_throughput",
       match settings.autoscale with
       | some throughput => .int throughput
       | none => .null)]

/-- Reads a mode: its name, alone or as the only field of an object without content. -/
def modeOfJson? : Option Json → Option ConnectionMode
  | some (.str name) => ConnectionMode.ofName? name
  | some (.obj [(name, .null)]) => ConnectionMode.ofName? name
  | _ => none

/-- Reads a key, which may be missing. -/
def keyOfJson? : Option Json → Option String
  | none => some ""
  | some (.str key) => some key
  | _ => none

/-- Reads settings. Everything is needed but the key and the throughput, and numbers are words
of 32 bits, of which the timeout alone may have 64. -/
def ofJson? (value : Json) : Option Settings := do
  let names := ["endpoint", "key", "database_name", "default_page_size", "retry_attempts",
    "request_timeout_seconds", "connection_mode", "max_connections_per_endpoint",
    "autoscale_max_throughput"]
  match ← value.components? names with
  | [endpoint, key, databaseName, pageSize, retryAttempts, timeoutSeconds, mode,
      maxConnections, autoscale] =>
    return {
      endpoint := ← Json.text? endpoint
      key := ← keyOfJson? key
      databaseName := ← Json.text? databaseName
      pageSize := ← Json.natural? Word.max32 pageSize
      retryAttempts := ← Json.natural? Word.max32 retryAttempts
      timeoutSeconds := ← Json.natural? Word.max64 timeoutSeconds
      mode := ← modeOfJson? mode
      maxConnections := ← Json.natural? Word.max32 maxConnections
      autoscale := ← Json.optional? (Json.natural? Word.max32) autoscale }
  | _ => none

/-! ## Diagnostics -/

/-- What diagnostics show in place of the key. -/
def redactedKey : String := "[REDACTED]"

/-- The settings as diagnostics show them, without the key. -/
def display (settings : Settings) : String :=
  let fields :=
    [("endpoint", Text.quotedForDisplay settings.endpoint),
     ("key", Text.quotedForDisplay redactedKey),
     ("database_name", Text.quotedForDisplay settings.databaseName),
     ("default_page_size", Text.natText settings.pageSize),
     ("retry_attempts", Text.natText settings.retryAttempts),
     ("request_timeout_seconds", Text.natText settings.timeoutSeconds),
     ("connection_mode", settings.mode.displayName),
     ("max_connections_per_endpoint", Text.natText settings.maxConnections),
     ("autoscale_max_throughput",
       match settings.autoscale with
       | some throughput => "Some(" ++ Text.natText throughput ++ ")"
       | none => "None")]
  let shown := fields.map fun (name, value) => name ++ ": " ++ value
  "ConnectionConfig \x7b " ++ ", ".intercalate shown ++ " \x7d"

end Settings

end DocumentClient
