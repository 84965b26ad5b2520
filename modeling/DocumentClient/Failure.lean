import DocumentClient.Duration

/-!
# DocumentClient.Failure

**Everything that can go wrong in a call of the client, as causes.** Each has a code for programs
and a message for people. The classes that callers act upon are functions of the cause: a transient
failure may go away by itself, and a store failure is one that the store reported.

* A cause carries what its message needs, and nothing else; the message is made from it when it is
  asked for.
* `Failure.ofStatus` turns the status of an answer into a cause. It is not one to one: several
  statuses become one cause, and policies look at causes only.
* A store may ask to wait before the next call. The hint is kept for rate limiting only; with any
  other status it is dropped.
-/

namespace DocumentClient

/-- Why a call failed. -/
inductive Failure where
  /-- The store holds no such document. -/
  | notFound (detail : String)
  /-- The store holds a document that stands in the way. -/
  | conflict (detail : String)
  /-- The document is larger than the store takes. -/
  | payloadTooLarge (detail : String)
  /-- The store does not know the caller, or forbids the call. -/
  | unauthorized (detail : String)
  /-- The store broke down on the call. -/
  | server (detail : String)
  /-- The store takes no more calls for now, and may say for how long. -/
  | rateLimited (detail : String) (hint : Option Duration)
  /-- No answer came in time; whether the call took effect is unknown. -/
  | timeout (detail : String)
  /-- The resource moved away. -/
  | gone (detail : String)
  /-- The store asks for the same call again. -/
  | retryWith (detail : String)
  /-- The store is not available. -/
  | serviceUnavailable (detail : String)
  /-- The connection broke; whether the call took effect is unknown. -/
  | transport (detail : String)
  /-- The query cannot be compiled. -/
  | compilation (detail : String)
  /-- The settings or the catalog forbid the call, for all of these reasons. -/
  | configuration (violations : List String)
  /-- The operations make no batch. -/
  | invalidBatch (detail : String)
  /-- The input is not valid. -/
  | validation (detail : String)
  /-- The request was cancelled. -/
  | cancelled
  /-- A value is no document of the wanted type. -/
  | serialization (detail : String)
  /-- The client or the store broke a promise. -/
  | internal (detail : String)
  /-- A computed number or duration exceeds the range it is held in. -/
  | overflow
  deriving DecidableEq, Repr, Inhabited

namespace Failure

/-- The code of a failure, for programs. -/
def code : Failure → String
  | .notFound _ => "NOT_FOUND"
  | .conflict _ => "CONFLICT"
  | .payloadTooLarge _ => "PAYLOAD_TOO_LARGE"
  | .unauthorized _ => "UNAUTHORIZED"
  | .server _ => "SERVER_ERROR"
  | .rateLimited _ _ => "RATE_LIMITED"
  | .timeout _ => "TIMEOUT"
  | .gone _ => "GONE"
  | .retryWith _ => "RETRY_WITH"
  | .serviceUnavailable _ => "SERVICE_UNAVAILABLE"
  | .transport _ => "TRANSPORT_ERROR"
  | .compilation _ => "COMPILATION_ERROR"
  | .configuration _ => "CONFIGURATION_ERROR"
  | .invalidBatch _ => "INVALID_BATCH"
  | .validation _ => "VALIDATION_ERROR"
  | .cancelled => "CANCELLED"
  | .serialization _ => "SERIALIZATION_ERROR"
  | .internal _ => "INTERNAL_ERROR"
  | .overflow => "OVERFLOW"

/-- The message of a failure, for people. -/
def message : Failure → String
  | .notFound detail => "Resource not found: " ++ detail
  | .conflict detail => detail
  | .payloadTooLarge detail => "Payload too large: " ++ detail
  | .unauthorized detail => "Access denied: " ++ detail
  | .server detail => "Store server error: " ++ detail
  | .rateLimited detail _ => "Too many requests: " ++ detail
  | .timeout detail => "Request timed out: " ++ detail
  | .gone detail => "Resource gone: " ++ detail
  | .retryWith detail => "Retry with: " ++ detail
  | .serviceUnavailable detail => "Service unavailable: " ++ detail
  | .transport detail => "Transport error: " ++ detail
  | .compilation detail => "Unsupported query expression: " ++ detail
  | .configuration violations => "Invalid configuration: " ++ "; ".intercalate violations
  | .invalidBatch detail => "Invalid batch: " ++ detail
  | .validation detail => detail
  | .cancelled => "Operation cancelled"
  | .serialization detail => "Serialization error: " ++ detail
  | .internal detail => "Internal error: " ++ detail
  | .overflow => "Arithmetic overflow"

/-- How long the store asked to wait, if it did. -/
def hint? : Failure → Option Duration
  | .rateLimited _ hint => hint
  | _ => none

/-- May the failure go away by itself? -/
def isTransient : Failure → Bool
  | .rateLimited _ _ | .timeout _ | .gone _ | .retryWith _ | .serviceUnavailable _
  | .transport _ => true
  | _ => false

/-- Did the store report the failure, rather than the client? -/
def isStoreFailure : Failure → Bool
  | .notFound _ | .conflict _ | .payloadTooLarge _ | .unauthorized _ | .server _ => true
  | failure => failure.isTransient

/-- Is the document missing? -/
def isNotFound : Failure → Bool
  | .notFound _ => true
  | _ => false

/-- The failure that an HTTP status reports. A hint is kept for rate limiting only. -/
def ofStatus (status : Nat) (detail : String) (hint : Option Duration) : Failure :=
  match status with
  | 400 => .validation detail
  | 401 | 403 => .unauthorized detail
  | 404 => .notFound detail
  | 408 | 504 => .timeout detail
  | 409 | 412 => .conflict detail
  | 410 => .gone detail
  | 413 => .payloadTooLarge detail
  | 429 => .rateLimited detail hint
  | 449 => .retryWith detail
  | 500 => .server detail
  | status =>
    if 500 < status then .serviceUnavailable detail
    else .internal ("unexpected status " ++ Text.natText status ++ ": " ++ detail)

end Failure

end DocumentClient
