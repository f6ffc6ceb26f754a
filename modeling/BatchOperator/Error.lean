import BatchOperator.Text.Quoted

/-!
# Failures

What can go wrong, each failure with the text that it is reported by, and what the work queue and
the reconciler need to know about it: whether a retry can help, and whether the API server said that
an object is missing, that it exists already, or that it was changed by someone else.
-/

set_option autoImplicit false

namespace BatchOperator

/-- A refusal by the API server. -/
structure ApiFailure where
  /-- The verdict, usually `Failure`. -/
  status : String
  message : String
  /-- A word for the cause, meant for programs. -/
  reason : String
  /-- The HTTP status code. -/
  code : Nat
  deriving DecidableEq, Repr

namespace ApiFailure

/-- The text of a refusal: message and reason, then all of its fields. -/
def render (f : ApiFailure) : String :=
  "ApiError: " ++ f.message ++ ": " ++ f.reason ++ " (ErrorResponse \x7b status: " ++
    Text.quoted f.status ++ ", message: " ++ Text.quoted f.message ++ ", reason: " ++
    Text.quoted f.reason ++ ", code: " ++ toString f.code ++ " \x7d)"

end ApiFailure

/-- What went wrong at the API server's end of a request. -/
inductive ServerFault where
  /-- The server refused the request. -/
  | refused (failure : ApiFailure)
  /-- A stream of documents had no end of line. -/
  | noLineEnd
  /-- The answer was accepted but is no object of the expected kind. -/
  | undecodable
  deriving DecidableEq, Repr

/-- A failure of any part of the operator. -/
inductive Error where
  | server (fault : ServerFault)
  /-- The configuration cannot be used. -/
  | config (text : String)
  /-- A text is no work key. -/
  | invalidKey (text : String)
  /-- An object lacks what every object has. -/
  | invalidObject (text : String)
  /-- The specification of an object has no meaning. -/
  | invalidSpec (text : String)
  /-- Something did not happen in time. -/
  | timeout (text : String)
  /-- A value could not be written as JSON. -/
  | json (text : String)
  | internal (text : String)
  deriving DecidableEq, Repr

namespace Error

/-- A refusal by the API server as a failure. -/
def api (failure : ApiFailure) : Error := .server (.refused failure)

/-- The text that a failure is reported by. -/
def message : Error → String
  | .server (.refused failure) => "Kubernetes error: " ++ failure.render
  | .server .noLineEnd => "Kubernetes error: Error finding newline character"
  | .server .undecodable => "Kubernetes error: Error deserializing response"
  | .config text => "Configuration error: " ++ text
  | .invalidKey text => "Invalid work key: " ++ text
  | .invalidObject text => "Invalid object: " ++ text
  | .invalidSpec text => "Invalid spec: " ++ text
  | .timeout text => "Timed out: " ++ text
  | .json text => "JSON error: " ++ text
  | .internal text => "Internal error: " ++ text

/-- Whether a retry can succeed. Malformed input stays malformed; all else may pass. -/
def isRetryable : Error → Bool
  | .invalidKey _ | .invalidObject _ | .invalidSpec _ | .config _ => false
  | _ => true

/-- The refusal behind a failure, if the API server made one. -/
def refusal? : Error → Option ApiFailure
  | .server (.refused failure) => some failure
  | _ => none

/-- Whether the API server does not know the object. -/
def isNotFound (e : Error) : Bool := e.refusal?.any fun f => f.code == 404

/-- Whether the API server has an object of that name already. -/
def isAlreadyExists (e : Error) : Bool := e.refusal?.any fun f => f.reason == "AlreadyExists"

/-- Whether the object was changed since it was read. -/
def isConflict (e : Error) : Bool :=
  (e.refusal?.any fun f => f.code == 409) && !e.isAlreadyExists

end Error

end BatchOperator
