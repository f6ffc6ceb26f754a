import BatchOperator.Error
import BatchOperator.Json.Parser
import BatchOperator.Json.Record

/-!
# Answers of the API server

What an answer means: an object, a list of objects, or a failure. Answers with a status of 400 and
above are failures; a failure says what it is in its body, and where the body does not say it the
status and the body themselves are reported.
-/

set_option autoImplicit false

namespace BatchOperator.Api

/-- An answer of the API server. -/
structure Response where
  /-- The HTTP status code. -/
  status : Nat
  body : String
  deriving DecidableEq, Repr

/-- The names of the HTTP status codes for failures. -/
def failureNames : List (Nat × String) := [
  (400, "Bad Request"), (401, "Unauthorized"), (402, "Payment Required"), (403, "Forbidden"),
  (404, "Not Found"), (405, "Method Not Allowed"), (406, "Not Acceptable"),
  (407, "Proxy Authentication Required"), (408, "Request Timeout"), (409, "Conflict"),
  (410, "Gone"), (411, "Length Required"), (412, "Precondition Failed"),
  (413, "Payload Too Large"), (414, "URI Too Long"), (415, "Unsupported Media Type"),
  (416, "Range Not Satisfiable"), (417, "Expectation Failed"), (418, "I'm a teapot"),
  (421, "Misdirected Request"), (422, "Unprocessable Entity"), (423, "Locked"),
  (424, "Failed Dependency"), (426, "Upgrade Required"), (428, "Precondition Required"),
  (429, "Too Many Requests"), (431, "Request Header Fields Too Large"),
  (451, "Unavailable For Legal Reasons"), (500, "Internal Server Error"),
  (501, "Not Implemented"), (502, "Bad Gateway"), (503, "Service Unavailable"),
  (504, "Gateway Timeout"), (505, "HTTP Version Not Supported"),
  (506, "Variant Also Negotiates"), (507, "Insufficient Storage"), (508, "Loop Detected"),
  (510, "Not Extended"), (511, "Network Authentication Required")]

/-- A status code with its name. -/
def statusText (code : Nat) : String :=
  toString code ++ " " ++ ((failureNames.lookup code).getD "<unknown status code>")

/-- The failure that a document describes. -/
def failureOfJson? (document : Json) : Option ApiFailure := do
  let fields ← document.record? ["status", "message", "reason", "code"] 4
  let status ← fields.required "status" Json.str?
  let message ← fields.strictDefault "message" Json.str? ""
  let reason ← fields.strictDefault "reason" Json.str? ""
  let code ← fields.required "code" (Json.natBelow? 65536)
  return { status, message, reason, code }

namespace Response

/-- Whether the answer is a failure. -/
def isFailure (r : Response) : Bool := 400 ≤ r.status && r.status < 600

/-- The document in the body, if there is one. -/
def document? (r : Response) : Option Json := (Json.parse r.body).toOption

/-- The failure that the answer reports. -/
def failure (r : Response) : ApiFailure :=
  match r.document?.bind failureOfJson? with
  | some failure => failure
  -- The body is shown as it came, because nothing is known of it.
  | none =>
    { status := statusText r.status, message := Text.quoted r.body,
      reason := "Failed to parse error data", code := r.status }

/-- What `read` finds in the body of an answer that is no failure. -/
def read {α : Type} (r : Response) (read : Json → Option α) : Except Error α :=
  if r.isFailure then .error (.api r.failure)
  else match r.document?.bind read with
    | some a => .ok a
    | none => .error (.server .undecodable)

end Response

/-- Where a list goes on and what version it shows. -/
structure ListMetadata where
  /-- A token for the next page of the list, if there is one. -/
  next : Option String := none
  resourceVersion : Option String := none
  deriving DecidableEq

namespace ListMetadata

/-- The metadata of a list that a document holds. -/
def ofJson? (document : Json) : Option ListMetadata := do
  let fields ← document.fields?
  let next ← fields.optional "continue" Json.str?
  let _ ← fields.optional "remainingItemCount" Json.int64?
  let resourceVersion ← fields.optional "resourceVersion" Json.str?
  let _ ← fields.optional "selfLink" Json.str?
  return { next, resourceVersion }

end ListMetadata

/-- A list of objects, or a page of one. -/
structure ObjectList (K : Type) where
  metadata : ListMetadata := {}
  items : List K

namespace ObjectList

/-- The list that a document holds. -/
def ofJson? {K : Type} (read : Json → Option K) (document : Json) : Option (ObjectList K) := do
  let fields ← document.record? ["metadata", "items"] 2
  let metadata ← fields.strictDefault "metadata" ListMetadata.ofJson? {}
  let items ← fields.required "items" (Json.list? read)
  return { metadata, items }

end ObjectList

/-- Whether a document is the report of a success or a failure. -/
def isReport (document : Json) : Bool :=
  match document.field? "kind" with
  | some (.str kind) => kind = "Status"
  | _ => false

/-- A word for the outcome that a report is about. -/
def outcomeOfJson? (document : Json) : Option Unit :=
  match document.case? with
  | some word => if word = "Success" ∨ word = "Failure" then some () else none
  | none => none

/-- What is wrong, in one part of a report. -/
def causeOfJson? (document : Json) : Option Unit := do
  let fields ← document.record? ["reason", "message", "field"] 0
  let _ ← fields.strictDefault "reason" Json.str? ""
  let _ ← fields.strictDefault "message" Json.str? ""
  let _ ← fields.strictDefault "field" Json.str? ""
  return ()

/-- The details of a report. -/
def detailsOfJson? (document : Json) : Option Unit := do
  let fields ← document.record?
    ["name", "group", "kind", "uid", "causes", "retryAfterSeconds"] 0
  for name in ["name", "group", "kind", "uid"] do
    let _ ← fields.strictDefault name Json.str? ""
  let _ ← fields.strictDefault "causes" (Json.list? causeOfJson?) []
  let _ ← fields.strictDefault "retryAfterSeconds" (Json.natBelow? 4294967296) 0
  return ()

/-- The report that a document holds. -/
def reportOfJson? (document : Json) : Option Unit := do
  let fields ← document.record? ["status", "code", "message", "reason", "details"] 0
  let _ ← fields.optional "status" outcomeOfJson?
  let _ ← fields.strictDefault "code" (Json.natBelow? 65536) 0
  let _ ← fields.strictDefault "message" Json.str? ""
  let _ ← fields.strictDefault "reason" Json.str? ""
  let _ ← fields.optional "details" detailsOfJson?
  return ()

/-- Whether a document answers a deletion: it is a report, or the object that is being deleted. -/
def deletionOfJson? {K : Type} (read : Json → Option K) (document : Json) : Option Unit :=
  if isReport document then reportOfJson? document
  else (read document).map fun _ => ()

end BatchOperator.Api
