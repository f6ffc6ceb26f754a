import BatchOperator.Api.Client
import BatchOperator.Cache

/-!
# Watching the API server

A watch is a stream of lines that an answer goes on with: each line is a document that tells of one
change. `Told.ofLine` is the meaning of a line. A line that stops inside its document is the last
one of a stream that was cut off and means nothing; any other line that cannot be read is
trouble.
-/

set_option autoImplicit false

namespace BatchOperator.Api

/-- What a watch has next. -/
inductive Delivery where
  | line (text : String)
  /-- The watch has ended. -/
  | ended
  /-- There is nothing yet. -/
  | nothing
  deriving DecidableEq, Repr

/-- A server that answers requests and that can be watched. -/
structure Server (σ : Type) where
  send : Transport σ
  /-- Opens a watch, which is known by a number from then on. -/
  watch : Request → σ → Except Error Nat × σ
  /-- What the watch of a number has next. -/
  receive : Nat → σ → Delivery × σ

/-- What a line of a watch tells. -/
inductive Told (K : Type) where
  /-- An object has changed, which now has the given version. -/
  | news (event : WatchEvent K) (version : String)
  /-- Nothing has changed up to the given version. -/
  | bookmark (version : String)
  | nothing
  /-- Something is wrong with the watch. -/
  | trouble
  /-- The watch cannot go on from where it is, and everything has to be listed anew. -/
  | lost

namespace Told

/-- The version of a document that tells that nothing has changed. -/
def bookmarkOfJson? (document : Json) : Option String := do
  let fields ← document.fields?
  let _ ← fields.required "apiVersion" Json.str?
  let _ ← fields.required "kind" Json.str?
  let metadata ← fields.required "metadata" some
  let marks ← metadata.record? ["resourceVersion", "annotations"] 1
  let _ ← marks.strictDefault "annotations" Json.stringMap? .empty
  marks.required "resourceVersion" Json.str?

/-- The code by which a server says that it no longer knows a version. -/
def goneCode : Nat := 410

variable {K : Type} [Resource K]

/-- What a changed object tells. An object without a version leaves no place to go on from. -/
def ofObject (event : K → WatchEvent K) (object : K) : Told K :=
  match (Resource.metadata object).resourceVersion with
  | some version => if version.isEmpty then .lost else .news (event object) version
  | none => .lost

/-- What a failure that a watch reports tells. -/
def ofFailure (failure : ApiFailure) : Told K := if failure.code = goneCode then .lost else .trouble

/-- What a document of a watch tells, if it has a meaning. -/
def ofJson? (read : Json → Option K) (document : Json) : Option (Told K) := do
  let fields ← document.record? ["type", "object"] 2
  let type ← fields.required "type" Json.str?
  let object ← fields.required "object" some
  match type with
  | "ADDED" | "MODIFIED" => (read object).map (ofObject .applied)
  | "DELETED" => (read object).map (ofObject .deleted)
  | "BOOKMARK" => (bookmarkOfJson? object).map .bookmark
  | "ERROR" => (failureOfJson? object).map ofFailure
  | _ => none

/-- What a line of a watch tells. -/
def ofLine (read : Json → Option K) (line : String) : Told K :=
  match Json.parse line with
  | .ok document => (ofJson? read document).getD .trouble
  | .error .incomplete => .nothing
  | .error .malformed => .trouble

end Told

end BatchOperator.Api
