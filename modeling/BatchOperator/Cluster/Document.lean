import BatchOperator.Json.Record
import BatchOperator.ObjectKey

/-!
# Documents of objects

What the API server itself looks at in the documents of objects, and what it writes into them. It
keeps all else as it is.
-/

set_option autoImplicit false

namespace BatchOperator.Cluster

/-- The metadata of a document. -/
def metadata (document : Json) : Json := (document.field? "metadata").getD (.obj [])

/-- A text in the metadata of a document. -/
def metadataText (name : String) (document : Json) : Option String :=
  ((metadata document).field? name).bind Json.str?

/-- The labels of a document. -/
def labels (document : Json) : StringMap :=
  (((metadata document).field? "labels").bind Json.stringMap?).getD .empty

/-- The phase of a document, as it is written. -/
def phase (document : Json) : Json :=
  (((document.field? "status").getD .null).field? "phase").getD .null

/-- The key of a document. -/
def key (document : Json) : ObjectKey :=
  ⟨(metadataText "namespace" document).getD "", (metadataText "name" document).getD ""⟩

/-- The document with texts set in its metadata. -/
def withMetadata (texts : List (String × String)) (document : Json) : Json :=
  document.withField "metadata"
    (texts.foldl (fun m (name, text) => m.withField name (.str text)) (metadata document))

/-- The document with another phase as its whole status. -/
def inPhase (phase : String) (document : Json) : Json :=
  document.withField "status" (.obj [("phase", .str phase)])

end BatchOperator.Cluster
