import BatchOperator.Api.Collection
import BatchOperator.Text.Split

/-!
# What a path is about

The collection, the namespace and the object that the path of a request names. It is the reverse of
`Collection.path`, which writes the front part of such a path.
-/

set_option autoImplicit false

namespace BatchOperator.Api

/-- What a request is about. -/
structure Target where
  collection : Collection
  ns : Option String := none
  name : Option String := none

namespace Target

/-- What the segments of a path are about, within a collection. -/
def ofSegments? (collection : Collection) (segments : List (List Char)) : Option Target := do
  let rest ← (Text.pieces '/' collection.root.toList).isPrefixOf? segments
  match rest.map String.ofList with
  | [plural] => if plural = collection.plural then some { collection } else none
  | "namespaces" :: ns :: plural :: rest =>
    if plural ≠ collection.plural then none
    else match rest with
      | [] => some { collection, ns := some ns }
      | [name] | [name, "status"] => some { collection, ns := some ns, name := some name }
      | _ => none
  | _ => none

/-- What a path is about. -/
def ofPath? (path : String) : Option Target :=
  Collection.all.findSome? fun c => ofSegments? c (Text.pieces '/' path.toList)

end Target

end BatchOperator.Api
