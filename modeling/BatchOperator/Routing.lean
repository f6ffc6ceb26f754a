import BatchOperator.Cache
import BatchOperator.Child
import BatchOperator.WorkKey

/-!
# Routing

Which work follows from a change. A batch that changed is work; a child that changed is work for the
batch that its annotation names, and once more, for itself, when it ends. A template that changed is
no work, because children keep what they were started from.
-/

set_option autoImplicit false

namespace BatchOperator.Routing

/-- The work that follows from a change of a batch. -/
def batchKeys (change : Change JobBatch) : Except Error (List WorkKey) :=
  if change.isIdle then .ok []
  else (Resource.key change.object).map fun key => [.batch key]

/-- The child whose end a change shows, if it shows one. -/
def ended? : Change Pod → Option Pod
  | .modified old new =>
    if !old.phase.isTerminal && new.phase.isTerminal then some new else none
  | _ => none

/-- The work that follows from a change of a child. Pods without the annotation are nobody's
children. -/
def childKeys (change : Change Pod) : Except Error (List WorkKey) :=
  if change.isIdle then .ok []
  else match change.object.metadata.annotationMap.get? ownerAnnotation with
    | none => .ok []
    | some owner => do
      let batch ← ObjectKey.parse owner
      match ended? change with
      | none => return [.batch batch]
      | some pod => return [.batch batch, .childStatus (← Resource.key pod)]

/-- The work that follows from a change of a template: none, but the template has to have a name. -/
def templateKeys (change : Change JobTemplate) : Except Error (List WorkKey) :=
  (Resource.key change.object).map fun _ => []

/-- The work that can be told; a change of which the work cannot be told is passed over. -/
def told (keys : Except Error (List WorkKey)) : List WorkKey :=
  match keys with
  | .ok keys => keys
  | .error _ => []

end BatchOperator.Routing
