import BatchOperator.ObjectKey

/-!
# Keys of work

The two kinds of work: bringing a batch one step closer to completion, and announcing how a child
job ended. The text of a work key is a tag, a colon and the key of the object.
-/

set_option autoImplicit false

namespace BatchOperator

/-- A unit of work. -/
inductive WorkKey where
  /-- Reconcile a batch. -/
  | batch (key : ObjectKey)
  /-- Announce the end of a child job. -/
  | childStatus (key : ObjectKey)
  deriving DecidableEq, Repr, Inhabited

namespace WorkKey

/-- The key of the object that the work is about. -/
def object : WorkKey → ObjectKey
  | .batch key | .childStatus key => key

/-- The tag of the kind of work. -/
def tag : WorkKey → String
  | .batch _ => "batch"
  | .childStatus _ => "podstatus"

/-- Work on batches comes before work on children; within a kind the objects decide. -/
def before : WorkKey → WorkKey → Bool
  | .batch a, .batch b => decide (a < b)
  | .batch _, .childStatus _ => true
  | .childStatus _, .batch _ => false
  | .childStatus a, .childStatus b => decide (a < b)

/-- The text of a work key. -/
def render (key : WorkKey) : String := key.tag ++ ":" ++ key.object.render

/-- The work key that a text names. The key of the object is looked at before the tag. -/
def parse (text : String) : Except Error WorkKey :=
  match Text.cut ':' text.toList with
  | none => .error (.invalidKey ("'" ++ text ++ "' has no kind tag"))
  | some (tag, rest) =>
    match ObjectKey.parse (String.ofList rest) with
    | .error e => .error e
    | .ok key =>
      let tag := String.ofList tag
      if tag = "batch" then .ok (.batch key)
      else if tag = "podstatus" then .ok (.childStatus key)
      else .error (.invalidKey ("unknown kind tag '" ++ tag ++ "' in '" ++ text ++ "'"))

/-- The distinct keys of a list in order. -/
def sorted (keys : List WorkKey) : List WorkKey :=
  dedup (keys.mergeSort fun a b => !b.before a)
where
  /-- A list without the repetitions of neighbours. -/
  dedup : List WorkKey → List WorkKey
    | a :: b :: rest => if a = b then dedup (b :: rest) else a :: dedup (b :: rest)
    | keys => keys

end WorkKey

end BatchOperator
