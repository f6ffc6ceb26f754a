import BatchOperator.Object.JobBatch

/-!
# Selectors

What a label selector means. A selector is a list of clauses, all of which the labels of an object
have to satisfy; a selector without clauses selects nothing at all, so that a batch that was given
no selector runs no template rather than every template of its namespace. `Selector.read` turns
down clauses without a meaning, so that a slip of the pen never widens or narrows a selection.
-/

set_option autoImplicit false

namespace BatchOperator

/-- A finite set of texts. -/
abbrev StringSet := OrderedMap String Unit

/-- The set of the texts in a list. -/
def StringSet.ofTexts (texts : List String) : StringSet :=
  OrderedMap.ofList (texts.map fun text => (text, ()))

/-- What a clause asks of the value of its label. -/
inductive LabelTest where
  /-- The label is there, with one of these values. -/
  | among (values : StringSet)
  /-- The label is not there, or has none of these values. -/
  | notAmong (values : StringSet)
  /-- The label is there. -/
  | present
  /-- The label is not there. -/
  | absent
  deriving DecidableEq

namespace LabelTest

/-- Whether the value of a label, if it is there, passes the test. -/
def passes : LabelTest → Option String → Bool
  | .among values, some value => values.contains value
  | .among _, none => false
  | .notAmong values, some value => !values.contains value
  | .notAmong _, none => true
  | .present, value => value.isSome
  | .absent, value => value.isNone

end LabelTest

/-- A clause of a selector. -/
structure Clause where
  key : String
  test : LabelTest
  deriving DecidableEq

namespace Clause

/-- The clause that asks for one value of a label. -/
def equals (key value : String) : Clause := ⟨key, .among (.ofTexts [value])⟩

/-- Whether labels satisfy the clause. -/
def holds (c : Clause) (labels : StringMap) : Bool := c.test.passes (labels.get? c.key)

/-- Texts with commas between them. -/
def commaSeparated (texts : List String) : String := String.intercalate "," texts

/-- The text of a clause in a query. A single value is asked for with an equals sign. -/
def render (c : Clause) : String :=
  match c.test with
  | .among values =>
    match values.keys with
    | [value] => c.key ++ "=" ++ value
    | several => c.key ++ " in (" ++ commaSeparated several ++ ")"
  | .notAmong values => c.key ++ " notin (" ++ commaSeparated values.keys ++ ")"
  | .present => c.key
  | .absent => "!" ++ c.key

end Clause

/-- Why a label selector has no meaning. -/
inductive SelectorFault where
  /-- An operator that is not known. -/
  | unknownOperator (operator key : String)
  /-- An operator that compares with values, without values. -/
  | noValues (operator key : String)
  /-- An operator that compares with nothing, with values. -/
  | needlessValues (operator key : String)
  deriving DecidableEq, Repr

namespace SelectorFault

/-- The text of a fault. -/
def message : SelectorFault → String
  | .unknownOperator operator key =>
    "invalid selector: unknown operator '" ++ operator ++ "' for key '" ++ key ++ "'"
  | .noValues operator key =>
    "invalid selector: operator '" ++ operator ++ "' for key '" ++ key ++ "' requires values"
  | .needlessValues operator key =>
    "invalid selector: operator '" ++ operator ++ "' for key '" ++ key ++ "' takes no values"

/-- A fault as a failure. -/
def error (fault : SelectorFault) : Error := .invalidSpec fault.message

end SelectorFault

namespace LabelExpression

/-- The clause that a written expression stands for. Repeated values count once, and a list without
values is as good as none. -/
def clause (e : LabelExpression) : Except SelectorFault Clause :=
  let values := StringSet.ofTexts (e.values.getD [])
  let comparing (test : LabelTest) : Except SelectorFault Clause :=
    if values.isEmpty then .error (.noValues e.operator e.key) else .ok ⟨e.key, test⟩
  let bare (test : LabelTest) : Except SelectorFault Clause :=
    if values.isEmpty then .ok ⟨e.key, test⟩ else .error (.needlessValues e.operator e.key)
  if e.operator = "In" then comparing (.among values)
  else if e.operator = "NotIn" then comparing (.notAmong values)
  else if e.operator = "Exists" then bare .present
  else if e.operator = "DoesNotExist" then bare .absent
  else .error (.unknownOperator e.operator e.key)

end LabelExpression

/-- A selector of objects by their labels. -/
structure Selector where
  clauses : List Clause
  deriving DecidableEq

namespace Selector

/-- The selector that selects nothing. -/
def nothing : Selector := ⟨[]⟩

/-- Whether the selector selects nothing because it has no clauses. -/
def isNothing (s : Selector) : Bool := s.clauses.isEmpty

/-- Whether an object with these labels is selected. -/
def selects (s : Selector) (labels : StringMap) : Bool :=
  !s.isNothing && s.clauses.all fun c => c.holds labels

/-- The selector that asks for all of the given labels. -/
def ofLabels (labels : List (String × String)) : Selector :=
  ⟨labels.map fun (key, value) => .equals key value⟩

/-- The meaning of a written label selector: its labels in the order of their keys, then its
expressions in their own order. The first expression without a meaning is the one that is
reported. -/
def read (written : Option LabelSelector) : Except SelectorFault Selector :=
  match written with
  | none => .ok nothing
  | some s => do
    let labels := (s.matchLabels.getD .empty).entries
    let expressions ← (s.matchExpressions.getD []).mapM LabelExpression.clause
    return ⟨(labels.map fun (key, value) => .equals key value) ++ expressions⟩

/-- The text of a selector in a query; there is none for a selector that selects nothing. -/
def query? (s : Selector) : Option String :=
  if s.isNothing then none else some (Clause.commaSeparated (s.clauses.map Clause.render))

end Selector

end BatchOperator
