/-!
# JSON documents

The document type that objects, requests and notifications are written in. Whole numbers carry
their value; a number written with a fraction or an exponent keeps its literal, because no field of
any object here holds one.
-/

set_option autoImplicit false

namespace BatchOperator

/-- A JSON document. -/
inductive Json where
  | null
  | bool (value : Bool)
  | int (value : Int)
  /-- A number that is not written as a whole number, by its literal. -/
  | decimal (literal : String)
  | str (text : String)
  | arr (elements : List Json)
  | obj (fields : List (String × Json))
  deriving Inhabited, Repr

namespace Json

/-- The fields of an object as they stand in a document. -/
abbrev Fields := List (String × Json)

/-- The value of the named field; of repeated fields the last one counts. -/
def find? (name : String) : Fields → Option Json
  | [] => none
  | (key, value) :: rest => match find? name rest with
    | some later => some later
    | none => if key = name then some value else none

/-- The fields of an object. -/
def fields? : Json → Option Fields
  | .obj fields => some fields
  | _ => none

/-- The elements of an array. -/
def elements? : Json → Option (List Json)
  | .arr elements => some elements
  | _ => none

/-- The text of a string. -/
def str? : Json → Option String
  | .str text => some text
  | _ => none

/-- The value of a truth value. -/
def bool? : Json → Option Bool
  | .bool value => some value
  | _ => none

/-- The value of a whole number. -/
def int? : Json → Option Int
  | .int value => some value
  | _ => none

/-- A whole number between two bounds, ends included. -/
def intIn? (low high : Int) : Json → Option Int
  | .int value => if low ≤ value ∧ value ≤ high then some value else none
  | _ => none

/-- A whole number of 32 bits with a sign. -/
def int32? : Json → Option Int := intIn? (-2147483648) 2147483647

/-- A whole number of 64 bits with a sign. -/
def int64? : Json → Option Int := intIn? (-9223372036854775808) 9223372036854775807

/-- A whole number below `limit`. -/
def natBelow? (limit : Nat) : Json → Option Nat
  | .int (.ofNat value) => if value < limit then some value else none
  | _ => none

/-- The values that `read` accepts in every element of an array. -/
def list? {α : Type} (read : Json → Option α) : Json → Option (List α)
  | .arr elements => elements.mapM read
  | _ => none

/-- The field `name` of a document that is an object. -/
def field? (name : String) : Json → Option Json
  | .obj fields => find? name fields
  | _ => none

/-- The document with a field set to a value. A field that was there keeps its place, and a document
that is no object counts as one without fields. -/
def withField (document : Json) (name : String) (value : Json) : Json :=
  match document with
  | .obj fields =>
    if fields.any fun (key, _) => key = name then
      .obj (fields.map fun (key, old) => if key = name then (key, value) else (key, old))
    else .obj (fields ++ [(name, value)])
  | _ => .obj [(name, value)]

end Json

end BatchOperator
