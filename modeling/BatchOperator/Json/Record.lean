import BatchOperator.Json.Basic
import BatchOperator.OrderedMap

/-!
# Records in JSON

How the fields of a record are read and written. There are three rules for a field that is not
there: an optional field is absent, a defaulted field has its default, a required field makes the
document unreadable. `null` counts as absence for optional fields; where a rule is strict, `null` is
a value like any other.
-/

set_option autoImplicit false

namespace BatchOperator.Json

namespace Fields

variable {α : Type}

/-- An optional field; `null` counts as absence. -/
def optional (fields : Fields) (name : String) (read : Json → Option α) : Option (Option α) :=
  match find? name fields with
  | none | some .null => some none
  | some value => match read value with
    | some a => some (some a)
    | none => none

/-- A field with a default that also stands for `null`. -/
def orDefault (fields : Fields) (name : String) (read : Json → Option α) (default : α) :
    Option α :=
  match optional fields name read with
  | some (some a) => some a
  | some none => some default
  | none => none

/-- A field with a default for its absence only. -/
def strictDefault (fields : Fields) (name : String) (read : Json → Option α) (default : α) :
    Option α :=
  match find? name fields with
  | some value => read value
  | none => some default

/-- A field that has to be there. -/
def required (fields : Fields) (name : String) (read : Json → Option α) : Option α :=
  match find? name fields with
  | some value => read value
  | none => none

/-- A field that may be absent but, if it is there, has to be the given text. -/
def fixed (fields : Fields) (name text : String) : Option Unit :=
  match find? name fields with
  | none => some ()
  | some (.str value) => if value = text then some () else none
  | some _ => none

end Fields

/-- The fields of a record that may also be written as an array of its fields in order, at least
`least` of them. -/
def record? (names : List String) (least : Nat) : Json → Option Fields
  | .obj fields => some fields
  | .arr elements =>
    if least ≤ elements.length ∧ elements.length ≤ names.length then some (names.zip elements)
    else none
  | _ => none

/-- The name of a case without contents: a string, or the only field of an object, with `null`. -/
def case? : Json → Option String
  | .str name => some name
  | .obj [(name, .null)] => some name
  | _ => none

/-- An object of the fields that are present. -/
def present (fields : List (String × Option Json)) : Json :=
  .obj (fields.filterMap fun (name, value) => value.map fun v => (name, v))

/-- A map from text to text. -/
def ofStringMap (m : StringMap) : Json :=
  .obj (m.entries.map fun (key, value) => (key, .str value))

/-- A field that holds a text. -/
def textField? (field : String × Json) : Option (String × String) :=
  (str? field.2).map fun text => (field.1, text)

/-- A map from text to text; the last value of a key counts. -/
def stringMap? : Json → Option StringMap
  | .obj fields => (fields.mapM textField?).map OrderedMap.ofList
  | _ => none

/-- A list of texts. -/
def ofStrings (texts : List String) : Json := .arr (texts.map .str)

/-- A list of texts. -/
def strings? : Json → Option (List String) := list? str?

end BatchOperator.Json
