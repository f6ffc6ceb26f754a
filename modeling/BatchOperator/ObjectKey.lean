import BatchOperator.Error
import BatchOperator.OrderedMap
import BatchOperator.Text.Split

/-!
# Keys of objects

An object is known by its namespace and its name. Keys are written with a slash between the two;
only keys whose parts are neither empty nor contain a slash can be read back.
-/

set_option autoImplicit false

namespace BatchOperator

/-- Namespace and name of an object. -/
structure ObjectKey where
  ns : String
  name : String
  deriving DecidableEq, Repr, Inhabited

namespace ObjectKey

/-- Keys are ordered by namespace and then by name. -/
instance : LT ObjectKey := ⟨fun a b => a.ns < b.ns ∨ (a.ns = b.ns ∧ a.name < b.name)⟩

instance : DecidableLT ObjectKey := fun a b =>
  inferInstanceAs (Decidable (a.ns < b.ns ∨ (a.ns = b.ns ∧ a.name < b.name)))

/-- The order of keys, spelled out. -/
theorem lt_iff {a b : ObjectKey} :
    a < b ↔ a.ns < b.ns ∨ (a.ns = b.ns ∧ a.name < b.name) := Iff.rfl

instance : KeyOrder ObjectKey where
  irrefl a h := by
    rcases lt_iff.1 h with h | ⟨-, h⟩
    · exact KeyOrder.irrefl _ h
    · exact KeyOrder.irrefl _ h
  trans {a b c} hab hbc := by
    rcases lt_iff.1 hab with h | ⟨h, h'⟩ <;> rcases lt_iff.1 hbc with k | ⟨k, k'⟩
    · exact lt_iff.2 (.inl (KeyOrder.trans h k))
    · exact lt_iff.2 (.inl (k ▸ h))
    · exact lt_iff.2 (.inl (h ▸ k))
    · exact lt_iff.2 (.inr ⟨h.trans k, KeyOrder.trans h' k'⟩)
  trichotomy a b := by
    rcases KeyOrder.trichotomy a.ns b.ns with h | h | h
    · exact .inl (lt_iff.2 (.inl h))
    · rcases KeyOrder.trichotomy a.name b.name with h' | h' | h'
      · exact .inl (lt_iff.2 (.inr ⟨h, h'⟩))
      · exact .inr (.inl (by cases a; cases b; simp_all))
      · exact .inr (.inr (lt_iff.2 (.inr ⟨h.symm, h'⟩)))
    · exact .inr (.inr (lt_iff.2 (.inl h)))

/-- The text of a key: namespace, slash, name. -/
def render (key : ObjectKey) : String := key.ns ++ "/" ++ key.name

/-- Whether the text of the key can be read back. -/
def isReadable (key : ObjectKey) : Bool :=
  !key.ns.toList.isEmpty && !key.ns.toList.contains '/' &&
    !key.name.toList.isEmpty && !key.name.toList.contains '/'

/-- The key that a text names. -/
def parse (text : String) : Except Error ObjectKey :=
  match Text.cut '/' text.toList with
  | some (ns, name) =>
    if !ns.isEmpty && !name.isEmpty && !name.contains '/' then
      .ok ⟨String.ofList ns, String.ofList name⟩
    else .error (malformed text)
  | none => .error (malformed text)
where
  /-- What is wrong with a text that names no key. -/
  malformed (text : String) : Error :=
    .invalidKey ("'" ++ text ++ "' is not of the form namespace/name")

end ObjectKey

end BatchOperator
