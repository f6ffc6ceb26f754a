import BatchOperator.Proofs.Json.ReadBack
import BatchOperator.Json.Record

/-!
# Records and their documents

A document holds a value for a reader (`Json.Holds`) if it is read as this value, is not `null` and
has no number that is not whole. Texts, truth values, whole numbers, lists and maps of texts have
documents that hold them. A record holds what is read of its fields (`holds_present`): what
`present` writes under a name is found under it, and an optional field comes back if its value does
(`Fields.holdsIfThere_map`), so that absence, an empty map and an empty list are kept apart.
-/

set_option autoImplicit false

namespace BatchOperator

/-! ## Maps of texts -/

namespace OrderedMap

variable {κ α : Type} [LT κ] [DecidableEq κ] [DecidableLT κ] [KeyOrder κ]

theorem put_of_forall_lt {key : κ} {value : α} {entries : List (κ × α)}
    (h : ∀ entry ∈ entries, entry.1 < key) : put key value entries = entries ++ [(key, value)] := by
  induction entries with
  | nil => rfl
  | cons head rest ih =>
    obtain ⟨k, v⟩ := head
    have hlt : k < key := h (k, v) List.mem_cons_self
    have hnot : ¬ key < k := fun hgt => KeyOrder.irrefl k (KeyOrder.trans hlt hgt)
    have hne : k ≠ key := by
      rintro rfl
      exact hnot hlt
    rw [put, if_neg hnot, if_neg hne, ih fun entry hmem => h entry (List.mem_cons_of_mem _ hmem)]
    rfl

theorem entries_foldl_insert {m : OrderedMap κ α} {entries : List (κ × α)}
    (h : (m.entries ++ entries).Pairwise fun a b => a.1 < b.1) :
    (entries.foldl (fun m entry => m.insert entry.1 entry.2) m).entries = m.entries ++ entries := by
  induction entries generalizing m with
  | nil => simp
  | cons entry rest ih =>
    have hbelow : ∀ other ∈ m.entries, other.1 < entry.1 := by
      intro other hmem
      exact (List.pairwise_append.1 h).2.2 other hmem entry List.mem_cons_self
    have hinsert : (m.insert entry.1 entry.2).entries = m.entries ++ [entry] :=
      put_of_forall_lt hbelow
    rw [List.foldl_cons, ih]
    · rw [hinsert, List.append_assoc, List.singleton_append]
    · rw [hinsert, List.append_assoc, List.singleton_append]
      exact h

/-- A map is made again from its entries. -/
theorem ofList_entries (m : OrderedMap κ α) : ofList m.entries = m := by
  have hincreasing : ((empty : OrderedMap κ α).entries ++ m.entries).Pairwise
      fun a b => a.1 < b.1 := m.increasing
  exact ext_entries (entries_foldl_insert hincreasing)

end OrderedMap

namespace Json

/-! ## Lists and maps -/

/-- A list comes back if each of its elements does. -/
theorem list?_map {α β : Type} {read : Json → Option β} {write : α → Json} {back : α → β}
    {l : List α} (h : ∀ a ∈ l, read (write a) = some (back a)) :
    list? read (.arr (l.map write)) = some (l.map back) := by
  induction l with
  | nil => rfl
  | cons a l ih =>
    have ha := h a List.mem_cons_self
    have hl := ih fun b hb => h b (List.mem_cons_of_mem a hb)
    simp only [list?] at hl ⊢
    simp [List.mapM_cons, ha, hl]

theorem stringMap?_ofStringMap (m : StringMap) : stringMap? (ofStringMap m) = some m := by
  have hfields : (m.entries.map fun entry => (entry.1, Json.str entry.2)).mapM textField? =
      some m.entries := by
    induction m.entries with
    | nil => rfl
    | cons entry rest ih => simp [List.mapM_cons, textField?, str?, ih]
  simp only [ofStringMap, stringMap?, hfields, Option.map_some, OrderedMap.ofList_entries]

/-! ## Numbers -/

theorem intIn?_eq_some_iff {low high n : Int} {document : Json} :
    intIn? low high document = some n ↔ document = .int n ∧ low ≤ n ∧ n ≤ high := by
  cases document with
  | int value =>
    simp only [intIn?, Option.ite_none_right_eq_some, Option.some.injEq, Json.int.injEq]
    constructor
    · rintro ⟨h, rfl⟩
      exact ⟨rfl, h⟩
    · rintro ⟨rfl, h⟩
      exact ⟨h, rfl⟩
  | _ => simp [intIn?]

/-- A whole number of 32 bits with a sign. -/
def IsInt32 (n : Int) : Prop := -2147483648 ≤ n ∧ n ≤ 2147483647

/-- A whole number of 64 bits with a sign. -/
def IsInt64 (n : Int) : Prop := -9223372036854775808 ≤ n ∧ n ≤ 9223372036854775807

theorem int32?_eq_some_iff {n : Int} {document : Json} :
    int32? document = some n ↔ document = .int n ∧ IsInt32 n := intIn?_eq_some_iff

theorem int64?_eq_some_iff {n : Int} {document : Json} :
    int64? document = some n ↔ document = .int n ∧ IsInt64 n := intIn?_eq_some_iff

/-! ## Fields -/

/-- The fields of a record that are present. -/
def shown (fields : List (String × Option Json)) : Fields :=
  fields.filterMap fun (name, value) => value.map fun v => (name, v)

@[simp] theorem fields?_present (fields : List (String × Option Json)) :
    (present fields).fields? = some (shown fields) := rfl

@[simp] theorem record?_present (names : List String) (least : Nat)
    (fields : List (String × Option Json)) :
    (present fields).record? names least = some (shown fields) := rfl

@[simp] theorem present_ne_null (fields : List (String × Option Json)) :
    present fields ≠ .null := nofun

@[simp] theorem find?_shown_nil (name : String) : find? name (shown []) = none := rfl

/-- Under a name the last field of that name is found. -/
@[simp] theorem find?_shown_cons (name key : String) (value : Option Json)
    (rest : List (String × Option Json)) : find? name (shown ((key, value) :: rest)) =
      (find? name (shown rest)).or (if key = name then value else none) := by
  cases value with
  | none => simp [shown]
  | some v =>
    -- The rest is searched first, since a later field counts more.
    show find? name ((key, v) :: shown rest) = _
    rw [find?]
    cases find? name (shown rest) <;> rfl

/-- All numbers in a field are whole, if it is there. -/
def FieldIsWhole (value : Option Json) : Prop := ∀ document ∈ value, document.IsWhole

@[simp] theorem fieldIsWhole_some {document : Json} :
    FieldIsWhole (some document) ↔ document.IsWhole :=
  ⟨fun h => h document rfl, fun h other hother => by cases hother; exact h⟩

@[simp] theorem fieldIsWhole_map {α : Type} {write : α → Json} {value : Option α}
    (h : ∀ a ∈ value, (write a).IsWhole) : FieldIsWhole (value.map write) := by
  intro document hdocument
  obtain ⟨a, ha, rfl⟩ := Option.map_eq_some_iff.1 hdocument
  exact h a ha

/-- Numbers are whole in a record if they are in its fields. -/
theorem isWhole_present {fields : List (String × Option Json)}
    (h : ∀ field ∈ fields, FieldIsWhole field.2) : (present fields).IsWhole := by
  apply holdWhole_iff.2
  intro field hmem
  obtain ⟨⟨name, value⟩, hin, heq⟩ := List.mem_filterMap.1 hmem
  obtain ⟨v, hv, rfl⟩ := Option.map_eq_some_iff.1 heq
  exact h (name, value) hin v hv

/-! ## Documents of values -/

/-- What a reader finds in a document. All numbers of the document are whole, and it is not `null`,
which would count as absence. -/
structure Holds {α : Type} (read : Json → Option α) (document : Json) (a : α) : Prop where
  isWhole : document.IsWhole
  ne_null : document ≠ .null
  read_eq : read document = some a

@[simp] theorem holds_str (text : String) : Holds str? (.str text) text := ⟨trivial, nofun, rfl⟩

@[simp] theorem holds_bool (value : Bool) : Holds bool? (.bool value) value :=
  ⟨trivial, nofun, rfl⟩

theorem holds_int32 {n : Int} (h : IsInt32 n) : Holds int32? (.int n) n :=
  ⟨trivial, nofun, int32?_eq_some_iff.2 ⟨rfl, h⟩⟩

theorem holds_int64 {n : Int} (h : IsInt64 n) : Holds int64? (.int n) n :=
  ⟨trivial, nofun, int64?_eq_some_iff.2 ⟨rfl, h⟩⟩

theorem holds_list {α β : Type} {read : Json → Option β} {write : α → Json} {back : α → β}
    {l : List α} (h : ∀ a ∈ l, Holds read (write a) (back a)) :
    Holds (list? read) (.arr (l.map write)) (l.map back) where
  isWhole := areWhole_iff.2 fun element hmem => by
    obtain ⟨a, ha, rfl⟩ := List.mem_map.1 hmem
    exact (h a ha).isWhole
  ne_null := nofun
  read_eq := list?_map fun a ha => (h a ha).read_eq

@[simp] theorem holds_list_self {α : Type} {read : Json → Option α} {write : α → Json}
    {l : List α} (h : ∀ a ∈ l, Holds read (write a) a) :
    Holds (list? read) (.arr (l.map write)) l := by
  have hback : Holds (list? read) (.arr (l.map write)) (l.map id) := holds_list h
  rwa [List.map_id] at hback

@[simp] theorem isWhole_str (text : String) : (str text).IsWhole := trivial

@[simp] theorem isWhole_bool (value : Bool) : (bool value).IsWhole := trivial

@[simp] theorem isWhole_int (value : Int) : (int value).IsWhole := trivial

@[simp] theorem holds_ofStrings (texts : List String) : Holds strings? (ofStrings texts) texts :=
  holds_list_self fun text _ => holds_str text

@[simp] theorem holds_ofStringMap (m : StringMap) : Holds stringMap? (ofStringMap m) m where
  isWhole := holdWhole_iff.2 fun field hmem => by
    obtain ⟨entry, -, rfl⟩ := List.mem_map.1 hmem
    trivial
  ne_null := nofun
  read_eq := stringMap?_ofStringMap m

@[simp] theorem isWhole_ofStrings (texts : List String) : (ofStrings texts).IsWhole :=
  (holds_ofStrings texts).isWhole

@[simp] theorem isWhole_ofStringMap (m : StringMap) : (ofStringMap m).IsWhole :=
  (holds_ofStringMap m).isWhole

/-- A record holds what is read of its fields. -/
theorem holds_present {α : Type} {read : Json → Option α} {fields : List (String × Option Json)}
    {a : α} (hwhole : ∀ field ∈ fields, FieldIsWhole field.2)
    (hread : read (present fields) = some a) : Holds read (present fields) a :=
  ⟨isWhole_present hwhole, present_ne_null fields, hread⟩

namespace Fields

variable {α β : Type} {read : Json → Option α}

/-- What is read of an optional field from the value under its name, if there is one. -/
def readOptional (read : Json → Option α) : Option Json → Option (Option α)
  | none | some .null => some none
  | some value => match read value with
    | some a => some (some a)
    | none => none

@[simp] theorem optional_eq (fields : Fields) (name : String) (read : Json → Option α) :
    fields.optional name read = readOptional read (find? name fields) := rfl

@[simp] theorem orDefault_eq (fields : Fields) (name : String) (read : Json → Option α)
    (default : α) : fields.orDefault name read default =
      (readOptional read (find? name fields)).map fun a => a.getD default := by
  unfold orDefault
  rw [optional_eq]
  cases readOptional read (find? name fields) with
  | none => rfl
  | some a => cases a <;> rfl

@[simp] theorem readOptional_some_str (text : String) :
    readOptional str? (some (.str text)) = some (some text) := rfl

/-- What a reader finds in an optional field, and that all numbers of the field are whole. -/
structure HoldsIfThere (read : Json → Option α) (value : Option Json) (found : Option α) :
    Prop where
  isWhole : FieldIsWhole value
  read_eq : readOptional read value = some found

theorem holdsIfThere_some {document : Json} {a : α} (h : Holds read document a) :
    HoldsIfThere read (some document) (some a) where
  isWhole := fieldIsWhole_some.2 h.isWhole
  read_eq := by
    rw [readOptional, h.read_eq]
    exact h.ne_null

/-- An optional field comes back if its value does; absence stays absence. -/
theorem holdsIfThere_map {write : β → Json} {back : β → α} {value : Option β}
    (h : ∀ b ∈ value, Holds read (write b) (back b)) :
    HoldsIfThere read (value.map write) (value.map back) := by
  cases value with
  | none => exact ⟨nofun, rfl⟩
  | some b => exact holdsIfThere_some (h b rfl)

/-- An optional field comes back unchanged if its value does. -/
theorem holdsIfThere_map_self {write : α → Json} {value : Option α}
    (h : ∀ a ∈ value, Holds read (write a) a) : HoldsIfThere read (value.map write) value := by
  have hback : HoldsIfThere read (value.map write) (value.map id) := holdsIfThere_map h
  rwa [Option.map_id] at hback

@[simp] theorem readOptional_map {write : α → Json} {value : Option α}
    (h : ∀ a ∈ value, Holds read (write a) a) :
    readOptional read (value.map write) = some value :=
  (holdsIfThere_map_self h).read_eq

/-- Only what its reader accepts is read of an optional field. -/
theorem exists_of_readOptional {value : Option Json} {found : Option α}
    (h : readOptional read value = some found) :
    ∀ a ∈ found, ∃ document, read document = some a := by
  intro a ha
  cases ha
  unfold readOptional at h
  split at h
  · cases h
  · cases h
  · rename_i document _
    split at h
    · cases h
      exact ⟨document, ‹_›⟩
    · cases h

theorem exists_of_required {fields : Fields} {name : String} {a : α}
    (h : fields.required name read = some a) : ∃ document, read document = some a := by
  unfold required at h
  split at h
  · exact ⟨_, h⟩
  · cases h

end Fields

end Json

end BatchOperator
