import BatchOperator.Proofs.Json.Token

/-!
# Documents and their texts

`Spells` says which texts spell a document whose numbers are all whole: the tokens in their order,
with any blanks between them. Both layouts spell their documents (`spells_compactChars`,
`spells_indentedChars`), and a text that spells a document is read as this document
(`parseChars_of_spells`). So a document comes back from either layout (`parse_compact`,
`parse_indented`), and on one line it holds no control character
(`space_le_of_mem_compactChars`).
-/

set_option autoImplicit false

namespace BatchOperator.Json

/-! ## Documents with whole numbers -/

mutual

/-- All numbers in a document are whole. -/
def IsWhole : Json → Prop
  | .decimal _ => False
  | .arr elements => AreWhole elements
  | .obj fields => HoldWhole fields
  | _ => True

/-- All numbers in some elements are whole. -/
def AreWhole : List Json → Prop
  | [] => True
  | element :: rest => element.IsWhole ∧ AreWhole rest

/-- All numbers in some fields are whole. -/
def HoldWhole : List (String × Json) → Prop
  | [] => True
  | (_, value) :: rest => value.IsWhole ∧ HoldWhole rest

end

theorem areWhole_iff {elements : List Json} :
    AreWhole elements ↔ ∀ element ∈ elements, element.IsWhole := by
  induction elements with
  | nil => simp [AreWhole]
  | cons element rest ih => simp [AreWhole, ih]

theorem holdWhole_iff {fields : List (String × Json)} :
    HoldWhole fields ↔ ∀ field ∈ fields, field.2.IsWhole := by
  induction fields with
  | nil => simp [HoldWhole]
  | cons field rest ih =>
    obtain ⟨name, value⟩ := field
    simp [HoldWhole, ih]

/-! ## Texts of documents -/

/-- A text of blanks that may stand between tokens. -/
def IsGap (text : List Char) : Prop := ∀ c ∈ text, isGap c = true

theorem isGap_nil : IsGap [] := by
  intro c hc
  cases hc

mutual

/-- A text spells a document. -/
inductive Spells : Json → List Char → Prop where
  | null : Spells .null ['n', 'u', 'l', 'l']
  | yes : Spells (.bool true) ['t', 'r', 'u', 'e']
  | no : Spells (.bool false) ['f', 'a', 'l', 's', 'e']
  | int (value : Int) : Spells (.int value) (toString value).toList
  | str (text : String) : Spells (.str text) (stringChars text)
  | noElements : Spells (.arr []) ['[', ']']
  | arr {elements : List Json} {inside : List Char} (h : SpellsElements elements inside) :
      Spells (.arr elements) ('[' :: inside ++ [']'])
  | noFields : Spells (.obj []) ['\x7b', '\x7d']
  | obj {fields : List (String × Json)} {inside : List Char} (h : SpellsFields fields inside) :
      Spells (.obj fields) ('\x7b' :: inside ++ ['\x7d'])

/-- A text spells elements with commas between them. -/
inductive SpellsElements : List Json → List Char → Prop where
  | last {element : Json} {before text behind : List Char} (hbefore : IsGap before)
      (h : Spells element text) (hbehind : IsGap behind) :
      SpellsElements [element] (before ++ (text ++ behind))
  | more {element next : Json} {rest : List Json} {before text others : List Char}
      (hbefore : IsGap before) (h : Spells element text)
      (hothers : SpellsElements (next :: rest) others) :
      SpellsElements (element :: next :: rest) (before ++ (text ++ ',' :: others))

/-- A text spells fields with commas between them. -/
inductive SpellsFields : List (String × Json) → List Char → Prop where
  | last {key : String} {value : Json} {before colon text behind : List Char}
      (hbefore : IsGap before) (hcolon : IsGap colon) (h : Spells value text)
      (hbehind : IsGap behind) :
      SpellsFields [(key, value)]
        (before ++ (stringChars key ++ ':' :: (colon ++ (text ++ behind))))
  | more {key : String} {value : Json} {next : String × Json} {rest : List (String × Json)}
      {before colon text others : List Char} (hbefore : IsGap before) (hcolon : IsGap colon)
      (h : Spells value text) (hothers : SpellsFields (next :: rest) others) :
      SpellsFields ((key, value) :: next :: rest)
        (before ++ (stringChars key ++ ':' :: (colon ++ (text ++ ',' :: others))))

end

/-! ## Writing -/

mutual

/-- The line of a document spells it. -/
theorem spells_compactChars : ∀ {document : Json}, document.IsWhole →
    Spells document (compactChars document)
  | .null, _ => .null
  | .bool true, _ => .yes
  | .bool false, _ => .no
  | .int value, _ => .int value
  | .str text, _ => .str text
  | .decimal _, h => h.elim
  | .arr [], _ => .noElements
  | .arr (_ :: _), h => .arr (spellsElements_compactElements (List.cons_ne_nil _ _) h)
  | .obj [], _ => .noFields
  | .obj (_ :: _), h => .obj (spellsFields_compactFields (List.cons_ne_nil _ _) h)

theorem spellsElements_compactElements : ∀ {elements : List Json}, elements ≠ [] →
    AreWhole elements → SpellsElements elements (compactElements elements)
  | [], hne, _ => absurd rfl hne
  | [element], _, h => by
    have hlast : SpellsElements [element] _ :=
      .last isGap_nil (spells_compactChars h.1) isGap_nil
    simpa [compactElements] using hlast
  | element :: next :: rest, _, h =>
    .more isGap_nil (spells_compactChars h.1)
      (spellsElements_compactElements (List.cons_ne_nil _ _) h.2)

theorem spellsFields_compactFields : ∀ {fields : List (String × Json)}, fields ≠ [] →
    HoldWhole fields → SpellsFields fields (compactFields fields)
  | [], hne, _ => absurd rfl hne
  | [(key, value)], _, h => by
    have hlast : SpellsFields [(key, value)] _ :=
      .last isGap_nil isGap_nil (spells_compactChars h.1) isGap_nil
    simpa [compactFields] using hlast
  | (key, value) :: next :: rest, _, h => by
    have hmore : SpellsFields ((key, value) :: next :: rest) _ :=
      .more isGap_nil isGap_nil (spells_compactChars h.1)
        (spellsFields_compactFields (List.cons_ne_nil _ _) h.2)
    simpa [compactFields] using hmore

end

theorem isGap_newLine (depth : Nat) : IsGap (newLine depth) := by
  intro c hc
  rcases List.mem_cons.1 hc with rfl | hc
  · rfl
  · rw [List.eq_of_mem_replicate hc]
    rfl

theorem isGap_space : IsGap [' '] := by
  intro c hc
  rw [List.mem_singleton.1 hc]
  rfl

mutual

/-- The lines of a document spell it. -/
theorem spells_indentedChars (depth : Nat) : ∀ {document : Json}, document.IsWhole →
    Spells document (indentedChars depth document)
  | .null, _ => .null
  | .bool true, _ => .yes
  | .bool false, _ => .no
  | .int value, _ => .int value
  | .str text, _ => .str text
  | .decimal _, h => h.elim
  | .arr [], _ => .noElements
  | .arr (_ :: _), h =>
    .arr (spellsElements_indentedElements depth (List.cons_ne_nil _ _) h)
  | .obj [], _ => .noFields
  | .obj (_ :: _), h =>
    .obj (spellsFields_indentedFields depth (List.cons_ne_nil _ _) h)

/-- The closing bracket is on a line of its own. -/
theorem spellsElements_indentedElements (depth : Nat) : ∀ {elements : List Json}, elements ≠ [] →
    AreWhole elements →
      SpellsElements elements (indentedElements depth elements ++ newLine depth)
  | [], hne, _ => absurd rfl hne
  | [element], _, h => by
    have hlast : SpellsElements [element] _ :=
      .last (isGap_newLine (depth + 1)) (spells_indentedChars (depth + 1) h.1)
        (isGap_newLine depth)
    simpa [indentedElements] using hlast
  | element :: next :: rest, _, h => by
    have hothers := spellsElements_indentedElements depth (List.cons_ne_nil _ _) h.2
    have hmore : SpellsElements (element :: next :: rest) _ :=
      .more (isGap_newLine (depth + 1)) (spells_indentedChars (depth + 1) h.1) hothers
    simpa [indentedElements] using hmore

theorem spellsFields_indentedFields (depth : Nat) : ∀ {fields : List (String × Json)},
    fields ≠ [] → HoldWhole fields →
      SpellsFields fields (indentedFields depth fields ++ newLine depth)
  | [], hne, _ => absurd rfl hne
  | [(key, value)], _, h => by
    have hlast : SpellsFields [(key, value)] _ :=
      .last (isGap_newLine (depth + 1)) isGap_space (spells_indentedChars (depth + 1) h.1)
        (isGap_newLine depth)
    simpa [indentedFields] using hlast
  | (key, value) :: next :: rest, _, h => by
    have hothers := spellsFields_indentedFields depth (List.cons_ne_nil _ _) h.2
    have hmore : SpellsFields ((key, value) :: next :: rest) _ :=
      .more (isGap_newLine (depth + 1)) isGap_space (spells_indentedChars (depth + 1) h.1) hothers
    simpa [indentedFields] using hmore

end

/-! ## Reading -/

theorem skipGap_append {gap : List Char} (h : IsGap gap) (text : List Char) :
    skipGap (gap ++ text) = skipGap text := by
  induction gap with
  | nil => rfl
  | cons c gap ih =>
    have hc : isGap c = true := h c List.mem_cons_self
    rw [List.cons_append, skipGap, if_pos hc]
    exact ih fun d hd => h d (List.mem_cons_of_mem c hd)

theorem skipGap_of_isGap_eq_false {c : Char} (h : isGap c = false) (rest : List Char) :
    skipGap (c :: rest) = c :: rest := by
  rw [skipGap, h]
  rfl

theorem readValue_append {gap : List Char} (h : IsGap gap) (fuel : Nat) (text : List Char) :
    readValue fuel (gap ++ text) = readValue fuel text := by
  cases fuel with
  | zero => rfl
  | succ fuel => rw [readValue, readValue, skipGap_append h]

theorem readElements_append {gap : List Char} (h : IsGap gap) (fuel : Nat) (text : List Char) :
    readElements fuel (gap ++ text) = readElements fuel text := by
  cases fuel with
  | zero => rfl
  | succ fuel => rw [readElements, readElements, readValue_append h]

theorem readFields_append {gap : List Char} (h : IsGap gap) (fuel : Nat) (text : List Char) :
    readFields fuel (gap ++ text) = readFields fuel text := by
  cases fuel with
  | zero => rfl
  | succ fuel => rw [readFields, readFields, skipGap_append h]

theorem ne_of_startsNumber {c d : Char} (h : c = '-' ∨ isDecimal c = true)
    (hd : d ≠ '-' ∧ isDecimal d = false) : c ≠ d := by
  rintro rfl
  simp [hd.1, hd.2] at h

theorem isGap_of_startsNumber {c : Char} (h : c = '-' ∨ isDecimal c = true) : isGap c = false := by
  have hne := fun d => ne_of_startsNumber (d := d) h
  simp [isGap, hne ' ' (by decide), hne '\n' (by decide), hne '\r' (by decide),
    hne '\t' (by decide)]

/-- What starts like a number is read as one. -/
theorem readValue_number {c : Char} (h : c = '-' ∨ isDecimal c = true) (fuel : Nat)
    (rest : List Char) : readValue (fuel + 1) (c :: rest) = readNumber (c :: rest) := by
  have hne := fun d => ne_of_startsNumber (d := d) h
  simp [readValue, skipGap_of_isGap_eq_false (isGap_of_startsNumber h), hne '"' (by decide),
    hne '[' (by decide), hne '\x7b' (by decide), hne 'n' (by decide), hne 't' (by decide),
    hne 'f' (by decide), h]

/-- A number starts with a sign or a digit. -/
theorem exists_toString_eq_cons (value : Int) :
    ∃ c rest, (toString value).toList = c :: rest ∧ (c = '-' ∨ isDecimal c = true) := by
  obtain ⟨-, heq⟩ | ⟨-, heq⟩ := toList_toString_int value
  · obtain ⟨d, digits, hdigits, hd⟩ := exists_toDigits_eq_cons value.natAbs
    exact ⟨d, digits, by rw [heq, hdigits], .inr hd⟩
  · exact ⟨'-', _, heq, .inl rfl⟩

/-- A document does not start like the end of an array. -/
theorem Spells.exists_eq_cons {document : Json} {text : List Char} (h : Spells document text) :
    ∃ c rest, text = c :: rest ∧ isGap c = false ∧ c ≠ ']' := by
  cases h with
  | int value =>
    obtain ⟨c, rest, heq, hc⟩ := exists_toString_eq_cons value
    exact ⟨c, rest, heq, isGap_of_startsNumber hc, ne_of_startsNumber hc (by decide)⟩
  | null => exact ⟨_, _, rfl, rfl, by decide⟩
  | yes => exact ⟨_, _, rfl, rfl, by decide⟩
  | no => exact ⟨_, _, rfl, rfl, by decide⟩
  | str text => exact ⟨_, _, rfl, rfl, by decide⟩
  | noElements => exact ⟨_, _, rfl, rfl, by decide⟩
  | arr _ => exact ⟨_, _, rfl, rfl, by decide⟩
  | noFields => exact ⟨_, _, rfl, rfl, by decide⟩
  | obj _ => exact ⟨_, _, rfl, rfl, by decide⟩

theorem SpellsElements.exists_eq_append {elements : List Json} {inside : List Char}
    (h : SpellsElements elements inside) : ∃ gap c rest, inside = gap ++ c :: rest ∧ IsGap gap ∧
      isGap c = false ∧ c ≠ ']' := by
  cases h with
  | last hbefore h hbehind =>
    obtain ⟨c, rest, rfl, hc⟩ := h.exists_eq_cons
    exact ⟨_, c, _, rfl, hbefore, hc⟩
  | more hbefore h hothers =>
    obtain ⟨c, rest, rfl, hc⟩ := h.exists_eq_cons
    exact ⟨_, c, _, rfl, hbefore, hc⟩

theorem SpellsFields.exists_eq_append {fields : List (String × Json)} {inside : List Char}
    (h : SpellsFields fields inside) : ∃ gap rest, inside = gap ++ '"' :: rest ∧ IsGap gap := by
  cases h with
  | last hbefore _ _ _ => exact ⟨_, _, rfl, hbefore⟩
  | more hbefore _ _ _ => exact ⟨_, _, rfl, hbefore⟩

/-- An array is read when the elements between its brackets are. -/
theorem readValue_arr {elements : List Json} {inside rest left : List Char}
    (h : SpellsElements elements inside) {fuel : Nat}
    (hread : readElements fuel (inside ++ rest) = .ok (elements, left)) :
    readValue (fuel + 1) ('[' :: (inside ++ rest)) = .ok (.arr elements, left) := by
  obtain ⟨gap, c, behind, rfl, hgap, hc, hne⟩ := h.exists_eq_append
  rw [List.append_assoc, readElements_append hgap, List.cons_append] at hread
  rw [readValue, skipGap_of_isGap_eq_false rfl, List.append_assoc, List.cons_append]
  simp [skipGap_append hgap, skipGap_of_isGap_eq_false hc, hne, hread]

/-- An object is read when the fields between its braces are. -/
theorem readValue_obj {fields : List (String × Json)} {inside rest left : List Char}
    (h : SpellsFields fields inside) {fuel : Nat}
    (hread : readFields fuel (inside ++ rest) = .ok (fields, left)) :
    readValue (fuel + 1) ('\x7b' :: (inside ++ rest)) = .ok (.obj fields, left) := by
  obtain ⟨gap, behind, rfl, hgap⟩ := h.exists_eq_append
  rw [List.append_assoc, readFields_append hgap, List.cons_append] at hread
  rw [readValue, skipGap_of_isGap_eq_false rfl, List.append_assoc, List.cons_append]
  simp [skipGap_append hgap, skipGap_of_isGap_eq_false (c := '"') rfl, hread]

/-- What separates documents and what closes the brackets around them ends a number, also behind a
gap. -/
theorem endsNumber_gap {gap : List Char} (h : IsGap gap) {c : Char}
    (hc : c = ',' ∨ c = ']' ∨ c = '\x7d') (rest : List Char) : EndsNumber (gap ++ c :: rest) := by
  intro d hd
  cases gap with
  | nil =>
    cases hd
    rcases hc with rfl | rfl | rfl <;> decide
  | cons e gap =>
    have he : isGap e = true := h e List.mem_cons_self
    cases hd
    simp only [isGap, Bool.or_eq_true, decide_eq_true_eq] at he
    rcases he with ((rfl | rfl) | rfl) | rfl <;> decide

mutual

/-- A text that spells a document is read as this document, in front of what does not go on with a
number. The length of the text bounds what is read. -/
theorem readValue_of_spells : ∀ {document : Json} {text : List Char}, Spells document text →
    ∀ {fuel : Nat} {rest : List Char}, text.length ≤ fuel → EndsNumber rest →
      readValue fuel (text ++ rest) = .ok (document, rest)
  | .null, _, .null, fuel + 1, rest, _, _ => by
    simp [readValue, skipGap, isGap, readKeyword, readWord]
  | .bool _, _, .yes, fuel + 1, rest, _, _ => by
    simp [readValue, skipGap, isGap, readKeyword, readWord]
  | .bool _, _, .no, fuel + 1, rest, _, _ => by
    simp [readValue, skipGap, isGap, readKeyword, readWord]
  | .int value, _, .int _, fuel, rest, hfuel, hrest => by
    obtain ⟨c, digits, heq, hc⟩ := exists_toString_eq_cons value
    have hnumber := readNumber_int value hrest
    rw [heq] at hfuel hnumber ⊢
    cases fuel with
    | zero => cases hfuel
    | succ fuel =>
      rw [List.cons_append, readValue_number hc]
      exact hnumber
  | .str text, _, .str _, fuel + 1, rest, _, _ => by
    simp [readValue, skipGap, isGap, stringChars, readString_stringTail]
  | .arr _, _, .noElements, fuel + 1, rest, _, _ => by
    simp [readValue, skipGap, isGap]
  | .arr elements, _, .arr h, fuel + 1, rest, hfuel, _ => by
    rw [List.cons_append, List.cons_append, List.append_assoc]
    apply readValue_arr h
    apply readElements_of_spells h
    simpa using hfuel
  | .obj _, _, .noFields, fuel + 1, rest, _, _ => by
    simp [readValue, skipGap, isGap]
  | .obj fields, _, .obj h, fuel + 1, rest, hfuel, _ => by
    rw [List.cons_append, List.cons_append, List.append_assoc]
    apply readValue_obj h
    apply readFields_of_spells h
    simpa using hfuel

/-- A text that spells elements is read up to the closing bracket. -/
theorem readElements_of_spells : ∀ {elements : List Json} {text : List Char},
    SpellsElements elements text → ∀ {fuel : Nat} {rest : List Char}, text.length + 1 ≤ fuel →
      readElements fuel (text ++ ']' :: rest) = .ok (elements, rest)
  | [_], _, @SpellsElements.last _ _ text _ hbefore h hbehind, fuel + 1, rest, hfuel => by
    simp only [List.length_append] at hfuel
    have hlength : text.length ≤ fuel := by omega
    have hvalue := readValue_of_spells h hlength (endsNumber_gap hbehind (.inr (.inl rfl)) rest)
    rw [List.append_assoc, readElements_append hbefore, List.append_assoc, readElements, hvalue]
    simp [skipGap_append hbehind, skipGap_of_isGap_eq_false (c := ']') rfl]
  | _ :: _ :: _, _, @SpellsElements.more _ _ _ _ text others hbefore h hothers, fuel + 1, rest,
      hfuel => by
    simp only [List.length_append, List.length_cons] at hfuel
    have hlength : text.length ≤ fuel := by omega
    have hothersLength : others.length + 1 ≤ fuel := by omega
    have hvalue := readValue_of_spells h hlength
      (endsNumber_gap isGap_nil (.inl rfl) (others ++ ']' :: rest))
    have hread : readElements fuel (others ++ ']' :: rest) = .ok (_, rest) :=
      readElements_of_spells hothers hothersLength
    rw [List.append_assoc, readElements_append hbefore, List.append_assoc, List.cons_append,
      readElements, ← List.nil_append (',' :: _), hvalue]
    simp [skipGap_of_isGap_eq_false (c := ',') rfl, hread]

/-- A text that spells fields is read up to the closing brace. -/
theorem readFields_of_spells : ∀ {fields : List (String × Json)} {text : List Char},
    SpellsFields fields text → ∀ {fuel : Nat} {rest : List Char}, text.length + 1 ≤ fuel →
      readFields fuel (text ++ '\x7d' :: rest) = .ok (fields, rest)
  | [_], _, @SpellsFields.last key _ _ colon text behind hbefore hcolon h hbehind, fuel + 1, rest,
      hfuel => by
    simp only [List.length_append, List.length_cons] at hfuel
    have hlength : text.length ≤ fuel := by omega
    have hvalue := readValue_of_spells h hlength
      (endsNumber_gap hbehind (.inr (.inr rfl)) rest)
    have hkey := readString_stringTail key.toList
      (':' :: (colon ++ (text ++ (behind ++ '\x7d' :: rest))))
    rw [List.append_assoc, readFields_append hbefore]
    simp [readFields, stringChars, skipGap_of_isGap_eq_false (c := '"') rfl, hkey,
      skipGap_of_isGap_eq_false (c := ':') rfl, readValue_append hcolon, hvalue,
      skipGap_append hbehind, skipGap_of_isGap_eq_false (c := '\x7d') rfl]
  | _ :: _ :: _, _, @SpellsFields.more key _ _ _ _ colon text others hbefore hcolon h hothers,
      fuel + 1, rest, hfuel => by
    simp only [List.length_append, List.length_cons] at hfuel
    have hlength : text.length ≤ fuel := by omega
    have hothersLength : others.length + 1 ≤ fuel := by omega
    have hvalue := readValue_of_spells h hlength
      (endsNumber_gap isGap_nil (.inl rfl) (others ++ '\x7d' :: rest))
    rw [List.nil_append] at hvalue
    have hread : readFields fuel (others ++ '\x7d' :: rest) = .ok (_, rest) :=
      readFields_of_spells hothers hothersLength
    have hkey := readString_stringTail key.toList
      (':' :: (colon ++ (text ++ ',' :: (others ++ '\x7d' :: rest))))
    rw [List.append_assoc, readFields_append hbefore]
    simp [readFields, stringChars, skipGap_of_isGap_eq_false (c := '"') rfl, hkey,
      skipGap_of_isGap_eq_false (c := ':') rfl, readValue_append hcolon, hvalue,
      skipGap_of_isGap_eq_false (c := ',') rfl, hread]

end

/-- A text that spells a document consists of this document. -/
theorem parseChars_of_spells {document : Json} {text : List Char} (h : Spells document text) :
    parseChars text = .ok document := by
  have hread : readValue (text.length + 1) (text ++ []) = .ok (document, []) :=
    readValue_of_spells h (Nat.le_succ _) nofun
  rw [List.append_nil] at hread
  rw [parseChars, hread]
  rfl

/-- A document comes back from the text on one line. -/
theorem parse_compact {document : Json} (h : document.IsWhole) :
    parse document.compact = .ok document := by
  rw [parse, compact, String.toList_ofList]
  exact parseChars_of_spells (spells_compactChars h)

/-- A document comes back from the text on several lines. -/
theorem parse_indented {document : Json} (h : document.IsWhole) :
    parse document.indented = .ok document := by
  rw [parse, indented, String.toList_ofList]
  exact parseChars_of_spells (spells_indentedChars 0 h)

/-! ## Characters on one line -/

theorem space_le_of_mem_stringChars {text : String} {c : Char} (h : c ∈ stringChars text) :
    0x20 ≤ c.toNat := by
  rcases List.mem_cons.1 h with rfl | h
  · decide
  · exact space_le_of_mem_stringTail h

theorem space_le_of_mem_toString {value : Int} {c : Char} (h : c ∈ (toString value).toList) :
    0x20 ≤ c.toNat := by
  have hdigit : ∀ d ∈ Nat.toDigits 10 value.natAbs, 0x20 ≤ d.toNat := by
    intro d hd
    have hisDigit := Nat.isDigit_of_mem_toDigits (by decide) (by decide) hd
    simp only [Char.isDigit, Bool.and_eq_true, decide_eq_true_eq,
      UInt32.le_iff_toNat_le] at hisDigit
    exact Nat.le_trans (by decide) hisDigit.1
  obtain ⟨-, heq⟩ | ⟨-, heq⟩ := toList_toString_int value <;> rw [heq] at h
  · exact hdigit c h
  · rcases List.mem_cons.1 h with rfl | h
    · decide
    · exact hdigit c h

mutual

/-- A document on one line has no control characters. -/
theorem space_le_of_mem_compactChars : ∀ {document : Json}, document.IsWhole →
    ∀ c ∈ compactChars document, 0x20 ≤ c.toNat
  | .null, _ => by simp [compactChars]
  | .bool true, _ => by simp [compactChars]
  | .bool false, _ => by simp [compactChars]
  | .int _, _ => fun _ hc => space_le_of_mem_toString hc
  | .str _, _ => fun _ hc => space_le_of_mem_stringChars hc
  | .decimal _, h => h.elim
  | .arr _, h => by
    intro c hc
    simp only [compactChars, List.cons_append, List.mem_cons, List.mem_append,
      List.not_mem_nil, or_false] at hc
    rcases hc with rfl | hc | rfl
    · decide
    · exact space_le_of_mem_compactElements h c hc
    · decide
  | .obj _, h => by
    intro c hc
    simp only [compactChars, List.cons_append, List.mem_cons, List.mem_append,
      List.not_mem_nil, or_false] at hc
    rcases hc with rfl | hc | rfl
    · decide
    · exact space_le_of_mem_compactFields h c hc
    · decide

theorem space_le_of_mem_compactElements : ∀ {elements : List Json}, AreWhole elements →
    ∀ c ∈ compactElements elements, 0x20 ≤ c.toNat
  | [], _ => nofun
  | [_], h => space_le_of_mem_compactChars h.1
  | _ :: _ :: _, h => by
    intro c hc
    simp only [compactElements, List.mem_append, List.mem_cons] at hc
    rcases hc with hc | rfl | hc
    · exact space_le_of_mem_compactChars h.1 c hc
    · decide
    · exact space_le_of_mem_compactElements h.2 c hc

theorem space_le_of_mem_compactFields : ∀ {fields : List (String × Json)}, HoldWhole fields →
    ∀ c ∈ compactFields fields, 0x20 ≤ c.toNat
  | [], _ => nofun
  | [(key, _)], h => by
    intro c hc
    simp only [compactFields, List.mem_append, List.mem_cons] at hc
    rcases hc with hc | rfl | hc
    · exact space_le_of_mem_stringChars hc
    · decide
    · exact space_le_of_mem_compactChars h.1 c hc
  | (key, _) :: _ :: _, h => by
    intro c hc
    simp only [compactFields, List.append_assoc, List.cons_append, List.mem_append,
      List.mem_cons] at hc
    rcases hc with hc | rfl | hc | rfl | hc
    · exact space_le_of_mem_stringChars hc
    · decide
    · exact space_le_of_mem_compactChars h.1 c hc
    · decide
    · exact space_le_of_mem_compactFields h.2 c hc

end

end BatchOperator.Json
