import BatchOperator.Proofs.Selector.Meaning

/-!
# What a query tells of its selector

In the text of a selector commas stand between clauses and also between the values of a clause, and
the same key begins clauses of four kinds. The text tells them apart nevertheless, as long as keys
and values have none of the characters in them that mean something in a query (`Text.IsPlain`); they
may even be empty.

`Clause.scan` reads one clause from the front of a text, first up to the character that says which
kind of clause it is. It gives the clause back that was written there, and what stands behind it
(`Clause.scan_render`), so that selectors with the same text have the same clauses one by one
(`Selector.query?_unambiguous`).
-/

set_option autoImplicit false

namespace BatchOperator

/-! ## Plain texts -/

namespace Text

/-- Whether a character means nothing in a query. -/
def isPlain (c : Char) : Bool := !",=!() ".toList.contains c

/-- No character of a text means anything in a query. -/
def IsPlain (text : String) : Prop := ∀ c ∈ text.toList, isPlain c = true

instance (text : String) : Decidable (IsPlain text) :=
  decidable_of_iff (text.toList.all isPlain = true) List.all_eq_true

variable {p : Char → Bool} {word rest : List Char}

/-- The characters up to the first one that is not taken. -/
theorem takeWhile_append_of_stop (hword : ∀ c ∈ word, p c = true)
    (hrest : ∀ c ∈ rest.head?, p c = false) : (word ++ rest).takeWhile p = word := by
  rw [List.takeWhile_append_of_pos hword]
  cases rest with
  | nil => simp
  | cons c rest => simp [hrest c rfl]

theorem dropWhile_append_of_stop (hword : ∀ c ∈ word, p c = true)
    (hrest : ∀ c ∈ rest.head?, p c = false) : (word ++ rest).dropWhile p = rest := by
  rw [List.dropWhile_append_of_pos hword]
  cases rest with
  | nil => simp
  | cons c rest => simp [hrest c rfl]

theorem stops_cons {c : Char} (h : p c = false) : ∀ d ∈ (c :: rest).head?, p d = false := by
  rintro d ⟨⟩
  exact h

end Text

/-! ## Sets of values -/

namespace StringSet

theorem contains_eq_true_iff {values : StringSet} {text : String} :
    values.contains text = true ↔ text ∈ values.keys := by
  rw [OrderedMap.contains_iff, OrderedMap.keys, List.mem_map]
  constructor
  · rintro ⟨value, hmem⟩
    exact ⟨(text, value), hmem, rfl⟩
  · rintro ⟨⟨key, value⟩, hmem, rfl⟩
    exact ⟨value, hmem⟩

/-- A set is known by its texts. -/
theorem ofTexts_keys (values : StringSet) : ofTexts values.keys = values := by
  apply OrderedMap.ext_get?
  intro text
  have hcontains : (ofTexts values.keys).contains text = values.contains text := by
    rw [Bool.eq_iff_iff, contains_ofTexts, contains_eq_true_iff]
  unfold OrderedMap.contains at hcontains
  cases hfound : (ofTexts values.keys).get? text <;> cases hfound' : values.get? text <;>
    simp [hfound, hfound'] at hcontains ⊢

theorem keys_ne_nil {values : StringSet} (h : ¬values.isEmpty = true) : values.keys ≠ [] := by
  rw [OrderedMap.keys, ne_eq, List.map_eq_nil_iff]
  simpa [OrderedMap.isEmpty] using h

end StringSet

namespace LabelTest

/-- The values that a test is written with. -/
def values : LabelTest → StringSet
  | .among values | .notAmong values => values
  | .present | .absent => .empty

/-- A test that compares with values has some. -/
def IsProper : LabelTest → Prop
  | .among values | .notAmong values => values.keys ≠ []
  | .present | .absent => True

end LabelTest

/-! ## Reading one clause -/

namespace Clause

/-- Key and values of a clause are plain. -/
structure IsPlain (c : Clause) : Prop where
  key : Text.IsPlain c.key
  values : ∀ value ∈ c.test.values.keys, Text.IsPlain value

instance (c : Clause) : Decidable c.IsPlain :=
  decidable_of_iff (Text.IsPlain c.key ∧ ∀ value ∈ c.test.values.keys, Text.IsPlain value)
    ⟨fun h => ⟨h.1, h.2⟩, fun h => ⟨h.key, h.values⟩⟩

theorem toList_commaSeparated (texts : List String) :
    (commaSeparated texts).toList = [','].intercalate (texts.map String.toList) := by
  rw [commaSeparated, String.toList_intercalate]
  rfl

/-- With a comma in front as well there is one before every text. -/
theorem cons_commaSeparated {texts : List String} (hsome : texts ≠ []) :
    ',' :: (commaSeparated texts).toList = texts.flatMap fun text => ',' :: text.toList := by
  rw [toList_commaSeparated]
  induction texts with
  | nil => exact absurd rfl hsome
  | cons text others ih =>
    cases others with
    | nil => simp
    | cons next others =>
      rw [List.flatMap_cons, ← ih (List.cons_ne_nil _ _), List.map_cons, List.map_cons,
        List.intercalate_cons_cons]
      simp

/-- The set that is written with commas between its values. -/
def readValues (text : List Char) : StringSet :=
  .ofTexts ((text.splitOn ',').map String.ofList)

/-- The clause that goes on with the given text behind `word`, and what stands behind it. -/
def scanBehind (word : List Char) : List Char → Clause × List Char
  -- What stands right behind the word says which kind of clause it is.
  | '=' :: text =>
    (.equals (String.ofList word) (String.ofList (text.takeWhile Text.isPlain)),
      text.dropWhile Text.isPlain)
  | ' ' :: 'i' :: 'n' :: ' ' :: '(' :: text =>
    (⟨String.ofList word, .among (readValues (text.takeWhile (· ≠ ')')))⟩,
      (text.dropWhile (· ≠ ')')).tail)
  | ' ' :: 'n' :: 'o' :: 't' :: 'i' :: 'n' :: ' ' :: '(' :: text =>
    (⟨String.ofList word, .notAmong (readValues (text.takeWhile (· ≠ ')')))⟩,
      (text.dropWhile (· ≠ ')')).tail)
  | '!' :: text =>
    (⟨String.ofList (text.takeWhile Text.isPlain), .absent⟩, text.dropWhile Text.isPlain)
  -- Behind a clause that has a key only there is the next clause, or nothing.
  | text => (⟨String.ofList word, .present⟩, text)

/-- The clause at the front of a text, and what stands behind it. -/
def scan (text : List Char) : Clause × List Char :=
  scanBehind (text.takeWhile Text.isPlain) (text.dropWhile Text.isPlain)

variable {rest : List Char} {values : StringSet}

/-- What stands behind a clause is nothing, or begins with a comma. -/
def IsBehind (rest : List Char) : Prop := ∀ c ∈ rest.head?, c = ','

theorem IsBehind.stops (h : IsBehind rest) : ∀ c ∈ rest.head?, Text.isPlain c = false := by
  intro c hc
  rw [h c hc]
  decide

/-- A plain word is read up to a character that means something. -/
theorem scan_append {word : List Char} (hword : ∀ c ∈ word, Text.isPlain c = true)
    (hrest : ∀ c ∈ rest.head?, Text.isPlain c = false) :
    scan (word ++ rest) = scanBehind word rest := by
  rw [scan, Text.takeWhile_append_of_stop hword hrest, Text.dropWhile_append_of_stop hword hrest]

/-- Values that are plain are told apart by the commas between them. -/
theorem readValues_commaSeparated (hsome : values.keys ≠ [])
    (hplain : ∀ value ∈ values.keys, Text.IsPlain value) :
    readValues (commaSeparated values.keys).toList = values := by
  have hcomma : ∀ value ∈ values.keys.map String.toList, ',' ∉ value := by
    intro value hmem
    obtain ⟨text, htext, rfl⟩ := List.mem_map.1 hmem
    exact fun hin => absurd (hplain text htext ',' hin) (by decide)
  rw [readValues, toList_commaSeparated, List.splitOn_intercalate ',' hcomma (by simpa using hsome),
    List.map_map]
  have hid : String.ofList ∘ String.toList = id := funext fun _ => String.ofList_toList
  rw [hid, List.map_id, StringSet.ofTexts_keys]

/-- No value has a bracket in it, so the first one ends the list of values. -/
theorem ne_bracket_of_mem (hsome : values.keys ≠ [])
    (hplain : ∀ value ∈ values.keys, Text.IsPlain value) :
    ∀ c ∈ (commaSeparated values.keys).toList, decide (c ≠ ')') = true := by
  intro c hc
  -- Every character stands in a value, or is one of the commas.
  have hmem := List.mem_cons_of_mem ',' hc
  rw [cons_commaSeparated hsome, List.mem_flatMap] at hmem
  obtain ⟨value, hvalue, hmem⟩ := hmem
  apply decide_eq_true
  rintro rfl
  obtain hcomma | hin := List.mem_cons.1 hmem
  · exact absurd hcomma (by decide)
  · exact absurd (hplain value hvalue ')' hin) (by decide)

/-- The values behind an opening bracket are read up to the closing one. -/
theorem read_bracketed (hsome : values.keys ≠ [])
    (hplain : ∀ value ∈ values.keys, Text.IsPlain value) (rest : List Char) :
    readValues (((commaSeparated values.keys).toList ++ ')' :: rest).takeWhile (· ≠ ')')) = values ∧
      (((commaSeparated values.keys).toList ++ ')' :: rest).dropWhile (· ≠ ')')).tail = rest := by
  have hword := ne_bracket_of_mem hsome hplain
  have hstop : ∀ c ∈ (')' :: rest).head?, decide (c ≠ ')') = false := Text.stops_cons (by decide)
  rw [Text.takeWhile_append_of_stop hword hstop, Text.dropWhile_append_of_stop hword hstop]
  exact ⟨readValues_commaSeparated hsome hplain, rfl⟩

/-- The clause that asks for one value is read from its text. -/
theorem scan_equals {key value : String} (hkey : Text.IsPlain key) (hvalue : Text.IsPlain value)
    (hrest : IsBehind rest) :
    scan (key.toList ++ '=' :: (value.toList ++ rest)) = (equals key value, rest) := by
  rw [scan_append hkey (Text.stops_cons (by decide))]
  show (equals _ (String.ofList (List.takeWhile _ _)), List.dropWhile _ _) = _
  rw [Text.takeWhile_append_of_stop hvalue hrest.stops,
    Text.dropWhile_append_of_stop hvalue hrest.stops, String.ofList_toList, String.ofList_toList]

/-- A clause is read from its text, whatever stands behind it. -/
theorem scan_render {c : Clause} (hplain : c.IsPlain) (hproper : c.test.IsProper)
    (hrest : IsBehind rest) : scan (c.render.toList ++ rest) = (c, rest) := by
  obtain ⟨key, test⟩ := c
  obtain ⟨hkey, hvalues⟩ := hplain
  cases test with
  | among values =>
    cases hkeys : values.keys with
    | nil => exact absurd hkeys hproper
    | cons value others =>
      cases others with
      | nil =>
        -- One value stands behind an equals sign, and ends where the next clause begins.
        have hvalue : Text.IsPlain value := hvalues value (by simp [LabelTest.values, hkeys])
        have htext : (render ⟨key, .among values⟩).toList ++ rest =
            key.toList ++ '=' :: (value.toList ++ rest) := by
          simp [render, hkeys]
        rw [htext, scan_equals hkey hvalue hrest, equals, ← hkeys, StringSet.ofTexts_keys]
      | cons next others =>
        -- Several values stand in brackets, so the commas between them end no clause.
        have htext : (render ⟨key, .among values⟩).toList ++ rest = key.toList ++
            ' ' :: 'i' :: 'n' :: ' ' :: '(' ::
              ((commaSeparated values.keys).toList ++ ')' :: rest) := by
          simp [render, hkeys]
        obtain ⟨hread, htail⟩ := read_bracketed hproper hvalues rest
        rw [htext, scan_append hkey (Text.stops_cons (by decide))]
        show (Clause.mk _ (.among (readValues (List.takeWhile _ _))), List.tail _) = _
        rw [hread, htail, String.ofList_toList]
  | notAmong values =>
    have htext : (render ⟨key, .notAmong values⟩).toList ++ rest = key.toList ++
        ' ' :: 'n' :: 'o' :: 't' :: 'i' :: 'n' :: ' ' :: '(' ::
          ((commaSeparated values.keys).toList ++ ')' :: rest) := by
      simp [render]
    obtain ⟨hread, htail⟩ := read_bracketed hproper hvalues rest
    rw [htext, scan_append hkey (Text.stops_cons (by decide))]
    show (Clause.mk _ (.notAmong (readValues (List.takeWhile _ _))), List.tail _) = _
    rw [hread, htail, String.ofList_toList]
  | present =>
    rw [render, scan_append hkey hrest.stops]
    -- Nothing is left to be read, or the comma in front of the next clause.
    cases rest with
    | nil => simp [scanBehind]
    | cons c rest =>
      obtain rfl : c = ',' := hrest c rfl
      simp [scanBehind]
  | absent =>
    have htext : (render ⟨key, .absent⟩).toList ++ rest = [] ++ '!' :: (key.toList ++ rest) := by
      simp [render]
    rw [htext, scan_append (by simp) (Text.stops_cons (by decide))]
    show (Clause.mk (String.ofList (List.takeWhile _ _)) _, List.dropWhile _ _) = _
    rw [Text.takeWhile_append_of_stop hkey hrest.stops,
      Text.dropWhile_append_of_stop hkey hrest.stops, String.ofList_toList]

end Clause

/-! ## Selectors -/

namespace Selector

/-- The text of clauses, each with a comma in front of it. -/
def listed (clauses : List Clause) : List Char :=
  clauses.flatMap fun c => ',' :: c.render.toList

theorem isBehind_listed (clauses : List Clause) : Clause.IsBehind (listed clauses) := by
  cases clauses with
  | nil => nofun
  | cons c clauses =>
    rintro d ⟨⟩
    rfl

/-- Clauses with the same text are the same, one after the other. -/
theorem eq_of_listed_eq {clauses clauses' : List Clause}
    (hplain : ∀ c ∈ clauses, c.IsPlain ∧ c.test.IsProper)
    (hplain' : ∀ c ∈ clauses', c.IsPlain ∧ c.test.IsProper)
    (h : listed clauses = listed clauses') : clauses = clauses' := by
  induction clauses generalizing clauses' with
  | nil =>
    cases clauses' with
    | nil => rfl
    | cons c' rest' => cases h
  | cons c rest ih =>
    cases clauses' with
    | nil => cases h
    | cons c' rest' =>
      obtain ⟨hc, hrest⟩ := List.forall_mem_cons.1 hplain
      obtain ⟨hc', hrest'⟩ := List.forall_mem_cons.1 hplain'
      have htext : c.render.toList ++ listed rest = c'.render.toList ++ listed rest' :=
        List.tail_eq_of_cons_eq h
      have hscan := congrArg Clause.scan htext
      rw [Clause.scan_render hc.1 hc.2 (isBehind_listed rest),
        Clause.scan_render hc'.1 hc'.2 (isBehind_listed rest'), Prod.mk.injEq] at hscan
      obtain ⟨rfl, htail⟩ := hscan
      rw [ih hrest hrest' htail]

theorem query?_eq_none_iff {s : Selector} : s.query? = none ↔ s = nothing := by
  obtain ⟨clauses⟩ := s
  cases clauses with
  | nil => exact iff_of_true rfl rfl
  | cons c clauses => exact iff_of_false nofun nofun

/-- The text of a selector has all of its clauses. -/
theorem listed_of_query? {s : Selector} {text : String} (h : s.query? = some text) :
    listed s.clauses = ',' :: text.toList := by
  obtain ⟨clauses⟩ := s
  cases clauses with
  | nil => cases h
  | cons c clauses =>
    cases h
    have hsome : (c :: clauses).map Clause.render ≠ [] := List.cons_ne_nil _ _
    rw [Clause.cons_commaSeparated hsome, List.flatMap_map]
    rfl

/-- How a selector comes about: it asks for labels, or it is read. -/
inductive IsMade : Selector → Prop where
  | ofLabels (labels : List (String × String)) : IsMade (.ofLabels labels)
  | read {written : Option LabelSelector} {s : Selector} (h : read written = .ok s) : IsMade s

/-- The keys and values of all clauses are plain. -/
def IsPlain (s : Selector) : Prop := ∀ c ∈ s.clauses, c.IsPlain

instance (s : Selector) : Decidable s.IsPlain :=
  inferInstanceAs (Decidable (∀ c ∈ s.clauses, c.IsPlain))

/-- An expression that compares with values is only read if it has some. -/
theorem isProper_of_clause {e : LabelExpression} {c : Clause} (h : e.clause = .ok c) :
    c.test.IsProper := by
  simp only [LabelExpression.clause] at h
  split at h
  · split at h <;> cases h
    exact StringSet.keys_ne_nil ‹_›
  split at h
  · split at h <;> cases h
    exact StringSet.keys_ne_nil ‹_›
  split at h
  · split at h <;> cases h
    trivial
  split at h
  · split at h <;> cases h
    trivial
  · cases h

theorem isProper_equals (key value : String) : (Clause.equals key value).test.IsProper :=
  List.cons_ne_nil _ _

/-- No clause of a selector compares with no values. -/
theorem IsMade.isProper {s : Selector} (h : s.IsMade) : ∀ c ∈ s.clauses, c.test.IsProper := by
  cases h with
  | ofLabels labels =>
    rintro c hc
    obtain ⟨label, -, rfl⟩ := List.mem_map.1 hc
    exact isProper_equals _ _
  | @read written s hread =>
    rw [read_getD, read_some] at hread
    rcases mapM_cases LabelExpression.clause (written.getD {}).expressions with
      ⟨fault, hmap, -⟩ | ⟨clauses, hmap, hclauses⟩
    · rw [hmap] at hread
      cases hread
    · rw [hmap] at hread
      cases hread
      rintro c hc
      obtain hc | hc := List.mem_append.1 hc
      · obtain ⟨entry, -, rfl⟩ := List.mem_map.1 hc
        exact isProper_equals _ _
      · obtain ⟨e, -, hclause⟩ := List.mem_map.1 (hclauses.symm ▸ List.mem_map_of_mem hc)
        exact isProper_of_clause hclause

/-! ## The result -/

/-- There is a text for every selector but the one that selects nothing, and selectors with the same
text have the same clauses, so they select the same. -/
theorem query?_unambiguous {s s' : Selector} (hmade : s.IsMade) (hmade' : s'.IsMade)
    (hplain : s.IsPlain) (hplain' : s'.IsPlain) :
    (s.query? = none ↔ s = nothing) ∧
      (s.query? = s'.query? → s.clauses = s'.clauses ∧
        ∀ labels, s.selects labels = s'.selects labels) := by
  refine ⟨query?_eq_none_iff, fun hquery => ?_⟩
  have heq : s = s' := by
    cases htext : s.query? with
    | none =>
      rw [htext] at hquery
      rw [query?_eq_none_iff.1 htext, query?_eq_none_iff.1 hquery.symm]
    | some text =>
      rw [htext] at hquery
      have hlisted : listed s.clauses = listed s'.clauses := by
        rw [listed_of_query? htext, listed_of_query? hquery.symm]
      have hclauses := eq_of_listed_eq (fun c hc => ⟨hplain c hc, hmade.isProper c hc⟩)
        (fun c hc => ⟨hplain' c hc, hmade'.isProper c hc⟩) hlisted
      cases s
      cases s'
      exact congrArg Selector.mk hclauses
  subst heq
  exact ⟨rfl, fun labels => rfl⟩

/-- A selector with clauses of all kinds, among them some with an empty value. -/
def mixed : LabelSelector where
  matchLabels := some (.ofList [("tier", "")])
  matchExpressions := some [⟨"suite", "In", some ["smoke", ""]⟩, ⟨"arch", "NotIn", some [""]⟩,
    ⟨"owner", "Exists", none⟩, ⟨"flaky", "DoesNotExist", some []⟩]

/-- The same with an expression in place of the label, and with a value that is repeated. -/
def remixed : LabelSelector where
  matchExpressions := some [⟨"tier", "In", some [""]⟩, ⟨"suite", "In", some ["", "smoke", ""]⟩,
    ⟨"arch", "NotIn", some [""]⟩, ⟨"owner", "Exists", none⟩, ⟨"flaky", "DoesNotExist", none⟩]

theorem query?_unambiguous_mixed : ∃ s s', read (some mixed) = .ok s ∧
    read (some remixed) = .ok s' ∧ s.IsPlain ∧ s'.IsPlain ∧
      s.query? = some "tier=,suite in (,smoke),arch notin (),owner,!flaky" ∧
        s'.query? = s.query? ∧ s'.clauses = s.clauses := by
  obtain ⟨s, hread⟩ : ∃ s, read (some mixed) = .ok s := ⟨_, rfl⟩
  obtain ⟨s', hread'⟩ : ∃ s, read (some remixed) = .ok s := ⟨_, rfl⟩
  have hplain : s.IsPlain := by cases hread; decide
  have hplain' : s'.IsPlain := by cases hread'; decide
  have hquery : s.query? = some "tier=,suite in (,smoke),arch notin (),owner,!flaky" := by
    cases hread
    decide
  have hquery' : s'.query? = s.query? := by
    cases hread
    cases hread'
    decide
  exact ⟨s, s', hread, hread', hplain, hplain', hquery, hquery',
    ((query?_unambiguous (.read hread') (.read hread) hplain' hplain).2 hquery').1⟩

end Selector

end BatchOperator
