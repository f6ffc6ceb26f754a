import BatchOperator.WorkKey

/-!
# Keys and their texts

The text of an object key is a namespace, a slash and a name; the text of a work key has a tag and a
colon in front of it. Colons may also stand in a namespace or a name, so only the first one counts,
and a text may have more slashes than one, so not every text of a key can be read back.

A text is read just when it is the text of a key with two parts that are not empty and have no slash
in them, and then as that key (`ObjectKey.parse_eq_ok_iff`, `WorkKey.parse_eq_ok_iff`). A key with
other parts has a text as well, but it shares that text with no key that can be read
(`ObjectKey.eq_of_render_eq`). In this sense both kinds of keys read back (`keys_readBack`).
-/

set_option autoImplicit false

namespace BatchOperator

/-- A namespace or a name that can be read back: it is not empty and has no slash in it. -/
structure IsKeyPart (text : String) : Prop where
  ne_empty : text ≠ ""
  slash_notMem : '/' ∉ text.toList

namespace ObjectKey

/-- Both parts of a key can be read back. -/
structure IsWhole (key : ObjectKey) : Prop where
  ns : IsKeyPart key.ns
  name : IsKeyPart key.name

/-- The texts of object keys. -/
inductive IsText : String → Prop where
  | parts {ns name : String} (hns : IsKeyPart ns) (hname : IsKeyPart name) :
      IsText (ns ++ "/" ++ name)

variable {key key' : ObjectKey} {text : String}

theorem toList_render (key : ObjectKey) :
    key.render.toList = key.ns.toList ++ '/' :: key.name.toList := by
  simp [render]

theorem isReadable_iff : key.isReadable = true ↔ key.IsWhole := by
  simp only [isReadable, Bool.and_eq_true, Bool.not_eq_true', List.isEmpty_eq_false_iff,
    List.contains_eq_mem, decide_eq_false_iff_not, ne_eq, String.toList_eq_nil_iff]
  constructor
  · rintro ⟨⟨⟨hns, hslash⟩, hname⟩, hslash'⟩
    exact ⟨⟨hns, hslash⟩, hname, hslash'⟩
  · rintro ⟨⟨hns, hslash⟩, hname, hslash'⟩
    exact ⟨⟨⟨hns, hslash⟩, hname⟩, hslash'⟩

/-- A text is read as a key just when it is the text of this key and the key is whole. -/
theorem parse_eq_ok_iff : parse text = .ok key ↔ key.IsWhole ∧ key.render = text := by
  constructor
  · intro h
    unfold parse at h
    split at h
    · rename_i ns name hcut
      obtain ⟨htext, hslash⟩ := Text.cut_eq_some_iff.1 hcut
      split at h
      · rename_i hparts
        cases h
        simp only [Bool.and_eq_true, Bool.not_eq_true', List.isEmpty_eq_false_iff,
          List.contains_eq_mem, decide_eq_false_iff_not] at hparts
        obtain ⟨⟨hns, hname⟩, hslash'⟩ := hparts
        refine ⟨⟨⟨?_, ?_⟩, ?_, ?_⟩, ?_⟩
        · simpa [← String.toList_inj] using hns
        · simpa using hslash
        · simpa [← String.toList_inj] using hname
        · simpa using hslash'
        · rw [← String.toList_inj, toList_render, htext]
          simp
      · cases h
    · cases h
  · rintro ⟨⟨⟨hns, hslash⟩, hname, hslash'⟩, rfl⟩
    -- The first slash is the one between the two parts.
    have hcut : Text.cut '/' key.render.toList = some (key.ns.toList, key.name.toList) := by
      rw [toList_render]
      exact Text.cut_append hslash
    simp [parse, hcut, hns, hname, hslash']

/-- A key that can be read back is read back as it was. -/
theorem parse_render (h : key.isReadable = true) : parse key.render = .ok key :=
  parse_eq_ok_iff.2 ⟨isReadable_iff.1 h, rfl⟩

theorem eq_invalidKey_of_parse {e : Error} (h : parse text = .error e) :
    ∃ message, e = .invalidKey message := by
  unfold parse at h
  split at h
  · split at h <;> cases h
    exact ⟨_, rfl⟩
  · cases h
    exact ⟨_, rfl⟩

/-- No other key has the text of a whole one. -/
theorem eq_of_render_eq (hwhole : key.IsWhole) (h : key'.render = key.render) : key' = key := by
  have htext : key'.ns.toList ++ '/' :: key'.name.toList =
      key.ns.toList ++ '/' :: key.name.toList := by
    rw [← toList_render, ← toList_render, h]
  -- The slash between the parts of a whole key is the only one, so the other key has none to spare.
  have hslash : '/' ∉ key'.ns.toList := by
    have hcount := congrArg (List.count '/') htext
    rw [List.count_append, List.count_append, List.count_cons_self, List.count_cons_self,
      List.count_eq_zero.2 hwhole.ns.slash_notMem,
      List.count_eq_zero.2 hwhole.name.slash_notMem] at hcount
    exact List.count_eq_zero.1 (by omega)
  have hcut : Text.cut '/' (key'.ns.toList ++ '/' :: key'.name.toList) =
      some (key'.ns.toList, key'.name.toList) := Text.cut_append hslash
  rw [htext, Text.cut_append hwhole.ns.slash_notMem] at hcut
  simp only [Option.some.injEq, Prod.mk.injEq, String.toList_inj] at hcut
  cases key
  cases key'
  obtain ⟨rfl, rfl⟩ := hcut
  rfl

theorem isText_iff : IsText text ↔ ∃ key : ObjectKey, key.IsWhole ∧ key.render = text := by
  constructor
  · rintro ⟨hns, hname⟩
    exact ⟨⟨_, _⟩, ⟨hns, hname⟩, rfl⟩
  · rintro ⟨key, hwhole, rfl⟩
    exact .parts hwhole.ns hwhole.name

end ObjectKey

namespace WorkKey

/-- The texts of work keys. -/
inductive IsText : String → Prop where
  | batch {text : String} (h : ObjectKey.IsText text) : IsText ("batch:" ++ text)
  | childStatus {text : String} (h : ObjectKey.IsText text) : IsText ("podstatus:" ++ text)

variable {key key' : WorkKey} {text : String}

/-- The first colon in the text of a work key is the one behind its tag, whatever its parts are. -/
theorem cut_render (key : WorkKey) :
    Text.cut ':' key.render.toList = some (key.tag.toList, key.object.render.toList) := by
  have htext : key.render.toList = key.tag.toList ++ ':' :: key.object.render.toList := by
    simp [render]
  rw [htext]
  apply Text.cut_append
  cases key <;> simp [tag]

/-- A text is read as a work key just when it is the text of this key, and its object key is
whole. -/
theorem parse_eq_ok_iff : parse text = .ok key ↔ key.object.IsWhole ∧ key.render = text := by
  constructor
  · intro h
    unfold parse at h
    split at h
    · cases h
    · rename_i tag rest hcut
      obtain ⟨htext, -⟩ := Text.cut_eq_some_iff.1 hcut
      split at h
      · cases h
      · rename_i object hobject
        obtain ⟨hwhole, hrender⟩ := ObjectKey.parse_eq_ok_iff.1 hobject
        -- Put together again, the parts give the text, and only two tags are known.
        have hwritten : String.ofList tag ++ ":" ++ object.render = text := by
          rw [← String.toList_inj, htext, hrender]
          simp
        simp only at h
        split at h
        · rename_i htag
          cases h
          rw [htag] at hwritten
          exact ⟨hwhole, hwritten⟩
        · split at h
          · rename_i htag
            cases h
            rw [htag] at hwritten
            exact ⟨hwhole, hwritten⟩
          · cases h
  · rintro ⟨hwhole, rfl⟩
    have hobject : ObjectKey.parse key.object.render = .ok key.object :=
      ObjectKey.parse_eq_ok_iff.2 ⟨hwhole, rfl⟩
    unfold parse
    rw [cut_render]
    simp only [String.ofList_toList, hobject]
    cases key <;> rfl

theorem eq_invalidKey_of_parse {e : Error} (h : parse text = .error e) :
    ∃ message, e = .invalidKey message := by
  unfold parse at h
  split at h
  · cases h
    exact ⟨_, rfl⟩
  · split at h
    · rename_i hobject
      cases h
      exact ObjectKey.eq_invalidKey_of_parse hobject
    · simp only at h
      split at h
      · cases h
      · split at h <;> cases h
        exact ⟨_, rfl⟩

/-- No other work key has the text of one with a whole object key. -/
theorem eq_of_render_eq (hwhole : key.object.IsWhole) (h : key'.render = key.render) :
    key' = key := by
  have hcut := cut_render key'
  rw [h, cut_render] at hcut
  simp only [Option.some.injEq, Prod.mk.injEq, String.toList_inj] at hcut
  obtain ⟨htag, hrender⟩ := hcut
  have hobject : key'.object = key.object := ObjectKey.eq_of_render_eq hwhole hrender.symm
  cases key with
  | batch =>
    cases key' with
    | batch => exact congrArg batch hobject
    | childStatus => simp [tag] at htag
  | childStatus =>
    cases key' with
    | batch => simp [tag] at htag
    | childStatus => exact congrArg childStatus hobject

theorem isText_iff : IsText text ↔ ∃ key : WorkKey, key.object.IsWhole ∧ key.render = text := by
  constructor
  · rintro (h | h)
    · obtain ⟨key, hwhole, rfl⟩ := ObjectKey.isText_iff.1 h
      exact ⟨.batch key, hwhole, rfl⟩
    · obtain ⟨key, hwhole, rfl⟩ := ObjectKey.isText_iff.1 h
      exact ⟨.childStatus key, hwhole, rfl⟩
  · rintro ⟨key, hwhole, rfl⟩
    cases key with
    | batch key => exact .batch (ObjectKey.isText_iff.2 ⟨key, hwhole, rfl⟩)
    | childStatus key => exact .childStatus (ObjectKey.isText_iff.2 ⟨key, hwhole, rfl⟩)

end WorkKey

/-! ## The result -/

/-- Keys of a kind read back: they are read from their texts and from nothing else. -/
structure ReadsBack {κ : Type} (parse : String → Except Error κ) (render : κ → String)
    (object : κ → ObjectKey) (IsText : String → Prop) : Prop where
  /-- The texts of keys are read, and no others. -/
  accepts : ∀ text, (∃ key, parse text = .ok key) ↔ IsText text
  /-- Any other text is reported as no key. -/
  refuses : ∀ text, ¬IsText text → ∃ message, parse text = .error (.invalidKey message)
  /-- The key that is read from a text has this text. -/
  renders : ∀ text key, parse text = .ok key → render key = text
  /-- A key with parts that can be read back is read from its text. -/
  returns : ∀ key, (object key).IsWhole → parse (render key) = .ok key
  /-- The text of any other key is reported as no key, so it is not read as one that differs. -/
  disowns : ∀ key, ¬(object key).IsWhole →
    ∃ message, parse (render key) = .error (.invalidKey message)

section Exact

variable {κ : Type} {parse : String → Except Error κ} {render : κ → String}
  {object : κ → ObjectKey} {IsText : String → Prop}

/-- Keys read back when just their own texts are read as them and no whole key shares its text. -/
theorem ReadsBack.of_exact
    (hok : ∀ {text key}, parse text = .ok key ↔ (object key).IsWhole ∧ render key = text)
    (herror : ∀ {text e}, parse text = .error e → ∃ message, e = .invalidKey message)
    (hunique : ∀ {key key'}, (object key).IsWhole → render key' = render key → key' = key)
    (htext : ∀ {text}, IsText text ↔ ∃ key, (object key).IsWhole ∧ render key = text) :
    ReadsBack parse render object IsText := by
  have haccepts : ∀ text, (∃ key, parse text = .ok key) ↔ IsText text := by
    intro text
    rw [htext]
    exact exists_congr fun key => hok
  have hrefuses : ∀ text, ¬IsText text → ∃ message, parse text = .error (.invalidKey message) := by
    intro text hnot
    cases hparse : parse text with
    | ok key => exact absurd ((haccepts text).1 ⟨key, hparse⟩) hnot
    | error e =>
      obtain ⟨message, rfl⟩ := herror hparse
      exact ⟨message, rfl⟩
  refine ⟨haccepts, hrefuses, ?_, ?_, ?_⟩
  · intro text key hparse
    exact (hok.1 hparse).2
  · intro key hwhole
    exact hok.2 ⟨hwhole, rfl⟩
  · intro key hnot
    -- If this text were read it would be as a whole key, which has it to itself.
    apply hrefuses
    rw [htext]
    rintro ⟨other, hwhole, hrender⟩
    exact hnot (hunique hwhole hrender.symm ▸ hwhole)

end Exact

/-- Work keys and object keys are read from their own texts only, and every key is either read back
as it was or reported as no key. -/
theorem keys_readBack :
    ReadsBack WorkKey.parse WorkKey.render WorkKey.object WorkKey.IsText ∧
      ReadsBack ObjectKey.parse ObjectKey.render id ObjectKey.IsText := by
  constructor
  · exact .of_exact WorkKey.parse_eq_ok_iff WorkKey.eq_invalidKey_of_parse WorkKey.eq_of_render_eq
      WorkKey.isText_iff
  · exact .of_exact ObjectKey.parse_eq_ok_iff ObjectKey.eq_invalidKey_of_parse
      ObjectKey.eq_of_render_eq ObjectKey.isText_iff

/-- Only the first colon ends the tag. -/
example : (WorkKey.parse "batch:a:b/c").toOption = some (.batch ⟨"a:b", "c"⟩) := by decide

end BatchOperator
