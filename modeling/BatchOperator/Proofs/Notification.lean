import BatchOperator.Notification
import BatchOperator.Proofs.Json.Record

/-!
# Printed notifications

A notification comes back from what is printed for it, in either layout and whatever texts it
carries (`Notification.parse_render`). Without indentation it takes exactly one line: the lines of
an output are the notifications in their order (`PrintingSink.splitOn_outputs`).
-/

set_option autoImplicit false

namespace BatchOperator

open Json

/-! ## Documents -/

theorem ObjectReference.holds_toJson (r : ObjectReference) : Holds ofJson? r.toJson r := by
  apply holds_present
  · simp
  · simp [ofJson?]

theorem NotificationType.ofJson?_render (type : NotificationType) :
    ofJson? (.str type.render) = some type := by
  cases type <;> rfl

namespace Notification

theorem holds_toJson (n : Notification) : Holds ofJson? n.toJson n where
  isWhole := by
    have hinvolved := n.involved.holds_toJson.isWhole
    simp [toJson, IsWhole, HoldWhole, hinvolved]
  ne_null := nofun
  read_eq := by
    have hinvolved := n.involved.holds_toJson.read_eq
    have htype := NotificationType.ofJson?_render n.type
    simp [toJson, ofJson?, record?, Fields.required, Fields.strictDefault, find?, str?, hinvolved,
      htype]

/-! ## Texts -/

/-- A notification comes back from its text. -/
theorem parse_render (pretty : Bool) (n : Notification) :
    (parse (n.render pretty)).toOption.bind ofJson? = some n := by
  have hwhole := n.holds_toJson.isWhole
  have hread := n.holds_toJson.read_eq
  cases pretty with
  | false =>
    have hparse : parse (n.render false) = .ok n.toJson := parse_compact hwhole
    rw [hparse]
    exact hread
  | true =>
    have hparse : parse (n.render true) = .ok n.toJson := parse_indented hwhole
    rw [hparse]
    exact hread

/-- On one line a notification has no control character. -/
theorem space_le_of_mem_render {n : Notification} {c : Char} (h : c ∈ (n.render false).toList) :
    0x20 ≤ c.toNat := by
  have hc : c ∈ compactChars n.toJson := by
    rwa [render, if_neg Bool.false_ne_true, compact, String.toList_ofList] at h
  exact space_le_of_mem_compactChars n.holds_toJson.isWhole c hc

theorem lineFeed_not_mem_render (n : Notification) : '\n' ∉ (n.render false).toList := by
  intro h
  have hspace := space_le_of_mem_render h
  revert hspace
  decide

end Notification

/-! ## Lines -/

/-- Lines that all end in a line feed are what stands between line feeds, with nothing behind the
last one. -/
theorem intercalate_ended (lines : List (List Char)) :
    ['\n'].intercalate (lines ++ [[]]) = lines.flatMap fun line => line ++ ['\n'] := by
  induction lines with
  | nil => rfl
  | cons line rest ih =>
    rw [List.flatMap_cons, ← ih]
    cases rest <;> rw [List.cons_append] <;> exact List.intercalate_cons_cons

/-- Without indentation the lines of an output are the notifications, with nothing behind them. -/
theorem PrintingSink.splitOn_outputs {sink : PrintingSink} (hplain : sink.pretty = false)
    (ns : List Notification) :
    (ns.flatMap fun n => (sink.output n).toList).splitOn '\n' =
      (ns.map fun n => (n.render false).toList) ++ [[]] := by
  have houtput : (ns.flatMap fun n => (sink.output n).toList) =
      ['\n'].intercalate ((ns.map fun n => (n.render false).toList) ++ [[]]) := by
    rw [intercalate_ended, List.flatMap_map]
    simp [output, hplain]
  rw [houtput]
  apply List.splitOn_intercalate
  · intro line hline
    rcases List.mem_append.1 hline with hline | hline
    · obtain ⟨n, -, rfl⟩ := List.mem_map.1 hline
      exact n.lineFeed_not_mem_render
    · rw [List.mem_singleton.1 hline]
      exact List.not_mem_nil
  · exact List.append_ne_nil_of_right_ne_nil _ (List.cons_ne_nil _ _)

/-! ## The result -/

/-- Notifications are printed as one document each. -/
structure Notification.ArePrintedWhole : Prop where
  /-- Without indentation no character is a line feed or another one below the space. -/
  plain : ∀ n : Notification, ∀ c ∈ (n.render false).toList, 0x20 ≤ c.toNat
  /-- Then every notification is a line of its own. -/
  lines : ∀ sink : PrintingSink, sink.pretty = false → ∀ ns : List Notification,
    (ns.flatMap fun n => (sink.output n).toList).splitOn '\n' =
      (ns.map fun n => (n.render false).toList) ++ [[]]
  /-- Either layout is read as a document that holds the notification. -/
  returns : ∀ (n : Notification) (pretty : Bool),
    (parse (n.render pretty)).toOption.bind Notification.ofJson? = some n

/-- Whatever texts they carry, notifications are printed as one document each. -/
theorem Notification.arePrintedWhole : Notification.ArePrintedWhole where
  plain _ _ := space_le_of_mem_render
  lines _ hplain ns := PrintingSink.splitOn_outputs hplain ns
  returns n pretty := parse_render pretty n

end BatchOperator
