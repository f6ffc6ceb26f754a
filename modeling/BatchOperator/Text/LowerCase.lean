import BatchOperator.Text.LowerCase.Table

/-!
# Lower case

The full lower-case form of a text: the simple mapping of each character, the one character whose
lower-case form is two characters long, and the capital sigma, which takes its final form at the
end of a word.
-/

set_option autoImplicit false

namespace BatchOperator.Text

/-- Whether a code point lies in one of the given ranges. -/
def inRanges (ranges : List (Nat × Nat)) (code : Nat) : Bool :=
  ranges.any fun range => range.1 ≤ code && code ≤ range.2

/-- The simple lower-case form of a character. -/
def lowerChar (c : Char) : Char :=
  let code := c.toNat
  match lowerRuns.find? fun (first, last, step, _) =>
      first ≤ code && code ≤ last && (code - first) % step == 0 with
  | some (_, _, _, shift) => Char.ofNat ((code : Int) + shift).toNat
  | none => c

/-- Whether the nearest character of `text` that is not ignored next to a sigma is cased. -/
def startsCased (text : List Char) : Bool :=
  match text.dropWhile fun c => inRanges caseIgnorableRanges c.toNat with
  | c :: _ => inRanges casedRanges c.toNat
  | [] => false

/-- The lower-case form of `text`, given the characters before it in reverse order. -/
def lowerAfter (before : List Char) : List Char → List Char
  | [] => []
  | c :: rest =>
    let lowered :=
      -- A sigma is final when a letter comes before it and none follows.
      if c = 'Σ' then
        if startsCased before && !startsCased rest then ['ς'] else ['σ']
      else if c = 'İ' then ['i', Char.ofNat 0x307]
      else [lowerChar c]
    lowered ++ lowerAfter (c :: before) rest

/-- The lower-case form of a text. -/
def lowerCase (text : List Char) : List Char :=
  lowerAfter [] text

end BatchOperator.Text
