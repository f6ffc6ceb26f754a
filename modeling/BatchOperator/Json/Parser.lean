import BatchOperator.Json.Printer

/-!
# Reading JSON documents

A reader of one JSON document. A text that stops before its document is complete is told apart from
a text that no continuation could mend: a stream of documents passes over the first and reports the
second.
-/

set_option autoImplicit false

namespace BatchOperator.Json

/-- Why a text is no document. -/
inductive ParseFault where
  /-- The text ends inside the document. -/
  | incomplete
  /-- No document starts like this. -/
  | malformed
  deriving DecidableEq, Repr

/-- What a reader leaves: the value and the text behind it. -/
abbrev Reader (α : Type) := List Char → Except ParseFault (α × List Char)

/-- Whether a character may stand between the tokens of a document. -/
def isGap (c : Char) : Bool :=
  c = ' ' || c = '\n' || c = '\r' || c = '\t'

/-- The text behind the blanks in front of it. -/
def skipGap : List Char → List Char
  | [] => []
  | c :: rest => if isGap c then skipGap rest else c :: rest

/-- The value of a hexadecimal digit. -/
def hexValue? (c : Char) : Option Nat :=
  if '0' ≤ c ∧ c ≤ '9' then some (c.toNat - '0'.toNat)
  else if 'a' ≤ c ∧ c ≤ 'f' then some (c.toNat - 'a'.toNat + 10)
  else if 'A' ≤ c ∧ c ≤ 'F' then some (c.toNat - 'A'.toNat + 10)
  else none

/-- The value of four hexadecimal digits. -/
def hex4? (a b c d : Char) : Option Nat := do
  let a ← hexValue? a
  let b ← hexValue? b
  let c ← hexValue? c
  let d ← hexValue? d
  return ((a * 16 + b) * 16 + c) * 16 + d

/-- The character of a one-letter escape. -/
def shortEscape? (c : Char) : Option Char :=
  if c = '"' then some '"'
  else if c = '\\' then some '\\'
  else if c = '/' then some '/'
  else if c = 'b' then some '\x08'
  else if c = 'f' then some '\x0c'
  else if c = 'n' then some '\n'
  else if c = 'r' then some '\r'
  else if c = 't' then some '\t'
  else none

/-- Puts a character in front of what a reader of strings found. -/
def addChar (c : Char) :
    Except ParseFault (List Char × List Char) → Except ParseFault (List Char × List Char)
  | .ok (text, rest) => .ok (c :: text, rest)
  | .error fault => .error fault

/-- The character that the two halves of an escaped code point above the first plane stand for. -/
def joinHalves (high low : Nat) : Char :=
  Char.ofNat (0x10000 + (high - 0xD800) * 0x400 + (low - 0xDC00))

/-- The rest of a string behind its opening quote. A code point above the first plane is written as
two escapes; `half` is the first of them while the second has to follow. -/
def readString (half : Option Nat) : Reader (List Char)
  | [] => .error .incomplete
  | '\\' :: 'u' :: a :: b :: c :: d :: rest =>
    match hex4? a b c d with
    | none => .error .malformed
    | some code =>
      match half with
      -- Only the second half of a pair may follow the first.
      | some high =>
        if 0xDC00 ≤ code ∧ code < 0xE000 then
          addChar (joinHalves high code) (readString none rest)
        else .error .malformed
      | none =>
        if 0xD800 ≤ code ∧ code < 0xDC00 then readString (some code) rest
        else if 0xDC00 ≤ code ∧ code < 0xE000 then .error .malformed
        else addChar (Char.ofNat code) (readString none rest)
  | '\\' :: 'u' :: _ => .error .incomplete
  | ['\\'] => .error .incomplete
  | '\\' :: c :: rest =>
    match half, shortEscape? c with
    | none, some plain => addChar plain (readString none rest)
    | _, _ => .error .malformed
  | c :: rest =>
    if half.isSome then .error .malformed
    else if c = '"' then .ok ([], rest)
    else if c.toNat < 0x20 then .error .malformed
    else addChar c (readString none rest)
termination_by structural text => text

/-- Whether a character is a decimal digit. -/
def isDecimal (c : Char) : Bool := '0' ≤ c && c ≤ '9'

/-- The digits in front of a text and the rest. -/
def spanDigits : List Char → List Char × List Char
  | [] => ([], [])
  | c :: rest =>
    if isDecimal c then
      let (digits, behind) := spanDigits rest
      (c :: digits, behind)
    else ([], c :: rest)

/-- The fault of a text that has something else where a digit has to stand. -/
def missingDigit (text : List Char) : ParseFault :=
  if text.isEmpty then .incomplete else .malformed

/-- The whole part of a number: a zero, or digits that do not start with one. -/
def readWhole (text : List Char) : Except ParseFault (List Char × List Char) :=
  match spanDigits text with
  | ([], behind) => .error (missingDigit behind)
  -- A zero in front of other digits is no number.
  | ('0' :: _ :: _, _) => .error .malformed
  | (digits, behind) => .ok (digits, behind)

/-- The fraction of a number, if it has one. -/
def readFraction : List Char → Except ParseFault (List Char × List Char)
  | '.' :: rest => match spanDigits rest with
    | ([], behind) => .error (missingDigit behind)
    | (digits, behind) => .ok ('.' :: digits, behind)
  | text => .ok ([], text)

/-- The exponent of a number, if it has one. -/
def readExponent : List Char → Except ParseFault (List Char × List Char)
  | [] => .ok ([], [])
  | mark :: rest =>
    if mark = 'e' ∨ mark = 'E' then
      let (sign, unsigned) := match rest with
        | '+' :: behind => (['+'], behind)
        | '-' :: behind => (['-'], behind)
        | _ => ([], rest)
      match spanDigits unsigned with
      | ([], behind) => .error (missingDigit behind)
      | (digits, behind) => .ok (mark :: sign ++ digits, behind)
    else .ok ([], mark :: rest)

/-- The number that decimal digits write. -/
def decimalValue (digits : List Char) : Nat :=
  digits.foldl (fun value c => value * 10 + (c.toNat - '0'.toNat)) 0

/-- A number. It is whole if it has neither fraction nor exponent and is no negative zero. -/
def readNumber (text : List Char) : Except ParseFault (Json × List Char) :=
  let (negative, unsigned) := match text with
    | '-' :: rest => (true, rest)
    | _ => (false, text)
  match readWhole unsigned with
  | .error fault => .error fault
  | .ok (whole, behindWhole) => match readFraction behindWhole with
    | .error fault => .error fault
    | .ok (fraction, behindFraction) => match readExponent behindFraction with
      | .error fault => .error fault
      | .ok (exponent, rest) =>
        let sign := if negative then ['-'] else []
        let value := decimalValue whole
        if fraction.isEmpty ∧ exponent.isEmpty ∧ ¬ (negative ∧ value = 0) then
          .ok (.int (if negative then -(value : Int) else value), rest)
        else .ok (.decimal (String.ofList (sign ++ whole ++ fraction ++ exponent)), rest)

/-- The text behind a fixed word. -/
def readWord : List Char → Reader Unit
  | [], text => .ok ((), text)
  | _ :: _, [] => .error .incomplete
  | w :: word, c :: rest => if w = c then readWord word rest else .error .malformed

/-- A document that is one fixed word. -/
def readKeyword (word : List Char) (value : Json) : Reader Json := fun text =>
  match readWord word text with
  | .ok ((), rest) => .ok (value, rest)
  | .error fault => .error fault

mutual

/-- One document. `fuel` bounds the number of documents and separators still to be read; the length
of the text is enough. -/
def readValue : Nat → Reader Json
  | 0, _ => .error .malformed
  | fuel + 1, text => match skipGap text with
    | [] => .error .incomplete
    | '"' :: rest => match readString none rest with
      | .ok (chars, behind) => .ok (.str (String.ofList chars), behind)
      | .error fault => .error fault
    | '[' :: rest => match skipGap rest with
      | ']' :: behind => .ok (.arr [], behind)
      | behind => match readElements fuel behind with
        | .ok (elements, left) => .ok (.arr elements, left)
        | .error fault => .error fault
    | '\x7b' :: rest => match skipGap rest with
      | '\x7d' :: behind => .ok (.obj [], behind)
      | behind => match readFields fuel behind with
        | .ok (fields, left) => .ok (.obj fields, left)
        | .error fault => .error fault
    | 'n' :: rest => readKeyword ['u', 'l', 'l'] .null rest
    | 't' :: rest => readKeyword ['r', 'u', 'e'] (.bool true) rest
    | 'f' :: rest => readKeyword ['a', 'l', 's', 'e'] (.bool false) rest
    | c :: rest =>
      if c = '-' ∨ isDecimal c then readNumber (c :: rest) else .error .malformed

/-- The elements of an array that is not empty, and its closing bracket. -/
def readElements : Nat → Reader (List Json)
  | 0, _ => .error .malformed
  | fuel + 1, text => match readValue fuel text with
    | .error fault => .error fault
    | .ok (element, behind) => match skipGap behind with
      | [] => .error .incomplete
      | ',' :: rest => match readElements fuel rest with
        | .ok (elements, left) => .ok (element :: elements, left)
        | .error fault => .error fault
      | ']' :: rest => .ok ([element], rest)
      | _ => .error .malformed

/-- The fields of an object that is not empty, and its closing brace. -/
def readFields : Nat → Reader (List (String × Json))
  | 0, _ => .error .malformed
  | fuel + 1, text => match skipGap text with
    | [] => .error .incomplete
    | '"' :: inside => match readString none inside with
      | .error fault => .error fault
      | .ok (key, behindKey) => match skipGap behindKey with
        | [] => .error .incomplete
        | ':' :: valueText => match readValue fuel valueText with
          | .error fault => .error fault
          | .ok (value, behind) => match skipGap behind with
            | [] => .error .incomplete
            | ',' :: rest => match readFields fuel rest with
              | .ok (fields, left) => .ok ((String.ofList key, value) :: fields, left)
              | .error fault => .error fault
            | '\x7d' :: rest => .ok ([(String.ofList key, value)], rest)
            | _ => .error .malformed
        | _ => .error .malformed
    | _ => .error .malformed

end

/-- The document that a text consists of, blanks at either end aside. -/
def parseChars (text : List Char) : Except ParseFault Json :=
  match readValue (text.length + 1) text with
  | .error fault => .error fault
  | .ok (document, rest) => if (skipGap rest).isEmpty then .ok document else .error .malformed

/-- The document that a text consists of, blanks at either end aside. -/
def parse (text : String) : Except ParseFault Json :=
  parseChars text.toList

end BatchOperator.Json
