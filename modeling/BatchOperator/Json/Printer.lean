import BatchOperator.Json.Basic
import BatchOperator.Text.Split

/-!
# Writing JSON documents

Two layouts: `compact` puts a document on one line without blanks, `indented` puts every element and
field on a line of its own, two blanks deeper than the bracket around it. Strings escape quotes,
backslashes and the characters below the space; every other character stands for itself.
-/

set_option autoImplicit false

namespace BatchOperator.Json

/-- A hexadecimal digit below sixteen. -/
def hexDigit (d : Nat) : Char :=
  if d < 10 then Char.ofNat ('0'.toNat + d) else Char.ofNat ('a'.toNat + (d - 10))

/-- A character as it is written inside a string. -/
def escaped (c : Char) : List Char :=
  if c = '"' then ['\\', '"']
  else if c = '\\' then ['\\', '\\']
  else if c = '\x08' then ['\\', 'b']
  else if c = '\x0c' then ['\\', 'f']
  else if c = '\n' then ['\\', 'n']
  else if c = '\r' then ['\\', 'r']
  else if c = '\t' then ['\\', 't']
  else if c.toNat < 0x20 then
    ['\\', 'u', '0', '0', hexDigit (c.toNat / 16), hexDigit (c.toNat % 16)]
  else [c]

/-- The characters of a string between its quotes, and the closing quote. -/
def stringTail : List Char → List Char
  | [] => ['"']
  | c :: rest => escaped c ++ stringTail rest

/-- A string with its quotes. -/
def stringChars (text : String) : List Char :=
  '"' :: stringTail text.toList

mutual

/-- The characters of a document on one line. -/
def compactChars : Json → List Char
  | .null => ['n', 'u', 'l', 'l']
  | .bool true => ['t', 'r', 'u', 'e']
  | .bool false => ['f', 'a', 'l', 's', 'e']
  | .int value => (toString value).toList
  | .decimal literal => literal.toList
  | .str text => stringChars text
  | .arr elements => '[' :: compactElements elements ++ [']']
  | .obj fields => '\x7b' :: compactFields fields ++ ['\x7d']

/-- The elements of an array with commas between them. -/
def compactElements : List Json → List Char
  | [] => []
  | [element] => compactChars element
  | element :: next :: rest => compactChars element ++ ',' :: compactElements (next :: rest)

/-- The fields of an object with commas between them. -/
def compactFields : List (String × Json) → List Char
  | [] => []
  | [(key, value)] => stringChars key ++ ':' :: compactChars value
  | (key, value) :: next :: rest =>
    stringChars key ++ ':' :: compactChars value ++ ',' :: compactFields (next :: rest)

end

/-- A line feed and the indentation of the given depth. -/
def newLine (depth : Nat) : List Char :=
  '\n' :: List.replicate (2 * depth) ' '

mutual

/-- The characters of a document in the indented layout, below `depth` brackets. -/
def indentedChars (depth : Nat) : Json → List Char
  | .arr [] => ['[', ']']
  | .arr (element :: rest) =>
    '[' :: indentedElements depth (element :: rest) ++ newLine depth ++ [']']
  | .obj [] => ['\x7b', '\x7d']
  | .obj (field :: rest) =>
    '\x7b' :: indentedFields depth (field :: rest) ++ newLine depth ++ ['\x7d']
  | .null => ['n', 'u', 'l', 'l']
  | .bool true => ['t', 'r', 'u', 'e']
  | .bool false => ['f', 'a', 'l', 's', 'e']
  | .int value => (toString value).toList
  | .decimal literal => literal.toList
  | .str text => stringChars text

/-- The elements of an array below `depth` brackets, each on its own line. -/
def indentedElements (depth : Nat) : List Json → List Char
  | [] => []
  | [element] => newLine (depth + 1) ++ indentedChars (depth + 1) element
  | element :: next :: rest =>
    newLine (depth + 1) ++ indentedChars (depth + 1) element ++
      ',' :: indentedElements depth (next :: rest)

/-- The fields of an object below `depth` brackets, each on its own line. -/
def indentedFields (depth : Nat) : List (String × Json) → List Char
  | [] => []
  | [(key, value)] =>
    newLine (depth + 1) ++ stringChars key ++ ':' :: ' ' :: indentedChars (depth + 1) value
  | (key, value) :: next :: rest =>
    newLine (depth + 1) ++ stringChars key ++ ':' :: ' ' :: indentedChars (depth + 1) value ++
      ',' :: indentedFields depth (next :: rest)

end

/-- A document on one line, without blanks. -/
def compact (document : Json) : String :=
  String.ofList (compactChars document)

/-- A document with every element and field on its own line. -/
def indented (document : Json) : String :=
  String.ofList (indentedChars 0 document)

mutual

/-- A document with the fields of every object in the order of their names. -/
def ordered : Json → Json
  | .arr elements => .arr (orderedElements elements)
  | .obj fields => .obj ((orderedFields fields).mergeSort fun a b => decide (a.1 ≤ b.1))
  | other => other

/-- Elements with their objects in order. -/
def orderedElements : List Json → List Json
  | [] => []
  | element :: rest => ordered element :: orderedElements rest

/-- Fields with the objects in their values in order. -/
def orderedFields : List (String × Json) → List (String × Json)
  | [] => []
  | (key, value) :: rest => (key, ordered value) :: orderedFields rest

end

end BatchOperator.Json
