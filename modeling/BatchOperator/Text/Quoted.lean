import BatchOperator.Text.LowerCase
import BatchOperator.Text.Quoted.Table

/-!
# Quoted text in diagnostics

Text between double quotes, as diagnostics show it: quotes, backslashes and the common controls
have short escapes, every other character without a visible form of its own is written by its code
point, and all else stands for itself.
-/

set_option autoImplicit false

namespace BatchOperator.Text

/-- The lower-case hexadecimal digits of a number, without leading zeros. -/
def hexadecimal (n : Nat) : List Char :=
  Nat.toDigits 16 n

/-- Whether a character is shown by its code point inside quotes. -/
def isHidden (c : Char) : Bool :=
  if 0x20 ≤ c.toNat && c.toNat < 0x7F then false
  else inRanges extendingRanges c.toNat || inRanges unprintableRanges c.toNat

/-- A character as it is written inside double quotes. -/
def quotedChar (c : Char) : List Char :=
  if c = Char.ofNat 0 then ['\\', '0']
  else if c = '\t' then ['\\', 't']
  else if c = '\r' then ['\\', 'r']
  else if c = '\n' then ['\\', 'n']
  else if c = '\\' then ['\\', '\\']
  else if c = '"' then ['\\', '"']
  else if isHidden c then ['\\', 'u', '\x7b'] ++ hexadecimal c.toNat ++ ['\x7d']
  else [c]

/-- A text between double quotes. -/
def quoted (text : String) : String :=
  String.ofList ('"' :: text.toList.flatMap quotedChar ++ ['"'])

end BatchOperator.Text
