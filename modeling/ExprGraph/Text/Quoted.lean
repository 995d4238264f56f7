/-
  ExprGraph.Text.Quoted

  Texts written between double quotes.  The quote, the backslash and four controls are written as a
  backslash and one letter, every other nonprinting character as `\u`, its code point in lower-case
  hexadecimal between braces, and all else stands for itself.

  A quote inside the written form always follows a backslash, so the first quote that does not is
  the closing one.
-/

import ExprGraph.Text.Nonprinting

namespace ExprGraph.Text

/-- The letter that stands for the character after a backslash, for the six characters with one. -/
def escapeLetter? (c : Char) : Option Char :=
  if c = '\x00' then some '0'
  else if c = '\t' then some 't'
  else if c = '\n' then some 'n'
  else if c = '\r' then some 'r'
  else if c = '"' then some '"'
  else if c = '\\' then some '\\'
  else none

/-- The written form of one character. -/
def quoteChar (c : Char) : List Char :=
  match escapeLetter? c with
  | some letter => ['\\', letter]
  | none =>
    if isNonprinting c then
      '\\' :: 'u' :: '\x7b' :: (Nat.toDigits 16 c.toNat ++ ['\x7d'])
    else [c]

/-- The text between double quotes, each character in its written form. -/
def quote (s : String) : String :=
  String.ofList ('"' :: (s.toList.flatMap quoteChar ++ ['"']))

theorem toList_quote (s : String) :
    (quote s).toList = '"' :: (s.toList.flatMap quoteChar ++ ['"']) := by
  simp [quote]

example : quote "a\t\"b\"" = "\"a\\t\\\"b\\\"\"" := by decide +kernel

end ExprGraph.Text
