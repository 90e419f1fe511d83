import Timeline.Text.Unicode.Printable
import Timeline.Text.Unicode.GraphemeExtend
/-!
# Quoted text

Messages show a piece of input text between double quotes, so that blanks,
control characters and marks that combine with their neighbours stay visible.
Inside the quotes:

* the quote and the backslash are preceded by a backslash;
* NUL, tab, carriage return and line feed are written `\0`, `\t`, `\r`, `\n`;
* a grapheme extender, and any other character that is not printable, is
  written as a code-point escape: a backslash, `u`, and the code point in
  lowercase hexadecimal without leading zeros between braces;
* every other character stands for itself.
-/

namespace Timeline.Text

open Unicode

/-- The code-point escape of a character. -/
def codePointEscape (c : Char) : List Char :=
  ['\\', 'u', '\x7b'] ++ Nat.toDigits 16 c.toNat ++ ['\x7d']

/-- How one character is written between quotes. -/
def quoteChar (c : Char) : List Char :=
  if c = '\x00' then ['\\', '0']
  else if c = '\t' then ['\\', 't']
  else if c = '\r' then ['\\', 'r']
  else if c = '\n' then ['\\', 'n']
  else if c = '\\' then ['\\', '\\']
  else if c = '"' then ['\\', '"']
  else if isGraphemeExtend c then codePointEscape c
  else if isPrintable c then [c]
  else codePointEscape c

/-- A text between double quotes, with the characters written as `quoteChar` says. -/
def quote (s : String) : String :=
  String.ofList ('"' :: s.toList.flatMap quoteChar ++ ['"'])

end Timeline.Text
