import Criteria.Text.Printable

/-! # Quoted text

How a text is written inside a list or a mapping.

* `quoteMark` — the quotation mark chosen for a text;
* `escape` — the form of one character between marks;
* `quoted` — the text with its marks.

Single marks are used unless the text holds one and holds no double mark.  The backslash and the
mark in use are escaped, line breaks and tabs have escapes of their own, and every other character
that is not printable is written by its code point.
-/

namespace Criteria.Text

/-- The quotation mark put around a text. -/
def quoteMark (cs : List Char) : Char :=
  if cs.contains '\'' && !cs.contains '"' then '"' else '\''

/-- The hexadecimal digits of `n`, padded with zeros up to `width`. -/
def hexDigits (width n : Nat) : List Char :=
  let digits := Nat.toDigits 16 n
  List.replicate (width - digits.length) '0' ++ digits

/-- The escape that names a character by its code point, in the shortest form that holds it. -/
def codePointEscape (n : Nat) : List Char :=
  if n < 0x100 then '\\' :: 'x' :: hexDigits 2 n
  else if n < 0x10000 then '\\' :: 'u' :: hexDigits 4 n
  else '\\' :: 'U' :: hexDigits 8 n

/-- The form of a character between two marks. -/
def escape (mark c : Char) : List Char :=
  if c = mark ∨ c = '\\' then ['\\', c]
  else if c = '\n' then ['\\', 'n']
  else if c = '\r' then ['\\', 'r']
  else if c = '\t' then ['\\', 't']
  else if isPrintable c then [c]
  else codePointEscape c.toNat

/-- The characters of a quoted text, marks included. -/
def quotedChars (cs : List Char) : List Char :=
  let mark := quoteMark cs
  mark :: cs.flatMap (escape mark) ++ [mark]

/-- A text between quotation marks. -/
def quoted (s : String) : String :=
  String.ofList (quotedChars s.toList)

end Criteria.Text
