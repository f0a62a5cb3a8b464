-- Quoted text, as messages show it. A quote mark is chosen that the text lacks where possible,
-- and everything that would not show, or would end the quote, is escaped.
import MailSearch.Text.Printable

namespace MailSearch

namespace Quoted

/-! ## One character -/

/-- The lower-case hexadecimal digits of a number, filled up with zeros to a width. -/
def hex (width n : Nat) : List Char :=
  let digits := Nat.toDigits 16 n
  List.replicate (width - digits.length) '0' ++ digits

/-- The escape of a character that does not print. Its width depends on the size of the
number of the character. -/
def escapeUnprintable (c : Char) : List Char :=
  let n := c.toNat
  if n < 0x100 then '\\' :: 'x' :: hex 2 n
  else if n < 0x10000 then '\\' :: 'u' :: hex 4 n
  else '\\' :: 'U' :: hex 8 n

/-- One character inside quotes of the given mark. -/
def encodeChar (mark c : Char) : List Char :=
  if c = mark ∨ c = '\\' then ['\\', c]
  else if c = '\n' then ['\\', 'n']
  else if c = '\r' then ['\\', 'r']
  else if c = '\t' then ['\\', 't']
  else if isPrintable c then [c]
  else escapeUnprintable c

/-! ## The whole text -/

/-- Single marks, unless the text has a single mark and no double one. -/
def markFor (s : List Char) : Char :=
  if s.contains '\'' && !s.contains '"' then '"' else '\''

/-- A text in its quotes. -/
def encode (s : List Char) : List Char :=
  markFor s :: (s.flatMap (encodeChar (markFor s)) ++ [markFor s])

end Quoted

/-- A text in quotes, as messages show it. -/
def quoted (s : String) : String := String.ofList (Quoted.encode s.toList)

end MailSearch
