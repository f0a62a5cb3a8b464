-- Sequences of octets, as messages show them. An octet shows as the plain character of its number
-- where there is one.
import MailSearch.Text.Blank
import MailSearch.Text.Quoted

namespace MailSearch

namespace Octets

/-- The plain character of an octet. -/
def char (octet : UInt8) : Char := Char.ofNat octet.toNat

/-- The six blanks among the plain characters. -/
def isBlank (octet : UInt8) : Bool := " \t\n\r\x0b\x0c".toList.contains (char octet)

/-- One octet inside quotes of the given mark. -/
def encodeOctet (mark : Char) (octet : UInt8) : List Char :=
  if octet < 0x80 then Quoted.encodeChar mark (char octet)
  else '\\' :: 'x' :: Quoted.hex 2 octet.toNat

/-- Octets in quotes, behind the letter that tells them from text. -/
def written (octets : List UInt8) : String :=
  let mark := Quoted.markFor (octets.map char)
  String.ofList ('b' :: mark :: (octets.flatMap (encodeOctet mark) ++ [mark]))

end Octets

end MailSearch
