-- Date formats. A percent sign begins a specifier, which stands for a part of the date; every
-- other character stands for itself. Between the percent sign and the letter of a specifier there
-- may be marks that choose the filling and the case, a width, and a modifier.
import MailSearch.Calendar.DatePart
import MailSearch.Numeral
import MailSearch.Text.Capital

namespace MailSearch

namespace DateFormat

/-! ## Specifiers -/

/-- What stands behind a percent sign. -/
structure Specifier where
  /-- The last of the marks for the filling: blanks, zeros or nothing before a number. -/
  filling : Option Char
  /-- Is there the first mark for the case? -/
  raised : Bool
  /-- Is there the second mark for the case? -/
  changed : Bool
  width : Nat
  modifier : Option Char
  /-- A format may end before the letter. -/
  letter : Option Char
  /-- All that was read, as it stands in the format. -/
  source : List Char

namespace Specifier

def isFilling (c : Char) : Bool := c == '_' || c == '-' || c == '0'

def isMark (c : Char) : Bool := isFilling c || c == '^' || c == '#'

def isModifier (c : Char) : Bool := c == 'E' || c == 'O'

/-- Reads a specifier, and gives what follows it. -/
def read (s : List Char) : Specifier × List Char :=
  let marks := s.takeWhile isMark
  let digits := (s.drop marks.length).takeWhile Char.isDigit
  let fromModifier := s.drop (marks.length + digits.length)
  let modifier := fromModifier.head?.filter isModifier
  let fromLetter := fromModifier.drop modifier.toList.length
  (⟨(marks.filter isFilling).getLast?, marks.contains '^', marks.contains '#',
    Numeral.valueOf digits, modifier, fromLetter.head?,
    s.take (marks.length + digits.length + modifier.toList.length + 1)⟩, fromLetter.drop 1)

theorem length_read (s : List Char) : (read s).2.length ≤ s.length := by
  simp only [read, List.length_drop]; omega

/-- May a modifier stand before a letter? In this calendar it changes nothing where it may. -/
def allows (modifier letter : Char) : Bool :=
  if modifier = 'E' then "CcnPpRrsTtuXxYyZz".toList.contains letter
  else "BbCdeGgHhIjklMmnPpRrSsTtUuVWwyZz".toList.contains letter

/-- The part of the date that a specifier stands for, if it stands for one. -/
def part? (d : Date) (p : Specifier) : Option DatePart :=
  match p.letter, p.modifier with
  | none, _ => none
  | some letter, none => DatePart.ofLetter? d letter
  | some letter, some modifier =>
    if allows modifier letter then DatePart.ofLetter? d letter else none

/-! ## Writing a part -/

/-- Fills a text up to the width. -/
def fill (p : Specifier) (s : List Char) : List Char :=
  List.replicate (p.width - s.length) (if p.filling = some '0' then '0' else ' ') ++ s

/-- Changes the case of the letters as the marks ask. -/
def cased (p : Specifier) (rule : CaseRule) (s : List Char) : List Char :=
  match rule with
  | .fixed => s
  | .half =>
    if p.changed then s.map Char.toLower else if p.raised then s.map capital else s
  | .name => if p.changed ∨ p.raised then s.map capital else s
  | .plain => if p.raised then s.map capital else s

/-- Writes a number. A mark against filling leaves blanks only where the width asks for them. -/
def writeNumber (p : Specifier) (n least : Nat) (blanks : Bool) : List Char :=
  if p.filling = some '-' then p.fill (DatePart.digits n)
  else
    let blank := p.filling = some '_' ∨ (blanks ∧ p.filling = none)
    DatePart.padded (if blank then ' ' else '0') (max least p.width) n

/-- A specifier that stands for no part of the date stands for itself, from its last percent sign
on. Before the short name of a month the second mark for the case counts as the first one. -/
def writeItself (p : Specifier) : List Char :=
  let rule : CaseRule := if p.letter = some 'b' ∨ p.letter = some 'h' then .name else .plain
  p.fill (p.cased rule (if p.letter = some '%' then ['%'] else '%' :: p.source))

/-- Writes the part of a date that a specifier stands for. -/
def write (d : Date) (p : Specifier) : List Char :=
  match p.part? d with
  | some (.number n least blanks) => p.writeNumber n least blanks
  | some (.text s rule) => p.fill (p.cased rule s)
  | some .zoneName => if p.filling = some '-' then [] else p.fill []
  | some .nothing => []
  | none => p.writeItself

end Specifier

/-! ## Pieces of a format -/

/-- A piece of a format: a character that stands for itself, or a specifier. -/
inductive Piece where
  | plain (c : Char)
  | specifier (p : Specifier)

/-- The pieces of a format, in order. -/
def pieces (s : List Char) : List Piece :=
  match s with
  | [] => []
  | c :: rest =>
    have := Specifier.length_read rest
    if c = '%' then .specifier (Specifier.read rest).1 :: pieces (Specifier.read rest).2
    else .plain c :: pieces rest
termination_by s.length

/-- Writes a piece. A width beyond the limit is as good as the limit. -/
def Piece.write (d : Date) (limit : Nat) : Piece → List Char
  | .plain c => [c]
  | .specifier p => { p with width := min p.width limit }.write d

/-! ## Whole formats -/

/-- Puts in what does not depend on the date: midnight has no millionths, and there is no zone. A
percent sign takes the next character with it. -/
def settled : List Char → List Char
  | '%' :: c :: rest =>
    if c = 'z' ∨ c = 'Z' then settled rest
    else if c = 'f' then "000000".toList ++ settled rest
    else '%' :: c :: settled rest
  | c :: rest => c :: settled rest
  | [] => []

/-- What is written has to stay below this length. The limit doubles from 1024 on until it has room
for 256 characters for each one of the format. -/
def limitFor (length : Nat) : Nat :=
  if 256 * length ≤ 1024 then 1024 else 1024 * Nat.pow 2 (((256 * length - 1) / 1024).log2 + 1)

/-- Writes a date. A format ends at its first null character. What grows over the limit is dropped
as a whole. -/
def write (d : Date) (format : List Char) : List Char :=
  let format := settled (format.takeWhile (· ≠ '\x00'))
  let limit := limitFor format.length
  let written := (pieces format).flatMap (Piece.write d limit)
  if written.length < limit then written else []

end DateFormat

/-- A date in a format. -/
def Date.format (d : Date) (format : String) : String :=
  String.ofList (DateFormat.write d format.toList)

end MailSearch
