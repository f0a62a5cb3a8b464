-- Files of settings. A line binds a name to a value; the value may stand in quotes, and then it
-- may run over several lines. A line that cannot be read is passed over up to its end.
import MailSearch.Text.Blank

namespace MailSearch

namespace EnvFile

/-- A name, and its value if an equals sign stood behind the name. -/
structure Binding where
  name : String
  value : Option String
deriving DecidableEq

/-! ## Lines -/

/-- The text of a file. A byte order mark at the very start is no part of it. -/
def withoutMark : List Char → List Char
  | '\ufeff' :: rest => rest
  | s => s

/-- Every kind of line end as a single line feed. -/
def plainLines : List Char → List Char
  | '\r' :: '\n' :: rest => '\n' :: plainLines rest
  | '\r' :: rest => '\n' :: plainLines rest
  | c :: rest => c :: plainLines rest
  | [] => []

/-- A blank that does not end a line. -/
def isInnerBlank (c : Char) : Bool := isBlank c && c != '\n' && c != '\r'

/-- What follows the end of the current line. -/
def nextLine (s : List Char) : List Char := (s.dropWhile (· ≠ '\n')).drop 1

/-- What follows a line if nothing but blanks and a comment are left of it. -/
def endOfLine? (s : List Char) : Option (List Char) :=
  match s.dropWhile isInnerBlank with
  | [] => some []
  | '\n' :: rest => some rest
  | '#' :: rest => some (nextLine rest)
  | _ => none

/-! ## Names -/

/-- Drops the word `export` and the blanks behind it. -/
def withoutExport (s : List Char) : List Char :=
  match s with
  | 'e' :: 'x' :: 'p' :: 'o' :: 'r' :: 't' :: c :: rest =>
    if isInnerBlank c then rest.dropWhile isInnerBlank else s
  | _ => s

/-- A name ends before an equals sign, a number sign or a blank. -/
def isNameChar (c : Char) : Bool := !isBlank c && c != '=' && c != '#'

/-- Reads a name, plain or in single quotes. It has one character at least. -/
def readName? (s : List Char) : Option (List Char × List Char) :=
  match s with
  | '\'' :: rest =>
    let name := rest.takeWhile (· ≠ '\'')
    match name, rest.drop name.length with
    | _ :: _, '\'' :: behind => some (name, behind)
    | _, _ => none
  | s =>
    let name := s.takeWhile isNameChar
    if name.isEmpty then none else some (name, s.drop name.length)

/-! ## Values -/

/-- Reads up to the closing mark. A backslash takes the next character with it, so a mark behind
one does not close. -/
def readQuoted? (mark : Char) : List Char → Option (List Char × List Char)
  | [] => none
  | '\\' :: c :: rest =>
    (readQuoted? mark rest).map fun (value, behind) => ('\\' :: c :: value, behind)
  | c :: rest =>
    if c = mark then some ([], rest)
    else (readQuoted? mark rest).map fun (value, behind) => (c :: value, behind)

/-- What a letter behind a backslash stands for between single marks. -/
def singleEscape? : Char → Option Char
  | '\\' => some '\\'
  | '\'' => some '\''
  | _ => none

/-- What a letter behind a backslash stands for between double marks. -/
def doubleEscape? : Char → Option Char
  | '\\' => some '\\'
  | '\'' => some '\''
  | '"' => some '"'
  | 'a' => some '\x07'
  | 'b' => some '\x08'
  | 'f' => some '\x0c'
  | 'n' => some '\n'
  | 'r' => some '\r'
  | 't' => some '\t'
  | 'v' => some '\x0b'
  | _ => none

/-- Undoes the escapes. A backslash before any other character stays. -/
def unescape (escape? : Char → Option Char) : List Char → List Char
  | '\\' :: c :: rest =>
    match escape? c with
    | some d => d :: unescape escape? rest
    | none => '\\' :: unescape escape? (c :: rest)
  | c :: rest => c :: unescape escape? rest
  | [] => []

/-- The part of a plain value before a blank run that a number sign follows. -/
def beforeComment : List Char → List Char
  | [] => []
  | c :: rest =>
    if isBlank c ∧ (rest.dropWhile isBlank).head? = some '#' then []
    else c :: beforeComment rest

/-- A plain value ends with its line, or before a comment. Blanks at its ends do not count. -/
def plainValue (line : List Char) : List Char := trim isBlank (beforeComment line)

/-- Reads a value from behind the equals sign, and gives what follows it. -/
def readValue? (s : List Char) : Option (List Char × List Char) :=
  match s.dropWhile isInnerBlank with
  | '\'' :: rest =>
    (readQuoted? '\'' rest).map fun (value, behind) => (unescape singleEscape? value, behind)
  | '"' :: rest =>
    (readQuoted? '"' rest).map fun (value, behind) => (unescape doubleEscape? value, behind)
  | _ =>
    let line := s.takeWhile (· ≠ '\n')
    some (plainValue line, s.drop line.length)

/-! ## Bindings -/

/-- Reads one binding from its name on: the binding or nothing, and where to go on. A line that
breaks off is passed over from the place where it breaks. -/
def readBinding (s : List Char) : Option Binding × List Char :=
  match readName? (withoutExport s) with
  | none => (none, nextLine (withoutExport s))
  | some (name, behind) =>
    let binding (value : Option (List Char)) (rest : List Char) : Option Binding × List Char :=
      match endOfLine? rest with
      | some more => (some ⟨String.ofList name, value.map String.ofList⟩, more)
      | none => (none, nextLine rest)
    match behind.dropWhile isInnerBlank with
    | '=' :: rest =>
      match readValue? rest with
      | some (value, left) => binding (some value) left
      | none => (none, nextLine rest)
    | rest => binding none rest

/-- Reads bindings to the end. Every binding takes a character at least, so as much fuel as there
are characters is enough. -/
def readAll : Nat → List Char → List Binding
  | 0, _ => []
  | fuel + 1, s =>
    match s.dropWhile isBlank with
    | [] => []
    | '#' :: rest => readAll fuel (nextLine rest)
    | s =>
      let (binding, rest) := readBinding s
      binding.toList ++ readAll fuel rest

/-- The bindings of a file, in order. -/
def bindings (text : String) : List Binding :=
  readAll text.length (plainLines (withoutMark text.toList))

/-- Of several bindings of one name the last value counts, in the place of the first. -/
def settled (bs : List Binding) : List Binding :=
  bs.foldl (fun (seen : List Binding) b =>
    if seen.any (·.name = b.name) then seen.map fun old => if old.name = b.name then b else old
    else seen ++ [b]) []

end EnvFile

end MailSearch
