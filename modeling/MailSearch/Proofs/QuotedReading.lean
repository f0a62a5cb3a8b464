-- Quoted text reads back. Between its marks a quoted text is one piece for each character: the
-- character itself, a backslash with one character, or a backslash with a letter that says how many
-- digits follow. So a reader that goes from left to right always knows which piece it is in, and
-- never takes a backslash of the text for one of the quoting.
import Mathlib.Algebra.Group.Nat.Defs
import MailSearch.Text.Quoted

namespace MailSearch

namespace Quoted

/-! ## Hexadecimal digits -/

/-- The number that a lower-case hexadecimal digit stands for. -/
def digitValue (c : Char) : Nat :=
  if c.isDigit then c.toNat - '0'.toNat else c.toNat - 'a'.toNat + 10

/-- A number with one more digit behind its own. -/
def withDigit (n : Nat) (c : Char) : Nat := 16 * n + digitValue c

/-- The number that hexadecimal digits stand for. -/
def numberOf (digits : List Char) : Nat := digits.foldl withDigit 0

theorem digitValue_digitChar {d : Nat} (h : d < 16) : digitValue d.digitChar = d := by
  have hall : ∀ d < 16, digitValue (Nat.digitChar d) = d := by decide
  exact hall d h

theorem numberOf_concat (digits : List Char) (c : Char) :
    numberOf (digits ++ [c]) = 16 * numberOf digits + digitValue c := by
  rw [numberOf, List.foldl_append]
  rfl

theorem numberOf_toDigits (n : Nat) : numberOf (Nat.toDigits 16 n) = n := by
  induction n using Nat.strongRecOn with
  | ind n ih =>
    rcases Nat.lt_or_ge n 16 with hsmall | hlarge
    · have hone : numberOf [n.digitChar] = 16 * 0 + digitValue n.digitChar := rfl
      rw [Nat.toDigits_of_lt_base hsmall, hone, digitValue_digitChar hsmall]
      omega
    · have hlast : n % 16 < 16 := Nat.mod_lt n (by decide)
      rw [Nat.toDigits_of_base_le (by decide) hlarge, numberOf_concat, ih (n / 16) (by omega),
        digitValue_digitChar hlast]
      omega

theorem numberOf_zeros (count : Nat) (digits : List Char) :
    numberOf (List.replicate count '0' ++ digits) = numberOf digits := by
  induction count with
  | zero => rfl
  | succ count ih => exact ih

theorem numberOf_hex (width n : Nat) : numberOf (hex width n) = n := by
  rw [hex, numberOf_zeros, numberOf_toDigits]

/-- A number that fits into a width fills it. -/
theorem length_hex {width n : Nat} (hwidth : 0 < width) (h : n < 16 ^ width) :
    (hex width n).length = width := by
  have hfits : (Nat.toDigits 16 n).length ≤ width :=
    (Nat.length_toDigits_le_iff (by decide) hwidth).mpr h
  rw [hex, List.length_append, List.length_replicate]
  omega

/-! ## The reader -/

/-- Where a reader is in a quoted text. -/
inductive Place where
  | between
  /-- Right behind a backslash. -/
  | escaped
  /-- In front of some digits, with the number that those before them make. -/
  | inDigits (left number : Nat)

/-- The number of digits that a letter behind a backslash announces. -/
def digitsBehind : Char → Option Nat
  | 'x' => some 2
  | 'u' => some 4
  | 'U' => some 8
  | _ => none

/-- What a backslash with a character behind it stands for, if no digits follow. -/
def escapeMeaning : Char → Char
  | 'n' => '\n'
  | 'r' => '\r'
  | 't' => '\t'
  | c => c

/-- The text up to the closing mark. Nothing may stand behind that mark. -/
def readFrom (mark : Char) : Place → List Char → Option (List Char)
  | _, [] => none
  | .between, c :: rest =>
    if c = mark then if rest.isEmpty then some [] else none
    else if c = '\\' then readFrom mark .escaped rest
    else (readFrom mark .between rest).map (c :: ·)
  | .escaped, c :: rest =>
    match digitsBehind c with
    | some count => readFrom mark (.inDigits count 0) rest
    | none => (readFrom mark .between rest).map (escapeMeaning c :: ·)
  | .inDigits left number, c :: rest =>
    if left ≤ 1 then
      (readFrom mark .between rest).map (Char.ofNat (withDigit number c) :: ·)
    else readFrom mark (.inDigits (left - 1) (withDigit number c)) rest

/-- The text of which this is the quoted form. The first character is the mark. -/
def read : List Char → Option (List Char)
  | [] => none
  | mark :: rest => readFrom mark .between rest

/-! ## One piece -/

section Piece

variable {mark : Char} {rest : List Char}

theorem readFrom_mark : readFrom mark .between [mark] = some [] := by
  rw [readFrom, if_pos rfl]
  rfl

theorem readFrom_plain {c : Char} (hmark : c ≠ mark) (hslash : c ≠ '\\') :
    readFrom mark .between (c :: rest) = (readFrom mark .between rest).map (c :: ·) := by
  rw [readFrom, if_neg hmark, if_neg hslash]

theorem readFrom_escape {c : Char} (hmark : mark ≠ '\\') :
    readFrom mark .between ('\\' :: c :: rest) = readFrom mark .escaped (c :: rest) := by
  rw [readFrom, if_neg (Ne.symm hmark), if_pos rfl]

/-- A backslash and one character, where no digits follow. -/
theorem readFrom_short {c : Char} (hmark : mark ≠ '\\') (hdigits : digitsBehind c = none) :
    readFrom mark .between ('\\' :: c :: rest) =
      (readFrom mark .between rest).map (escapeMeaning c :: ·) := by
  rw [readFrom_escape hmark, readFrom, hdigits]

/-- As many digits as were announced make one character. -/
theorem readFrom_inDigits {digits : List Char} (number : Nat) (h : digits ≠ []) :
    readFrom mark (.inDigits digits.length number) (digits ++ rest) =
      (readFrom mark .between rest).map (Char.ofNat (digits.foldl withDigit number) :: ·) := by
  induction digits generalizing number with
  | nil => exact absurd rfl h
  | cons d more ih =>
    rw [List.cons_append, readFrom]
    by_cases hlast : more = []
    · subst hlast
      rfl
    · have hleft : ¬ (d :: more).length ≤ 1 := by
        have := List.length_pos_iff.mpr hlast
        rw [List.length_cons]
        omega
      rw [if_neg hleft]
      exact ih (withDigit number d) hlast

/-- A backslash, a letter and the digits that it announces. -/
theorem readFrom_long {letter : Char} {width : Nat} {c : Char} (hmark : mark ≠ '\\')
    (hletter : digitsBehind letter = some width) (hwidth : 0 < width)
    (hfits : c.toNat < 16 ^ width) :
    readFrom mark .between ('\\' :: letter :: hex width c.toNat ++ rest) =
      (readFrom mark .between rest).map (c :: ·) := by
  have hlength : (hex width c.toNat).length = width := length_hex hwidth hfits
  have hdigits : hex width c.toNat ≠ [] := List.length_pos_iff.mp (by omega)
  have hread := @readFrom_inDigits mark rest _ 0 hdigits
  have hvalue : (hex width c.toNat).foldl withDigit 0 = c.toNat := numberOf_hex width c.toNat
  rw [hlength, hvalue, Char.ofNat_toNat] at hread
  rw [List.cons_append, List.cons_append, readFrom_escape hmark, readFrom, hletter]
  exact hread

theorem readFrom_unprintable (c : Char) (hmark : mark ≠ '\\') :
    readFrom mark .between (escapeUnprintable c ++ rest) =
      (readFrom mark .between rest).map (c :: ·) := by
  unfold escapeUnprintable
  by_cases htwo : c.toNat < 0x100
  · rw [if_pos htwo]
    exact readFrom_long hmark rfl (by decide) htwo
  by_cases hfour : c.toNat < 0x10000
  · rw [if_neg htwo, if_pos hfour]
    exact readFrom_long hmark rfl (by decide) hfour
  · have hlong : c.toNat < 16 ^ 8 := c.val.toNat_lt
    rw [if_neg htwo, if_neg hfour]
    exact readFrom_long hmark rfl (by decide) hlong

/-- The piece of a character reads as this character, whatever stands behind it. -/
theorem readFrom_encodeChar (c : Char) (hmark : mark = '\'' ∨ mark = '"') :
    readFrom mark .between (encodeChar mark c ++ rest) =
      (readFrom mark .between rest).map (c :: ·) := by
  have hslash : mark ≠ '\\' := by rcases hmark with rfl | rfl <;> decide
  unfold encodeChar
  by_cases hself : c = mark ∨ c = '\\'
  · rw [if_pos hself]
    rcases hself with rfl | rfl
    · rcases hmark with rfl | rfl <;> exact readFrom_short hslash rfl
    · exact readFrom_short hslash rfl
  rw [if_neg hself]
  by_cases hline : c = '\n'
  · subst hline
    exact readFrom_short hslash rfl
  by_cases hreturn : c = '\r'
  · subst hreturn
    exact readFrom_short hslash rfl
  by_cases htab : c = '\t'
  · subst htab
    exact readFrom_short hslash rfl
  rw [if_neg hline, if_neg hreturn, if_neg htab]
  by_cases hprint : isPrintable c
  · rw [if_pos hprint]
    exact readFrom_plain (fun h => hself (.inl h)) (fun h => hself (.inr h))
  · rw [if_neg hprint]
    exact readFrom_unprintable c hslash

end Piece

/-! ## The whole text -/

theorem markFor_eq (s : List Char) : markFor s = '\'' ∨ markFor s = '"' := by
  unfold markFor
  split
  · exact .inr rfl
  · exact .inl rfl

theorem read_encode (s : List Char) : read (encode s) = some s := by
  -- The mark depends on the whole text, so the induction is on its pieces, with the mark fixed.
  have hpieces : ∀ pieces : List Char,
      readFrom (markFor s) .between (pieces.flatMap (encodeChar (markFor s)) ++ [markFor s]) =
        some pieces := by
    intro pieces
    induction pieces with
    | nil => exact readFrom_mark
    | cons c more ih =>
      rw [List.flatMap_cons, List.append_assoc, readFrom_encodeChar c (markFor_eq s), ih,
        Option.map_some]
  exact hpieces s

end Quoted

/-- The text of which this is the quoted form. -/
def unquoted? (s : String) : Option String := (Quoted.read s.toList).map String.ofList

theorem unquoted?_quoted (s : String) : unquoted? (quoted s) = some s := by
  rw [unquoted?, quoted, String.toList_ofList, Quoted.read_encode, Option.map_some,
    String.ofList_toList]

/-- A backslash before a letter, and the line end that such a pair stands for in quotes. -/
example : unquoted? (quoted "\\n") = some "\\n" ∧ unquoted? (quoted "\n") = some "\n" := by
  decide +kernel

end MailSearch
