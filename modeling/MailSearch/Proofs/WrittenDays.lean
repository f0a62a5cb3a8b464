-- Days in their default format: year, month and day as numbers, with slashes between. What is
-- written is read back by taking the text apart at the slashes, so each day has a text of its own.
import MailSearch.Calendar.DateFormat
import MailSearch.Proofs.DayNumbers
import MailSearch.Settings.Basic

namespace MailSearch

/-! ## Numbers in digits -/

theorem Numeral.valueOf_eq (digits : List Char) :
    Numeral.valueOf digits = Nat.ofDigitChars 10 digits 0 := by
  unfold valueOf Nat.ofDigitChars digitValue
  simp only [Nat.mul_comm 10]

namespace DatePart

theorem valueOf_padded (width n : Nat) : Numeral.valueOf (padded '0' width n) = n := by
  rw [Numeral.valueOf_eq, padded, Nat.ofDigitChars_append, Nat.ofDigitChars_replicate_zero,
    Nat.mul_zero, digits, Nat.ofDigitChars_ten_toDigits]

theorem padded_ne_nil (fill : Char) (width n : Nat) : padded fill width n ≠ [] :=
  List.append_ne_nil_of_right_ne_nil _ Nat.toDigits_ne_nil

theorem isDigit_of_mem_padded {width n : Nat} {c : Char} (h : c ∈ padded '0' width n) :
    c.isDigit := by
  rcases List.mem_append.mp h with hzero | hdigit
  · rw [List.eq_of_mem_replicate hzero]
    rfl
  · exact Nat.isDigit_of_mem_toDigits (by decide) (by decide) hdigit

theorem slash_notMem_padded (width n : Nat) : '/' ∉ padded '0' width n := fun h =>
  absurd (isDigit_of_mem_padded h) (by decide)

theorem length_padded_le {width n k : Nat} (hwidth : width ≤ k) (hk : 0 < k) (h : n < 10 ^ k) :
    (padded '0' width n).length ≤ k := by
  have hdigits := (Nat.length_toDigits_le_iff (b := 10) (by decide) hk).mpr h
  unfold padded digits
  rw [List.length_append, List.length_replicate]
  omega

end DatePart

/-! ## The default format -/

namespace DateFormat

/-- A specifier that is nothing but a letter. -/
def Specifier.ofLetter (c : Char) : Specifier := ⟨none, false, false, 0, none, some c, [c]⟩

/-- A letter right behind the percent sign is all of its specifier. -/
theorem read_letter {c : Char} (hmark : Specifier.isMark c = false) (hdigit : c.isDigit = false)
    (hmodifier : Specifier.isModifier c = false) (rest : List Char) :
    Specifier.read (c :: rest) = (.ofLetter c, rest) := by
  unfold Specifier.read
  simp [hmark, hdigit, hmodifier, Option.filter, Specifier.ofLetter, Numeral.valueOf]

theorem pieces_plain {c : Char} (h : c ≠ '%') (rest : List Char) :
    pieces (c :: rest) = .plain c :: pieces rest := by
  rw [pieces, if_neg h]

theorem pieces_percent (rest : List Char) :
    pieces ('%' :: rest) =
      .specifier (Specifier.read rest).1 :: pieces (Specifier.read rest).2 := by
  rw [pieces, if_pos rfl]

theorem pieces_default :
    pieces Setting.dateFormat.default.toList =
      [.specifier (.ofLetter 'Y'), .plain '/', .specifier (.ofLetter 'm'), .plain '/',
        .specifier (.ofLetter 'd')] := by
  have hchars : Setting.dateFormat.default.toList = ['%', 'Y', '/', '%', 'm', '/', '%', 'd'] := rfl
  rw [hchars, pieces_percent, read_letter rfl rfl rfl, pieces_plain (by decide), pieces_percent,
    read_letter rfl rfl rfl, pieces_plain (by decide), pieces_percent, read_letter rfl rfl rfl,
    pieces]

theorem settled_default :
    settled (Setting.dateFormat.default.toList.takeWhile (· ≠ '\x00')) =
      Setting.dateFormat.default.toList := rfl

/-- A letter alone writes a number with as many places as it has at least. -/
theorem write_ofLetter {d : Date} {letter : Char} {n least : Nat} (limit : Nat)
    (h : DatePart.ofLetter? d letter = some (.number n least false)) :
    Piece.write d limit (.specifier (.ofLetter letter)) = DatePart.padded '0' least n := by
  simp only [Piece.write, Specifier.write, Specifier.part?, Specifier.ofLetter, h,
    Specifier.writeNumber]
  simp

/-- The numbers of a day as the default format writes them. -/
def numbers (d : Date) : List (List Char) :=
  [DatePart.padded '0' 1 d.year, DatePart.two d.month, DatePart.two d.day]

theorem length_numbers_le (d : Date) : (['/'].intercalate (numbers d)).length ≤ 10 := by
  obtain ⟨-, hyear, -, hmonth, -, hday⟩ := d.isDate
  have length := daysInMonth_bounds d.year d.month d.isDate.2.2.1 hmonth
  unfold lastYear at hyear
  have year := DatePart.length_padded_le (show 1 ≤ 4 by decide) (by decide)
    (show d.year < 10 ^ 4 by omega)
  have month := DatePart.length_padded_le (show 2 ≤ 2 by decide) (by decide)
    (show d.month < 10 ^ 2 by omega)
  have day := DatePart.length_padded_le (show 2 ≤ 2 by decide) (by decide)
    (show d.day < 10 ^ 2 by omega)
  simp only [numbers, DatePart.two, List.intercalate_cons_cons, List.intercalate_singleton,
    List.length_append, List.length_singleton]
  omega

theorem write_default (d : Date) :
    write d Setting.dateFormat.default.toList = ['/'].intercalate (numbers d) := by
  have hyear (limit : Nat) : Piece.write d limit (.specifier (.ofLetter 'Y')) =
      DatePart.padded '0' 1 d.year := write_ofLetter limit rfl
  have hmonth (limit : Nat) : Piece.write d limit (.specifier (.ofLetter 'm')) =
      DatePart.two d.month := write_ofLetter limit rfl
  have hday (limit : Nat) : Piece.write d limit (.specifier (.ofLetter 'd')) =
      DatePart.two d.day := write_ofLetter limit rfl
  have hslash (limit : Nat) : Piece.write d limit (.plain '/') = ['/'] := rfl
  have hwritten (limit : Nat) :
      (pieces Setting.dateFormat.default.toList).flatMap (Piece.write d limit) =
        ['/'].intercalate (numbers d) := by
    rw [pieces_default]
    simp only [List.flatMap_cons, List.flatMap_nil, hyear, hmonth, hday, hslash, numbers,
      List.intercalate_cons_cons, List.intercalate_singleton, List.append_nil, List.append_assoc]
  have hlimit : limitFor Setting.dateFormat.default.toList.length = 2048 := by decide +kernel
  have hlength := length_numbers_le d
  unfold write
  simp only [settled_default, hwritten, hlimit]
  rw [if_pos (by omega)]

end DateFormat

/-! ## Reading back -/

/-- The number that a run of digits stands for. -/
def number? (s : List Char) : Option Nat :=
  if s ≠ [] ∧ s.all Char.isDigit then some (Numeral.valueOf s) else none

theorem number?_padded (width n : Nat) : number? (DatePart.padded '0' width n) = some n := by
  have hdigits : (DatePart.padded '0' width n).all Char.isDigit = true :=
    List.all_eq_true.mpr fun _ => DatePart.isDigit_of_mem_padded
  rw [number?, if_pos ⟨DatePart.padded_ne_nil _ _ _, hdigits⟩, DatePart.valueOf_padded]

namespace Date

/-- Reads a day: its year, its month and its day of the month as numbers, with slashes between. -/
def read? (text : String) : Option Date :=
  match text.toList.splitOn '/' with
  | [year, month, day] => do ofParts? (← number? year) (← number? month) (← number? day)
  | _ => none

theorem ofParts?_self (d : Date) : ofParts? d.year d.month d.day = some d := dif_pos d.isDate

theorem read?_format (d : Date) : read? (d.format Setting.dateFormat.default) = some d := by
  have hsplit : (['/'].intercalate (DateFormat.numbers d)).splitOn '/' = DateFormat.numbers d := by
    apply List.splitOn_intercalate
    · intro digits hdigits
      simp only [DateFormat.numbers, List.mem_cons, List.not_mem_nil, or_false] at hdigits
      rcases hdigits with rfl | rfl | rfl <;> exact DatePart.slash_notMem_padded _ _
    · exact List.cons_ne_nil _ _
  unfold read? format
  rw [String.toList_ofList, DateFormat.write_default, hsplit]
  simp only [DateFormat.numbers, DatePart.two, number?_padded, Option.bind_eq_bind,
    Option.bind_some, ofParts?_self]

end Date

end MailSearch
