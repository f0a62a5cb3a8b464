-- Blank characters. One table holds the white space of the character standard; the blanks of
-- plain text are these and the four separators of the control block.

namespace MailSearch

/-! ## The two sets -/

/-- The characters that the standard calls white space. -/
def isWhiteSpace (c : Char) : Bool :=
  let n := c.toNat
  decide (0x09 ≤ n ∧ n ≤ 0x0d) || n == 0x20 || n == 0x85 || n == 0xa0 || n == 0x1680
    || decide (0x2000 ≤ n ∧ n ≤ 0x200a) || n == 0x2028 || n == 0x2029 || n == 0x202f
    || n == 0x205f || n == 0x3000

/-- White space, or one of the separators U+001C to U+001F. -/
def isBlank (c : Char) : Bool := isWhiteSpace c || decide (0x1c ≤ c.toNat ∧ c.toNat ≤ 0x1f)

theorem isBlank_of_isWhiteSpace {c : Char} (h : isWhiteSpace c = true) : isBlank c = true := by
  simp [isBlank, h]

/-! ## Trimming -/

/-- A list without the members of a class at its end. -/
def trimRight (drop : α → Bool) (s : List α) : List α :=
  (s.reverse.dropWhile drop).reverse

/-- A list without the members of a class at both ends. What stands between stays. -/
def trim (drop : α → Bool) (s : List α) : List α :=
  trimRight drop (s.dropWhile drop)

end MailSearch
