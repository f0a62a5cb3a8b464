-- Message templates. A percent sign begins a directive: a name in brackets or none, marks, a width,
-- a precision, and a letter that says how an argument is written. Either size may be an argument
-- itself.
import MailSearch.Log.Form

namespace MailSearch

/-! ## Arguments -/

/-- The arguments of a message: none, the fields of a record by name, or values in order. -/
inductive Arguments where
  | none
  | named (fields : Fields)
  | inOrder (values : List Value)

/-- A single record that has fields gives its fields as arguments. -/
def Arguments.ofList : List Value → Arguments
  | [] => .none
  | [.record (field :: fields)] => .named (field :: fields)
  | values => .inOrder values

def Arguments.isNamed : Arguments → Bool
  | .named _ => true
  | _ => false

/-! ## Directives -/

/-- A width or a precision: a number that stands in the template, or the next argument. -/
inductive Size where
  | fixed (n : Nat)
  | argument

/-- A directive after its percent sign. -/
structure Directive where
  name : Option String
  marks : List Char
  width : Option Size
  precision : Option Size
  letter : Char

namespace Directive

/-- Reads up to the bracket that closes as many open ones, and gives what follows it. Brackets
inside a name come in pairs. -/
def readName : Nat → List Char → List Char × List Char
  | _, [] => ([], [])
  | 0, ')' :: rest => ([], rest)
  | depth + 1, ')' :: rest =>
    match readName depth rest with
    | (name, behind) => (')' :: name, behind)
  | depth, c :: rest =>
    match readName (if c = '(' then depth + 1 else depth) rest with
    | (name, behind) => (c :: name, behind)

theorem length_readName (depth : Nat) (s : List Char) :
    (readName depth s).2.length ≤ s.length := by
  fun_induction readName depth s <;> grind

/-- The name in brackets at the start of a directive, and what follows it. -/
def splitName : List Char → Option String × List Char
  | '(' :: rest =>
    match readName 0 rest with
    | (name, behind) => (some (String.ofList name), behind)
  | s => (none, s)

theorem length_splitName (s : List Char) : (splitName s).2.length ≤ s.length := by
  unfold splitName
  split
  · rename_i rest
    have := length_readName 0 rest
    simp only [List.length_cons]; omega
  · simp

/-- The size at the start of a text, and what follows it. -/
def splitSize : List Char → Option Size × List Char
  | '*' :: rest => (some .argument, rest)
  | s =>
    let digits := s.takeWhile Char.isDigit
    (if digits.isEmpty then none else some (.fixed (Numeral.valueOf digits)), s.drop digits.length)

theorem length_splitSize (s : List Char) : (splitSize s).2.length ≤ s.length := by
  unfold splitSize
  split <;> simp

/-- The precision behind a point, and what follows it. A point alone asks for no places. -/
def splitPrecision : List Char → Option Size × List Char
  | '.' :: rest => (some ((splitSize rest).1.getD (.fixed 0)), (splitSize rest).2)
  | s => (none, s)

theorem length_splitPrecision (s : List Char) : (splitPrecision s).2.length ≤ s.length := by
  unfold splitPrecision
  split
  · rename_i rest
    have := length_splitSize rest
    simp only [List.length_cons]; omega
  · simp

def isMark (c : Char) : Bool := "-+ #0".toList.contains c

/-- Letters that stand for the length of a number. One of them may stand before the letter of a
directive, and means nothing. -/
def isLength (c : Char) : Bool := "hlL".toList.contains c

/-- Drops one letter for the length of a number. -/
def withoutLength : List Char → List Char
  | c :: rest => if isLength c then rest else c :: rest
  | [] => []

theorem length_withoutLength (s : List Char) : (withoutLength s).length ≤ s.length := by
  unfold withoutLength
  split
  · split <;> simp
  · simp

/-- Reads a directive, and gives the characters behind it. -/
def read? (s : List Char) : Option (Directive × List Char) :=
  let named := splitName s
  let marks := named.2.takeWhile isMark
  let sized := splitSize (named.2.drop marks.length)
  let precise := splitPrecision sized.2
  match withoutLength precise.2 with
  | [] => none
  | letter :: rest => some (⟨named.1, marks, sized.1, precise.1, letter⟩, rest)

theorem length_lt_of_read? {s rest : List Char} {d : Directive} (h : read? s = some (d, rest)) :
    rest.length < s.length := by
  unfold read? at h
  simp only at h
  split at h
  · simp at h
  · rename_i letter rest' heq
    simp only [Option.some.injEq, Prod.mk.injEq] at h
    have hname := length_splitName s
    have hsize := length_splitSize ((splitName s).2.drop ((splitName s).2.takeWhile isMark).length)
    have hprecision := length_splitPrecision
      (splitSize ((splitName s).2.drop ((splitName s).2.takeWhile isMark).length)).2
    have hlength := length_withoutLength (splitPrecision
      (splitSize ((splitName s).2.drop ((splitName s).2.takeWhile isMark).length)).2).2
    rw [heq, h.2] at hlength
    simp only [List.length_drop, List.length_cons] at *
    omega

/-! ## Sizes -/

/-- A size may not be larger than this. -/
def largestSize : Nat := 2147483647

/-- The number that a size stands for, and the values that are left then. -/
def sizeFrom? (size : Option Size) (values : List Value) : Option (Option Int × List Value) :=
  match size, values with
  | none, values => some (none, values)
  | some (.fixed n), values => if n ≤ largestSize then some (some n, values) else none
  | some .argument, v :: left =>
    (Form.wholeNumber? v).bind fun n =>
      if n.natAbs ≤ largestSize then some (some n, left) else none
  | some .argument, [] => none

/-- The form that a directive asks for, and the values that are left then. A negative width asks
for the left side, a negative precision for no places. -/
def form? (d : Directive) (values : List Value) : Option (Form × List Value) := do
  let (width, values) ← sizeFrom? d.width values
  let (precision, values) ← sizeFrom? d.precision values
  let marks := if width.getD 0 < 0 then '-' :: d.marks else d.marks
  return (⟨marks, (width.getD 0).natAbs, precision.map Int.toNat, d.letter⟩, values)

end Directive

/-! ## Templates -/

namespace Template

/-- A piece of a template: a character that stands for itself, a directive, or one that breaks
off. -/
inductive Piece where
  | plain (c : Char)
  | directive (d : Directive)
  | broken

/-- The pieces of a template, in order. Two percent signs stand for one. -/
def pieces (s : List Char) : List Piece :=
  match s with
  | [] => []
  | '%' :: '%' :: rest => .plain '%' :: pieces rest
  | '%' :: rest =>
    match h : Directive.read? rest with
    | none => [.broken]
    | some (d, behind) =>
      have := Directive.length_lt_of_read? h
      .directive d :: pieces behind
  | c :: rest => .plain c :: pieces rest
termination_by s.length

/-- A percent sign that no other one follows begins a directive. -/
theorem pieces_of_read? {c : Char} {s rest : List Char} {d : Directive} (hc : c ≠ '%')
    (h : Directive.read? (c :: s) = some (d, rest)) :
    pieces ('%' :: c :: s) = .directive d :: pieces rest := by
  rw [pieces]
  · split <;> simp_all
  · simp_all

/-- The values that a directive may take from. A name looks into the record of arguments, and then
nothing but the value found there is left. -/
def valuesFor? (d : Directive) (arguments : Arguments) (values : List Value) :
    Option (List Value) :=
  match d.name, arguments with
  | none, _ => some values
  | some name, .named fields => (Fields.get? fields name).map fun v => [v]
  | some _, _ => none

/-- Writes pieces with arguments, from left to right. Values in order have to be used up. A piece
that does not fit spoils the message when it is reached. -/
def fillIn (room : Room) (arguments : Arguments) :
    List Value → List Piece → Except Unwritten (List Char)
  | values, [] => if values.isEmpty || arguments.isNamed then .ok [] else .error .misfit
  | values, .plain c :: rest => (fillIn room arguments values rest).map (c :: ·)
  | values, .directive d :: rest =>
    match (valuesFor? d arguments values).bind d.form? with
    | some (form, v :: left) => do
      let text ← form.write room v
      let more ← fillIn room arguments left rest
      return text ++ more
    | _ => .error .misfit
  | _, .broken :: _ => .error .misfit

/-- The text of a message. Without arguments the template is the text, percent signs and all. -/
def render (room : Room) (template : String) (arguments : List Value) : Except Unwritten String :=
  let filled (arguments : Arguments) (values : List Value) : Except Unwritten String :=
    (fillIn room arguments values (pieces template.toList)).map String.ofList
  match Arguments.ofList arguments with
  | .none => .ok template
  | .named fields => filled (.named fields) [.record fields]
  | .inOrder values => filled (.inOrder values) values

end Template

end MailSearch
